import ClusterAudit.Detector.Catalog
import ClusterAudit.Text.Numeral

/-!
# Lists of detector positions

A selection is written as positions separated by commas.  Blanks around a position and blank parts
count for nothing.  A text of blanks alone selects the whole catalog, while commas without positions
select nothing.
-/

namespace ClusterAudit

namespace Selection

/-- Inserts an integer into an increasing list, unless it is there. -/
def insertSorted (n : Int) : List Int → List Int
  | [] => [n]
  | m :: rest =>
    if n < m then n :: m :: rest
    else if n = m then m :: rest
    else m :: insertSorted n rest

/-- The integers in increasing order, each once. -/
def toSet (ns : List Int) : List Int :=
  ns.foldr insertSorted []

def parts (cs : List Char) : List (List Char) :=
  match cs with
  | [] => [[]]
  | c :: rest =>
    if c = ',' then [] :: parts rest
    else
      match parts rest with
      | [] => [[c]]
      | first :: others => (c :: first) :: others

/-- The integers of the parts that are not blank, nothing when one of them is no integer. -/
def readParts : List (List Char) → Option (List Int)
  | [] => some []
  | part :: rest =>
    if part.all Text.isBlank then readParts rest
    else
      match Text.readInteger (String.ofList part), readParts rest with
      | .ok n, some ns => some (n :: ns)
      | _, _ => none

/-- The selection that a text stands for; a text that stands for none is given back trimmed. -/
def read (text : String) : Except String Selection :=
  let trimmed := Text.trimList Text.isBlank text.toList
  if trimmed.isEmpty then .ok none
  else
    match readParts (parts trimmed) with
    | some ns => .ok (some (toSet ns))
    | none => .error (String.ofList trimmed)

def malformedMessage (text : String) : String :=
  "Malformed detector list " ++ Text.quoted text ++ ", expected e.g. 1,3,4"

end Selection

end ClusterAudit
