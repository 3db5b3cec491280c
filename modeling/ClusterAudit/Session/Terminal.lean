import ClusterAudit.CommandLine.Indices
import ClusterAudit.Session.Desk

/-!
# Sessions at a terminal

At a terminal everything is shown as plain text and every question is answered by a line.  Marks
between brackets, which choose a style, are left out, and what has a mark that closes nothing is not
shown.  An empty line accepts what is offered and the end of the input interrupts the session.
-/

namespace ClusterAudit.Session

/-! ## What is shown -/

/-- Whether a mark may start with a character. -/
def startsMark (c : Char) : Bool :=
  c.isLower || c = '#' || c = '/' || c = '@'

/-- The characters after the mark that starts after a bracket, if one does. -/
def afterMark? : List Char → Option (List Char)
  | c :: rest =>
    if startsMark c then
      match rest.dropWhile fun d ↦ d ≠ '[' && d ≠ ']' with
      | ']' :: others => some others
      | _ => none
    else none
  | [] => none

theorem afterMark?_length {cs rest : List Char} (found : afterMark? cs = some rest) :
    rest.length < cs.length := by
  match cs with
  | [] => simp [afterMark?] at found
  | c :: tail =>
    have shorter := (List.dropWhile_sublist (fun d ↦ d ≠ '[' && d ≠ ']') (l := tail)).length_le
    grind [afterMark?]

/-- The characters without marks. -/
def withoutMarks (cs : List Char) : List Char :=
  match cs with
  | [] => []
  | c :: rest =>
    if c = '[' then
      match found : afterMark? rest with
      | some others =>
        have := afterMark?_length found
        withoutMarks others
      | none => c :: withoutMarks rest
    else c :: withoutMarks rest
termination_by cs.length

/-- The marks among the characters, without their brackets. -/
def marks (cs : List Char) : List (List Char) :=
  match cs with
  | [] => []
  | c :: rest =>
    if c = '[' then
      match found : afterMark? rest with
      | some others =>
        have := afterMark?_length found
        rest.take (rest.length - others.length - 1) :: marks others
      | none => marks rest
    else marks rest
termination_by cs.length

/-- Whether one of the marks closes nothing; `opened` are those before them that are still open, the
last one first. -/
def closesNothing (opened : List (List Char)) : List (List Char) → Bool
  | [] => false
  | ('/' :: text) :: rest =>
    match Text.trimList Text.isBlank text with
    | [] => opened.isEmpty || closesNothing opened.tail rest
    | name => !opened.contains name || closesNothing (opened.erase name) rest
  | name :: rest => closesNothing (name :: opened) rest

/-- Whether a text has a mark that closes nothing. -/
def isUnbalanced (text : String) : Bool :=
  closesNothing [] (marks text.toList)

/-- The terminal refuses lines and cells with a mark that closes nothing; styled texts have no
marks. -/
def terminalScreen (item : Console.Printed) : Option Fault :=
  let unbalanced :=
    match item with
    | .line text => isUnbalanced text
    | .table _ rows => rows.any fun cells ↦ cells.any isUnbalanced
    | .styled _ | .panel .. => false
  if unbalanced then some .badMarkup else none

def unmarked (text : String) : String :=
  String.ofList (withoutMarks text.toList)

/-- The lines of a table: each row has its cells one after another. -/
def tableLines (columns : List Console.Column) (rows : List (List String)) : List String :=
  " | ".intercalate (columns.map (·.header)) ::
    rows.map fun cells ↦ " | ".intercalate (cells.map unmarked)

def printedText : Console.Printed → String
  | .line text => unmarked text
  | .styled text => text.text
  | .panel body title => title.text ++ "\n" ++ body.text
  | .table columns rows => "\n".intercalate (tableLines columns rows)

/-- The text of something that is shown; what only prepares the ground has none. -/
def Shown.text? : Shown → Option String
  | journal _ | reports _ => none
  | line text | status text => some (unmarked text)
  | item printed => some (printedText printed)

/-! ## What is answered -/

/-- The lines of choices, of which those that can be picked are counted from a position on through
all catalogs; the ticked ones have a cross. -/
def choiceLines (position : Nat) : List Choice → List String
  | [] => []
  | .heading text :: rest => Choice.title (.heading text) :: choiceLines position rest
  | .detector _ _ name ticked :: rest =>
    (toString position ++ (if ticked then ". [x] " else ". [ ] ") ++ name) ::
      choiceLines (position + 1) rest

def Question.text : Question → String
  | detectors choices => "\n".intercalate ((detectors choices).message :: choiceLines 1 choices)
  | grouping byAsset =>
    "\n".intercalate ((grouping byAsset).message ::
      (groupings.zipIdx 1).map fun (choice, position) ↦ toString position ++ ". " ++ choice.1)
  | saving => saving.message ++ " [y/N]"
  | reportFile suggestion => (reportFile suggestion).message ++ " [" ++ suggestion ++ "]"

/-- The choices that can be picked, and whether they are ticked. -/
def pickable (choices : List Choice) : List ((Catalog × Int) × Bool) :=
  choices.filterMap fun
    | .heading _ => none
    | .detector catalog position _ ticked => some ((catalog, position), ticked)

/-- The choices at positions that are counted from one through all catalogs. -/
def pickedAt (choices : List Choice) (positions : List Int) : List (Catalog × Int) :=
  ((pickable choices).zipIdx 1).filterMap fun (choice, position) ↦
    if positions.contains (position : Int) then some choice.1 else none

/-- The answer that a line gives, where the end of the input interrupts. -/
def answerOf {α : Type} (line : Option String) (read : String → Answer α) : Answer α :=
  match line with
  | none => .interrupted
  | some text => read text

/-- Which choices a line picks: those that are ticked, or those at the positions it lists. -/
def readPicked (choices : List Choice) (text : String) : Answer (List (Catalog × Int)) :=
  match Selection.read text with
  | .ok none => .given (((pickable choices).filter (·.2)).map (·.1))
  | .ok (some positions) => .given (pickedAt choices positions)
  | .error _ => .cancelled

def readGrouping (byAsset : Bool) (text : String) : Answer Bool :=
  match Selection.read text with
  | .ok none => .given byAsset
  | .ok (some [position]) => .given (position = 2)
  | _ => .cancelled

def readConsent (text : String) : Answer Bool :=
  .given (text = "y" || text = "Y" || text = "yes")

def readFileName (suggestion text : String) : Answer String :=
  .given (if text = "" then suggestion else text)

end ClusterAudit.Session
