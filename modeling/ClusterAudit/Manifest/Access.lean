import ClusterAudit.Fault
import ClusterAudit.Manifest.Value

/-!
# Access to the parts of a value

Fields are looked up in maps only, and elements are taken from lists, from texts (their characters)
and from maps (their keys).  A value that counts as not given stands for the empty map or the empty
list, whichever the reader needs.  A map can also be given as a sequence of pairs.  Values are turned
into text unless an integer in them has too many digits.
-/

namespace ClusterAudit.Manifest

namespace Value

/-- The value itself, or the empty map when it counts as not given. -/
def orEmptyMap (v : Value) : Value :=
  if v.isGiven then v else .map []

/-- The value itself, or the empty list when it counts as not given. -/
def orEmptyList (v : Value) : Value :=
  if v.isGiven then v else .list []

def entries (v : Value) : Except Fault (List Entry) :=
  match v with
  | .map es => .ok es
  | _ => .error .noFields

/-- The value of a field, or the given value when the field is absent. -/
def fieldD (v : Value) (name : String) (absent : Value) : Except Fault Value :=
  match v with
  | .map es => .ok ((valueAt? es (.text name)).getD absent)
  | _ => .error .noFields

/-- The value of a field, null when the field is absent. -/
def field (v : Value) (name : String) : Except Fault Value :=
  v.fieldD name .null

/-- The characters of a text, each as a text. -/
def characters (s : String) : List Value :=
  s.toList.map fun c ↦ .text (String.singleton c)

def elements (v : Value) : Except Fault (List Value) :=
  match v with
  | .list xs => .ok xs
  | .map es => .ok (es.map fun entry ↦ .scalar entry.1)
  | .scalar (.text s) => .ok (characters s)
  | .scalar _ => .error .noElements

/-- What is made of the texts of some values, unless an integer in them has too many digits. -/
def written {α : Type} (parts : List Value) (whole : α) : Except Fault α :=
  if parts.all isWritable then .ok whole else .error (.numeralTooLong none)

/-- The text of a value by itself, if it is written. -/
def display (v : Value) : Except Fault String :=
  written [v] v.spelling

/-- The elements of a field that may be absent. -/
def fieldElements (v : Value) (name : String) : Except Fault (List Value) := do
  (← v.field name).orEmptyList.elements

/-- The texts of the elements of a field that may be absent. -/
def fieldTexts (v : Value) (name : String) : Except Fault (List String) := do
  (← v.fieldElements name).mapM display

def asKey (v : Value) : Except Fault Scalar :=
  match v with
  | .scalar s => .ok s
  | _ => .error .notKey

/-- The entry that a pair stands for; `position` is its place in the sequence. -/
def pairEntry (position : Nat) (pair : Value) : Except Fault Entry := do
  match ← pair.elements with
  | [key, value] => return (← key.asKey, value)
  | parts => throw (.notPair position parts.length)

/-- The entries that a sequence of pairs stands for, counted from a position. -/
def pairEntries (position : Nat) : List Value → Except Fault (List Entry)
  | [] => .ok []
  | pair :: rest => do
    let entry ← pairEntry position pair
    return entry :: (← pairEntries (position + 1) rest)

def toEntries (v : Value) : Except Fault (List Entry) :=
  match v with
  | .map es => .ok es
  | v => do
    let pairs ← v.elements
    return putAll [] (← pairEntries 0 pairs)

end Value

def lookup? (entries : List Entry) (key : Value) : Except Fault (Option Value) := do
  return valueAt? entries (← key.asKey)

end ClusterAudit.Manifest
