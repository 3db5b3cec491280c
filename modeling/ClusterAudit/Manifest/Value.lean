import ClusterAudit.Decimal.Notation
import ClusterAudit.Manifest.Calendar
import ClusterAudit.Text.Numeral
import ClusterAudit.Text.Quoted

/-!
# Manifest values

A manifest is a tree of scalars, lists and maps.  The keys of a map are scalars and keep the order in
which they were written.  Two scalars are the same when they denote the same thing: the truth values
count as the integers zero and one, and an integer is the same as the floating-point number of equal
value, while a text is the same as an equal text only.  Lists are the same element by element, maps
entry by entry in any order.
-/

namespace ClusterAudit.Manifest

/-- A value without parts, the only kind of value that may be a key. -/
inductive Scalar where
  | null
  | bool (b : Bool)
  | int (n : Int)
  | float (x : Binary64)
  | text (s : String)
  | date (day : Date)
  | moment (time : Moment)
deriving DecidableEq, Repr, Inhabited

inductive Value where
  | scalar (s : Scalar)
  | list (elements : List Value)
  | map (entries : List (Scalar × Value))
deriving Repr, Inhabited

/-- An entry of a map. -/
abbrev Entry := Scalar × Value

namespace Value

@[match_pattern] abbrev null : Value := .scalar .null

@[match_pattern] abbrev bool (b : Bool) : Value := .scalar (.bool b)

@[match_pattern] abbrev int (n : Int) : Value := .scalar (.int n)

@[match_pattern] abbrev text (s : String) : Value := .scalar (.text s)

mutual

def decEq : (v w : Value) → Decidable (v = w)
  | .scalar a, .scalar b =>
    if h : a = b then isTrue (by rw [h]) else isFalse (by simp [h])
  | .list xs, .list ys =>
    match decEqList xs ys with
    | isTrue h => isTrue (by rw [h])
    | isFalse h => isFalse (by simp [h])
  | .map xs, .map ys =>
    match decEqEntries xs ys with
    | isTrue h => isTrue (by rw [h])
    | isFalse h => isFalse (by simp [h])
  | .scalar _, .list _ => isFalse (by simp)
  | .scalar _, .map _ => isFalse (by simp)
  | .list _, .scalar _ => isFalse (by simp)
  | .list _, .map _ => isFalse (by simp)
  | .map _, .scalar _ => isFalse (by simp)
  | .map _, .list _ => isFalse (by simp)

def decEqList : (xs ys : List Value) → Decidable (xs = ys)
  | [], [] => isTrue rfl
  | [], _ :: _ => isFalse (by simp)
  | _ :: _, [] => isFalse (by simp)
  | x :: xs, y :: ys =>
    match decEq x y, decEqList xs ys with
    | isTrue hx, isTrue hs => isTrue (by rw [hx, hs])
    | isFalse hx, _ => isFalse (by simp [hx])
    | _, isFalse hs => isFalse (by simp [hs])

def decEqEntries : (xs ys : List (Scalar × Value)) → Decidable (xs = ys)
  | [], [] => isTrue rfl
  | [], _ :: _ => isFalse (by simp)
  | _ :: _, [] => isFalse (by simp)
  | (j, v) :: xs, (k, w) :: ys =>
    if hk : j = k then
      match decEq v w, decEqEntries xs ys with
      | isTrue hv, isTrue hs => isTrue (by rw [hk, hv, hs])
      | isFalse hv, _ => isFalse (by simp [hv])
      | _, isFalse hs => isFalse (by simp [hs])
    else isFalse (by simp [hk])

end

instance : DecidableEq Value := decEq

end Value

/-! ## Sameness -/

namespace Scalar

/-- The integer that a scalar counts as, if it is a truth value or an integer. -/
def asInt? : Scalar → Option Int
  | .bool b => some (if b then 1 else 0)
  | .int n => some n
  | _ => none

/-- Whether two scalars denote the same thing. -/
def same : Scalar → Scalar → Bool
  | .null, .null => true
  | .text s, .text t => s = t
  | .date x, .date y => x = y
  | .moment x, .moment y => x.same y
  | .float x, .float y => x.same y
  | .float x, b => (b.asInt?.map x.equalsInt).getD false
  | a, .float y => (a.asInt?.map y.equalsInt).getD false
  | a, b =>
    match a.asInt?, b.asInt? with
    | some m, some n => m = n
    | _, _ => false

@[simp] theorem same_text (s t : String) : same (.text s) (.text t) = decide (s = t) := rfl

end Scalar

/-- The value of the first entry whose key is the same as the given one. -/
def valueAt? (entries : List Entry) (key : Scalar) : Option Value :=
  (entries.find? fun entry ↦ entry.1.same key).map (·.2)

/-- The entries with the value of a key replaced, or with a new entry at the end. -/
def putEntry (entries : List Entry) (key : Scalar) (value : Value) : List Entry :=
  match entries with
  | [] => [(key, value)]
  | (k, v) :: rest =>
    if k.same key then (k, value) :: rest else (k, v) :: putEntry rest key value

/-- The entries of a sequence of puts: a key stands where it was put first and has the value that was
put last. -/
def putAll (entries puts : List Entry) : List Entry :=
  puts.foldl (fun acc put ↦ putEntry acc put.1 put.2) entries

namespace Value

mutual

def same : Value → Value → Bool
  | .scalar a, .scalar b => a.same b
  | .list xs, .list ys => sameLists xs ys
  | .map xs, .map ys => xs.length = ys.length && sameEntries xs ys
  | _, _ => false

def sameLists : List Value → List Value → Bool
  | [], [] => true
  | x :: xs, y :: ys => x.same y && sameLists xs ys
  | _, _ => false

/-- Whether every entry of the first list has a counterpart in the second. -/
def sameEntries : List (Scalar × Value) → List (Scalar × Value) → Bool
  | [], _ => true
  | (key, v) :: rest, others =>
    (match valueAt? others key with
      | some w => v.same w
      | none => false) && sameEntries rest others

end

@[simp] theorem same_text (s t : String) : same (.text s) (.text t) = decide (s = t) := by
  simp [same]

/-- Whether the value counts as given: null, false, the zeros, the empty text, the empty list and
the empty map do not. -/
def isGiven : Value → Bool
  | .scalar .null => false
  | .scalar (.bool b) => b
  | .scalar (.int n) => n ≠ 0
  | .scalar (.float x) => !x.isZero
  | .scalar (.text s) => s ≠ ""
  | .scalar (.date _) => true
  | .scalar (.moment _) => true
  | .list xs => !xs.isEmpty
  | .map es => !es.isEmpty

end Value

/-! ## Checks of scalars -/

namespace Value

mutual

/-- Whether all scalars in a value pass a check and the keys of all maps in it another one. -/
def everyScalar (check : Scalar → Bool) (checkKeys : List Scalar → Bool) : Value → Bool
  | .scalar s => check s
  | .list xs => everyScalarOfList check checkKeys xs
  | .map es => checkKeys (es.map (·.1)) && everyScalarOfEntries check checkKeys es

def everyScalarOfList (check : Scalar → Bool) (checkKeys : List Scalar → Bool) : List Value → Bool
  | [] => true
  | x :: rest => x.everyScalar check checkKeys && everyScalarOfList check checkKeys rest

def everyScalarOfEntries (check : Scalar → Bool) (checkKeys : List Scalar → Bool) :
    List (Scalar × Value) → Bool
  | [] => true
  | (_, v) :: rest => v.everyScalar check checkKeys && everyScalarOfEntries check checkKeys rest

end

end Value

def Scalar.isWritable : Scalar → Bool
  | .int n => Text.isWritable n
  | _ => true

def Value.isWritable (v : Value) : Bool :=
  v.everyScalar Scalar.isWritable fun keys ↦ keys.all Scalar.isWritable

/-! ## Text of values -/

def Scalar.spelling : Scalar → String
  | .null => "None"
  | .bool true => "True"
  | .bool false => "False"
  | .int n => toString n
  | .float x => Decimal.manifestLayout.writeBinary64 "inf" "nan" x
  | .text s => s
  | .date day => day.text
  | .moment time => time.text

/-- The text of a scalar inside a list or a map, where texts are quoted. -/
def Scalar.inner : Scalar → String
  | .text s => Text.quoted s
  | s => s.spelling

namespace Value

mutual

def inner : Value → String
  | .scalar s => s.inner
  | .list xs => "[" ++ ", ".intercalate (innerList xs) ++ "]"
  | .map es => "\x7b" ++ ", ".intercalate (innerEntries es) ++ "\x7d"

def innerList : List Value → List String
  | [] => []
  | x :: xs => x.inner :: innerList xs

def innerEntries : List (Scalar × Value) → List String
  | [] => []
  | (key, v) :: rest => (key.inner ++ ": " ++ v.inner) :: innerEntries rest

end

def spelling : Value → String
  | .scalar s => s.spelling
  | v => v.inner

@[simp] theorem spelling_text (s : String) : spelling (.text s) = s := rfl

end Value

/-- Texts in brackets, separated by commas. -/
def bracketed (texts : List String) : String :=
  "[" ++ ", ".intercalate texts ++ "]"

end ClusterAudit.Manifest
