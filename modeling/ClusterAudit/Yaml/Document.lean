import ClusterAudit.Yaml.Node
import ClusterAudit.Yaml.Scalar.Meaning

/-!
# Documents

A tree of nodes denotes a value.  Only scalars may be keys; a key that is given again takes the place
of the first one and the value of the last one.  A map may merge others, whose entries come before its
own and so give way to them; of several merged maps the first one wins.  Trees are read level by
level, so of several defects in a document the least deep one counts, and of equally deep ones the
first.
-/

namespace ClusterAudit.Yaml

open Manifest

abbrev DeepDefect := Nat × Defect

abbrev Built (α : Type) := Except DeepDefect α

namespace Built

def atDepth {α : Type} (depth : Nat) (result : Except Defect α) : Built α :=
  result.mapError (depth, ·)

/-- Both of two things, or the defect that counts. -/
def both {α β : Type} : Built α → Built β → Built (α × β)
  | .ok a, .ok b => .ok (a, b)
  | .error d, .ok _ => .error d
  | .ok _, .error d => .error d
  | .error d, .error e => .error (if e.1 < d.1 then e else d)

/-- All things of a list, or the defect that counts. -/
def all {α : Type} : List (Built α) → Built (List α)
  | [] => .ok []
  | first :: rest => (both first (all rest)).map fun (a, as) ↦ a :: as

end Built

/-- The entries of a map before their keys are compared. -/
structure Entries where
  /-- Whether only maps and sequences of maps are merged. -/
  mergesMaps : Bool := true
  merged : List (Built Entry) := []
  own : List (Built Entry) := []

namespace Entries

/-- The entries one after another, merged ones first. -/
def inOrder (entries : Entries) : List (Built Entry) :=
  entries.merged ++ entries.own

def toValue (depth : Nat) (entries : Entries) : Built Value :=
  if entries.mergesMaps then
    (Built.all entries.inOrder).map fun puts ↦ .map (putAll [] puts)
  else .error (depth, .malformed)

end Entries

/-- The key that a node denotes at a depth. -/
def keyOf (depth : Nat) (node : Node) : Built Scalar :=
  match node with
  | .scalar .default text => .ok (.text text)
  | .scalar tag text => .atDepth depth (scalarOf tag text)
  | .sequence .. | .mapping .. => .error (depth, .malformed)

/-- The depth at which a collection with a tag shows that it is not of that kind. -/
def mismatchDepth (depth : Nat) (tag : Tag) : Nat :=
  match tag with
  | .sequence | .mapping => depth + 1
  | _ => depth

mutual

/-- The value that a node denotes at a depth. -/
def valueOf (depth : Nat) : Node → Built Value
  | .scalar tag text => (Built.atDepth depth (scalarOf tag text)).map .scalar
  | .sequence tag items =>
    if tag = .sequence then (Built.all (valuesOf (depth + 1) items)).map .list
    else .error (mismatchDepth depth tag, .malformed)
  | .mapping tag entries =>
    if tag = .mapping then (entriesOf (depth + 1) entries).toValue (depth + 1)
    else .error (mismatchDepth depth tag, .malformed)

/-- The values that nodes denote at a depth. -/
def valuesOf (depth : Nat) : List Node → List (Built Value)
  | [] => []
  | node :: rest => valueOf depth node :: valuesOf depth rest

def entriesOf (depth : Nat) : List (Node × Node) → Entries
  | [] => {}
  | (key, value) :: rest =>
    let others := entriesOf depth rest
    if key.tag = .merge then
      match value with
      | .scalar .. => { others with mergesMaps := false }
      | .mapping _ entries =>
        let merging := entriesOf depth entries
        { others with
          mergesMaps := merging.mergesMaps && others.mergesMaps
          merged := merging.inOrder ++ others.merged }
      | .sequence _ items =>
        let merging := mergedEntriesOf depth items
        { others with
          mergesMaps := merging.mergesMaps && others.mergesMaps
          merged := merging.merged ++ others.merged }
    else
      { others with own := Built.both (keyOf depth key) (valueOf depth value) :: others.own }

/-- The entries of merged maps at a depth, those of the last map first. -/
def mergedEntriesOf (depth : Nat) : List Node → Entries
  | [] => {}
  | .mapping _ entries :: rest =>
    let others := mergedEntriesOf depth rest
    let merging := entriesOf depth entries
    { others with
      mergesMaps := merging.mergesMaps && others.mergesMaps
      merged := others.merged ++ merging.inOrder }
  | _ :: _ => { mergesMaps := false }

end

def documentValue (root : Node) : Except Defect Value :=
  (valueOf 0 root).mapError (·.2)

/-- The values of the documents that are left, up to the first defect. -/
def documents (fuel : Nat) (first : Bool) (reading : Reading) : List Value × Option Defect :=
  match fuel with
  | 0 => ([], some .malformed)
  | fuel + 1 =>
    match (nextDocument first).run reading with
    | .error defect => ([], some defect)
    | .ok (none, _) => ([], none)
    | .ok (some root, later) =>
      match documentValue root with
      | .error defect => ([], some defect)
      | .ok value =>
        let (others, defect) := documents fuel false later
        (value :: others, defect)

/-- The values of the documents of a text, up to the first defect. -/
def read (cs : List Char) : List Value × Option Defect :=
  let (tokens, defect) := tokens cs
  documents (tokens.length + 2) true { tokens, ending := defect.getD .malformed }

end ClusterAudit.Yaml
