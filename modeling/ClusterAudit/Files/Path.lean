/-!
# Paths

A path has a root and components.  Empty components and components that stand for the directory they
are in count for nothing, so different spellings have one path.  Two slashes at the front are a root
of their own, while more of them are as good as one.  The suffix of a path is that of its last
component: from its last point on, unless that point is the first or the last character.
-/

namespace ClusterAudit

/-- A path: the slashes it starts with, and its components. -/
structure Path where
  root : String
  components : List String
deriving DecidableEq, Repr, Inhabited

namespace Path

def pieces : List Char → List (List Char)
  | [] => [[]]
  | '/' :: rest => [] :: pieces rest
  | c :: rest =>
    match pieces rest with
    | [] => [[c]]
    | first :: others => (c :: first) :: others

def rootOf (slashes : Nat) : String :=
  if slashes = 0 then "" else if slashes = 2 then "//" else "/"

def ofText (text : String) : Path where
  root := rootOf (text.toList.takeWhile (· = '/')).length
  components :=
    ((pieces text.toList).map String.ofList).filter fun piece ↦ piece ≠ "" && piece ≠ "."

/-- The text of a path; a path without root and components is the directory itself. -/
def text (path : Path) : String :=
  if path.root = "" && path.components.isEmpty then "."
  else path.root ++ "/".intercalate path.components

/-- The last component. -/
def name (path : Path) : String :=
  path.components.getLastD ""

/-- The part of a name from its last point on, unless that is its first or last character. -/
def suffixOf (name : List Char) : List Char :=
  let afterPoint := name.reverse.takeWhile (· ≠ '.')
  if afterPoint.isEmpty || name.length ≤ afterPoint.length + 1 then []
  else '.' :: afterPoint.reverse

def suffix (path : Path) : String :=
  String.ofList (suffixOf path.name.toList)

end Path

end ClusterAudit
