import ClusterAudit.Files.Path
import ClusterAudit.Text.Quoted

/-!
# Directories

A directory holds files by their paths below it; a directory below it exists as long as a file lies
in it.  Walking a path goes component by component, so the first component that cannot be passed
decides the fault.  What lies outside the directory is not known and counts as missing.
-/

namespace ClusterAudit

/-- Why a file cannot be opened. -/
inductive FileFault where
  | missing
  | isDirectory
  | notDirectory
  | nameTooLong
  | denied
deriving DecidableEq, Repr

namespace FileFault

/-- The number and the wording that the operating system has for the fault. -/
def wording : FileFault → Nat × String
  | missing => (2, "No such file or directory")
  | denied => (13, "Permission denied")
  | notDirectory => (20, "Not a directory")
  | isDirectory => (21, "Is a directory")
  | nameTooLong => (36, "File name too long")

def message (fault : FileFault) (path : String) : String :=
  let (number, text) := fault.wording
  "[Errno " ++ toString number ++ "] " ++ text ++ ": " ++ Text.quoted path

end FileFault

/-- Files by the components of their paths. -/
structure Directory where
  files : List (List String × List UInt8) := []
deriving DecidableEq, Repr, Inhabited

namespace Directory

inductive Place where
  | directory
  | file (components : List String) (bytes : List UInt8)
  | vacant (components : List String)
deriving DecidableEq, Repr

def bytesAt? (directory : Directory) (components : List String) : Option (List UInt8) :=
  (directory.files.find? fun file ↦ file.1 = components).map (·.2)

def hasBelow (directory : Directory) (components : List String) : Bool :=
  directory.files.any fun file ↦ components.isPrefixOf file.1

/-- The greatest number of bytes of a component. -/
def nameLimit : Nat := 255

/-- The least number of bytes that a path may not have. -/
def pathLimit : Nat := 4096

/-- Walks components from a place that was reached; `none` is a place outside the directory. -/
def walk (directory : Directory) (reached : Option (List String)) :
    List String → Except FileFault Place
  | [] => .ok .directory
  | component :: rest =>
    if nameLimit < component.utf8ByteSize then .error .nameTooLong
    else if component = ".." then
      directory.walk
        (match reached with
          | none | some [] => none
          | some here => some here.dropLast) rest
    else
      match reached with
      | none => .error .missing
      | some here =>
        let components := here ++ [component]
        match directory.bytesAt? components with
        | some bytes =>
          if rest.isEmpty then .ok (.file components bytes) else .error .notDirectory
        | none =>
          if directory.hasBelow components then directory.walk (some components) rest
          else if rest.isEmpty then .ok (.vacant components)
          else .error .missing

def locate (directory : Directory) (path : Path) : Except FileFault Place :=
  if pathLimit ≤ path.text.utf8ByteSize then .error .nameTooLong
  else directory.walk (if path.root = "" then some [] else none) path.components

def read (directory : Directory) (path : Path) : Except FileFault (List UInt8) := do
  match ← directory.locate path with
  | .directory => throw .isDirectory
  | .vacant _ => throw .missing
  | .file _ bytes => return bytes

def put (directory : Directory) (components : List String) (bytes : List UInt8) : Directory where
  files := (directory.files.filter fun file ↦ file.1 ≠ components) ++ [(components, bytes)]

def write (directory : Directory) (path : Path) (bytes : List UInt8) :
    Except FileFault Directory := do
  match ← directory.locate path with
  | .directory => throw .isDirectory
  | .vacant components | .file components _ => return directory.put components bytes

def ofFiles (files : List (String × List UInt8)) : Directory where
  files := files.map fun (name, bytes) ↦ ((Path.ofText name).components, bytes)

end Directory

end ClusterAudit
