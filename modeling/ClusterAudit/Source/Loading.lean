import ClusterAudit.Source.Snapshot
import ClusterAudit.Yaml.Library

/-!
# Loading snapshots

A snapshot is loaded from files, each of which holds a stream of documents.  The documents of a file
are added one after another as the library gives them, so a fault of an early document comes before
a defect further on.  A file that cannot be opened or does not hold a stream of documents is named in
the message.
-/

namespace ClusterAudit.Snapshot

def notDocuments : String := "<yaml error>"

def faultOf (path : String) : Yaml.Defect → Fault
  | .malformed => .badSnapshot path notDocuments
  | .fault fault => fault

def addText (yaml : Yaml.Library) (path : String) (cs : List Char) : SourceM Snapshot Unit := do
  let (docs, defect) := yaml.load cs
  addAll docs
  match defect with
  | none => pure ()
  | some defect => throw (faultOf path defect)

def addBytes (yaml : Yaml.Library) (path : String) (bytes : List UInt8) : SourceM Snapshot Unit :=
  match Text.Utf8.decode bytes with
  | .error fault => throw (.undecodable fault)
  | .ok cs => addText yaml path (Text.withLineFeeds cs)

/-- Adds the documents of a file, or refuses it because it cannot be opened. -/
def addFile (yaml : Yaml.Library) (path : String) (content : Except FileFault (List UInt8)) :
    SourceM Snapshot Unit :=
  match content with
  | .error fault => throw (.badSnapshot path (fault.message (Path.ofText path).text))
  | .ok bytes => addBytes yaml path bytes

/-- The snapshot of the files at some paths, which are opened by `read` one after another. -/
def load {m : Type → Type} [Monad m] (yaml : Yaml.Library)
    (read : Path → m (Except FileFault (List UInt8))) (snapshot : Snapshot) :
    List String → m (Except Fault Snapshot)
  | [] => return .ok snapshot
  | path :: rest => do
    if path.contains '\x00' then return .error .nullInPath
    else
      let content ← read (Path.ofText path)
      match (addFile yaml path content).run snapshot with
      | (.error fault, _) => return .error fault
      | (.ok (), loaded) => load yaml read loaded rest

def ofDirectory (yaml : Yaml.Library) (directory : Directory) (paths : List String) :
    Except Fault Snapshot :=
  Id.run (load yaml (fun path ↦ pure (directory.read path)) {} paths)

end ClusterAudit.Snapshot
