import ClusterAudit.CommandLine.Help
import ClusterAudit.Journal
import ClusterAudit.Session.Audit
import ClusterAudit.Session.Terminal
import ClusterAudit.Yaml.Printer
import Std.Time.Zoned

/-!
# The program

The program runs a session at the terminal, with the files and the clock of the system.  No cluster
can be reached from here, so without snapshot files the session ends with a failed authentication.
-/

namespace ClusterAudit

open Session

namespace Terminal

/-- A line of the input without its end, nothing at the end of the input. -/
def readLine : IO (Option String) := do
  let line ← (← IO.getStdin).getLine
  if line = "" then return none
  else return some (String.ofList (line.toList.filter fun c ↦ c ≠ '\n' && c ≠ '\r'))

def ask {α : Type} (question : Question) (read : String → Answer α) : IO (Answer α) := do
  IO.println question.text
  return answerOf (← readLine) read

/-- Why the system could not open a file. -/
def fileFault : IO.Error → FileFault
  | .noFileOrDirectory .. => .missing
  | .inappropriateType _ code _ => if code = 21 then .isDirectory else .notDirectory
  | .invalidArgument .. => .nameTooLong
  | _ => .denied

/-- A use of a file, with the fault that it may meet. -/
def orFileFault {α : Type} (use : IO α) : IO (Except FileFault α) := do
  return (← use.toBaseIO).mapError fileFault

def now : IO Manifest.Moment := do
  let time ← Std.Time.PlainDateTime.now
  return {
    date := ⟨time.year.toInt.toNat, time.month.val.toNat, time.day.val.toNat⟩
    hour := time.hour.val.toNat
    minute := time.minute.val.toNat
    second := time.second.val.toNat
    microsecond := time.nanosecond.val.toNat / 1000
    offset := none }

/-- Makes the journal file in the directory of the user, if there is one. -/
def openJournal : IO Unit := do
  if let some home ← IO.getEnv "HOME" then
    let directory := home ++ "/.k8s_auditor"
    IO.FS.createDirAll directory
    (← IO.FS.Handle.mk (directory ++ "/" ++ Journal.fileName) .append).flush

def display : Shown → IO Unit
  | .journal _ => openJournal
  | shown =>
    match shown.text? with
    | none => pure ()
    | some text => IO.println text

def desk : Desk IO where
  banner := "K8sAuditor"
  screen := terminalScreen
  yaml := Yaml.own
  display := display
  askDetectors choices := ask (.detectors choices) (readPicked choices)
  askGrouping byAsset := ask (.grouping byAsset) (readGrouping byAsset)
  askSaving := ask .saving readConsent
  askReportFile suggestion := ask (.reportFile suggestion) (readFileName suggestion)
  read path := return (← orFileFault (IO.FS.readBinFile path.text)).map (·.toList)
  write path text := orFileFault (IO.FS.writeFile path.text text)
  now := now

/-- The cluster, for which there is no configuration. -/
def cluster : Cluster where
  userFault := some "no kubeconfig"
  clusterFault := some "not in a cluster"

def finish : Ending → IO Nat
  | .exited code => return code
  | .stopped .help => do
    IO.print CommandLine.helpText
    return CommandLine.Stop.help.exitCode
  | .stopped stop => do
    IO.eprint (CommandLine.usage ++ CommandLine.programName ++ ": error: " ++ stop.message ++ "\n")
    return stop.exitCode
  | .broken fault => do
    IO.eprintln (fault.message?.getD "The scan ended with a fault.")
    return 1

end Terminal

end ClusterAudit

def main (arguments : List String) : IO UInt32 := do
  let (ending, _) ← ClusterAudit.Session.run ClusterAudit.Terminal.desk ClusterAudit.Terminal.cluster
    arguments
  return (← ClusterAudit.Terminal.finish ending).toUInt32
