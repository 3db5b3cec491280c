import ClusterAudit.CommandLine.Arguments
import ClusterAudit.Scan.Document
import ClusterAudit.Scan.Run
import ClusterAudit.Session.Saving
import ClusterAudit.Source.Cluster
import ClusterAudit.Source.Loading

/-!
# Sessions

A session reads its command line, lets the user change the selection if that is wanted, opens the
snapshot or the cluster, learns all kinds that the detectors need, runs the scan, and saves the
report.  Faults end it with a message or, where there is none for them, end the program; an
interruption ends it at any question.
-/

namespace ClusterAudit.Session

open Manifest

/-- Why a session does not go on. -/
inductive Trouble where
  | fault (fault : Fault)
  | interrupted
deriving DecidableEq, Repr

inductive Ending where
  /-- The command line stops it. -/
  | stopped (stop : CommandLine.Stop)
  | exited (code : Nat)
  /-- A fault for which there is no message. -/
  | broken (fault : Fault)
deriving DecidableEq, Repr

/-- A step of a session, with the state of the cluster. -/
abbrev SessionM (m : Type → Type) := ExceptT Trouble (StateT Cluster m)

section

variable {m : Type → Type} [Monad m]

def atDesk {α : Type} (step : m α) : SessionM m α :=
  ExceptT.lift (StateT.lift step)

def display (desk : Desk m) (shown : Shown) : SessionM m Unit :=
  atDesk (desk.display shown)

def say (desk : Desk m) (text : String) : SessionM m Unit :=
  display desk (.line text)

/-- Shows a line with a text from outside in it, unless the console refuses it. -/
def announce (desk : Desk m) (text : String) : SessionM m Unit :=
  match desk.screen (.line text) with
  | some fault => throw (.fault fault)
  | none => say desk text

/-- A result that may be a fault. -/
def orFault {α : Type} (result : Except Fault α) : SessionM m α :=
  match result with
  | .ok a => return a
  | .error fault => throw (.fault fault)

/-- Shows items as far as the console takes them, and gives the fault that ends the printing. -/
def present (desk : Desk m) (printing : Console.Printing) : SessionM m (Option Fault) := do
  let printed := printing.on desk.screen
  for item in printed.items do
    display desk (.item item)
  return printed.fault

/-- Asks a question; a cancelled one has no answer. -/
def ask {α : Type} (question : m (Answer α)) : SessionM m (Option α) := do
  match ← atDesk question with
  | .given answer => return some answer
  | .cancelled => return none
  | .interrupted => throw .interrupted

/-! ## Choosing detectors -/

/-- The choices of a catalog from a position on, of which the selected ones are ticked. -/
def choicesFrom (catalog : Catalog) (position : Nat) (selected : List Detector) :
    List Detector → List Choice
  | [] => []
  | detector :: rest =>
    .detector catalog position detector.name
        (selected.any fun other ↦ other.name = detector.name) ::
      choicesFrom catalog (position + 1) selected rest

/-- All choices, of which those of the configuration are ticked. -/
def choices (config : AuditConfig) : List Choice :=
  Catalog.all.flatMap fun catalog ↦
    .heading catalog.heading ::
      choicesFrom catalog 1 (config.detectorsOf catalog) catalog.detectors

/-- The positions that were picked from a catalog. -/
def pickedFrom (catalog : Catalog) (picked : List (Catalog × Int)) : Selection :=
  some (Selection.toSet ((picked.filter fun choice ↦ choice.1 = catalog).map (·.2)))

def withPicked (config : AuditConfig) (picked : List (Catalog × Int)) : AuditConfig :=
  { config with
    rbac := pickedFrom .rbac picked
    isolation := pickedFrom .isolation picked
    podSecurity := pickedFrom .podSecurity picked }

/-- Lets the user choose detectors and the grouping; nothing is chosen when the first question is
cancelled, and a cancelled second one groups by detector. -/
def choose (desk : Desk m) (config : AuditConfig) : SessionM m (Option AuditConfig) := do
  match ← ask (desk.askDetectors (choices config)) with
  | none => return none
  | some picked =>
    let byAsset ← ask (desk.askGrouping config.groupByAsset)
    return some { withPicked config picked with groupByAsset := byAsset.getD false }

/-! ## Scanning -/

def openSnapshot (desk : Desk m) (config : AuditConfig) : SessionM m Snapshot := do
  let loaded ← orFault (← atDesk (Snapshot.load desk.yaml desk.read {} config.snapshotFiles))
  say desk ("[green]✓[/green] Loaded " ++ toString config.snapshotFiles.length ++
    " snapshot file(s)")
  return loaded

def openCluster (desk : Desk m) : SessionM m Unit := do
  let (result, cluster) := Cluster.authenticate.run (← get)
  set cluster
  let method ← orFault result
  say desk ("[green]✓[/green] Authenticated using " ++ method.name)

def reportsOf (activities : List Activity) : List Report :=
  activities.filterMap fun
    | .reported report => some report
    | .fetched _ => none

/-- Scans a source from a state; `keep` takes the state that the source has reached. -/
def scan {σ : Type} (desk : Desk m) (config : AuditConfig) (source : AssetSource σ) (start : σ)
    (keep : σ → SessionM m Unit) : SessionM m ScanOutcome := do
  let inventory : Inventory σ := ⟨source, config.includeDefaults⟩
  let settings : Console.Settings := ⟨config.quiet, config.color⟩
  display desk (.status "[bold green]Fetching cluster assets...")
  let kinds := requiredKinds (Detector.assetKinds config.detectors)
  let (learnt, known) := (inventory.prefetch kinds).run { source := start }
  keep known.source
  orFault learnt
  display desk (.reports config.color)
  let (outcome, done) :=
    (Scan.run config inventory (Console.audience settings desk.screen)).run known
  keep done.source
  -- What ends the printing of a report has ended the scan, so it is not looked at again.
  let _ ← present desk (Console.printReports settings (reportsOf done.activities))
  let outcome ← orFault outcome
  match ← present desk (Console.summary settings outcome.result) with
  | some fault => throw (.fault fault)
  | none => return outcome

def scanConfigured (desk : Desk m) (config : AuditConfig) : SessionM m ScanOutcome := do
  if config.snapshotFiles.isEmpty then
    openCluster desk
    scan desk config (Cluster.source Defaults.names) (← get) fun cluster ↦ set cluster
  else
    let snapshot ← openSnapshot desk config
    scan desk config (Snapshot.source Defaults.names) snapshot fun _ ↦ pure ()

/-! ## Saving -/

def suggestedName (now : Moment) : String :=
  "k8s_audit_" ++ padded 4 now.date.year ++ padded 2 now.date.month ++ padded 2 now.date.day ++
    "_" ++ padded 2 now.hour ++ padded 2 now.minute ++ ".yaml"

def askForFile (desk : Desk m) : SessionM m (Option String) := do
  match ← ask desk.askSaving with
  | some true =>
    let now ← atDesk desk.now
    ask (desk.askReportFile (suggestedName now))
  | _ => return none

/-- The report file of a configuration, which is asked for in a dialogue. -/
def reportFile (desk : Desk m) (config : AuditConfig) : SessionM m (Option String) :=
  match config.outputFile with
  | some file => return some file
  | none => if config.interactive then askForFile desk else return none

def savedNotice (path : Path) : String :=
  "[green]✓[/green] Report saved to " ++ path.text

/-- Saves the report of an outcome unless the file has no name. -/
def saveOutcome (desk : Desk m) (file : String) (outcome : ScanOutcome) : SessionM m Unit := do
  if file ≠ "" then
    let now ← atDesk desk.now
    let document ← orFault (Document.ofOutcome outcome now)
    let path ← orFault (← atDesk (save desk file document))
    announce desk (savedNotice path)

/-! ## Whole sessions -/

/-- Scans with the selected detectors, if there are any, and saves the report. -/
def auditSelected (desk : Desk m) (config : AuditConfig) : SessionM m Unit := do
  if config.detectors.isEmpty then say desk "[yellow]No detectors selected[/yellow]"
  else
    let outcome ← scanConfigured desk config
    match ← reportFile desk config with
    | none => return ()
    | some file => saveOutcome desk file outcome

def audit (desk : Desk m) (config : AuditConfig) : SessionM m Unit := do
  if config.interactive then
    match ← choose desk config with
    | none => say desk "[yellow]Cancelled[/yellow]"
    | some chosen => auditSelected desk chosen
  else auditSelected desk config

def showBanner (desk : Desk m) : SessionM m Unit := do
  say desk ("[bold red]" ++ desk.banner ++ "[/bold red]")
  say desk "[red]Kubernetes CIS Configuration Audit[/red]\n"

/-- What is said about a fault of a class, if anything. -/
def faultLine? (fault : Fault) : Option String :=
  let text := fault.message?.getD ""
  match fault.faultClass with
  | .aborted => some ("[bold red]✗ Scan aborted: " ++ text ++ "[/bold red]")
  | .refused => some ("[bold red]✗ " ++ text ++ "[/bold red]")
  | .unwritable => some ("[bold red]✗ Could not write report: " ++ text ++ "[/bold red]")
  | .fatal => none

def close (desk : Desk m) (result : Except Trouble Unit) : m Ending := do
  match result with
  | .ok () => return .exited 0
  | .error .interrupted =>
    desk.display (.line "\n[bold yellow]Operation cancelled by user.[/bold yellow]")
    return .exited 1
  | .error (.fault fault) =>
    match faultLine? fault with
    | none => return .broken fault
    | some line =>
      match desk.screen (.line line) with
      | some refusal => return .broken refusal
      | none =>
        desk.display (.line line)
        return .exited 2

/-- Runs a configured session and gives its ending and the cluster after it. -/
def runConfigured (desk : Desk m) (cluster : Cluster) (config : AuditConfig) :
    m (Ending × Cluster) := do
  desk.display (.journal config.verbose)
  let steps : SessionM m Unit := do
    if !config.quiet then showBanner desk
    audit desk config
  let (result, after) ← steps.run.run { cluster with context := config.context }
  return (← close desk result, after)

def run (desk : Desk m) (cluster : Cluster) (arguments : List String) : m (Ending × Cluster) := do
  match CommandLine.read arguments with
  | .error stop => return (.stopped stop, cluster)
  | .ok config => runConfigured desk cluster config

end

end ClusterAudit.Session
