import ClusterAudit.Session.Audit

/-!
# Endings of steps

A step of a session is run at a desk in any monad, so it has no single result.  A condition holds of
every ending of a step when the step may as well be written with endings that carry a proof of it.
Conditions of this form follow the sequence of steps, and what happens at the desk leaves the
cluster as it is.
-/

namespace ClusterAudit.Session

variable {m : Type → Type} [Monad m] {α β : Type}

/-- Every ending of a step that starts with the given cluster satisfies the condition. -/
def Always (step : SessionM m α) (start : Cluster) (p : Except Trouble α → Cluster → Prop) : Prop :=
  ∃ proved : m { ending : Except Trouble α × Cluster // p ending.1 ending.2 },
    Subtype.val <$> proved = step.run.run start

namespace Always

variable [LawfulMonad m] {cluster : Cluster}

theorem imp {step : SessionM m α} {p q : Except Trouble α → Cluster → Prop} (h : Always step cluster p)
    (hpq : ∀ result after, p result after → q result after) : Always step cluster q := by
  obtain ⟨proved, hproved⟩ := h
  refine ⟨(fun ending ↦ ⟨ending.1, hpq _ _ ending.2⟩) <$> proved, ?_⟩
  rw [← hproved, Functor.map_map]

theorem of_run_eq_pure {step : SessionM m α} {result : Except Trouble α} {after : Cluster}
    {p : Except Trouble α → Cluster → Prop} (hrun : step.run.run cluster = pure (result, after))
    (h : p result after) : Always step cluster p :=
  ⟨pure ⟨(result, after), h⟩, by rw [hrun, map_pure]⟩

omit [LawfulMonad m] in
theorem run_bind_run (step : SessionM m α) (next : α → SessionM m β) (start : Cluster) :
    (step >>= next).run.run start = step.run.run start >>= fun ending ↦
      match ending.1 with
      | .ok a => (next a).run.run ending.2
      | .error trouble => pure (.error trouble, ending.2) := by
  rw [ExceptT.run_bind, StateT.run_bind]
  congr 1
  funext ending
  rcases ending with ⟨_ | a, after⟩
  · rfl
  · rfl

/-- How a step goes on after one of its endings, with the condition carried along. -/
noncomputable def onward {next : α → SessionM m β} {p : Except Trouble α → Cluster → Prop}
    {q : Except Trouble β → Cluster → Prop}
    (herror : ∀ trouble after, p (.error trouble) after → q (.error trouble) after)
    (hok : ∀ a after, p (.ok a) after → Always (next a) after q) :
    { ending : Except Trouble α × Cluster // p ending.1 ending.2 } →
      m { ending : Except Trouble β × Cluster // q ending.1 ending.2 }
  | ⟨(.error trouble, after), h⟩ => pure ⟨(.error trouble, after), herror trouble after h⟩
  | ⟨(.ok a, after), h⟩ => (hok a after h).choose

protected theorem bind {step : SessionM m α} {next : α → SessionM m β}
    {p : Except Trouble α → Cluster → Prop} {q : Except Trouble β → Cluster → Prop}
    (h : Always step cluster p)
    (herror : ∀ trouble after, p (.error trouble) after → q (.error trouble) after)
    (hok : ∀ a after, p (.ok a) after → Always (next a) after q) :
    Always (step >>= next) cluster q := by
  obtain ⟨proved, hproved⟩ := h
  -- Forgetting the proofs turns the sequence of proved steps into the sequence of steps.
  refine ⟨proved >>= onward herror hok, ?_⟩
  rw [run_bind_run, ← hproved, map_bind, bind_map_left]
  congr 1
  funext ending
  rcases ending with ⟨⟨_ | a, after⟩, h⟩
  · exact map_pure _ _
  · exact (hok a after h).choose_spec

/-! ## What steps do to the cluster -/

section

variable {next : α → SessionM m β} {q : Except Trouble β → Cluster → Prop}

/-- What happens at the desk succeeds and leaves the cluster as it is. -/
protected theorem atDesk (step : m α) (cluster : Cluster) :
    Always (atDesk step) cluster fun result after ↦ result.isOk ∧ after = cluster := by
  refine ⟨(fun a ↦ ⟨(.ok a, cluster), rfl, rfl⟩) <$> step, ?_⟩
  rw [Functor.map_map]
  simp [Session.atDesk]

theorem atDesk_bind (step : m α) (h : ∀ a, Always (next a) cluster q) :
    Always (atDesk step >>= next) cluster q := by
  apply (Always.atDesk step cluster).bind
  · rintro trouble after ⟨hok, -⟩
    cases hok
  · rintro a after ⟨-, rfl⟩
    exact h a

theorem ok_bind {step : SessionM m α} {a : α} {after : Cluster}
    (hstep : step.run.run cluster = pure (.ok a, after)) (h : Always (next a) after q) :
    Always (step >>= next) cluster q := by
  obtain ⟨proved, hproved⟩ := h
  refine ⟨proved, ?_⟩
  rw [run_bind_run, hstep, pure_bind, hproved]

theorem orFault_bind {result : Except Fault α}
    (herror : ∀ fault, result = .error fault → q (.error (.fault fault)) cluster)
    (hok : ∀ a, result = .ok a → Always (next a) cluster q) :
    Always (orFault result >>= next) cluster q := by
  cases result with
  | ok a => exact ok_bind rfl (hok a rfl)
  | error fault =>
    have hrun : (orFault (.error fault) >>= next).run.run cluster =
        pure (.error (.fault fault), cluster) := by
      rw [run_bind_run]
      exact pure_bind _ _
    exact of_run_eq_pure hrun (herror fault rfl)

theorem get_bind {next : Cluster → SessionM m β} (h : Always (next cluster) cluster q) :
    Always (get >>= next) cluster q := by
  have hlift : (get : SessionM m Cluster).run.run cluster =
      (Except.ok <$> (get : StateT Cluster m Cluster)).run cluster := rfl
  apply ok_bind _ h
  rw [hlift, StateT.run_map, StateT.run_get, map_pure]

theorem set_bind (after : Cluster) {next : PUnit → SessionM m β} (h : Always (next ⟨⟩) after q) :
    Always (set after >>= next) cluster q := by
  have hlift : (set after : SessionM m PUnit).run.run cluster =
      (Except.ok <$> (set after : StateT Cluster m PUnit)).run cluster := rfl
  apply ok_bind _ h
  rw [hlift, StateT.run_map, StateT.run_set, map_pure]

/-- Showing things one after another leaves the cluster as it is. -/
theorem displayAll_bind {ι : Type} (desk : Desk m) (shown : ι → Shown) (items : List ι)
    {next : PUnit → SessionM m β} (h : Always (next ⟨⟩) cluster q) :
    Always (forIn items PUnit.unit (fun item _ ↦ do
      display desk (shown item)
      return ForInStep.yield PUnit.unit) >>= next) cluster q := by
  induction items with
  | nil =>
    rw [List.forIn_nil, pure_bind]
    exact h
  | cons item rest ih =>
    rw [List.forIn_cons, bind_assoc, bind_assoc]
    apply atDesk_bind
    intro
    rw [pure_bind]
    exact ih

/-- Presenting items shows those that the console takes, and leaves the cluster as it is. -/
theorem present_bind (desk : Desk m) (printing : Console.Printing)
    {next : Option Fault → SessionM m β} (h : Always (next (printing.on desk.screen).fault) cluster q) :
    Always (present desk printing >>= next) cluster q := by
  unfold present
  rw [bind_assoc]
  apply displayAll_bind desk .item
  rwa [pure_bind]

end

end Always

/-! ## Steps that leave the cluster as it is -/

/-- The step leaves every cluster as it is. -/
def LeavesCluster (step : SessionM m α) : Prop :=
  ∀ cluster, Always step cluster fun _ after ↦ after = cluster

namespace LeavesCluster

variable [LawfulMonad m]

protected theorem pure (a : α) : LeavesCluster (pure a : SessionM m α) :=
  fun _ ↦ Always.of_run_eq_pure rfl rfl

protected theorem throw (trouble : Trouble) : LeavesCluster (throw trouble : SessionM m α) :=
  fun _ ↦ Always.of_run_eq_pure rfl rfl

protected theorem orFault (result : Except Fault α) :
    LeavesCluster (orFault result : SessionM m α) := by
  cases result with
  | ok a => exact LeavesCluster.pure a
  | error fault => exact LeavesCluster.throw (.fault fault)

protected theorem bind {step : SessionM m α} {next : α → SessionM m β} (h : LeavesCluster step)
    (hnext : ∀ a, LeavesCluster (next a)) : LeavesCluster (step >>= next) := by
  intro cluster
  apply (h cluster).bind
  · intro trouble after hafter
    exact hafter
  · rintro a after rfl
    exact hnext a after

protected theorem atDesk (step : m α) : LeavesCluster (atDesk step) :=
  fun cluster ↦ (Always.atDesk step cluster).imp fun _ _ h ↦ h.2

protected theorem ask (question : m (Answer α)) : LeavesCluster (ask question) := by
  refine (LeavesCluster.atDesk question).bind fun answer ↦ ?_
  cases answer with
  | given a => exact LeavesCluster.pure (some a)
  | cancelled => exact LeavesCluster.pure none
  | interrupted => exact LeavesCluster.throw .interrupted

protected theorem askForFile (desk : Desk m) : LeavesCluster (askForFile desk) := by
  refine (LeavesCluster.ask desk.askSaving).bind fun answer ↦ ?_
  split
  · exact (LeavesCluster.atDesk desk.now).bind fun now ↦ LeavesCluster.ask _
  · exact LeavesCluster.pure none

protected theorem reportFile (desk : Desk m) (config : AuditConfig) :
    LeavesCluster (reportFile desk config) := by
  unfold reportFile
  split
  · exact LeavesCluster.pure _
  · split
    · exact LeavesCluster.askForFile desk
    · exact LeavesCluster.pure none

protected theorem announce (desk : Desk m) (text : String) : LeavesCluster (announce desk text) := by
  unfold announce
  split
  · exact LeavesCluster.throw _
  · exact LeavesCluster.atDesk _

protected theorem saveOutcome (desk : Desk m) (file : String) (outcome : ScanOutcome) :
    LeavesCluster (saveOutcome desk file outcome) := by
  unfold saveOutcome
  split
  · refine (LeavesCluster.atDesk desk.now).bind fun now ↦ ?_
    refine (LeavesCluster.orFault _).bind fun document ↦ ?_
    refine (LeavesCluster.atDesk _).bind fun saved ↦ ?_
    exact (LeavesCluster.orFault saved).bind fun path ↦ LeavesCluster.announce desk _
  · exact LeavesCluster.pure ()

end LeavesCluster

end ClusterAudit.Session
