import ClusterAudit.Proofs.Session.Endings
import ClusterAudit.Session.Scene

/-!
# Sessions at a scene

A step that is played at a scene has one ending.  Most steps only note events there: whatever they
show and ask, the files, the clock and the answers stay as they are.  A condition on the events tells
the steps that print nothing from those that do.
-/

namespace ClusterAudit.Session

variable {α β : Type}

/-! ## Events and answers -/

/-- The item that an event shows, if it shows one. -/
def Event.item? : Event → Option Console.Printed
  | .shown (.item item) => some item
  | _ => none

namespace Answer

/-- What was given as an answer, if something was. -/
def given? : Answer α → Option α
  | given answer => some answer
  | cancelled => none
  | interrupted => none

theorem given?_eq_some {answer : Answer α} {a : α} : answer.given? = some a ↔ answer = given a := by
  cases answer <;> simp [given?]

/-- What asking comes to: an answer, none, or the end of the session. -/
def settled : Answer α → Except Trouble (Option α)
  | given answer => .ok (some answer)
  | cancelled => .ok none
  | interrupted => .error .interrupted

theorem eq_given?_of_settled {answer : Answer α} {a : Option α} (h : answer.settled = .ok a) :
    a = answer.given? := by
  cases answer <;> cases h <;> rfl

end Answer

namespace Scene

/-- The items that were shown, in order. -/
def items (scene : Scene) : List Console.Printed :=
  scene.events.filterMap Event.item?

def noting (scene : Scene) (more : List Event) : Scene :=
  { scene with events := scene.events ++ more }

theorem noting_nil (scene : Scene) : scene.noting [] = scene := by
  simp [noting]

theorem noting_noting (scene : Scene) (more last : List Event) :
    (scene.noting more).noting last = scene.noting (more ++ last) := by
  simp [noting]

theorem items_noting (scene : Scene) (more : List Event) :
    (scene.noting more).items = scene.items ++ more.filterMap Event.item? :=
  List.filterMap_append

theorem items_noting_of_none (scene : Scene) {more : List Event}
    (h : ∀ event ∈ more, event.item? = none) : (scene.noting more).items = scene.items := by
  rw [items_noting, List.filterMap_eq_nil_iff.2 h, List.append_nil]

theorem items_noting_shown (scene : Scene) (printed : List Console.Printed) :
    (scene.noting (printed.map fun item ↦ .shown (.item item))).items = scene.items ++ printed := by
  have hshown : Event.item? ∘ (fun item ↦ .shown (.item item)) = some := rfl
  rw [items_noting, List.filterMap_map, hshown, List.filterMap_some]

end Scene

/-! ## Playing -/

/-- How a step ends that is played at a scene, with the cluster and the scene after it. -/
def play (step : SessionM (StateM Scene) α) (cluster : Cluster) (scene : Scene) :
    (Except Trouble α × Cluster) × Scene :=
  (step.run.run cluster).run scene

section

variable {cluster after : Cluster} {scene reached : Scene}

theorem play_bind (step : SessionM (StateM Scene) α) (next : α → SessionM (StateM Scene) β)
    (cluster : Cluster) (scene : Scene) :
    play (step >>= next) cluster scene =
      match play step cluster scene with
      | ((.ok a, after), reached) => play (next a) after reached
      | ((.error trouble, after), reached) => ((.error trouble, after), reached) := by
  unfold play
  rw [Always.run_bind_run, StateT.run_bind]
  generalize (step.run.run cluster).run scene = ended
  rcases ended with ⟨⟨_ | a, after⟩, reached⟩
  · rfl
  · rfl

/-- A sequence that succeeds has first steps that succeed. -/
theorem exists_of_play_bind_ok {step : SessionM (StateM Scene) α}
    {next : α → SessionM (StateM Scene) β} {b : β}
    (h : play (step >>= next) cluster scene = ((.ok b, after), reached)) :
    ∃ a between passed, play step cluster scene = ((.ok a, between), passed) ∧
      play (next a) between passed = ((.ok b, after), reached) := by
  rw [play_bind] at h
  rcases hstep : play step cluster scene with ⟨⟨trouble | a, between⟩, passed⟩
  · rw [hstep] at h
    cases h
  · rw [hstep] at h
    exact ⟨a, between, passed, rfl, h⟩

theorem play_atDesk (step : StateM Scene α) (cluster : Cluster) (scene : Scene) :
    play (atDesk step) cluster scene = ((.ok (step.run scene).1, cluster), (step.run scene).2) :=
  rfl

theorem play_orFault (result : Except Fault α) (cluster : Cluster) (scene : Scene) :
    play (orFault result) cluster scene = ((result.mapError .fault, cluster), scene) := by
  cases result with
  | ok a => rfl
  | error fault => rfl

theorem eq_ok_of_play_orFault {result : Except Fault α} {a : α}
    (h : play (orFault result) cluster scene = ((.ok a, after), reached)) : result = .ok a := by
  cases result with
  | ok b =>
    cases h
    rfl
  | error fault => cases h

/-- A question is noted, and its answer is that of the scene. -/
theorem play_ask (question : Question) (given : Scene → Answer α) (cluster : Cluster)
    (scene : Scene) :
    play (ask (Scene.answer question given)) cluster scene =
      (((given (scene.noting [.asked question])).settled, cluster),
        scene.noting [.asked question]) := by
  have hasked : play (atDesk (Scene.answer question given)) cluster scene =
      ((.ok (given (scene.noting [.asked question])), cluster), scene.noting [.asked question]) :=
    rfl
  unfold ask
  rw [play_bind, hasked]
  dsimp only
  cases given (scene.noting [.asked question]) with
  | given answer => rfl
  | cancelled => rfl
  | interrupted => rfl

/-- A question that does not end the session is noted, and its answer is that of the scene. -/
theorem eq_of_play_ask {question : Question} {given : Scene → Answer α} {answer : Option α}
    (h : play (ask (Scene.answer question given)) cluster scene = ((.ok answer, after), reached)) :
    answer = (given (scene.noting [.asked question])).given? ∧ after = cluster ∧
      reached = scene.noting [.asked question] := by
  rw [play_ask, Prod.mk.injEq, Prod.mk.injEq] at h
  obtain ⟨⟨hanswer, hcluster⟩, hscene⟩ := h
  exact ⟨Answer.eq_given?_of_settled hanswer, hcluster.symm, hscene.symm⟩

/-- Showing things one after another notes that each was shown. -/
theorem play_displayAll {ι : Type} (equipment : Equipment) (shown : ι → Shown) (items : List ι)
    (cluster : Cluster) (scene : Scene) :
    play (forIn items PUnit.unit fun item _ ↦ do
        display (Scene.desk equipment) (shown item)
        return ForInStep.yield PUnit.unit) cluster scene =
      ((.ok ⟨⟩, cluster), scene.noting (items.map fun item ↦ .shown (shown item))) := by
  induction items generalizing scene with
  | nil =>
    rw [List.forIn_nil, List.map_nil, Scene.noting_nil]
    rfl
  | cons item rest ih =>
    have hone : play (display (Scene.desk equipment) (shown item)) cluster scene =
        ((.ok ⟨⟩, cluster), scene.noting [.shown (shown item)]) := rfl
    rw [List.forIn_cons, bind_assoc, play_bind, hone]
    dsimp only
    rw [pure_bind, ih, Scene.noting_noting]
    rfl

/-- Presenting items notes those that the console takes, and tells what has ended the printing. -/
theorem play_present (equipment : Equipment) (printing : Console.Printing) (cluster : Cluster)
    (scene : Scene) :
    play (present (Scene.desk equipment) printing) cluster scene =
      ((.ok (printing.on equipment.screen).fault, cluster),
        scene.noting ((printing.on equipment.screen).items.map fun item ↦ .shown (.item item))) := by
  have hshown := play_displayAll equipment .item (printing.on equipment.screen).items cluster scene
  unfold present
  rw [play_bind]
  simp only [Scene.desk] at hshown ⊢
  rw [hshown]
  rfl

end

/-! ## Steps that only note events -/

/-- However the step ends, it only adds events of a sort to the scene. -/
def NotesOnly (sort : Event → Prop) (step : SessionM (StateM Scene) α) : Prop :=
  ∀ cluster scene, ∃ more, (∀ event ∈ more, sort event) ∧
    (play step cluster scene).2 = scene.noting more

namespace NotesOnly

variable {sort : Event → Prop}

theorem of_play {step : SessionM (StateM Scene) α}
    (h : ∀ cluster scene, (play step cluster scene).2 = scene) : NotesOnly sort step := by
  intro cluster scene
  exact ⟨[], List.forall_mem_nil _, by rw [h, Scene.noting_nil]⟩

protected theorem pure (a : α) : NotesOnly sort (pure a : SessionM (StateM Scene) α) :=
  of_play fun _ _ ↦ rfl

protected theorem throw (trouble : Trouble) :
    NotesOnly sort (throw trouble : SessionM (StateM Scene) α) :=
  of_play fun _ _ ↦ rfl

protected theorem get : NotesOnly sort (get : SessionM (StateM Scene) Cluster) :=
  of_play fun _ _ ↦ rfl

protected theorem set (after : Cluster) :
    NotesOnly sort (set after : SessionM (StateM Scene) PUnit) :=
  of_play fun _ _ ↦ rfl

protected theorem orFault (result : Except Fault α) :
    NotesOnly sort (orFault result : SessionM (StateM Scene) α) :=
  of_play fun cluster scene ↦ by rw [play_orFault]

protected theorem bind {step : SessionM (StateM Scene) α} {next : α → SessionM (StateM Scene) β}
    (h : NotesOnly sort step) (hnext : ∀ a, NotesOnly sort (next a)) :
    NotesOnly sort (step >>= next) := by
  intro cluster scene
  obtain ⟨more, hmore, hscene⟩ := h cluster scene
  rw [play_bind]
  rcases hstep : play step cluster scene with ⟨⟨trouble | a, between⟩, passed⟩
  · rw [hstep] at hscene
    exact ⟨more, hmore, hscene⟩
  · rw [hstep] at hscene
    obtain ⟨last, hlast, hreached⟩ := hnext a between passed
    refine ⟨more ++ last, List.forall_mem_append.2 ⟨hmore, hlast⟩, ?_⟩
    dsimp only at hscene ⊢
    rw [hreached, hscene, Scene.noting_noting]

protected theorem display (equipment : Equipment) {shown : Shown} (h : sort (.shown shown)) :
    NotesOnly sort (display (Scene.desk equipment) shown) :=
  fun _ _ ↦ ⟨[.shown shown], List.forall_mem_singleton.2 h, rfl⟩

protected theorem present (equipment : Equipment) (printing : Console.Printing)
    (h : ∀ item, sort (.shown (.item item))) :
    NotesOnly sort (present (Scene.desk equipment) printing) := by
  intro cluster scene
  rw [play_present]
  exact ⟨_, List.forall_mem_map.2 fun item _ ↦ h item, rfl⟩

/-- A question is noted, whatever the answer. -/
protected theorem ask {question : Question} (given : Scene → Answer α) (h : sort (.asked question)) :
    NotesOnly sort (ask (Scene.answer question given)) := by
  have hasked : NotesOnly sort (atDesk (Scene.answer question given)) :=
    fun _ _ ↦ ⟨[.asked question], List.forall_mem_singleton.2 h, rfl⟩
  refine hasked.bind fun answer ↦ ?_
  cases answer with
  | given a => exact .pure _
  | cancelled => exact .pure _
  | interrupted => exact .throw _

theorem files_eq {step : SessionM (StateM Scene) α} (h : NotesOnly sort step) (cluster : Cluster)
    (scene : Scene) : (play step cluster scene).2.files = scene.files := by
  obtain ⟨more, -, hscene⟩ := h cluster scene
  rw [hscene]
  rfl

end NotesOnly

end ClusterAudit.Session
