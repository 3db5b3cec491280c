import ClusterAudit.Source.Basic

/-!
# Sequences of steps

A step with state gives a result and the state that it reaches.  A step after another one starts
where the first one has ended, unless the first one has failed.
-/

namespace ClusterAudit.SourceM

variable {τ α β : Type}

theorem run_pure (a : α) (s : τ) : (pure a : SourceM τ α).run s = (.ok a, s) := rfl

theorem run_get (s : τ) : (get : SourceM τ τ).run s = (.ok s, s) := rfl

theorem run_modify (f : τ → τ) (s : τ) : (modify f : SourceM τ Unit).run s = (.ok (), f s) := rfl

theorem run_bind (x : SourceM τ α) (f : α → SourceM τ β) (s : τ) :
    (x >>= f).run s =
      match x.run s with
      | (.ok a, t) => (f a).run t
      | (.error fault, t) => (.error fault, t) := by
  have h : (x >>= f).run s = (ExceptT.bindCont f (x.run s).1) (x.run s).2 := rfl
  rw [h]
  rcases x.run s with ⟨_ | _, t⟩
  · rfl
  · rfl

theorem run_bind_of_ok {x : SourceM τ α} {s t : τ} {a : α} (h : x.run s = (.ok a, t))
    (f : α → SourceM τ β) : (x >>= f).run s = (f a).run t := by
  rw [run_bind, h]

theorem run_discard (x : SourceM τ α) (s : τ) :
    (discard x).run s =
      match x.run s with
      | (.ok _, t) => (.ok (), t)
      | (.error fault, t) => (.error fault, t) := by
  have h : discard x = x >>= fun _ ↦ pure () := by
    rw [Functor.discard, map_const, Function.comp_apply, map_eq_pure_bind]
  rw [h, run_bind]
  rcases x.run s with ⟨_ | _, t⟩
  · rfl
  · rfl

/-- A sequence ends with the fault of its first step, or as its second step does. -/
theorem run_bind_cases {x : SourceM τ α} {f : α → SourceM τ β} {s t : τ} {result : Except Fault β}
    (h : (x >>= f).run s = (result, t)) :
    (∃ fault, x.run s = (.error fault, t) ∧ result = .error fault) ∨
      ∃ a u, x.run s = (.ok a, u) ∧ (f a).run u = (result, t) := by
  rw [run_bind] at h
  rcases hx : x.run s with ⟨fault | a, u⟩
  · rw [hx] at h
    cases h
    exact .inl ⟨fault, rfl, rfl⟩
  · rw [hx] at h
    exact .inr ⟨a, u, rfl, h⟩

end ClusterAudit.SourceM
