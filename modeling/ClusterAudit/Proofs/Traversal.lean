import Mathlib.Data.List.Basic

/-!
# Going through lists with faults

A pass over a list that may fail at any element succeeds exactly when it succeeds at every element,
and then its results stand in the order of the list.
-/

namespace ClusterAudit.Traversal

variable {ε α β : Type}

theorem bind_eq_ok {x : Except ε α} {f : α → Except ε β} {b : β} (h : (x >>= f) = .ok b) :
    ∃ a, x = .ok a ∧ f a = .ok b := by
  cases x with
  | error e => cases h
  | ok a => exact ⟨a, rfl, h⟩

theorem exists_of_isOk {x : Except ε α} (h : x.isOk = true) : ∃ a, x = .ok a := by
  cases x with
  | error e => cases h
  | ok a => exact ⟨a, rfl⟩

theorem exists_of_toOption_map {x : Except ε α} {f : α → β} {b : β}
    (h : x.toOption.map f = some b) : ∃ a, x = .ok a ∧ f a = b := by
  cases x with
  | error e => cases h
  | ok a => exact ⟨a, rfl, Option.some.inj h⟩

theorem map_eq_ok {x : Except ε α} {f : α → β} {b : β} (h : f <$> x = .ok b) :
    ∃ a, x = .ok a ∧ f a = b := by
  cases x with
  | error e => cases h
  | ok a =>
    cases h
    exact ⟨a, rfl, rfl⟩

theorem mapM_eq_ok_map {f : α → Except ε β} {g : α → β} {xs : List α}
    (h : ∀ x ∈ xs, f x = .ok (g x)) : xs.mapM f = .ok (xs.map g) := by
  induction xs with
  | nil => rfl
  | cons x rest ih =>
    have hrest : rest.mapM f = .ok (rest.map g) := ih fun y hy ↦ h y (List.mem_cons_of_mem x hy)
    rw [List.mapM_cons, h x List.mem_cons_self, hrest]
    rfl

/-- A pass that refuses some elements, all with one fault, fails when there is such an element. -/
theorem mapM_eq_ite {f : α → Except ε β} {refused : α → Bool} {g : α → β}
    {fault : ε} {xs : List α}
    (h : ∀ x ∈ xs, f x = if refused x then .error fault else .ok (g x)) :
    xs.mapM f = if xs.any refused then .error fault else .ok (xs.map g) := by
  induction xs with
  | nil => rfl
  | cons x rest ih =>
    obtain ⟨hfirst, hrest⟩ := List.forall_mem_cons.1 h
    rw [List.mapM_cons, hfirst, ih hrest, List.any_cons]
    cases refused x with
    | true => rfl
    | false =>
      cases rest.any refused with
      | true => rfl
      | false => rfl

/-- A pass fails when it fails at an element. -/
theorem mapM_eq_error {f : α → Except ε β} {xs : List α} {x : α} (hx : x ∈ xs) {e : ε}
    (h : f x = .error e) : ∃ first, xs.mapM f = .error first := by
  induction xs with
  | nil => cases hx
  | cons y rest ih =>
    rw [List.mapM_cons]
    cases hy : f y with
    | error first => exact ⟨first, rfl⟩
    | ok b =>
      have hrest : x ∈ rest := by
        rcases List.mem_cons.1 hx with rfl | hmem
        · rw [h] at hy
          cases hy
        · exact hmem
      obtain ⟨first, hfirst⟩ := ih hrest
      rw [hfirst]
      exact ⟨first, rfl⟩

/-- A pass fails as it does at one of the elements. -/
theorem exists_of_mapM_error {f : α → Except ε β} {xs : List α} {e : ε} (h : xs.mapM f = .error e) :
    ∃ x ∈ xs, f x = .error e := by
  induction xs with
  | nil => cases h
  | cons x rest ih =>
    rw [List.mapM_cons] at h
    cases hx : f x with
    | error first =>
      rw [hx] at h
      cases h
      exact ⟨x, List.mem_cons_self, hx⟩
    | ok y =>
      cases hrest : rest.mapM f with
      | error later =>
        rw [hx, hrest] at h
        cases h
        obtain ⟨z, hz, hfz⟩ := ih hrest
        exact ⟨z, List.mem_cons_of_mem x hz, hfz⟩
      | ok ys =>
        rw [hx, hrest] at h
        cases h

/-- A pass that succeeds has succeeded at every element. -/
theorem exists_ok_of_mapM {f : α → Except ε β} {xs : List α} {ys : List β} (h : xs.mapM f = .ok ys)
    {x : α} (hx : x ∈ xs) : ∃ y, f x = .ok y := by
  cases hfx : f x with
  | ok y => exact ⟨y, rfl⟩
  | error e =>
    obtain ⟨first, hfirst⟩ := mapM_eq_error hx hfx
    rw [h] at hfirst
    cases hfirst

/-- When the results of a pass that succeeds are known at every element, the pass is a map. -/
theorem eq_map_of_mapM {f : α → Except ε β} {g : α → β} {xs : List α} {ys : List β}
    (h : xs.mapM f = .ok ys) (hfg : ∀ x ∈ xs, ∀ y, f x = .ok y → y = g x) : ys = xs.map g := by
  have hok : ∀ x ∈ xs, f x = .ok (g x) := by
    intro x hx
    obtain ⟨y, hy⟩ := exists_ok_of_mapM h hx
    rw [hy, hfg x hx y hy]
  rw [mapM_eq_ok_map hok] at h
  exact (Except.ok.inj h).symm

theorem mapM_eq_ok_of_forall {f : α → Except ε β} {xs : List α} (h : ∀ x ∈ xs, ∃ y, f x = .ok y) :
    ∃ ys, xs.mapM f = .ok ys := by
  induction xs with
  | nil => exact ⟨[], rfl⟩
  | cons x rest ih =>
    obtain ⟨y, hy⟩ := h x List.mem_cons_self
    obtain ⟨ys, hys⟩ := ih fun z hz ↦ h z (List.mem_cons_of_mem x hz)
    exact ⟨y :: ys, by rw [List.mapM_cons, hy, hys]; rfl⟩

/-- Every result of a pass that succeeds comes from an element. -/
theorem exists_of_mem_mapM {f : α → Except ε β} {xs : List α} {ys : List β} (h : xs.mapM f = .ok ys)
    {y : β} (hy : y ∈ ys) : ∃ x ∈ xs, f x = .ok y := by
  induction xs generalizing ys with
  | nil =>
    cases h
    cases hy
  | cons x rest ih =>
    rw [List.mapM_cons] at h
    obtain ⟨first, hfirst, h⟩ := bind_eq_ok h
    obtain ⟨others, hothers, h⟩ := bind_eq_ok h
    cases h
    rcases List.mem_cons.1 hy with rfl | hmem
    · exact ⟨x, List.mem_cons_self, hfirst⟩
    · obtain ⟨z, hz, hzy⟩ := ih hothers hmem
      exact ⟨z, List.mem_cons_of_mem x hz, hzy⟩

/-- A pass over two lists that succeeds has succeeded over each of them. -/
theorem mapM_append_eq_ok {f : α → Except ε β} {xs more : List α} {ys : List β}
    (h : (xs ++ more).mapM f = .ok ys) :
    ∃ first later, xs.mapM f = .ok first ∧ more.mapM f = .ok later ∧ ys = first ++ later := by
  rw [List.mapM_append] at h
  obtain ⟨first, hfirst, h⟩ := bind_eq_ok h
  obtain ⟨later, hlater, h⟩ := bind_eq_ok h
  cases h
  exact ⟨first, later, hfirst, hlater, rfl⟩

/-! ## Results of a sort -/

/-- There is a result, and it is of a sort. -/
def Yields (p : α → Prop) (x : Except ε α) : Prop :=
  ∃ a, x = .ok a ∧ p a

namespace Yields

variable {p : α → Prop} {q : β → Prop} {x : Except ε α}

theorem pure {a : α} (h : p a) : Yields p (pure a : Except ε α) := ⟨a, rfl, h⟩

theorem bind {f : α → Except ε β} (hx : Yields p x) (hf : ∀ a, p a → Yields q (f a)) :
    Yields q (x >>= f) := by
  obtain ⟨a, rfl, ha⟩ := hx
  exact hf a ha

theorem map {f : α → β} (hx : Yields p x) (hf : ∀ a, p a → q (f a)) : Yields q (f <$> x) := by
  obtain ⟨a, rfl, ha⟩ := hx
  exact ⟨f a, rfl, hf a ha⟩

theorem mono {r : α → Prop} (hx : Yields p x) (h : ∀ a, p a → r a) : Yields r x := by
  obtain ⟨a, hxa, ha⟩ := hx
  exact ⟨a, hxa, h a ha⟩

theorem isOk (hx : Yields p x) : x.isOk = true := by
  obtain ⟨a, rfl, -⟩ := hx
  rfl

/-- A pass yields results of a sort when it does so at every element. -/
theorem mapM {f : α → Except ε β} {xs : List α} (h : ∀ a ∈ xs, Yields q (f a)) :
    Yields (fun ys ↦ ∀ b ∈ ys, q b) (xs.mapM f) := by
  obtain ⟨ys, hys⟩ := mapM_eq_ok_of_forall fun a ha ↦ exists_of_isOk (h a ha).isOk
  refine ⟨ys, hys, fun b hb ↦ ?_⟩
  obtain ⟨a, ha, hfa⟩ := exists_of_mem_mapM hys hb
  obtain ⟨c, hc, hqc⟩ := h a ha
  rw [hc] at hfa
  exact Except.ok.inj hfa ▸ hqc

end Yields

end ClusterAudit.Traversal
