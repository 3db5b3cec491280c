import ClusterAudit.Proofs.Traversal
import Mathlib.Data.List.Nodup
import Mathlib.Data.List.Perm.Basic

/-!
# Lists in another order

A pass over a list succeeds or fails whatever the order of the list, and its results follow the order.
The first element of a certain sort does not depend on the order when there is at most one.
-/

namespace ClusterAudit

namespace Traversal

variable {ε α β : Type} {f : α → Except ε β}

theorem isOk_bind_pure (x : Except ε α) (g : α → β) : (x >>= fun a ↦ pure (g a)).isOk = x.isOk := by
  cases x with
  | error e => rfl
  | ok a => rfl

theorem isOk_bind_const (x : Except ε α) (y : Except ε β) :
    (x >>= fun _ ↦ y).isOk = (x.isOk && y.isOk) := by
  cases x with
  | error e => rfl
  | ok a => rfl

/-- A pass succeeds exactly when it succeeds at every element. -/
theorem mapM_isOk_iff {xs : List α} : (xs.mapM f).isOk = true ↔ ∀ x ∈ xs, (f x).isOk = true := by
  constructor
  · intro h x hx
    obtain ⟨ys, hys⟩ := exists_of_isOk h
    obtain ⟨y, hy⟩ := exists_ok_of_mapM hys hx
    rw [hy]
    rfl
  · intro h
    obtain ⟨ys, hys⟩ := mapM_eq_ok_of_forall fun x hx ↦ exists_of_isOk (h x hx)
    rw [hys]
    rfl

/-- A pass that succeeds gives what it finds at the elements one by one. -/
theorem eq_filterMap_of_mapM {xs : List α} {ys : List β} (h : xs.mapM f = .ok ys) :
    ys = xs.filterMap fun x ↦ (f x).toOption := by
  induction xs generalizing ys with
  | nil =>
    cases h
    rfl
  | cons x rest ih =>
    rw [List.mapM_cons] at h
    obtain ⟨y, hy, h⟩ := bind_eq_ok h
    obtain ⟨others, hothers, h⟩ := bind_eq_ok h
    cases h
    have hfirst : (f x).toOption = some y := by rw [hy]; rfl
    rw [List.filterMap_cons_some (f := fun x ↦ (f x).toOption) hfirst, ← ih hothers]

theorem mapM_perm {xs moved : List α} (hperm : xs.Perm moved) {ys : List β}
    (h : xs.mapM f = .ok ys) : ∃ others, moved.mapM f = .ok others ∧ ys.Perm others := by
  have hmoved : ∀ x ∈ moved, ∃ y, f x = .ok y :=
    fun x hx ↦ exists_ok_of_mapM h (hperm.mem_iff.2 hx)
  obtain ⟨others, hothers⟩ := mapM_eq_ok_of_forall hmoved
  refine ⟨others, hothers, ?_⟩
  rw [eq_filterMap_of_mapM h, eq_filterMap_of_mapM hothers]
  exact hperm.filterMap _

end Traversal

namespace Filtering

variable {α : Type}

/-- The only element of a sort is found in any order. -/
theorem find?_perm {p : α → Bool} {xs ys : List α} (hperm : xs.Perm ys)
    (hunique : ∀ x ∈ xs, ∀ y ∈ xs, p x = true → p y = true → x = y) : xs.find? p = ys.find? p := by
  cases hxs : xs.find? p with
  | none =>
    rw [List.find?_eq_none] at hxs
    have hys : ys.find? p = none :=
      List.find?_eq_none.2 fun y hy ↦ hxs y (hperm.mem_iff.2 hy)
    exact hys.symm
  | some x =>
    have hx : x ∈ xs := List.mem_of_find?_eq_some hxs
    have hpx : p x = true := List.find?_some hxs
    cases hys : ys.find? p with
    | none => exact absurd hpx (List.find?_eq_none.1 hys x (hperm.mem_iff.1 hx))
    | some y =>
      have hy : y ∈ xs := hperm.mem_iff.2 (List.mem_of_find?_eq_some hys)
      rw [hunique x hx y hy hpx (List.find?_some hys)]

end Filtering

end ClusterAudit
