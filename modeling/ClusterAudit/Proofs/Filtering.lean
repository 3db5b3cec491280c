import Mathlib.Data.List.Basic

/-!
# Filters and sublists of lists that are put together

A filter of a list that is put together from parts leaves out whole parts when it treats the elements
of each part alike, and it changes the first element of a certain sort only by leaving it out when it
treats all elements of this sort alike.  Lists that are put together from more parts, or from longer
ones, have what is put together from fewer as a sublist.
-/

namespace ClusterAudit.Filtering

variable {α β : Type}

/-- Parts of which nothing stays can be left out beforehand. -/
theorem filter_flatMap_of_dropped {p : β → Bool} {q : α → Bool} {f : α → List β} {xs : List α}
    (h : ∀ x ∈ xs, q x = false → ∀ y ∈ f x, p y = false) :
    (xs.flatMap f).filter p = (xs.filter q).flatMap fun x ↦ (f x).filter p := by
  induction xs with
  | nil => rfl
  | cons x rest ih =>
    have hrest := ih fun other hother ↦ h other (List.mem_cons_of_mem x hother)
    rw [List.flatMap_cons, List.filter_append, hrest]
    cases hq : q x with
    | true => rw [List.filter_cons_of_pos hq, List.flatMap_cons]
    | false =>
      have hnone : (f x).filter p = [] := by
        rw [List.filter_eq_nil_iff]
        intro y hy
        rw [h x List.mem_cons_self hq y hy]
        exact Bool.false_ne_true
      rw [List.filter_cons_of_neg (by simp [hq]), hnone, List.nil_append]

theorem filter_flatMap_of_forall {p : β → Bool} {q : α → Bool} {f : α → List β} {xs : List α}
    (h : ∀ x ∈ xs, ∀ y ∈ f x, p y = q x) : (xs.flatMap f).filter p = (xs.filter q).flatMap f := by
  rw [filter_flatMap_of_dropped (q := q) fun x hx hq y hy ↦ (h x hx y hy).trans hq]
  apply List.flatMap_congr
  intro x hx
  obtain ⟨hmem, hq⟩ := List.mem_filter.1 hx
  exact List.filter_eq_self.2 fun y hy ↦ (h x hmem y hy).trans hq

/-- What is taken from elements can be filtered before or after it is taken. -/
theorem filterMap_filter_comm {p : α → Bool} {q : β → Bool} {f : α → Option β}
    (h : ∀ x y, f x = some y → q y = p x) (xs : List α) :
    (xs.filter p).filterMap f = (xs.filterMap f).filter q := by
  rw [List.filterMap_filter, List.filter_filterMap]
  apply List.filterMap_congr
  intro x _
  cases hx : f x with
  | none => simp
  | some y => simp [Option.filter_some, h x y hx]

/-- The first element of a sort stays the first one, or goes with all others of its sort. -/
theorem find?_filter_of_forall {p q : α → Bool} {xs : List α}
    (h : ∀ x ∈ xs, ∀ y ∈ xs, q x = true → q y = true → p x = p y) :
    (xs.filter p).find? q = (xs.find? q).filter p := by
  induction xs with
  | nil => rfl
  | cons x rest ih =>
    have hrest := ih fun y hy z hz ↦ h y (List.mem_cons_of_mem x hy) z (List.mem_cons_of_mem x hz)
    cases hq : q x with
    | false =>
      rw [List.find?_cons_of_neg (by simp [hq]), ← hrest]
      cases hp : p x with
      | true => rw [List.filter_cons_of_pos hp, List.find?_cons_of_neg (by simp [hq])]
      | false => rw [List.filter_cons_of_neg (by simp [hp])]
    | true =>
      rw [List.find?_cons_of_pos hq, Option.filter_some]
      cases hp : p x with
      | true => rw [List.filter_cons_of_pos hp, List.find?_cons_of_pos hq, if_pos rfl]
      | false =>
        rw [List.filter_cons_of_neg (by simp [hp]), if_neg Bool.false_ne_true, List.find?_eq_none]
        intro y hy hqy
        obtain ⟨hmem, hpy⟩ := List.mem_filter.1 hy
        have hsame := h x List.mem_cons_self y (List.mem_cons_of_mem x hmem) hq hqy
        rw [hp, hpy] at hsame
        cases hsame

/-! ## Sublists -/

theorem filterMap_sublist {f g : α → Option β} {xs ys : List α} (h : xs.Sublist ys)
    (hfg : ∀ x ∈ xs, ∀ z, f x = some z → g x = some z) :
    (xs.filterMap f).Sublist (ys.filterMap g) := by
  induction h with
  | slnil => exact List.Sublist.slnil
  | cons y h ih =>
    have hrest := ih hfg
    cases hy : g y with
    | none =>
      rw [List.filterMap_cons_none hy]
      exact hrest
    | some z =>
      rw [List.filterMap_cons_some hy]
      exact hrest.cons z
  | cons_cons x h ih =>
    have hrest := ih fun y hy ↦ hfg y (List.mem_cons_of_mem x hy)
    cases hf : f x with
    | none =>
      rw [List.filterMap_cons_none hf]
      cases hg : g x with
      | none =>
        rw [List.filterMap_cons_none hg]
        exact hrest
      | some z =>
        rw [List.filterMap_cons_some hg]
        exact hrest.cons z
    | some z =>
      rw [List.filterMap_cons_some hf, List.filterMap_cons_some (hfg x List.mem_cons_self z hf)]
      exact hrest.cons_cons z

theorem flatMap_sublist {f g : α → List β} {xs ys : List α} (h : xs.Sublist ys)
    (hfg : ∀ x ∈ xs, (f x).Sublist (g x)) : (xs.flatMap f).Sublist (ys.flatMap g) := by
  induction h with
  | slnil => exact List.Sublist.slnil
  | cons y h ih =>
    rw [List.flatMap_cons]
    exact (ih hfg).trans (List.sublist_append_right _ _)
  | cons_cons x h ih =>
    rw [List.flatMap_cons, List.flatMap_cons]
    exact (hfg x List.mem_cons_self).append (ih fun y hy ↦ hfg y (List.mem_cons_of_mem x hy))

end ClusterAudit.Filtering
