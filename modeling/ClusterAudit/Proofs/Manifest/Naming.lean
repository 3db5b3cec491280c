import ClusterAudit.Manifest.Access

/-!
# Names

The name of an object is a text, or null when the manifest gives none.  Names are keys, and a value
is the same as a name only when it is equal to it, so that joins on names are joins on equality.
-/

namespace ClusterAudit.Manifest

/-- A value that can be the name of an object. -/
inductive Value.IsName : Value → Prop where
  | null : IsName .null
  | text (s : String) : IsName (.text s)

instance (v : Value) : Decidable v.IsName :=
  match v with
  | .scalar .null => isTrue .null
  | .scalar (.text s) => isTrue (.text s)
  | .scalar (.bool _) | .scalar (.int _) | .scalar (.float _) | .scalar (.date _)
  | .scalar (.moment _) | .list _ | .map _ => isFalse nofun

theorem Value.IsName.of_text {v : Value} (h : ∃ s : String, v = .text s) : v.IsName := by
  obtain ⟨s, rfl⟩ := h
  exact .text s

theorem Value.eq_scalar_of_asKey {v : Value} {key : Scalar} (h : v.asKey = .ok key) :
    v = .scalar key := by
  cases v with
  | scalar s =>
    cases h
    rfl
  | list xs => cases h
  | map es => cases h

theorem Scalar.same_text_right (a : Scalar) (s : String) : a.same (.text s) = decide (a = .text s) := by
  cases a <;> simp [Scalar.same, Scalar.asInt?]

theorem Scalar.same_null_right (a : Scalar) : a.same .null = decide (a = .null) := by
  cases a <;> simp [Scalar.same, Scalar.asInt?]

theorem Scalar.same_text_left (s : String) (b : Scalar) :
    (Scalar.text s).same b = decide (b = .text s) := by
  cases b with
  | text t => simp [Scalar.same, eq_comm]
  | _ => simp [Scalar.same, Scalar.asInt?]

namespace Value

theorem same_text_left (s : String) (w : Value) : (Value.text s).same w = decide (w = .text s) := by
  cases w with
  | scalar b => simp [same, Scalar.same_text_left]
  | list xs => simp [same]
  | map es => simp [same]

/-- Names are scalars, and with them the same scalars are equal ones. -/
theorem IsName.scalar {v : Value} (h : v.IsName) :
    ∃ key : Scalar, v = .scalar key ∧ ∀ a : Scalar, a.same key = decide (a = key) := by
  cases h with
  | null => exact ⟨.null, rfl, Scalar.same_null_right⟩
  | text s => exact ⟨.text s, rfl, fun a ↦ Scalar.same_text_right a s⟩

theorem IsName.asKey_isOk {v : Value} (h : v.IsName) : v.asKey.isOk = true := by
  obtain ⟨key, rfl, -⟩ := h.scalar
  rfl

theorem IsName.same_eq_decide {w : Value} (h : w.IsName) (v : Value) : v.same w = decide (v = w) := by
  obtain ⟨key, rfl, hsame⟩ := h.scalar
  cases v with
  | scalar a => simp [same, hsame]
  | list xs => simp [same]
  | map es => simp [same]

/-- Of two values that are the same as a third one, both or none are a certain text. -/
theorem eq_text_iff_of_same {v w x : Value} (hv : v.same x = true) (hw : w.same x = true)
    (s : String) : v = .text s ↔ w = .text s := by
  have himp {a b : Value} (ha : a.same x = true) (hb : b.same x = true) (h : a = .text s) :
      b = .text s := by
    rw [h, same_text_left, decide_eq_true_iff] at ha
    rw [ha, (IsName.text s).same_eq_decide, decide_eq_true_iff] at hb
    exact hb
  exact ⟨himp hv hw, himp hw hv⟩

end Value

end ClusterAudit.Manifest
