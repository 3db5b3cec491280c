import ClusterAudit.Proofs.Manifest.Shape

/-!
# Paths of fields

The names of fields, one inside the other, lead from a manifest to a value in it.  Where such a path has
an end, all maps on the way have the fields, so that they count as given, and to read the fields one after
another is to follow the path.  A field that is a text, if it is there, reads as this text.
-/

namespace ClusterAudit.Manifest

open Shape Traversal

namespace Value

def ofFields (fields : List (String × Value)) : Value :=
  .map (fields.map fun field ↦ (.text field.1, field.2))

/-- The value at the end of a path of fields. -/
def at? : Value → List String → Option Value
  | v, [] => some v
  | .map es, name :: rest => (valueAt? es (.text name)).bind fun inner ↦ inner.at? rest
  | _, _ :: _ => none

/-- The value with another one put at the end of a path of fields, if the path has an end. -/
def putAt : Value → List String → Value → Value
  | _, [], w => w
  | .map es, name :: rest, w =>
    match valueAt? es (.text name) with
    | some inner => .map (putEntry es (.text name) (inner.putAt rest w))
    | none => .map es
  | v, _ :: _, _ => v

/-- The text of a field, if it is one. -/
def text? (v : Value) (name : String) : Option String :=
  match v.at? [name] with
  | some (.text s) => some s
  | _ => none

@[simp]
theorem orEmptyMap_map (es : List Entry) : (Value.map es).orEmptyMap = .map es := by
  cases es with
  | nil => rfl
  | cons entry rest => rfl

@[simp]
theorem orEmptyList_list (xs : List Value) : (Value.list xs).orEmptyList = .list xs := by
  cases xs with
  | nil => rfl
  | cons x rest => rfl

/-! ## Reading along a path -/

variable {v w : Value} {name : String} {rest : List String}

theorem at?_cons_eq_some_iff :
    v.at? (name :: rest) = some w ↔
      ∃ es inner, v = .map es ∧ valueAt? es (.text name) = some inner ∧ inner.at? rest = some w := by
  cases v with
  | scalar s => simp [at?]
  | list xs => simp [at?]
  | map es => simp [at?, Option.bind_eq_some_iff]

/-- A value with something at the end of a path is a map in which the first field is there. -/
theorem fieldD_of_at? (h : v.at? (name :: rest) = some w) (absent : Value) :
    ∃ inner, v.fieldD name absent = .ok inner ∧ inner.at? rest = some w := by
  obtain ⟨es, inner, rfl, hinner, hrest⟩ := at?_cons_eq_some_iff.1 h
  refine ⟨inner, ?_, hrest⟩
  rw [fieldD, hinner, Option.getD_some]

theorem field_eq_of_at? (h : v.at? [name] = some w) : v.field name = .ok w := by
  obtain ⟨inner, hinner, hend⟩ := fieldD_of_at? h .null
  obtain rfl : inner = w := Option.some.inj hend
  exact hinner

theorem orEmptyMap_of_at? (h : v.at? (name :: rest) = some w) : v.orEmptyMap = v := by
  obtain ⟨es, -, rfl, -⟩ := at?_cons_eq_some_iff.1 h
  exact orEmptyMap_map es

/-- A field on the way is read as it is, since it is not empty. -/
theorem orEmptyMap_field_of_at? {next : String} (h : v.at? (name :: next :: rest) = some w) :
    ∃ inner, v.field name = .ok inner ∧ inner.orEmptyMap = inner ∧
      inner.at? (next :: rest) = some w := by
  obtain ⟨inner, hinner, hrest⟩ := fieldD_of_at? h .null
  exact ⟨inner, hinner, orEmptyMap_of_at? hrest, hrest⟩

theorem fieldElements_of_at? {xs : List Value} (h : v.at? [name] = some (.list xs)) :
    v.fieldElements name = .ok xs := by
  rw [fieldElements, field_eq_of_at? h]
  change (Value.list xs).orEmptyList.elements = .ok xs
  rw [orEmptyList_list]
  rfl

/-! ## Texts of fields -/

theorem text?_eq_some_iff {s : String} : v.text? name = some s ↔ v.at? [name] = some (.text s) := by
  unfold text?
  split
  · rename_i hat
    rw [hat]
    simp
  · rename_i hother
    exact iff_of_false (by simp) fun hat ↦ hother s hat

/-- A field that is a text, if it is there, reads as this text or as what stands for its absence. -/
theorem fieldD_eq_text? {fields : Fields} (h : record fields v = true)
    (hfield : (name, Shape.text) ∈ fields) (absent : Value) :
    v.fieldD name absent = .ok ((v.text? name).elim absent .text) := by
  obtain ⟨es, rfl, hes⟩ := exists_of_record h
  have hvalue := hes name Shape.text hfield
  rw [fieldD, text?, at?]
  cases hat : valueAt? es (.text name) with
  | none => rfl
  | some value =>
    rw [hat] at hvalue
    obtain ⟨s, rfl⟩ := exists_of_text hvalue
    rfl

/-! ## Putting fields -/

theorem field_putEntry_of_ne {other : String} (h : other ≠ name) (es : List Entry) (w : Value) :
    (Value.map (putEntry es (.text name) w)).field other = (Value.map es).field other := by
  rw [field, field, fieldD, fieldD, valueAt?_putEntry_of_ne h]

theorem field_putEntry_self (name : String) (es : List Entry) (w : Value) :
    (Value.map (putEntry es (.text name) w)).field name = .ok w := by
  rw [field, fieldD, valueAt?_putEntry_self, Option.getD_some]

end Value

/-! ## Metadata and specifications -/

variable {doc w : Value} {name : String} {rest : List String}

theorem metadata_of_at? (h : doc.at? ("metadata" :: name :: rest) = some w) :
    ∃ header, metadata doc = .ok header ∧ header.at? (name :: rest) = some w := by
  obtain ⟨header, hheader, hself, hrest⟩ := Value.orEmptyMap_field_of_at? h
  refine ⟨header, ?_, hrest⟩
  rw [metadata, Value.orEmptyMap_of_at? h, hheader]
  exact congrArg Except.ok hself

theorem specification_map {es spec : List Entry} (h : valueAt? es (.text "spec") = some (.map spec)) :
    specification (.map es) = .ok (.map spec) := by
  rw [specification, Value.orEmptyMap_map, Value.field, Value.fieldD, h]
  exact congrArg Except.ok (Value.orEmptyMap_map spec)

theorem specification_of_at? (h : doc.at? ("spec" :: name :: rest) = some w) :
    ∃ spec, specification doc = .ok spec ∧ spec.at? (name :: rest) = some w := by
  obtain ⟨spec, hspec, hself, hrest⟩ := Value.orEmptyMap_field_of_at? h
  refine ⟨spec, ?_, hrest⟩
  rw [specification, Value.orEmptyMap_of_at? h, hspec]
  exact congrArg Except.ok hself

end ClusterAudit.Manifest
