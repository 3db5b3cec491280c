import ClusterAudit.Asset.Basic
import ClusterAudit.Proofs.Manifest.Fields
import ClusterAudit.Proofs.Manifest.Written

/-!
# Shapes of manifests

The interface of a cluster gives every field of an object a type, and leaves every field optional.  A
shape is such a type as a check of values.  A record only says what its fields have to be when they are
there, so whatever is missing from a value of some shape, the value can be read as if nothing were
missing: a field that is absent reads as the value that stands for its absence.
-/

namespace ClusterAudit

/-- An integer of so many digits is written if the digits are not too many. -/
theorem Text.isWritable_of_lt {n : Int} {digits : Nat} (h : n.natAbs < Nat.pow 10 digits)
    (hdigits : digits ≤ digitLimit) : isWritable n = true := by
  have hmono {limit : Nat} (hlimit : digits ≤ limit) : n.natAbs < Nat.pow 10 limit :=
    Nat.lt_of_lt_of_le h (Nat.pow_le_pow_right (by decide) hlimit)
  exact decide_eq_true (hmono hdigits)

namespace Manifest

open Traversal

/-- A type of values, as a check. -/
abbrev Shape := Value → Bool

/-- Optional fields, each with the shape that it has when it is there. -/
abbrev Fields := List (String × Shape)

namespace Shape

def text : Shape
  | .text _ => true
  | _ => false

def flag : Shape
  | .bool _ => true
  | _ => false

/-- An integer that is short enough to be written, as all integers of the interface are. -/
def integer : Shape
  | .int n => Text.isWritable n
  | _ => false

/-- A text without more digits than the integers have that are read. -/
def label : Shape
  | .text s => s.toList.countP Char.isDigit ≤ Text.digitLimit
  | _ => false

def listOf (element : Shape) : Shape
  | .list xs => xs.all element
  | _ => false

/-- A map from texts to values of a shape. -/
def mapOf (element : Shape) : Shape
  | .map es => es.all fun entry ↦ text (.scalar entry.1) && element entry.2
  | _ => false

/-- A map in which the fields that are there have their shapes. -/
def record (fields : Fields) : Shape
  | .map es => fields.all fun field ↦ (valueAt? es (.text field.1)).all field.2
  | _ => false

/-! ## Shapes of parts -/

variable {v : Value} {fields : Fields} {shape : Shape}

theorem exists_of_text (h : text v = true) : ∃ s, v = .text s := by
  unfold text at h
  split at h
  · exact ⟨_, rfl⟩
  · cases h

theorem isName_of_text (h : text v = true) : v.IsName := by
  obtain ⟨s, rfl⟩ := exists_of_text h
  exact .text s

theorem exists_of_label (h : label v = true) :
    ∃ s, v = .text s ∧ s.toList.countP Char.isDigit ≤ Text.digitLimit := by
  unfold label at h
  split at h
  · exact ⟨_, rfl, of_decide_eq_true h⟩
  · cases h

theorem exists_of_integer (h : integer v = true) : ∃ n, v = .int n ∧ Text.isWritable n = true := by
  unfold integer at h
  split at h
  · exact ⟨_, rfl, h⟩
  · cases h

/-- The integers of the interface, which have 64 bits, are short enough to be written. -/
theorem integer_of_int64 (n : Int64) : integer (.int n.toInt) = true := by
  have hlower : -2 ^ 63 ≤ n.toInt := n.le_toInt
  have hupper : n.toInt < 2 ^ 63 := n.toInt_lt
  have hshort : n.toInt.natAbs < Nat.pow 10 19 := by
    change n.toInt.natAbs < 10000000000000000000
    omega
  have hwritable : Text.isWritable n.toInt = true := Text.isWritable_of_lt hshort (by decide)
  exact hwritable

theorem exists_of_listOf (h : listOf shape v = true) :
    ∃ xs, v = .list xs ∧ ∀ x ∈ xs, shape x = true := by
  unfold listOf at h
  split at h
  · exact ⟨_, rfl, List.all_eq_true.1 h⟩
  · cases h

theorem exists_of_mapOf (h : mapOf shape v = true) :
    ∃ es, v = .map es ∧ ∀ entry ∈ es, text (.scalar entry.1) = true ∧ shape entry.2 = true := by
  unfold mapOf at h
  split at h
  · exact ⟨_, rfl, fun entry hentry ↦ Bool.and_eq_true_iff.1 (List.all_eq_true.1 h entry hentry)⟩
  · cases h

theorem exists_of_record (h : record fields v = true) :
    ∃ es, v = .map es ∧
      ∀ name shape, (name, shape) ∈ fields → (valueAt? es (.text name)).all shape = true := by
  unfold record at h
  split at h
  · exact ⟨_, rfl, fun name shape hfield ↦ List.all_eq_true.1 h (name, shape) hfield⟩
  · cases h

/-- The empty map has the shape of every record. -/
theorem record_empty (fields : Fields) : record fields (.map []) = true :=
  List.all_eq_true.2 fun _ _ ↦ rfl

/-- An entry behind the others changes nothing but a field of its own name. -/
theorem record_append {entries : List Entry} {name : String} (h : record fields (.map entries) = true)
    (hname : name ∉ fields.map (·.1)) (value : Value) :
    record fields (.map (entries ++ [(.text name, value)])) = true := by
  unfold record at h ⊢
  rw [List.all_eq_true] at h ⊢
  rintro ⟨other, shape⟩ hfield
  have hother : ¬ (Scalar.text name).same (.text other) = true := by
    rw [Scalar.same_text, decide_eq_true_iff]
    rintro rfl
    exact hname (List.mem_map_of_mem hfield)
  rw [valueAt?_append, valueAt?_cons, if_neg hother]
  simpa [valueAt?] using h (other, shape) hfield

theorem orEmptyMap_record (h : v = .null ∨ record fields v = true) :
    record fields v.orEmptyMap = true := by
  rcases h with rfl | h
  · exact record_empty fields
  · unfold Value.orEmptyMap
    split
    · exact h
    · exact record_empty fields

/-! ## Reading fields -/

section

variable {name : String} {absent : Value} {p : Value → Prop}

/-- A field of a record gives what stands for its absence or a value of its shape. -/
theorem fieldD_yields (h : record fields v = true) (hfield : (name, shape) ∈ fields)
    (habsent : p absent) (hshape : ∀ w, shape w = true → p w) : Yields p (v.fieldD name absent) := by
  obtain ⟨es, rfl, hes⟩ := exists_of_record h
  refine ⟨_, rfl, ?_⟩
  have hvalue := hes name shape hfield
  cases hat : valueAt? es (.text name) with
  | none => exact habsent
  | some w =>
    rw [hat] at hvalue
    exact hshape w hvalue

/-- Any field of a record can be looked up. -/
theorem fieldD_total (h : record fields v = true) (name : String) (absent : Value) :
    Yields (fun _ ↦ True) (v.fieldD name absent) := by
  obtain ⟨es, rfl, -⟩ := exists_of_record h
  exact ⟨_, rfl, trivial⟩

theorem field_yields (shape : Shape) (h : record fields v = true) (hfield : (name, shape) ∈ fields) :
    Yields (fun w ↦ w = .null ∨ shape w = true) (v.field name) :=
  fieldD_yields h hfield (.inl rfl) fun _ hw ↦ .inr hw

/-- A field that holds a name gives one, also when it is absent. -/
theorem name_yields (h : record fields v = true) (hfield : (name, text) ∈ fields)
    (habsent : absent.IsName) : Yields Value.IsName (v.fieldD name absent) :=
  fieldD_yields h hfield habsent fun _ ↦ isName_of_text

theorem record_yields (inner : Fields) (h : record fields v = true)
    (hfield : (name, record inner) ∈ fields) :
    Yields (fun w ↦ record inner w = true) (do return (← v.field name).orEmptyMap) :=
  (field_yields (record inner) h hfield).bind fun _ hw ↦ .pure (orEmptyMap_record hw)

/-- A field that holds a list has elements of its shape, none when it is absent. -/
theorem fieldElements_yields (shape : Shape) (h : record fields v = true)
    (hfield : (name, listOf shape) ∈ fields) :
    Yields (fun xs ↦ ∀ x ∈ xs, shape x = true) (v.fieldElements name) := by
  unfold Value.fieldElements
  apply (field_yields (listOf shape) h hfield).bind
  rintro w (rfl | hw)
  · exact ⟨[], rfl, List.forall_mem_nil _⟩
  · obtain ⟨xs, rfl, hxs⟩ := exists_of_listOf hw
    cases xs with
    | nil => exact ⟨[], rfl, hxs⟩
    | cons x rest => exact ⟨x :: rest, rfl, hxs⟩

/-- The elements of a list are read one after another, and what follows gets all results. -/
theorem elements_bind {α β : Type} {q : α → Prop} {r : β → Prop} {read : Value → Except Fault α}
    {rest : List α → Except Fault β} (shape : Shape) (h : record fields v = true)
    (hfield : (name, listOf shape) ∈ fields) (hread : ∀ x, shape x = true → Yields q (read x))
    (hrest : ∀ ys, (∀ y ∈ ys, q y) → Yields r (rest ys)) :
    Yields r (v.fieldElements name >>= fun xs ↦ xs.mapM read >>= rest) := by
  apply (fieldElements_yields shape h hfield).bind
  intro xs hxs
  exact (Yields.mapM fun x hx ↦ hread x (hxs x hx)).bind hrest

theorem fieldTexts_total (h : record fields v = true) (hfield : (name, listOf text) ∈ fields) :
    Yields (fun _ ↦ True) (v.fieldTexts name) :=
  (fieldElements_yields text h hfield).bind fun _ hxs ↦
    (Yields.mapM (q := fun _ ↦ True) fun x hx ↦
      ⟨_, (isName_of_text (hxs x hx)).display, trivial⟩).mono fun _ _ ↦ trivial

/-- The texts of a list of labels are these labels. -/
theorem labels_yield (h : record fields v = true) (hfield : (name, listOf label) ∈ fields) :
    Yields (fun texts ↦ ∀ s ∈ texts, label (.text s) = true) (v.fieldTexts name) := by
  apply (fieldElements_yields label h hfield).bind
  intro xs hxs
  apply Yields.mapM
  intro x hx
  obtain ⟨t, rfl, -⟩ := exists_of_label (hxs x hx)
  exact ⟨t, Value.display_text t, hxs _ hx⟩

end

end Shape

end Manifest

end ClusterAudit
