import ClusterAudit.Proofs.Manifest.Schema
import ClusterAudit.Proofs.Source.Unpacking

/-!
# Documents shaped as the interface shapes them

A document is a map whose kind is a text, if it has one.  An object of a primary kind has the fields of
its kind, as far as they are there, and a list has as its items documents again, if it has any.  Such
documents hold manifests that all have the fields of their kinds, also where a kind is inherited.
-/

namespace ClusterAudit.Filing

open Manifest Shape

/-- Whether a value has the fields of a kind, if the kind is one of those that are audited. -/
def hasFields (kind : String) (v : Value) : Bool :=
  (AssetKind.ofName? kind).all fun known ↦ record known.fields v

mutual

/-- Whether a document that inherits a kind, the empty text for none, is shaped as its kind says. -/
def docShaped (inherited : String) : Value → Bool
  | .map es =>
    match kindOf? inherited es with
    | none => false
    | some kind =>
      match itemKind? kind (hasKey es itemsKey) with
      | some itemKind => entriesShaped itemKind es
      | none => hasFields kind (.map es)
  | _ => false

/-- Whether the items among the entries of a list are shaped, if there are any. -/
def entriesShaped (itemKind : String) : List (Scalar × Value) → Bool
  | [] => true
  | (key, v) :: rest =>
    if key.same itemsKey then itemsShaped itemKind v else entriesShaped itemKind rest

def itemsShaped (itemKind : String) : Value → Bool
  | .list docs => docsShaped itemKind docs
  | _ => false

def docsShaped (inherited : String) : List Value → Bool
  | [] => true
  | doc :: rest => docShaped inherited doc && docsShaped inherited rest

end

/-- Manifests that all have the fields of the kinds under which they are held. -/
def AllFielded (held : List (String × Value)) : Prop :=
  ∀ manifest ∈ held, hasFields manifest.1 manifest.2 = true

theorem AllFielded.append {held more : List (String × Value)} (h : AllFielded held)
    (hmore : AllFielded more) : AllFielded (held ++ more) :=
  List.forall_mem_append.2 ⟨h, hmore⟩

/-- The field of the kind is none of the fields that are read of any object. -/
theorem kind_notMem_fields (kind : AssetKind) : "kind" ∉ kind.fields.map (·.1) := by
  cases kind <;> decide

theorem hasFields_withKind {kind inherited : String} {entries : List Entry}
    (h : hasFields kind (.map entries) = true) : hasFields kind (withKind inherited entries) = true := by
  unfold withKind
  split
  · unfold hasFields at h ⊢
    cases hknown : AssetKind.ofName? kind with
    | none => rfl
    | some known =>
      rw [hknown] at h
      exact record_append h (kind_notMem_fields known) (.text inherited)
  · exact h

mutual

/-- A shaped document holds manifests with the fields of their kinds. -/
theorem exists_holds_of_docShaped (inherited : String) (doc : Value)
    (h : docShaped inherited doc = true) :
    ∃ more, AllFielded more ∧
      ∀ docs held, Holds inherited docs held → Holds inherited (doc :: docs) (more ++ held) := by
  match doc with
  | .scalar _ | .list _ =>
    rw [docShaped] at h
    · cases h
    · rintro es ⟨⟩
  | .map entries =>
    rw [docShaped] at h
    split at h
    · cases h
    · rename_i kind hkind
      split at h
      · rename_i itemKind hlist
        obtain ⟨items, inner, hitems, hinner, hfielded⟩ :=
          exists_holds_of_entriesShaped itemKind entries h
        exact ⟨inner, hfielded, fun docs held hrest ↦ .list hkind hlist hitems hinner hrest⟩
      · rename_i hlist
        refine ⟨[(kind, withKind inherited entries)], ?_, fun docs held hrest ↦
          .manifest hkind hlist hrest⟩
        exact List.forall_mem_singleton.2 (hasFields_withKind h)

theorem exists_holds_of_entriesShaped (itemKind : String) (entries : List (Scalar × Value))
    (h : entriesShaped itemKind entries = true) :
    ∃ items inner, itemsOf? entries = some items ∧ Holds itemKind items inner ∧ AllFielded inner := by
  match entries with
  | [] => exact ⟨[], [], rfl, .nil, List.forall_mem_nil _⟩
  | (key, v) :: rest =>
    rw [entriesShaped] at h
    rw [itemsOf?, valueAt?_cons]
    cases hkey : key.same itemsKey with
    | true =>
      rw [hkey, if_pos rfl] at h
      obtain ⟨items, inner, hitems, hinner, hfielded⟩ := exists_holds_of_itemsShaped itemKind v h
      refine ⟨items, inner, ?_, hinner, hfielded⟩
      rw [if_pos rfl, Option.getD_some, hitems]
    | false =>
      rw [hkey, if_neg Bool.false_ne_true] at h
      rw [if_neg Bool.false_ne_true]
      exact exists_holds_of_entriesShaped itemKind rest h

theorem exists_holds_of_itemsShaped (itemKind : String) (v : Value)
    (h : itemsShaped itemKind v = true) :
    ∃ items inner, v.orEmptyList = .list items ∧ Holds itemKind items inner ∧ AllFielded inner := by
  match v with
  | .scalar _ | .map _ =>
    rw [itemsShaped] at h
    · cases h
    · rintro docs ⟨⟩
  | .list docs =>
    rw [itemsShaped] at h
    obtain ⟨inner, hinner, hfielded⟩ := exists_holds_of_docsShaped itemKind docs h
    refine ⟨docs, inner, ?_, hinner, hfielded⟩
    cases docs with
    | nil => rfl
    | cons doc rest => rfl

/-- Shaped documents hold manifests with the fields of their kinds. -/
theorem exists_holds_of_docsShaped (inherited : String) (docs : List Value)
    (h : docsShaped inherited docs = true) : ∃ held, Holds inherited docs held ∧ AllFielded held := by
  match docs with
  | [] => exact ⟨[], .nil, List.forall_mem_nil _⟩
  | doc :: rest =>
    rw [docsShaped, Bool.and_eq_true] at h
    obtain ⟨held, hheld, hfielded⟩ := exists_holds_of_docsShaped inherited rest h.2
    obtain ⟨more, hmore, hdoc⟩ := exists_holds_of_docShaped inherited doc h.1
    exact ⟨more ++ held, hdoc rest held hheld, hmore.append hfielded⟩

end

end ClusterAudit.Filing

namespace ClusterAudit.Snapshot

open Manifest

/-- Shaped documents can be filed, and every manifest that is listed under a kind has its fields. -/
theorem manifestsOf_of_docsShaped {docs : List Value} (h : Filing.docsShaped "" docs = true) :
    (Filing.fileAll "" docs).fault = none ∧
      ∀ kind : AssetKind, kind.isDerived = false →
        ∀ doc ∈ manifestsOf { manifests := (Filing.fileAll "" docs).filed } kind,
          Shape.record kind.fields doc = true := by
  obtain ⟨held, hheld, hfielded⟩ := Filing.exists_holds_of_docsShaped "" docs h
  refine ⟨by rw [Filing.fileAll_of_holds hheld], ?_⟩
  intro kind hprimary doc hdoc
  rw [manifestsOf_of_holds hheld hprimary] at hdoc
  obtain ⟨⟨name, value⟩, hmem, rfl⟩ := List.mem_map.1 hdoc
  obtain ⟨hmanifest, hname⟩ := List.mem_filter.1 hmem
  have hfields := hfielded _ hmanifest
  rw [Filing.hasFields, of_decide_eq_true hname, AssetKind.ofName?_name] at hfields
  exact hfields

end ClusterAudit.Snapshot
