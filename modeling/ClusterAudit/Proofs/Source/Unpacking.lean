import ClusterAudit.Proofs.Manifest.Fields
import ClusterAudit.Proofs.Source.Filing

/-!
# Manifests held by documents

Documents hold manifests, each with the name of its kind: a document that is no list holds itself,
and a list document holds what its items hold.  Documents whose kinds are texts can always be filed,
and every manifest of a primary kind that they hold is listed under its kind, in order; manifests of
other kinds are never listed.
-/

namespace ClusterAudit

open Manifest

namespace Filing

/-! ## Kinds and items -/

/-- The kind that a document names, or else the one that it inherits; nothing when it names something
that is no text. -/
def kindOf? (inherited : String) (entries : List Entry) : Option String :=
  match valueAt? entries kindKey with
  | some (.text kind) => some kind
  | some _ => none
  | none => some inherited

/-- A document as a manifest, with the kind that it inherits when it names none. -/
def withKind (inherited : String) (entries : List Entry) : Value :=
  if inherited ≠ "" && !hasKey entries kindKey then .map (entries ++ [(kindKey, .text inherited)])
  else .map entries

/-- The items of a list document, none when they are not given; nothing when they are no list. -/
def itemsOf? (entries : List Entry) : Option (List Value) :=
  match ((valueAt? entries itemsKey).getD .null).orEmptyList with
  | .list items => some items
  | _ => none

/-- Documents that inherit a kind, the empty text for none, hold manifests, each with the name of its
kind. -/
inductive Holds : String → List Value → List (String × Value) → Prop
  | nil {inherited : String} : Holds inherited [] []
  /-- What counts as not given holds nothing. -/
  | notGiven {doc : Value} {docs : List Value} {held : List (String × Value)}
      (hgiven : doc.isGiven = false) (hrest : Holds "" docs held) : Holds "" (doc :: docs) held
  | manifest {inherited kind : String} {entries : List Entry} {docs : List Value}
      {held : List (String × Value)} (hkind : kindOf? inherited entries = some kind)
      (hlist : itemKind? kind (hasKey entries itemsKey) = none) (hrest : Holds inherited docs held) :
      Holds inherited (.map entries :: docs) ((kind, withKind inherited entries) :: held)
  | list {inherited kind itemKind : String} {entries : List Entry} {items docs : List Value}
      {inner held : List (String × Value)} (hkind : kindOf? inherited entries = some kind)
      (hlist : itemKind? kind (hasKey entries itemsKey) = some itemKind)
      (hitems : itemsOf? entries = some items) (hinner : Holds itemKind items inner)
      (hrest : Holds inherited docs held) :
      Holds inherited (.map entries :: docs) (inner ++ held)

/-! ## Filing what documents hold -/

/-- A manifest that is held under the name of a primary kind. -/
def served? (held : String × Value) : Option (AssetKind × Value) :=
  (AssetKind.ofName? held.1).bind fun kind ↦ if kind.isDerived then none else some (kind, held.2)

theorem filterMap_served?_cons (first : String × Value) (held : List (String × Value)) :
    (first :: held).filterMap served? = (served? first).toList ++ held.filterMap served? := by
  rw [List.filterMap_cons]
  cases served? first with
  | none => rfl
  | some entry => rfl

/-- A manifest is listed under a primary kind when it is held under the name of this kind. -/
theorem served?_eq_some_iff {kind : AssetKind} (hprimary : kind.isDerived = false)
    {held : String × Value} {doc : Value} :
    served? held = some (kind, doc) ↔ held = (kind.name, doc) := by
  obtain ⟨name, other⟩ := held
  constructor
  · intro h
    obtain ⟨known, hknown, h⟩ := Option.bind_eq_some_iff.1 h
    split at h
    · cases h
    · cases h
      rw [AssetKind.name_of_ofName? hknown]
  · intro h
    cases h
    simp [served?, AssetKind.ofName?_name, hprimary]

theorem fileAs_of_no_list {kind : String} {hasItems : Bool} (h : itemKind? kind hasItems = none)
    (doc : Value) (fileItems : String → Filing) :
    fileAs kind doc hasItems fileItems = ⟨(served? (kind, doc)).toList, none⟩ := by
  rw [fileAs, h, served?]
  cases AssetKind.ofName? kind with
  | none => rfl
  | some known =>
    cases hderived : known.isDerived with
    | true => simp [hderived, nothing]
    | false => simp [hderived]

theorem fileAs_of_list {kind itemKind : String} {hasItems : Bool}
    (h : itemKind? kind hasItems = some itemKind) (doc : Value) (fileItems : String → Filing) :
    fileAs kind doc hasItems fileItems = fileItems itemKind := by
  rw [fileAs, h]

/-- A document that names or inherits a kind is filed under it. -/
theorem fileDoc_map {inherited kind : String} {entries : List Entry}
    (h : kindOf? inherited entries = some kind) :
    fileDoc inherited (.map entries) =
      fileAs kind (withKind inherited entries) (hasKey entries itemsKey) fun itemKind ↦
        fileItemsOf itemKind entries := by
  unfold kindOf? at h
  rw [fileDoc, withKind, hasKey]
  cases hkind : valueAt? entries kindKey with
  | none =>
    rw [hkind] at h
    cases h
    by_cases hinherited : inherited = ""
    · subst hinherited
      -- The empty text is the kind of nothing, of the empty map as of any other.
      cases entries with
      | nil => rfl
      | cons entry rest => rfl
    · simp [hinherited]
  | some v =>
    have hempty : entries.isEmpty = false := by
      cases entries with
      | nil => cases hkind
      | cons entry rest => rfl
    rw [hkind] at h
    rw [hempty]
    split at h
    · rename_i hv
      cases hv
      cases h
      simp
    · cases h
    · rename_i hv
      cases hv

theorem fileDoc_of_not_given {doc : Value} (h : doc.isGiven = false) : fileDoc "" doc = nothing := by
  cases doc with
  | scalar s =>
    rw [fileDoc]
    unfold fileScalar
    rw [if_pos rfl, h]
    rfl
  | list xs =>
    cases xs with
    | nil => rfl
    | cons x rest => cases h
  | map es =>
    cases es with
    | nil => rfl
    | cons entry rest => cases h

theorem fileItems_eq {v : Value} {items : List Value} (h : v.orEmptyList = .list items)
    (itemKind : String) : fileItems itemKind v = fileAll itemKind items := by
  unfold Value.orEmptyList at h
  cases hgiven : v.isGiven with
  | true =>
    rw [hgiven, if_pos rfl] at h
    rw [h, fileItems]
  | false =>
    rw [hgiven, if_neg Bool.false_ne_true] at h
    cases h
    cases v with
    | scalar s =>
      rw [fileItems]
      unfold fileScalarItems
      rw [hgiven, fileAll]
      rfl
    | list xs =>
      cases xs with
      | nil => rfl
      | cons x rest => cases hgiven
    | map es =>
      cases es with
      | nil => rfl
      | cons entry rest => cases hgiven

theorem fileItemsOf_eq {entries : List Entry} {items : List Value} (h : itemsOf? entries = some items)
    (itemKind : String) : fileItemsOf itemKind entries = fileAll itemKind items := by
  induction entries with
  | nil =>
    cases h
    rw [fileItemsOf, fileAll]
  | cons entry rest ih =>
    obtain ⟨key, v⟩ := entry
    rw [itemsOf?, valueAt?_cons] at h
    rw [fileItemsOf]
    cases hkey : key.same itemsKey with
    | false =>
      rw [hkey] at h
      exact ih h
    | true =>
      rw [hkey] at h
      dsimp only [if_true, Option.getD_some] at h
      split at h
      · rename_i hitems
        cases h
        exact fileItems_eq hitems itemKind
      · cases h

/-- Filing documents files what they hold of primary kinds, in order, and is not stopped. -/
theorem fileAll_of_holds {inherited : String} {docs : List Value} {held : List (String × Value)}
    (h : Holds inherited docs held) : fileAll inherited docs = ⟨held.filterMap served?, none⟩ := by
  induction h with
  | nil => rw [fileAll]; rfl
  | notGiven hgiven _ ih =>
    rw [fileAll, fileDoc_of_not_given hgiven, nothing_andThen, ih]
  | manifest hkind hlist _ ih =>
    rw [fileAll, fileDoc_map hkind, fileAs_of_no_list hlist, andThen_of_no_fault rfl, ih,
      filterMap_served?_cons]
  | list hkind hlist hitems _ _ ihInner ihRest =>
    rw [fileAll, fileDoc_map hkind, fileAs_of_list hlist, fileItemsOf_eq hitems, ihInner,
      andThen_of_no_fault rfl, ihRest, List.filterMap_append]

end Filing

namespace Snapshot

/-- A snapshot of documents lists under a primary kind the manifests that they hold of it, each once
and in order. -/
theorem manifestsOf_of_holds {docs : List Value} {held : List (String × Value)}
    (h : Filing.Holds "" docs held) {kind : AssetKind} (hprimary : kind.isDerived = false) :
    manifestsOf { manifests := (Filing.fileAll "" docs).filed } kind =
      (held.filter fun manifest ↦ manifest.1 = kind.name).map (·.2) := by
  rw [Filing.fileAll_of_holds h, manifestsOf]
  dsimp only
  clear h
  induction held with
  | nil => rfl
  | cons first rest ih =>
    rw [Filing.filterMap_served?_cons, List.filter_append, List.map_append, ih]
    by_cases hname : first.1 = kind.name
    · have hserved : Filing.served? first = some (kind, first.2) :=
        (Filing.served?_eq_some_iff hprimary).2 (Prod.ext hname rfl)
      rw [List.filter_cons_of_pos (by simpa using hname), hserved]
      simp
    · have hother : ∀ entry ∈ (Filing.served? first).toList, ¬ entry.1 = kind := by
        rintro ⟨known, doc⟩ hentry rfl
        rw [Option.mem_toList] at hentry
        rw [(Filing.served?_eq_some_iff hprimary).1 hentry] at hname
        exact hname rfl
      have hnone : ((Filing.served? first).toList.filter fun entry ↦ entry.1 = kind) = [] := by
        simpa using hother
      rw [hnone, List.filter_cons_of_neg (by simpa using hname)]
      rfl

end Snapshot

end ClusterAudit
