import ClusterAudit.Proofs.Source.Listing
import ClusterAudit.Proofs.Source.Unpacking
import Mathlib.Logic.Relation

/-!
# Documents gathered into lists

Documents that stand one after another can be put into a list, which then stands in their place: into a
plain list, or, when they are all of one kind, into a list of this kind, where they need not name it
any more.  Lists can be put into lists again.  None of this changes what a snapshot of the documents
gives: the assets of each kind, read from the manifests that the documents hold of it, in their order.
-/

namespace ClusterAudit

open Manifest SourceM

namespace Filing

/-! ## What a filing gives to read -/

/-- The assets of the filed manifests with their kinds, and the fault that has stopped the filing. -/
def reading (filing : Filing) : List (AssetKind × Except Fault Asset) × Option Fault :=
  (filing.filed.map fun entry ↦ (entry.1, Asset.ofManifest entry.1 entry.2), filing.fault)

theorem reading_andThen {first other second next : Filing} (h : first.reading = other.reading)
    (hnext : second.reading = next.reading) :
    (first.andThen second).reading = (other.andThen next).reading := by
  obtain ⟨hassets, hfault⟩ := Prod.ext_iff.1 h
  obtain ⟨hmore, hlast⟩ := Prod.ext_iff.1 hnext
  cases hstop : first.fault with
  | some fault => rw [andThen_of_fault hstop, andThen_of_fault (hfault.symm.trans hstop), h]
  | none =>
    rw [andThen_of_no_fault hstop, andThen_of_no_fault (hfault.symm.trans hstop)]
    refine Prod.ext ?_ hlast
    simp only [reading, List.map_append] at hassets hmore ⊢
    rw [hassets, hmore]

theorem fileAll_singleton (inherited : String) (doc : Value) :
    fileAll inherited [doc] = fileDoc inherited doc := by
  rw [fileAll, fileAll, andThen, nothing]
  cases hfault : (fileDoc inherited doc).fault with
  | some fault => rfl
  | none =>
    rw [← hfault]
    simp

/-- Documents that are read alike can replace each other among others. -/
theorem reading_fileAll_replace {inherited : String} {run packed : List Value}
    (h : (fileAll inherited run).reading = (fileAll inherited packed).reading)
    (before after : List Value) :
    (fileAll inherited (before ++ run ++ after)).reading =
      (fileAll inherited (before ++ packed ++ after)).reading := by
  simp only [fileAll_append]
  exact reading_andThen (reading_andThen rfl h) rfl

/-! ## Documents that differ in how they name their kind -/

theorem fileItemsOf_eq_getD (itemKind : String) (entries : List Entry) :
    fileItemsOf itemKind entries =
      ((valueAt? entries itemsKey).map (fileItems itemKind)).getD nothing := by
  induction entries with
  | nil => rw [fileItemsOf]; rfl
  | cons entry rest ih =>
    obtain ⟨key, v⟩ := entry
    rw [fileItemsOf, valueAt?_cons]
    cases key.same itemsKey with
    | true => simp
    | false => simpa using ih

theorem alikeButKind_withKind (inherited : String) (entries : List Entry) :
    Value.AlikeButKind (.map entries) (withKind inherited entries) := by
  unfold withKind
  split
  · exact .of_append entries _
  · exact ⟨entries, entries, rfl, rfl, fun _ _ ↦ rfl⟩

/-- Maps of the same kind with the same other fields are filed alike, whether the kind is named or
inherited. -/
theorem reading_fileDoc_eq {inherited other kind : String} {entries fields : List Entry}
    (hkind : kindOf? inherited entries = some kind) (hother : kindOf? other fields = some kind)
    (hfields : ∀ name, name ≠ "kind" → valueAt? entries (.text name) = valueAt? fields (.text name)) :
    (fileDoc inherited (.map entries)).reading = (fileDoc other (.map fields)).reading := by
  have hitems : valueAt? entries itemsKey = valueAt? fields itemsKey := hfields "items" (by decide)
  have hhas : hasKey entries itemsKey = hasKey fields itemsKey := by rw [hasKey, hasKey, hitems]
  rw [fileDoc_map hkind, fileDoc_map hother, hhas]
  cases hlist : itemKind? kind (hasKey fields itemsKey) with
  | some itemKind =>
    rw [fileAs_of_list hlist, fileAs_of_list hlist, fileItemsOf_eq_getD, fileItemsOf_eq_getD, hitems]
  | none =>
    have halike : Value.AlikeButKind (withKind inherited entries) (withKind other fields) :=
      (alikeButKind_withKind inherited entries).symm.trans <|
        .trans ⟨entries, fields, rfl, rfl, hfields⟩ (alikeButKind_withKind other fields)
    rw [fileAs_of_no_list hlist, fileAs_of_no_list hlist, served?, served?]
    cases AssetKind.ofName? kind with
    | none => rfl
    | some known =>
      cases hderived : known.isDerived with
      | true => simp [hderived]
      | false => simp [hderived, reading, halike.ofManifest_eq known]

/-! ## Gathering -/

/-- The entries without those of the kind. -/
def withoutKind (entries : List Entry) : List Entry :=
  entries.filter fun entry ↦ !entry.1.same kindKey

theorem valueAt?_withoutKind (entries : List Entry) :
    valueAt? (withoutKind entries) kindKey = none := by
  have hnone : (withoutKind entries).find? (fun entry ↦ entry.1.same kindKey) = none := by
    rw [List.find?_eq_none]
    intro entry hentry
    simpa using (List.mem_filter.1 hentry).2
  rw [valueAt?, hnone]
  rfl

theorem valueAt?_withoutKind_of_ne {name : String} (h : name ≠ "kind") (entries : List Entry) :
    valueAt? (withoutKind entries) (.text name) = valueAt? entries (.text name) := by
  induction entries with
  | nil => rfl
  | cons entry rest ih =>
    unfold withoutKind at ih ⊢
    rw [valueAt?_cons]
    cases hkind : entry.1.same kindKey with
    | false =>
      rw [List.filter_cons_of_pos (by simp [hkind]), valueAt?_cons, ih]
    | true =>
      have hname : ¬ entry.1.same (.text name) = true := by
        rw [kindKey, Scalar.same_text_right, decide_eq_true_iff] at hkind
        simpa [hkind] using h.symm
      rw [List.filter_cons_of_neg (by simp [hkind]), ih, if_neg hname]

/-- A document of a kind, as an item of a list of this kind: as it is, or with the kind dropped. -/
def IsItem (inherited kind : String) (doc item : Value) : Prop :=
  ∃ entries, doc = .map entries ∧ kindOf? inherited entries = some kind ∧
    (item = doc ∨ item = .map (withoutKind entries))

/-- A document that names its kind. -/
def NamesKind (doc : Value) : Prop :=
  ∃ entries kind, doc = .map entries ∧ valueAt? entries kindKey = some (.text kind)

/-- A document that names the given kind and has the given items. -/
def IsListOf (kind : String) (items : List Value) (doc : Value) : Prop :=
  ∃ entries, doc = .map entries ∧ valueAt? entries kindKey = some (.text kind) ∧
    valueAt? entries itemsKey = some (.list items)

/-- One gathering, among documents that inherit a kind, the empty text for none: a run of documents is
replaced by a list that has them as its items, or such a gathering takes place among the items of a
list. -/
inductive Gathers : String → List Value → List Value → Prop
  /-- The items of a plain list inherit no kind, so they have to name the one that they have inherited
  before. -/
  | plain {inherited : String} {before run after : List Value} {doc : Value}
      (hkinds : inherited = "" ∨ ∀ item ∈ run, NamesKind item) (hlist : IsListOf "List" run doc) :
      Gathers inherited (before ++ run ++ after) (before ++ [doc] ++ after)
  | typed {inherited kind : String} {before run items after : List Value} {doc : Value}
      (hitems : List.Forall₂ (IsItem inherited kind) run items)
      (hlist : IsListOf (kind ++ "List") items doc) :
      Gathers inherited (before ++ run ++ after) (before ++ [doc] ++ after)
  | within {inherited kind itemKind : String} {before after items packed : List Value}
      {entries : List Entry} (hkind : kindOf? inherited entries = some kind)
      (hlist : itemKind? kind true = some itemKind)
      (hitems : valueAt? entries itemsKey = some (.list items))
      (hinner : Gathers itemKind items packed) :
      Gathers inherited (before ++ [.map entries] ++ after)
        (before ++ [.map (putEntry entries itemsKey (.list packed))] ++ after)

/-! ## Gathered documents are read alike -/

theorem itemKind?_append (kind : String) : itemKind? (kind ++ "List") true = some kind := by
  have hsuffix : (kind ++ "List").endsWith "List" = true := by
    rw [String.endsWith_eq_endsWith_toSlice, String.Slice.endsWith_string_iff, String.copy_toSlice,
      String.toList_append]
    exact List.suffix_append _ _
  have hkind : ((kind ++ "List").dropEnd 4).toString = kind := by
    rw [← String.toList_inj]
    change (String.Slice.dropEnd (kind ++ "List").toSlice 4).copy.toList = _
    rw [String.Slice.toList_copy_dropEnd, String.copy_toSlice, String.toList_append]
    simp
  unfold itemKind?
  split
  · rename_i hplain
    -- Nothing stands before the suffix of the plain list.
    have hempty : kind.toList ++ "List".toList = [] ++ "List".toList := by
      rw [← String.toList_append, hplain, List.nil_append]
    rw [String.toList_inj.1 (List.append_cancel_right hempty : kind.toList = "".toList)]
  · rw [hsuffix, hkind]
    simp

/-- A list is filed as its items are. -/
theorem fileDoc_of_items {inherited kind itemKind : String} {entries : List Entry} {items : List Value}
    (hkind : kindOf? inherited entries = some kind) (hlist : itemKind? kind true = some itemKind)
    (hitems : valueAt? entries itemsKey = some (.list items)) :
    fileDoc inherited (.map entries) = fileAll itemKind items := by
  have hhas : hasKey entries itemsKey = true := by rw [hasKey, hitems]; rfl
  rw [fileDoc_map hkind, hhas, fileAs_of_list hlist, fileItemsOf_eq_getD, hitems]
  simp [fileItems]

theorem kindOf?_putEntry_items {inherited kind : String} {entries : List Entry}
    (h : kindOf? inherited entries = some kind) (items : Value) :
    kindOf? inherited (putEntry entries itemsKey items) = some kind := by
  unfold kindOf? at h ⊢
  rwa [kindKey, itemsKey, valueAt?_putEntry_of_ne (by decide), ← kindKey]

theorem fileDoc_of_isListOf {inherited kind itemKind : String} {items : List Value} {doc : Value}
    (hdoc : IsListOf kind items doc) (hlist : itemKind? kind true = some itemKind) :
    fileDoc inherited doc = fileAll itemKind items := by
  obtain ⟨entries, rfl, hkind, hitems⟩ := hdoc
  exact fileDoc_of_items (by rw [kindOf?, hkind]) hlist hitems

theorem NamesKind.reading_eq {doc : Value} (h : NamesKind doc) (inherited other : String) :
    (fileDoc inherited doc).reading = (fileDoc other doc).reading := by
  obtain ⟨entries, kind, rfl, hkind⟩ := h
  exact reading_fileDoc_eq (by rw [kindOf?, hkind]) (by rw [kindOf?, hkind]) fun _ _ ↦ rfl

theorem IsItem.reading_eq {inherited kind : String} {doc item : Value}
    (h : IsItem inherited kind doc item) :
    (fileDoc inherited doc).reading = (fileDoc kind item).reading := by
  obtain ⟨entries, rfl, hkind, rfl | rfl⟩ := h
  · refine reading_fileDoc_eq hkind ?_ fun _ _ ↦ rfl
    unfold kindOf? at hkind ⊢
    split at hkind
    · exact hkind
    · cases hkind
    · rfl
  · refine reading_fileDoc_eq hkind ?_ fun name hname ↦ (valueAt?_withoutKind_of_ne hname entries).symm
    rw [kindOf?, valueAt?_withoutKind]

/-- Documents are read alike when they are one by one. -/
theorem reading_fileAll_eq {inherited other : String} {docs items : List Value}
    (h : List.Forall₂
      (fun doc item ↦ (fileDoc inherited doc).reading = (fileDoc other item).reading) docs items) :
    (fileAll inherited docs).reading = (fileAll other items).reading := by
  induction h with
  | nil => rw [fileAll, fileAll]
  | cons hfirst _ ih =>
    rw [fileAll, fileAll]
    exact reading_andThen hfirst ih

/-- A gathering does not change what there is to read. -/
theorem Gathers.reading_eq {inherited : String} {docs packed : List Value}
    (h : Gathers inherited docs packed) :
    (fileAll inherited docs).reading = (fileAll inherited packed).reading := by
  induction h with
  | plain hkinds hlist =>
    apply reading_fileAll_replace
    rw [fileAll_singleton, fileDoc_of_isListOf hlist rfl]
    rcases hkinds with rfl | hkinds
    · rfl
    · apply reading_fileAll_eq
      exact List.forall₂_same.2 fun item hitem ↦ (hkinds item hitem).reading_eq _ _
  | typed hitems hlist =>
    apply reading_fileAll_replace
    rw [fileAll_singleton, fileDoc_of_isListOf hlist (itemKind?_append _)]
    exact reading_fileAll_eq (hitems.imp fun _ _ hitem ↦ hitem.reading_eq)
  | within hkind hlist hitems _ ih =>
    apply reading_fileAll_replace
    rw [fileAll_singleton, fileAll_singleton, fileDoc_of_items hkind hlist hitems,
      fileDoc_of_items (kindOf?_putEntry_items hkind _) hlist (valueAt?_putEntry_self _ _ _), ih]

/-- Neither do many gatherings, one after another. -/
theorem reading_eq_of_gathered {inherited : String} {docs packed : List Value}
    (h : Relation.ReflTransGen (Gathers inherited) docs packed) :
    (fileAll inherited docs).reading = (fileAll inherited packed).reading := by
  induction h with
  | refl => rfl
  | tail _ hlast ih => exact ih.trans hlast.reading_eq

/-! ## Documents -/

/-- Documents with a kind that they name as a text or inherit, the empty text for none.  The items of a
list are such documents again. -/
inductive IsDocument : String → Value → Prop
  | manifest {inherited kind : String} {entries : List Entry}
      (hkind : kindOf? inherited entries = some kind)
      (hlist : itemKind? kind (hasKey entries itemsKey) = none) : IsDocument inherited (.map entries)
  | list {inherited kind itemKind : String} {entries : List Entry} {items : List Value}
      (hkind : kindOf? inherited entries = some kind)
      (hlist : itemKind? kind (hasKey entries itemsKey) = some itemKind)
      (hitems : itemsOf? entries = some items) (hdocs : ∀ item ∈ items, IsDocument itemKind item) :
      IsDocument inherited (.map entries)

/-- A document that holds something in front of others. -/
def HoldsFirst (inherited : String) (doc : Value) : Prop :=
  ∃ first, ∀ docs held, Holds inherited docs held → Holds inherited (doc :: docs) (first ++ held)

theorem exists_holds_of_holdsFirst {inherited : String} {docs : List Value}
    (h : ∀ doc ∈ docs, HoldsFirst inherited doc) : ∃ held, Holds inherited docs held := by
  induction docs with
  | nil => exact ⟨[], .nil⟩
  | cons doc rest ih =>
    obtain ⟨hdoc, hrest⟩ := List.forall_mem_cons.1 h
    obtain ⟨first, hfirst⟩ := hdoc
    obtain ⟨held, hheld⟩ := ih hrest
    exact ⟨first ++ held, hfirst rest held hheld⟩

theorem IsDocument.holdsFirst {inherited : String} {doc : Value} (h : IsDocument inherited doc) :
    HoldsFirst inherited doc := by
  induction h with
  | manifest hkind hlist => exact ⟨[_], fun docs held hheld ↦ .manifest hkind hlist hheld⟩
  | list hkind hlist hitems _ ih =>
    obtain ⟨inner, hinner⟩ := exists_holds_of_holdsFirst ih
    exact ⟨inner, fun docs held hheld ↦ .list hkind hlist hitems hinner hheld⟩

/-- What documents hold can always be told. -/
theorem exists_holds {inherited : String} {docs : List Value}
    (h : ∀ doc ∈ docs, IsDocument inherited doc) : ∃ held, Holds inherited docs held :=
  exists_holds_of_holdsFirst fun doc hdoc ↦ (h doc hdoc).holdsFirst

end Filing

/-! ## Snapshots of gathered documents -/

namespace Snapshot

variable (defaultNames : AssetKind → List String)

/-- Reading the manifests of a kind only takes what there is to read of the filed manifests. -/
theorem mapM_manifestsOf (snapshot : Snapshot) (kind : AssetKind) :
    (snapshot.manifestsOf kind).mapM (Asset.ofManifest kind) =
      (((snapshot.manifests.map fun entry ↦ (entry.1, Asset.ofManifest entry.1 entry.2)).filter
        fun entry ↦ entry.1 = kind).map (·.2)).mapM id := by
  let ofKind := snapshot.manifests.filter fun entry ↦ entry.1 = kind
  have hkind : ∀ entry ∈ ofKind,
      Asset.ofManifest kind entry.2 = Asset.ofManifest entry.1 entry.2 := by
    intro entry hentry
    rw [of_decide_eq_true (List.mem_filter.1 hentry).2]
  calc (snapshot.manifestsOf kind).mapM (Asset.ofManifest kind)
      = (ofKind.map fun entry ↦ Asset.ofManifest kind entry.2).mapM id := by
        rw [manifestsOf, List.mapM_map, List.mapM_map]
        rfl
    _ = (ofKind.map fun entry ↦ Asset.ofManifest entry.1 entry.2).mapM id := by
        rw [List.map_congr_left hkind]
    _ = _ := by
        rw [List.filter_map, List.map_map]
        rfl

/-- A snapshot without outages gives the assets that its manifests of a kind are read as. -/
theorem source_fetch_run {kind : AssetKind} (hprimary : kind.isDerived = false)
    (manifests : List (AssetKind × Value)) :
    (((source defaultNames).fetch kind).run { manifests }).1 =
      (manifestsOf { manifests } kind).mapM (Asset.ofManifest kind) := by
  rw [source, AssetSource.ofManifests_fetch_run list defaultNames hprimary, list_run]
  rfl

/-- Filed manifests with the same to read give the same assets. -/
theorem source_fetch_eq {first second : Filing} (h : first.reading = second.reading)
    (kind : AssetKind) :
    (((source defaultNames).fetch kind).run { manifests := first.filed }).1 =
      (((source defaultNames).fetch kind).run { manifests := second.filed }).1 := by
  cases hderived : kind.isDerived with
  | true =>
    rw [source, AssetSource.ofManifests_fetch_derived list defaultNames hderived,
      AssetSource.ofManifests_fetch_derived list defaultNames hderived]
  | false =>
    rw [source_fetch_run defaultNames hderived, source_fetch_run defaultNames hderived,
      mapM_manifestsOf, mapM_manifestsOf]
    exact congrArg (fun read ↦ ((read.filter fun entry ↦ entry.1 = kind).map (·.2)).mapM id)
      (Prod.ext_iff.1 h).1

/-- Gathering documents into lists, and these into lists again, does not change what a snapshot of them
gives.  A snapshot keeps the manifests that the documents hold of primary kinds, in order, and no
others; what it gives for such a kind is read from those that are held under its name. -/
theorem fetch_gathered {docs packed : List Value} (hdocs : ∀ doc ∈ docs, Filing.IsDocument "" doc)
    (hpacked : Relation.ReflTransGen (Filing.Gathers "") docs packed) :
    ∃ held snapshot other, Filing.Holds "" docs held ∧
      (addAll docs).run {} = (.ok (), snapshot) ∧ (addAll packed).run {} = (.ok (), other) ∧
      snapshot.manifests = held.filterMap Filing.served? ∧
      (∀ kind, (((source defaultNames).fetch kind).run other).1 =
        (((source defaultNames).fetch kind).run snapshot).1) ∧
      (∀ kind, kind.isDerived = false →
        (((source defaultNames).fetch kind).run snapshot).1 =
          ((held.filter fun manifest ↦ manifest.1 = kind.name).map (·.2)).mapM
            (Asset.ofManifest kind)) ∧
      ∀ kind, kind.isDerived = true →
        (((source defaultNames).fetch kind).run snapshot).1 = .error (.derivedNotFetched kind) := by
  obtain ⟨held, hheld⟩ := Filing.exists_holds hdocs
  have hfiled := Filing.fileAll_of_holds hheld
  have hreading := Filing.reading_eq_of_gathered hpacked
  have hfault : (Filing.fileAll "" packed).fault = none := by
    have h := (Prod.ext_iff.1 hreading).2
    rw [hfiled] at h
    exact h.symm
  refine ⟨held, { manifests := (Filing.fileAll "" docs).filed },
    { manifests := (Filing.fileAll "" packed).filed }, hheld, ?_, ?_, ?_, ?_, ?_, ?_⟩
  · rw [addAll_run, Filing.result, hfiled]
    rfl
  · rw [addAll_run, Filing.result, hfault]
    rfl
  · rw [hfiled]
  · exact fun kind ↦ source_fetch_eq defaultNames hreading.symm kind
  · intro kind hprimary
    rw [source_fetch_run defaultNames hprimary, manifestsOf_of_holds hheld hprimary]
  · intro kind hderived
    rw [source, AssetSource.ofManifests_fetch_derived list defaultNames hderived]

/-- Two pods, of which one has nothing but its kind, and two documents of which nothing is kept: the
pods without their kind are put into a list of pods, and this one and the next document into a plain
list. -/
theorem fetch_gathered_pods :
    let called (name : String) : Entry := (.text "metadata", .map [(.text "name", .text name)])
    let named : Value := .map [(Filing.kindKey, .text "Pod"), called "a"]
    let bare : Value := .map [(Filing.kindKey, .text "Pod")]
    let settings : Value := .map [(Filing.kindKey, .text "ConfigMap"), called "b"]
    let pair : Value := .map [(Filing.kindKey, .text "SchedulingPair"), called "c"]
    let listed (kind : String) (items : List Value) : Value :=
      .map [(Filing.kindKey, .text kind), (Filing.itemsKey, .list items)]
    let docs := [named, bare, settings, pair]
    let packed := [listed "List" [listed "PodList" [.map [called "a"], .map []], settings], pair]
    (∀ doc ∈ docs, Filing.IsDocument "" doc) ∧
      Relation.ReflTransGen (Filing.Gathers "") docs packed ∧
      ∃ other, (addAll packed).run {} = (.ok (), other) ∧
        (((source fun _ ↦ []).fetch .pod).run other).1 =
          [named, bare].mapM (Asset.ofManifest .pod) := by
  intro called named bare settings pair listed docs packed
  have hdocs : ∀ doc ∈ docs, Filing.IsDocument "" doc :=
    List.forall_mem_cons.2 ⟨.manifest rfl (by decide +kernel), List.forall_mem_cons.2
      ⟨.manifest rfl (by decide +kernel), List.forall_mem_cons.2
        ⟨.manifest rfl (by decide +kernel),
          List.forall_mem_singleton.2 (.manifest rfl (by decide +kernel))⟩⟩⟩
  have hpods : Filing.Gathers "" ([] ++ [named, bare] ++ [settings, pair])
      ([] ++ [listed "PodList" [.map [called "a"], .map []]] ++ [settings, pair]) :=
    .typed (.cons ⟨_, rfl, rfl, .inr rfl⟩ (.cons ⟨_, rfl, rfl, .inr rfl⟩ .nil)) ⟨_, rfl, rfl, rfl⟩
  have hall : Filing.Gathers ""
      ([] ++ [listed "PodList" [.map [called "a"], .map []], settings] ++ [pair])
      ([] ++ [listed "List" [listed "PodList" [.map [called "a"], .map []], settings]] ++ [pair]) :=
    .plain (.inl rfl) ⟨_, rfl, rfl, rfl⟩
  have hpacked : Relation.ReflTransGen (Filing.Gathers "") docs packed := .tail (.single hpods) hall
  obtain ⟨held, snapshot, other, -, hsnapshot, hother, -, hsame, -, -⟩ :=
    fetch_gathered (fun _ ↦ []) hdocs hpacked
  have hfiled : Filing.fileAll "" docs = ⟨[(.pod, named), (.pod, bare)], none⟩ := by
    decide +kernel
  rw [addAll_run, hfiled] at hsnapshot
  obtain rfl := (Prod.ext_iff.1 hsnapshot).2
  refine ⟨hdocs, hpacked, other, hother, ?_⟩
  exact (hsame .pod).trans (source_fetch_run (fun _ ↦ []) rfl [(.pod, named), (.pod, bare)])

end Snapshot

end ClusterAudit
