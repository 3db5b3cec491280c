import ClusterAudit.Proofs.Manifest.Json
import ClusterAudit.Proofs.Source.Listing
import ClusterAudit.Proofs.Source.Loading

/-!
# Sources of JSON

Filing, unpacking lists and giving policies their kind keep the values of the fields: what is filed of
documents that are JSON has JSON fields, and so has what a cluster answers when its objects are JSON.  So
all objects of such a source have JSON as their names.
-/

namespace ClusterAudit

open Manifest Traversal

namespace Filing

/-- All that is filed has JSON fields. -/
def FilesJson (filing : Filing) : Prop :=
  ∀ entry ∈ filing.filed, entry.2.HasJsonFields

theorem FilesJson.nothing : FilesJson nothing := List.forall_mem_nil _

theorem FilesJson.stop (fault : Fault) : FilesJson (stop fault) := List.forall_mem_nil _

theorem FilesJson.andThen {first second : Filing} (h : first.FilesJson) (hsecond : second.FilesJson) :
    (first.andThen second).FilesJson := by
  unfold Filing.andThen
  split
  · exact h
  · exact List.forall_mem_append.2 ⟨h, hsecond⟩

theorem filesJson_fileAs {kind : String} {doc : Value} {hasItems : Bool} {fileItems : String → Filing}
    (hdoc : doc.HasJsonFields) (hitems : ∀ itemKind, (fileItems itemKind).FilesJson) :
    (fileAs kind doc hasItems fileItems).FilesJson := by
  unfold fileAs
  split
  · exact hitems _
  · split
    · split
      · exact .nothing
      · exact List.forall_mem_singleton.2 hdoc
    · exact .nothing

theorem filesJson_fileScalar (inherited : String) (s : Scalar) :
    (fileScalar inherited s).FilesJson := by
  unfold fileScalar
  split
  · split
    · exact .stop _
    · exact .nothing
  · split
    · exact filesJson_fileAs (Value.hasJsonFields_map.2
        (List.forall_mem_singleton.2 (Value.isJson_text inherited))) fun _ ↦ .nothing
    · split
      · exact .stop _
      · exact .stop _
    · exact .stop _

theorem filesJson_fileScalars (inherited : String) (ss : List Scalar) :
    (fileScalars inherited ss).FilesJson := by
  induction ss with
  | nil => exact .nothing
  | cons s rest ih => exact (filesJson_fileScalar inherited s).andThen ih

theorem filesJson_fileScalarItems (inherited : String) (s : Scalar) :
    (fileScalarItems inherited s).FilesJson := by
  unfold fileScalarItems
  split
  · split
    · exact filesJson_fileScalars inherited _
    · exact .stop _
  · exact .nothing

mutual

/-- What is filed of a document that is JSON has JSON fields. -/
theorem filesJson_fileDoc (inherited : String) (doc : Value) (h : doc.isJson = true) :
    (fileDoc inherited doc).FilesJson := by
  match doc with
  | .scalar s => exact filesJson_fileScalar inherited s
  | .map es =>
    have hes := (Value.isJson_map.1 h).2.2
    have hitems (itemKind : String) : (fileItemsOf itemKind es).FilesJson :=
      filesJson_fileItemsOf itemKind es hes
    have hkind : (Value.map (es ++ [(kindKey, .text inherited)])).HasJsonFields :=
      Value.hasJsonFields_map.2 (List.forall_mem_append.2
        ⟨hes, List.forall_mem_singleton.2 (Value.isJson_text inherited)⟩)
    rw [fileDoc]
    split
    · exact filesJson_fileAs hkind hitems
    · split
      · exact .nothing
      · split
        · exact filesJson_fileAs (Value.hasJsonFields_of_isJson h) hitems
        · exact .stop _
  | .list xs =>
    rw [fileDoc]
    split
    · split
      · exact .nothing
      · exact .stop _
    · split
      · exact .stop _
      · split
        · exact .stop _
        · rename_i es hes
          have hput := Value.hasJsonFields_putEntry (Value.isJson_toEntries h hes) kindKey
            (Value.isJson_text inherited)
          refine filesJson_fileAs hput fun itemKind ↦ ?_
          cases hfiling : filePairItems itemKind xs with
          | none => exact .nothing
          | some filing =>
            exact filesJson_filePairItems itemKind xs (Value.isJson_list.1 h) filing hfiling

theorem filesJson_fileItemsOf (inherited : String) (es : List (Scalar × Value))
    (h : ∀ entry ∈ es, entry.2.isJson = true) : (fileItemsOf inherited es).FilesJson := by
  match es with
  | [] => exact .nothing
  | (key, v) :: rest =>
    obtain ⟨hv, hrest⟩ := List.forall_mem_cons.1 h
    rw [fileItemsOf]
    split
    · exact filesJson_fileItems inherited v hv
    · exact filesJson_fileItemsOf inherited rest hrest

theorem filesJson_filePairItems (inherited : String) (pairs : List Value)
    (h : ∀ pair ∈ pairs, pair.isJson = true) :
    ∀ filing ∈ filePairItems inherited pairs, filing.FilesJson := by
  match pairs with
  | [] => rintro filing ⟨⟩
  | pair :: rest =>
    obtain ⟨hpair, hrest⟩ := List.forall_mem_cons.1 h
    intro filing hfiling
    rw [filePairItems, Option.mem_def, Option.or_eq_some_iff] at hfiling
    rcases hfiling with hlater | ⟨-, hhere⟩
    · exact filesJson_filePairItems inherited rest hrest filing hlater
    · exact filesJson_filePairItem inherited pair hpair filing hhere

theorem filesJson_filePairItem (inherited : String) (pair : Value) (h : pair.isJson = true) :
    ∀ filing ∈ filePairItem inherited pair, filing.FilesJson := by
  match pair with
  | .list xs =>
    rw [filePairItem]
    exact filesJson_fileListItem inherited xs (Value.isJson_list.1 h)
  | .scalar s =>
    rw [filePairItem.eq_def]
    rintro filing ⟨⟩
  | .map es =>
    intro filing hfiling
    rw [filePairItem.eq_def] at hfiling
    split at hfiling
    · rename_i heq
      cases heq
    · split at hfiling
      · cases hfiling
        exact filesJson_fileScalarItems inherited _
      · cases hfiling
    · cases hfiling

theorem filesJson_fileListItem (inherited : String) (xs : List Value)
    (h : ∀ x ∈ xs, x.isJson = true) :
    ∀ filing ∈ fileListItem inherited xs, filing.FilesJson := by
  intro filing hfiling
  rw [fileListItem.eq_def] at hfiling
  split at hfiling
  · split at hfiling
    · rename_i rest _
      exact filesJson_fileOnlyItem inherited rest (List.forall_mem_cons.1 h).2 filing hfiling
    · cases hfiling
  · cases hfiling

theorem filesJson_fileOnlyItem (inherited : String) (xs : List Value)
    (h : ∀ x ∈ xs, x.isJson = true) :
    ∀ filing ∈ fileOnlyItem inherited xs, filing.FilesJson := by
  match xs with
  | [v] =>
    rw [fileOnlyItem]
    rintro filing ⟨⟩
    exact filesJson_fileItems inherited v (h v List.mem_cons_self)
  | [] | _ :: _ :: _ => rintro filing ⟨⟩

theorem filesJson_fileItems (inherited : String) (v : Value) (h : v.isJson = true) :
    (fileItems inherited v).FilesJson := by
  match v with
  | .list xs => exact filesJson_fileAll inherited xs (Value.isJson_list.1 h)
  | .map es => exact filesJson_fileScalars inherited _
  | .scalar s => exact filesJson_fileScalarItems inherited s

/-- What is filed of documents that are JSON has JSON fields. -/
theorem filesJson_fileAll (inherited : String) (docs : List Value)
    (h : ∀ doc ∈ docs, doc.isJson = true) : (fileAll inherited docs).FilesJson := by
  match docs with
  | [] => exact .nothing
  | doc :: rest =>
    obtain ⟨hdoc, hrest⟩ := List.forall_mem_cons.1 h
    exact (filesJson_fileDoc inherited doc hdoc).andThen (filesJson_fileAll inherited rest hrest)

end

end Filing

/-! ## Sources -/

/-- In states of a sort, which listing keeps, only manifests with JSON fields are listed. -/
def ListsJson {σ : Type} (list : AssetKind → SourceM σ (List Value)) (sort : σ → Prop) : Prop :=
  ∀ kind s, sort s → sort ((list kind).run s).2 ∧
    ∀ docs, ((list kind).run s).1 = .ok docs → ∀ doc ∈ docs, doc.HasJsonFields

namespace Snapshot

/-- All filed manifests have JSON fields. -/
def HoldsJson (snapshot : Snapshot) : Prop :=
  ∀ entry ∈ snapshot.manifests, entry.2.HasJsonFields

theorem listsJson : ListsJson list HoldsJson := by
  intro kind snapshot h
  rw [list_run]
  refine ⟨h, fun docs hdocs ↦ ?_⟩
  unfold answer at hdocs
  split at hdocs
  · cases hdocs
  · cases hdocs
    intro doc hdoc
    obtain ⟨entry, hentry, rfl⟩ := List.mem_map.1 hdoc
    exact h entry (List.mem_filter.1 hentry).1

/-- The documents that the file at a path holds, as far as it can be read. -/
def documentsAt (yaml : Yaml.Library) (directory : Directory) (path : String) : List Value :=
  match directory.read (Path.ofText path) with
  | .error _ => []
  | .ok bytes =>
    match Text.Utf8.decode bytes with
    | .error _ => []
    | .ok cs => (yaml.load (Text.withLineFeeds cs)).1

section

variable {yaml : Yaml.Library}

theorem contributionOfText_filed {path : String} {cs : List Char} {filed : List (AssetKind × Value)}
    (h : contributionOfText yaml path cs = .ok filed) :
    filed = (Filing.fileAll "" (yaml.load cs).1).filed := by
  unfold contributionOfText at h
  dsimp only at h
  split at h
  · cases h
  · cases h
  · cases h
    rfl

theorem contribution_filed {directory : Directory} {path : String} {filed : List (AssetKind × Value)}
    (h : contribution yaml directory path = .ok filed) :
    filed = (Filing.fileAll "" (documentsAt yaml directory path)).filed := by
  unfold contribution at h
  unfold documentsAt
  split at h
  · cases h
  · cases hread : directory.read (Path.ofText path) with
    | error fault =>
      rw [hread] at h
      cases h
    | ok bytes =>
      rw [hread] at h
      dsimp only at h ⊢
      cases hcs : Text.Utf8.decode bytes with
      | error fault =>
        rw [hcs] at h
        cases h
      | ok cs =>
        rw [hcs] at h
        exact contributionOfText_filed h

/-- Files that hold JSON documents give a snapshot of manifests with JSON fields. -/
theorem holdsJson_of_ofDirectory {directory : Directory} {paths : List String} {snapshot : Snapshot}
    (h : ∀ path ∈ paths, ∀ doc ∈ documentsAt yaml directory path, doc.isJson = true)
    (hsnapshot : ofDirectory yaml directory paths = .ok snapshot) : snapshot.HoldsJson := by
  rw [ofDirectory_eq] at hsnapshot
  obtain ⟨parts, hparts, rfl⟩ := map_eq_ok hsnapshot
  intro entry hentry
  obtain ⟨filed, hfiled, hmem⟩ := List.mem_flatten.1 hentry
  obtain ⟨path, hpath, hcontribution⟩ := exists_of_mem_mapM hparts hfiled
  rw [contribution_filed hcontribution] at hmem
  exact Filing.filesJson_fileAll "" _ (h path hpath) entry hmem

end

end Snapshot

namespace Cluster

/-- All objects in the replies are JSON. -/
def HoldsJson (cluster : Cluster) : Prop :=
  ∀ kind items, (kind, .objects items) ∈ cluster.replies → ∀ item ∈ items, item.isJson = true

theorem authenticate_replies (cluster : Cluster) :
    (authenticate.run cluster).2.replies = cluster.replies := by
  obtain ⟨context, userFault, clusterFault, replies, connected, calls, warnings⟩ := cluster
  cases userFault with
  | none => rfl
  | some userReason =>
    cases clusterFault with
    | none => rfl
    | some clusterReason => rfl

theorem HoldsJson.authenticate {cluster : Cluster} (h : cluster.HoldsJson) :
    (authenticate.run cluster).2.HoldsJson := by
  rw [HoldsJson, authenticate_replies]
  exact h

theorem hasJsonFields_asPolicy {item policy : Value} (h : item.isJson = true)
    (hpolicy : asPolicy item = .ok policy) : policy.HasJsonFields := by
  obtain ⟨es, hes, hpolicy⟩ := bind_eq_ok hpolicy
  cases hpolicy
  exact Value.hasJsonFields_putEntry (Value.isJson_toEntries h hes) _ (Value.isJson_text _)

theorem isJson_of_replyFor {cluster : Cluster} (h : cluster.HoldsJson) {kind : AssetKind}
    {items : List Value} (hreply : cluster.replyFor kind = .objects items) :
    ∀ item ∈ items, item.isJson = true := by
  unfold replyFor at hreply
  cases hfind : cluster.replies.find? fun reply ↦ reply.1 = kind with
  | none =>
    rw [hfind] at hreply
    cases hreply
    exact List.forall_mem_nil _
  | some reply =>
    rw [hfind] at hreply
    obtain ⟨other, answer⟩ := reply
    obtain rfl : answer = .objects items := hreply
    exact h other items (List.mem_of_find?_eq_some hfind)

theorem hasJsonFields_of_answer {cluster : Cluster} (h : cluster.HoldsJson) {kind : AssetKind}
    {docs : List Value} (hdocs : answer kind (cluster.replyFor kind) = .ok docs) :
    ∀ doc ∈ docs, doc.HasJsonFields := by
  unfold answer at hdocs
  split at hdocs
  · rename_i items hreply
    have hitems := isJson_of_replyFor h hreply
    split at hdocs
    · intro doc hdoc
      obtain ⟨item, hitem, hpolicy⟩ := exists_of_mem_mapM hdocs hdoc
      exact hasJsonFields_asPolicy (hitems item hitem) hpolicy
    · cases hdocs
      exact fun doc hdoc ↦ Value.hasJsonFields_of_isJson (hitems doc hdoc)
  · split at hdocs
    · cases hdocs
      exact List.forall_mem_nil _
    · obtain ⟨wording, -, hdocs⟩ := bind_eq_ok hdocs
      cases hdocs
  · cases hdocs

theorem listsJson :
    ListsJson list fun cluster ↦ cluster.connected = true ∧ cluster.HoldsJson := by
  rintro kind cluster ⟨hconnected, h⟩
  obtain ⟨warnings, hlist⟩ := list_run hconnected kind
  rw [hlist]
  exact ⟨⟨hconnected, h⟩, fun docs hdocs ↦ hasJsonFields_of_answer h hdocs⟩

end Cluster

/-- What a source of manifests fetches in such states has JSON as names. -/
theorem isJson_of_fetch {σ : Type} {list : AssetKind → SourceM σ (List Value)} {sort : σ → Prop}
    (h : ListsJson list sort) (names : AssetKind → List String) {kind : AssetKind}
    (hprimary : kind.isDerived = false) {s : σ} (hs : sort s) :
    sort (((AssetSource.ofManifests list names).fetch kind).run s).2 ∧
      ∀ assets, (((AssetSource.ofManifests list names).fetch kind).run s).1 = .ok assets →
        ∀ asset ∈ assets, asset.name.isJson = true := by
  obtain ⟨hafter, hdocs⟩ := h kind s hs
  rw [AssetSource.ofManifests_fetch_run list names hprimary]
  refine ⟨hafter, fun assets hassets asset hasset ↦ ?_⟩
  obtain ⟨docs, hlisted, hread⟩ := bind_eq_ok hassets
  obtain ⟨doc, hdoc, hofManifest⟩ := exists_of_mem_mapM hread hasset
  exact Asset.isJson_name (hdocs docs hlisted doc hdoc) hofManifest

end ClusterAudit
