import ClusterAudit.Manifest.Access
import ClusterAudit.Text.Occurrence

/-!
# Filing of manifests by kind

A document is filed under the kind that it names.  A document whose kind is a list is unpacked: its
items are filed one after another, and items without a kind inherit the one that the list kind begins
with.  Documents of unknown and of derived kinds are passed over.  Filing stops at the first fault
and keeps what was filed before it.  Lists are unpacked to any depth: an interpreter that limits the
depth of recursion stops at very deep ones, and such a limit is not part of this theory.
-/

namespace ClusterAudit

open Manifest

/-- The manifests that were filed, and the fault that stopped the filing. -/
structure Filing where
  filed : List (AssetKind × Value) := []
  fault : Option Fault := none
deriving DecidableEq, Repr, Inhabited

namespace Filing

def nothing : Filing := {}

def stop (fault : Fault) : Filing := { fault := some fault }

/-- A filing followed by another one, unless the first one has stopped. -/
def andThen (first second : Filing) : Filing :=
  if first.fault.isSome then first else ⟨first.filed ++ second.filed, second.fault⟩

/-- The key under which a document names its kind. -/
def kindKey : Scalar := .text "kind"

/-- The key under which a list document has its items. -/
def itemsKey : Scalar := .text "items"

/-- The kind that the items of a list document inherit, the empty text for the plain list; nothing
when the document is no list. -/
def itemKind? (kind : String) (hasItems : Bool) : Option String :=
  if kind = "List" then some ""
  else if kind.endsWith "List" && hasItems then some (kind.dropEnd 4).toString
  else none

/-- A document of the given kind is filed, or its items are when it is a list. -/
def fileAs (kind : String) (doc : Value) (hasItems : Bool) (fileItems : String → Filing) :
    Filing :=
  match itemKind? kind hasItems with
  | some inherited => fileItems inherited
  | none =>
    match AssetKind.ofName? kind with
    | some known => if known.isDerived then nothing else { filed := [(known, doc)] }
    | none => nothing

/-- A scalar in place of a document: the empty text stands for the empty map when a kind is
inherited, and what counts as not given is passed over when none is. -/
def fileScalar (inherited : String) (s : Scalar) : Filing :=
  if inherited = "" then
    if (Value.scalar s).isGiven then stop .noFields else nothing
  else
    match s with
    | .text "" => fileAs inherited (.map [(kindKey, .text inherited)]) false fun _ ↦ nothing
    | .text t => if Text.occursIn "kind".toList t.toList then stop .noFields else stop (.notPair 0 1)
    | _ => stop .noElements

def fileScalars (inherited : String) : List Scalar → Filing
  | [] => nothing
  | s :: rest => (fileScalar inherited s).andThen (fileScalars inherited rest)

/-- Files the items that a scalar holds, the characters of a text. -/
def fileScalarItems (inherited : String) (s : Scalar) : Filing :=
  if (Value.scalar s).isGiven then
    match s with
    | .text t => fileScalars inherited (t.toList.map fun c ↦ .text (String.singleton c))
    | _ => stop .noElements
  else nothing

def hasKey (entries : List Entry) (key : Scalar) : Bool :=
  (valueAt? entries key).isSome

mutual

/-- Files one document; `inherited` is the kind that it gets when it names none, if not empty. -/
def fileDoc (inherited : String) : Value → Filing
  | .scalar s => fileScalar inherited s
  | .map es =>
    if inherited ≠ "" && !hasKey es kindKey then
      fileAs inherited (.map (es ++ [(kindKey, .text inherited)])) (hasKey es itemsKey)
        fun kind ↦ fileItemsOf kind es
    else if es.isEmpty then nothing
    else
      match (valueAt? es kindKey).getD (.text "") with
      | .text kind =>
        fileAs kind (.map es) (hasKey es itemsKey) fun itemKind ↦ fileItemsOf itemKind es
      | _ => stop .kindNotText
  | .list xs =>
    if inherited = "" then
      if xs.isEmpty then nothing else stop .noFields
    else if xs.any fun x ↦ x.same (.text "kind") then stop .noFields
    else
      match Value.toEntries (.list xs) with
      | .error fault => stop fault
      | .ok es =>
        fileAs inherited (.map (putEntry es kindKey (.text inherited))) (hasKey es itemsKey)
          fun kind ↦ (filePairItems kind xs).getD nothing

def fileItemsOf (inherited : String) : List (Scalar × Value) → Filing
  | [] => nothing
  | (key, v) :: rest =>
    if key.same itemsKey then fileItems inherited v else fileItemsOf inherited rest

/-- Files the items among the pairs of a document, those of the last pair with their key. -/
def filePairItems (inherited : String) : List Value → Option Filing
  | [] => none
  | pair :: rest => (filePairItems inherited rest).or (filePairItem inherited pair)

/-- Files the items of a pair, if it is one with their key. -/
def filePairItem (inherited : String) : Value → Option Filing
  | .list xs => fileListItem inherited xs
  | .map [(key, _), (other, _)] =>
    if key.same itemsKey then some (fileScalarItems inherited other) else none
  | _ => none

def fileListItem (inherited : String) : List Value → Option Filing
  | .scalar key :: rest => if key.same itemsKey then fileOnlyItem inherited rest else none
  | _ => none

/-- Files the items that are the only value of a list. -/
def fileOnlyItem (inherited : String) : List Value → Option Filing
  | [v] => some (fileItems inherited v)
  | _ => none

def fileItems (inherited : String) : Value → Filing
  | .list xs => fileAll inherited xs
  | .map es => fileScalars inherited (es.map (·.1))
  | .scalar s => fileScalarItems inherited s

/-- Files documents one after another. -/
def fileAll (inherited : String) : List Value → Filing
  | [] => nothing
  | doc :: rest => (fileDoc inherited doc).andThen (fileAll inherited rest)

end

def ofDocument (doc : Value) : Filing := fileDoc "" doc

end Filing

end ClusterAudit
