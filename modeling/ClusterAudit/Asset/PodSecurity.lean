import ClusterAudit.Asset.Rbac

/-!
# Pod security policies

A policy says what pods may ask for.  Flags count only when they are the truth value true.  The
bounds of user ranges are read leniently: a bound that is absent or that denotes no integer is zero,
and only an infinite bound is a fault.
-/

namespace ClusterAudit

open Manifest

/-- How the user that a container runs as is chosen. -/
structure UserStrategy where
  rule : Value
  ranges : List (Int × Int)
deriving DecidableEq, Repr, Inhabited

namespace UserStrategy

/-- The integer that the bound of a range denotes. -/
def rangeBound (v : Value) : Except Fault Int :=
  if v.isGiven then
    match v with
    | .scalar (.bool _) => .ok 1
    | .scalar (.int n) => .ok n
    | .scalar (.float x) => if x.isInfinite then .error .infiniteBound else .ok (x.truncate?.getD 0)
    | .scalar (.text s) =>
      match Text.readInteger s with
      | .ok n => .ok n
      | .error _ => .ok 0
    | _ => .ok 0
  else .ok 0

def rangeOfManifest (doc : Value) : Except Fault (Int × Int) := do
  return (← rangeBound (← doc.field "min"), ← rangeBound (← doc.field "max"))

def ofManifest (doc : Value) : Except Fault UserStrategy := do
  return {
    rule := ← doc.fieldD "rule" (.text "")
    ranges := ← (← doc.fieldElements "ranges").mapM rangeOfManifest }

def describeBound (n : Int) : Except Fault String :=
  if Text.isWritable n then .ok (toString n) else .error (.numeralTooLong none)

def describeRange (range : Int × Int) : Except Fault String := do
  return " [" ++ (← describeBound range.1) ++ "," ++ (← describeBound range.2) ++ "]"

/-- The rule with its ranges; the rule has to be a text. -/
def describe (strategy : UserStrategy) : Except Fault String := do
  let ranges ← strategy.ranges.mapM describeRange
  match strategy.rule with
  | .text rule => return rule ++ String.join ranges
  | _ => throw .ruleNotText

end UserStrategy

structure PodSecurityPolicy where
  name : Value
  privileged : Bool
  hostPID : Bool
  hostIPC : Bool
  hostNetwork : Bool
  allowPrivilegeEscalation : Bool
  allowedCapabilities : List String
  /-- The capabilities that have to be dropped, if the policy has such a list at all. -/
  requiredDropCapabilities : Option (List String)
  runAsUser : Option UserStrategy
deriving DecidableEq, Repr, Inhabited

namespace PodSecurityPolicy

def flag (spec : Value) (name : String) : Except Fault Bool := do
  return (← spec.field name) = .bool true

/-- The texts of a list that may be absent, told apart from an empty list. -/
def optionalTexts (v : Value) : Except Fault (Option (List String)) :=
  if v = .null then .ok none
  else do return some (← (← v.orEmptyList.elements).mapM Value.display)

def ofManifest (doc : Value) : Except Fault PodSecurityPolicy := do
  let spec ← specification doc
  let strategy ← spec.field "runAsUser"
  let runAsUser ←
    if strategy.isGiven then do pure (some (← UserStrategy.ofManifest strategy)) else pure none
  return {
    name := ← (← metadata doc).fieldD "name" (.text "")
    privileged := ← flag spec "privileged"
    hostPID := ← flag spec "hostPID"
    hostIPC := ← flag spec "hostIPC"
    hostNetwork := ← flag spec "hostNetwork"
    allowPrivilegeEscalation := ← flag spec "allowPrivilegeEscalation"
    allowedCapabilities := ← spec.fieldTexts "allowedCapabilities"
    requiredDropCapabilities := ← optionalTexts (← spec.field "requiredDropCapabilities")
    runAsUser }

end PodSecurityPolicy

end ClusterAudit
