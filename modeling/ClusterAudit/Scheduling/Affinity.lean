import ClusterAudit.Asset.Placement
import ClusterAudit.Scheduling.Requirement

/-!
# Node affinity

The affinity of a pod is a list of terms, of which a node has to meet one, and a term is a list of
expressions, all of which have to hold.  Terms without expressions are passed over.  An expression
looks at one label: whether it is there, whether its value is listed, or how its integer compares
with every listed integer.
-/

namespace ClusterAudit.Scheduling

open Manifest

/-- The integer that a strict numeral denotes, nothing when the value is no strict numeral. -/
def operandInteger (v : Value) : Except Fault (Option Int) :=
  match v with
  | .scalar (.text s) =>
    match Text.strictNumeral? s with
    | none => .ok none
    | some (negative, digits) =>
      match Text.ofSignedDigits negative digits with
      | .ok n => .ok (some n)
      | .error _ => .error (.numeralTooLong (some digits.length))
  | .scalar (.int n) => Value.written [v] (some n)
  | _ => Value.written [v] none

/-- The integers of all values, nothing when one of them is no strict numeral. -/
def operandIntegers (values : List Value) : Except Fault (Option (List Int)) := do
  return (← values.mapM operandInteger).mapM id

/-- Whether the integer of the label compares with the integer of every value. -/
def comparesWithAll (compare : Int → Int → Bool) (label : Option Value) (values : List Value) :
    Except Fault Bool :=
  match label with
  | none => .ok false
  | some label => do
    match ← operandInteger label with
    | none => return false
    | some n =>
      match ← operandIntegers values with
      | none => return false
      | some bounds => return bounds.all (compare n)

def expressionMatches (labels : List Entry) (expression : MatchExpression) :
    Except Fault Bool := do
  let label ← lookup? labels expression.key
  let operator := expression.operator
  if operator.same (.text "In") then
    return label.any fun value ↦ expression.values.any value.same
  else if operator.same (.text "NotIn") then
    return label.any fun value ↦ !expression.values.any value.same
  else if operator.same (.text "Exists") then
    return label.isSome
  else if operator.same (.text "DoesNotExist") then
    return label.isNone
  else if operator.same (.text "Gt") then
    comparesWithAll (fun n bound ↦ bound < n) label expression.values
  else if operator.same (.text "Lt") then
    comparesWithAll (fun n bound ↦ n < bound) label expression.values
  else
    return false

/-- The expressions of a list that do not hold for the labels. -/
def unmatchedExpressions (labels : List Entry) :
    List MatchExpression → Except Fault (List MatchExpression)
  | [] => .ok []
  | expression :: rest => do
    let holds ← expressionMatches labels expression
    let others ← unmatchedExpressions labels rest
    return if holds then others else expression :: others

def unmetExpression (expression : MatchExpression) : Except Fault UnmetRequirement := do
  return ⟨expression.key, .text (bracketed (← expression.values.mapM Value.display)),
    some ("Operator", expression.operator)⟩

/-- The unmatched expressions of all terms, or nothing as soon as a term with expressions has none;
`collected` holds what the terms before have left. -/
def unmetAffinityAfter (labels : List Entry) (collected : List UnmetRequirement) :
    List SelectorTerm → Except Fault (List UnmetRequirement)
  | [] => .ok collected
  | term :: rest =>
    if term.matchExpressions.isEmpty then unmetAffinityAfter labels collected rest
    else do
      match ← unmatchedExpressions labels term.matchExpressions with
      | [] => return []
      | unmatched =>
        unmetAffinityAfter labels (collected ++ (← unmatched.mapM unmetExpression)) rest

/-- The affinity requirements that a node with the labels does not meet. -/
def unmetAffinity (labels : List Entry) (terms : List SelectorTerm) :
    Except Fault (List UnmetRequirement) :=
  unmetAffinityAfter labels [] terms

end ClusterAudit.Scheduling
