import RealityLayer.Actions.Models

namespace RealityLayer
namespace Actions

open Foundation Python

/-!
# The policy decision of a proposal

`evaluatePolicy` is the source's chain of guards in the source's order: the
role, the workspace mode, an open conflict, the value threshold, and then the
action type.  Only its last guards ask for an approval.  The lemmas read the
chain backwards: which inputs an approval requirement needs.
-/

def observeOnlyMode : Text := "observe_only"

def knownRoles : List Text := ["observer", "operations", "finance", "system"]

/-- The arguments of `evaluate_policy` besides the identifier and the proposal. The order's
value is missing when the caller could not find it, and a missing value exceeds no limit. -/
structure PolicyContext where
  role : Text
  workspaceMode : Text
  orderValue : Option PyFloat
  valueLimit : Option PyFloat
  hasConflict : Bool

/-- The order value is known, a limit is set, and the value exceeds it. A value that is not a
number exceeds nothing, as the comparison with it fails. -/
def PolicyContext.exceedsLimit (context : PolicyContext) : Bool :=
  match context.valueLimit, context.orderValue with
  | some limit, some value => value.gt limit
  | _, _ => false

/-- The texts of both numbers, as the threshold reason prints them. Without both there is no
reason, since the rule does not apply then. -/
def PolicyContext.thresholdReason (rt : Runtime) (context : PolicyContext) : Text :=
  match context.valueLimit, context.orderValue with
  | some limit, some value =>
      "Order value " ++ rt.formatG value ++ " exceeds the configured write threshold " ++
        rt.formatG limit ++ "."
  | _, _ => ""

def policyVersion : Text := "mvp-1"

/-- `evaluate_policy`. The rules are tried in the order of the source, and the first that
applies decides. What no rule permits is denied. -/
def evaluatePolicy (rt : Runtime) (actionId : Text) (proposal : ActionProposal)
    (context : PolicyContext) : ActionDecision :=
  if context.role ∉ knownRoles then
    { actionId, status := .denied, reason := "Unknown roles cannot propose actions.", policyVersion }
  else if context.role = "observer" then
    { actionId, status := .denied, reason := "Observers cannot propose write actions.",
      matchedRule := some "deny.observer.write", policyVersion }
  else if context.workspaceMode = observeOnlyMode then
    { actionId, status := .denied,
      reason := "Workspace is in observe-only mode; enable demo proposal mode before " ++
        "proposing writes.",
      matchedRule := some "deny.workspace.observe_only", policyVersion }
  else if context.hasConflict then
    { actionId, status := .denied,
      reason := "The target entity has an unresolved conflict between sources; " ++
        "resolve it before proposing actions against it.",
      matchedRule := some "deny.conflict.unresolved", policyVersion }
  else if context.exceedsLimit then
    { actionId, status := .denied, reason := context.thresholdReason rt,
      matchedRule := some "deny.threshold.value", policyVersion }
  else if proposal.actionType = .cancelOrder ∧ context.role = "operations" then
    { actionId, status := .approvalRequired,
      reason := "Cancelling an order requires Operations approval.",
      matchedRule := some "approval.operations.cancel_order", policyVersion,
      requiredRole := some "operations" }
  else if proposal.actionType = .holdOrder ∨ proposal.actionType = .updateShippingAddress then
    { actionId, status := .approvalRequired, reason := "This action is proposal-only in the MVP.",
      matchedRule := some "approval.mvp.proposal_only", policyVersion,
      requiredRole := some "operations" }
  else
    { actionId, status := .denied, reason := "No explicit policy permits this action.",
      matchedRule := some "deny.default", policyVersion }

variable (rt : Runtime) (actionId : Text) (proposal : ActionProposal) (context : PolicyContext)

/-- A proposal is denied or waits for an approval; nothing is approved at once. So every
write has an approval behind it. -/
theorem evaluatePolicy_status :
    (evaluatePolicy rt actionId proposal context).status = .denied ∨
      (evaluatePolicy rt actionId proposal context).status = .approvalRequired := by
  unfold evaluatePolicy
  repeat' split
  all_goals first
    | exact Or.inl rfl
    | exact Or.inr rfl

@[simp] theorem evaluatePolicy_actionId :
    (evaluatePolicy rt actionId proposal context).actionId = actionId := by
  unfold evaluatePolicy
  repeat' split
  all_goals rfl

/-- What an approval requirement on a cancellation says about the proposal. It is read off
the decision alone, so a later reader needs no context to know it. -/
structure PolicyContext.Permits (context : PolicyContext) : Prop where
  role : context.role = "operations"
  mode : context.workspaceMode ≠ observeOnlyMode
  conflict : context.hasConflict = false
  limit : context.exceedsLimit = false

/-- A cancellation waits for an approval only from an operations proposer, in a
writable workspace, without an open conflict and within the value limit; the
approval is then asked of operations. -/
theorem evaluatePolicy_cancel_permits (cancels : proposal.actionType = .cancelOrder)
    (waits : (evaluatePolicy rt actionId proposal context).status = .approvalRequired) :
    context.Permits ∧
      (evaluatePolicy rt actionId proposal context).requiredRole = some ("operations" : Text) := by
  unfold evaluatePolicy at waits ⊢
  by_cases unknown : context.role ∉ knownRoles
  · rw [if_pos unknown] at waits
    cases waits
  rw [if_neg unknown] at waits ⊢
  by_cases observer : context.role = "observer"
  · rw [if_pos observer] at waits
    cases waits
  rw [if_neg observer] at waits ⊢
  by_cases mode : context.workspaceMode = observeOnlyMode
  · rw [if_pos mode] at waits
    cases waits
  rw [if_neg mode] at waits ⊢
  cases conflict : context.hasConflict with
  | true =>
      simp only [conflict, if_true] at waits
      cases waits
  | false =>
      cases limit : context.exceedsLimit with
      | true =>
          simp only [conflict, limit, Bool.false_eq_true, if_false, if_true] at waits
          cases waits
      | false =>
          simp only [conflict, limit, Bool.false_eq_true, if_false] at waits ⊢
          by_cases operations : context.role = "operations"
          · rw [if_pos ⟨cancels, operations⟩]
            exact ⟨⟨operations, mode, conflict, limit⟩, rfl⟩
          · simp only [cancels, operations, and_false, if_false, reduceCtorEq, or_false] at waits

/-- Every guard but the value threshold lets the proposal wait for an approval. The threshold
is left out because it depends on a price that not every process knows. -/
structure PolicyContext.Admits (context : PolicyContext) (proposal : ActionProposal) : Prop where
  known : context.role ∈ knownRoles
  writer : context.role ≠ "observer"
  mode : context.workspaceMode ≠ observeOnlyMode
  conflict : context.hasConflict = false
  kind : proposal.actionType = .cancelOrder ∧ context.role = "operations" ∨
    proposal.actionType = .holdOrder ∨ proposal.actionType = .updateShippingAddress

theorem evaluatePolicy_waits_iff :
    (evaluatePolicy rt actionId proposal context).status = .approvalRequired <->
      context.Admits proposal ∧ context.exceedsLimit = false := by
  constructor
  · intro waits
    unfold evaluatePolicy at waits
    by_cases unknown : context.role ∉ knownRoles
    · rw [if_pos unknown] at waits
      cases waits
    rw [if_neg unknown] at waits
    by_cases observer : context.role = "observer"
    · rw [if_pos observer] at waits
      cases waits
    rw [if_neg observer] at waits
    by_cases mode : context.workspaceMode = observeOnlyMode
    · rw [if_pos mode] at waits
      cases waits
    rw [if_neg mode] at waits
    by_cases conflict : context.hasConflict = true
    · rw [if_pos conflict] at waits
      cases waits
    rw [if_neg conflict] at waits
    by_cases limit : context.exceedsLimit = true
    · rw [if_pos limit] at waits
      cases waits
    rw [if_neg limit] at waits
    refine ⟨⟨not_not.mp unknown, observer, mode, Bool.eq_false_iff.mpr conflict, ?_⟩,
      Bool.eq_false_iff.mpr limit⟩
    by_cases cancels : proposal.actionType = .cancelOrder ∧ context.role = "operations"
    · exact Or.inl cancels
    rw [if_neg cancels] at waits
    by_cases other : proposal.actionType = .holdOrder ∨ proposal.actionType = .updateShippingAddress
    · exact Or.inr other
    rw [if_neg other] at waits
    cases waits
  · rintro ⟨admits, limit⟩
    unfold evaluatePolicy
    rw [if_neg (not_not_intro admits.known), if_neg admits.writer, if_neg admits.mode,
      if_neg (Bool.eq_false_iff.mp admits.conflict), if_neg (Bool.eq_false_iff.mp limit)]
    by_cases cancels : proposal.actionType = .cancelOrder ∧ context.role = "operations"
    · rw [if_pos cancels]
    · rw [if_neg cancels, if_pos (admits.kind.resolve_left cancels)]

theorem PolicyContext.admits_orderValue (orderValue : Option PyFloat) :
    { context with orderValue := orderValue }.Admits proposal <-> context.Admits proposal :=
  ⟨fun admits => ⟨admits.known, admits.writer, admits.mode, admits.conflict, admits.kind⟩,
    fun admits => ⟨admits.known, admits.writer, admits.mode, admits.conflict, admits.kind⟩⟩

/-- Within the limit, the decision does not depend on the order value. -/
theorem evaluatePolicy_within (orderValue : Option PyFloat)
    (within : context.exceedsLimit = false)
    (within' : { context with orderValue := orderValue }.exceedsLimit = false) :
    evaluatePolicy rt actionId proposal { context with orderValue := orderValue } =
      evaluatePolicy rt actionId proposal context := by
  unfold evaluatePolicy
  rw [within, within']
  rfl

end Actions
end RealityLayer
