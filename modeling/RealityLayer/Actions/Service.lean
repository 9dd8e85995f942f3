import RealityLayer.Actions.Policy
import RealityLayer.Foundation.Transition
import RealityLayer.RealityGit.Hashing
import RealityLayer.WorldState.Models

namespace RealityLayer
namespace Actions

open Foundation Python RealityGit WorldState

/-!
# The action service

The service keeps four maps: the stored actions, the idempotency keys, the event
lists, and the execution receipts.  Every operation is a function from the
service to an `Outcome`.  The order of the updates is the source's, because a
call that raises keeps what it has written: a decision, for example, is replaced
before its event is hashed, and hashing can fail.

`approve`, `reject` and `verify` end in the same two updates.  They replace the
status and the reason of the decision and append one event.  `settle` is that
pair, and a `Verdict` is what each operation puts into it.  `execute` takes the
provider executor as a function and records whether it called it.
-/

structure StoredAction where
  proposal : ActionProposal
  decision : ActionDecision
  proposerRole : Text
  tenantId : Text
deriving DecidableEq

structure ActionService where
  actions : Dict Text StoredAction
  idempotency : Dict (Text × Text) Text
  events : Dict Text (List ActionEventRecord)
  executions : Dict (Text × Text) ExecutionReceipt
deriving DecidableEq

/-- What one provider call receives. The tenant is not part of it, so the provider's own
account decides whose order is meant. -/
structure ProviderCall where
  actionId : Text
  orderId : Text
  idempotencyKey : Text
deriving DecidableEq

/-- A provider executor returns a receipt or raises. -/
abbrev CancelOrderExecutor := ProviderCall -> Except Text ExecutionReceipt

/-- Every receipt carries the idempotency key the executor was given. Both executors of the
repository build their receipts this way. -/
def CancelOrderExecutor.Echoes (cancelOrder : CancelOrderExecutor) : Prop :=
  forall call receipt, cancelOrder call = .ok receipt -> receipt.idempotencyKey = call.idempotencyKey

/-- What an `execute` call did: the provider call it made, if any, and its outcome. A call
may have been made although the outcome is an exception. -/
structure Execution where
  invoked : Option ProviderCall
  outcome : Outcome PyError ActionService ExecutionReceipt

/-- What a deciding operation writes: the new status and reason, and its event. The decision
is replaced first and the event is appended after it. -/
structure Verdict where
  status : ActionStatus
  reason : Text
  eventType : Text
  actorRole : Text
  payload : Dict Text Json

def reasonPayload (reason : Text) : Dict Text Json := Dict.ofList [("reason", .str reason)]

namespace ActionService

def fresh : ActionService where
  actions := Dict.empty
  idempotency := Dict.empty
  events := Dict.empty
  executions := Dict.empty

/-- `self._events.get(action_id, [])`. -/
def eventsOf (service : ActionService) (actionId : Text) : List ActionEventRecord :=
  (service.events.get? actionId).getD []

/-- `_get` followed by `_check_tenant`. An action of another tenant raises the error of an
unknown one, though with a shorter message. -/
def getAction (service : ActionService) (actionId tenantId : Text) : Except PyError StoredAction :=
  match service.actions.get? actionId with
  | none => .error (.keyError ("Unknown action: " ++ actionId))
  | some action =>
      if action.tenantId ≠ tenantId then .error (.keyError "Unknown action") else .ok action

/-- `events`. -/
def listEvents (service : ActionService) (actionId tenantId : Text) :
    Except PyError (List ActionEventRecord) :=
  (service.getAction actionId tenantId).map (fun _ => service.eventsOf actionId)

/-! ## Appending events -/

/-- The record `_append_event` hashes. The validator of the chain hashes the same fields of
the stored event. -/
def eventBody (eventId tenantId actionId eventType actorRole : Text) (payload : Dict Text Json)
    (previousHash : Option Text) : Json :=
  .dict [
    ("event_id", .str eventId),
    ("tenant_id", .str tenantId),
    ("action_id", .str actionId),
    ("event_type", .str eventType),
    ("actor_role", .str actorRole),
    ("payload", .dict payload.entries),
    ("previous_event_hash", .ofText? previousHash)]

/-- Put an event at the end of its action's list. An action without events has no list yet,
and gets one here. -/
def push (service : ActionService) (event : ActionEventRecord) : ActionService :=
  { service with
    events := service.events.set event.actionId (service.eventsOf event.actionId ++ [event]) }

/-- `_append_event`. The hash comes first, so that an event that cannot be hashed raises and
leaves the service as it was. -/
def appendEvent (rt : Runtime) (service : ActionService) (eventId tenantId actionId eventType
    actorRole : Text) (payload : Dict Text Json) : Outcome PyError ActionService Unit :=
  let previousHash := (service.eventsOf actionId).getLast?.map ActionEventRecord.eventHash
  match hashJson rt (eventBody eventId tenantId actionId eventType actorRole payload previousHash) with
  | .error cause => .raises service (.hashing cause)
  | .ok eventHash =>
      .returns (service.push {
        eventId, tenantId, actionId, eventType, actorRole, payload,
        previousEventHash := previousHash, eventHash }) ()

/-- Replace the status and the reason of a stored decision. Its rule, version and required
role stay those of the policy. -/
def withDecision (service : ActionService) (actionId : Text) (action : StoredAction)
    (status : ActionStatus) (reason : Text) : ActionService :=
  { service with
    actions := service.actions.set actionId
      { action with decision := { action.decision with status, reason } } }

/-- Replace the decision, then append the verdict's event. The order matters: an event that
cannot be hashed leaves the new status without one. -/
def settle (rt : Runtime) (service : ActionService) (eventId tenantId actionId : Text)
    (action : StoredAction) (verdict : Verdict) : Outcome PyError ActionService ActionDecision :=
  (appendEvent rt (service.withDecision actionId action verdict.status verdict.reason) eventId tenantId
    actionId verdict.eventType verdict.actorRole verdict.payload).andThen (fun state _ =>
      .returns state { action.decision with status := verdict.status, reason := verdict.reason })

/-! ## Proposing -/

def newActionId (draws : Draws) : Text := "act_" ++ draws.hex16 0

/-- The identifier of a call's event; a proposal draws its action's first. The other calls
draw nothing else. -/
def newEventId (draws : Draws) (index : Nat) : Text := "evt_" ++ draws.hex16 index

theorem newActionId_encodable (draws : Draws) : (newActionId draws).encodable = true := by
  unfold newActionId
  rw [Text.encodable_append, Text.encodable_ofString, draws.hex16_encodable, Bool.and_self]

theorem newEventId_encodable (draws : Draws) (index : Nat) : (newEventId draws index).encodable = true := by
  unfold newEventId
  rw [Text.encodable_append, Text.encodable_ofString, draws.hex16_encodable, Bool.and_self]

def policyPayload (decision : ActionDecision) (proposal : ActionProposal) : Dict Text Json :=
  Dict.ofList [("decision", .dict decision.dump), ("proposal", .dict proposal.dump)]

/-- Store a new action and claim its idempotency key. Its event comes afterwards, and may
still fail. -/
def register (service : ActionService) (actionId : Text) (action : StoredAction) : ActionService :=
  { service with
    actions := service.actions.set actionId action
    idempotency := service.idempotency.set (action.tenantId, action.proposal.idempotencyKey) actionId }

/-- `propose`. A repeated key is answered from the stored decision, before the policy is
asked. A proposal that cannot be dumped raises once it is registered, before any event. -/
def propose (rt : Runtime) (service : ActionService) (draws : Draws) (proposal : ActionProposal)
    (tenantId : Text) (context : PolicyContext) : Outcome PyError ActionService ActionDecision :=
  match service.idempotency.get? (tenantId, proposal.idempotencyKey) with
  | some existingId =>
      match service.actions.get? existingId with
      | some action => .returns service action.decision
      | none => .raises service (.keyError existingId)
  | none =>
      let actionId := newActionId draws
      let decision := evaluatePolicy rt actionId proposal context
      let registered := service.register actionId ⟨proposal, decision, context.role, tenantId⟩
      -- The payload is dumped after the action is stored, and before its event is made.
      if proposal.dumps rt then
        (appendEvent rt registered (newEventId draws 1) tenantId actionId "policy_evaluated"
          context.role (policyPayload decision proposal)).andThen (fun state _ => .returns state decision)
      else .raises registered dumpRefusal

/-! ## Approving and rejecting -/

/-- The first expected attribute that the state does not hold. A missing attribute counts as
one with another value. -/
def failedExpectation (state : OrderState) : List (Text × Json) -> Option Text
  | [] => none
  | (name, expected) :: rest =>
      match state.attributes.get? name with
      | none => some ("Expected attribute does not match current state: " ++ name ++ ".")
      | some attr =>
          if attr.value.pyEq expected then failedExpectation state rest
          else some ("Expected attribute does not match current state: " ++ name ++ ".")

/-- `_check_preconditions`. The version is compared before the attributes, and both only at
approval. -/
def checkPreconditions (proposal : ActionProposal) (currentState : Option OrderState) : Option Text :=
  match currentState with
  | none => some "Target order does not exist in World State."
  | some state =>
      if state.stateVersion ≠ proposal.expectedStateVersion then
        some "Target state version changed since proposal."
      else failedExpectation state proposal.expectedAttributes.entries

def approvalVerdict (action : StoredAction) (approval : ApprovalRequest) (role : Text)
    (currentState : Option OrderState) : Verdict :=
  if some role ≠ action.decision.requiredRole then
    ⟨.denied, "Approver does not have the required role.", "approval_denied", role,
      reasonPayload "Approver does not have the required role."⟩
  else
    match checkPreconditions action.proposal currentState with
    | some failure =>
        ⟨.preconditionFailed, failure, "precondition_failed", role, reasonPayload failure⟩
    | none => ⟨.approved, approval.reason, "approved", role, reasonPayload approval.reason⟩

/-- `approve`. An action that does not wait for approval is answered as it stands, whoever
asks. The role is checked before the preconditions. -/
def approve (rt : Runtime) (service : ActionService) (draws : Draws) (actionId : Text)
    (approval : ApprovalRequest) (role tenantId : Text) (currentState : Option OrderState) :
    Outcome PyError ActionService ActionDecision :=
  match service.getAction actionId tenantId with
  | .error error => .raises service error
  | .ok action =>
      if action.decision.status ≠ .approvalRequired then .returns service action.decision
      else service.settle rt (newEventId draws 0) tenantId actionId action
        (approvalVerdict action approval role currentState)

def rejectionVerdict (rejection : ApprovalRequest) : Verdict :=
  ⟨.rejected, rejection.reason, "rejected", "approver", reasonPayload rejection.reason⟩

/-- `reject`. It is given no role, and the event names the role `approver`. -/
def reject (rt : Runtime) (service : ActionService) (draws : Draws) (actionId : Text)
    (rejection : ApprovalRequest) (tenantId : Text) : Outcome PyError ActionService ActionDecision :=
  match service.getAction actionId tenantId with
  | .error error => .raises service error
  | .ok action =>
      if action.decision.status ≠ .approvalRequired then .returns service action.decision
      else service.settle rt (newEventId draws 0) tenantId actionId action (rejectionVerdict rejection)

/-! ## Executing -/

def terminalOrderStatuses : List Text := ["cancelled", "canceled", "closed", "voided"]

/-- The string an attribute holds, if it holds one. -/
def heldText? (state : OrderState) (name : Text) : Option Text := (state.value? name).bind Json.text?

/-- Why `_require_eligible_test_order` refuses a target, if it does. Neither the version nor
the expected attributes are looked at again. -/
def ineligibleReason (currentState : Option OrderState) : Option Text :=
  match currentState with
  | none => some "Target order is not present in World State."
  | some state =>
      match (heldText? state "status").filter (fun status => status.lower ∈ terminalOrderStatuses) with
      | some status =>
          some ("Target order is already " ++ status ++ "; test cancellation is not eligible.")
      | none =>
          match (heldText? state "fulfillment_status").filter (fun fulfillment =>
              fulfillment.lower = ("fulfilled" : Text)) with
          | some _ => some "Target order is fulfilled and not eligible for test cancellation."
          | none => none

def refusalPayload (reason : Text) : Dict Text Json :=
  Dict.ofList [("reason", .str reason), ("stage", .str "execution")]

/-- Record an accepted provider write: the new status, then the receipt. The event follows,
and where it fails both stay in the process. -/
def accept (service : ActionService) (actionId tenantId : Text) (action : StoredAction)
    (receipt : ExecutionReceipt) : ActionService :=
  { service.withDecision actionId action .providerAccepted "Provider accepted write." with
    executions := service.executions.set (tenantId, action.proposal.idempotencyKey) receipt }

/-- `execute`. A stored receipt answers before the status is looked at, and nothing but the
test-order check stands between an approved action and the provider. -/
def execute (rt : Runtime) (service : ActionService) (draws : Draws) (actionId tenantId : Text)
    (cancelOrder : CancelOrderExecutor) (currentState : Option OrderState) : Execution :=
  match service.getAction actionId tenantId with
  | .error error => ⟨none, .raises service error⟩
  | .ok action =>
      match service.executions.get? (tenantId, action.proposal.idempotencyKey) with
      | some existing => ⟨none, .returns service existing⟩
      | none =>
          if action.decision.status ≠ .approved then
            ⟨none, .raises service (.valueError "Only approved actions can be executed.")⟩
          else if action.proposal.actionType ≠ .cancelOrder then
            ⟨none, .raises service (.valueError "Only cancel_order is executable in the MVP.")⟩
          else
            match ineligibleReason currentState with
            | some reason =>
                ⟨none, (appendEvent rt service (newEventId draws 0) tenantId actionId
                  "precondition_failed" "system" (refusalPayload reason)).andThen (fun state _ =>
                    .raises state (.valueError reason))⟩
            | none =>
                let call := ⟨actionId, action.proposal.orderId, action.proposal.idempotencyKey⟩
                ⟨some call,
                  match cancelOrder call with
                  | .error message => .raises service (.executor message)
                  | .ok receipt =>
                      (appendEvent rt (service.accept actionId tenantId action receipt)
                        (newEventId draws 0) tenantId actionId "provider_accepted" "system"
                        (Dict.ofList receipt.dump)).andThen (fun state _ => .returns state receipt)⟩

/-! ## Verifying -/

/-- `VERIFIABLE_STATUSES`. An attempt from any other status raises, also a second one after a
conclusive answer. -/
def verifiable (status : ActionStatus) : Bool :=
  decide (status = .providerAccepted) || decide (status = .verificationPending)

/-- The value the state holds for its status, and null when it holds none. Python's `None`
stands for both here, so a null status reads as a missing one. -/
def observedStatus (state : Option OrderState) : Json :=
  ((state.bind (fun state => state.value? "status")).getD .null)

def verificationStatus (observed : Json) (isFinalAttempt : Bool) : ActionStatus :=
  if observed.pyEq (.str "cancelled") then .verified
  else if !isFinalAttempt then .verificationPending
  else if observed.isNull then .verificationFailed
  else .stateDiverged

def verificationReason (rt : Runtime) (observed : Json) (isFinalAttempt : Bool) : Text :=
  if observed.pyEq (.str "cancelled") then "Independent read-after-write verification succeeded."
  else if !isFinalAttempt then
    if observed.isNull then "Verification read did not return an order status yet."
    else "Verification read has not yet observed the expected cancelled state."
  else if observed.isNull then "Verification read did not return an order status before timeout."
  else "Verification read diverged from the expected cancelled state (observed " ++
    rt.repr observed ++ ")."

def verificationVerdict (rt : Runtime) (state : Option OrderState) (isFinalAttempt : Bool) : Verdict :=
  let observed := observedStatus state
  let status := verificationStatus observed isFinalAttempt
  let reason := verificationReason rt observed isFinalAttempt
  ⟨status, reason, status.value, "verifier", Dict.ofList [
    ("reason", .str reason),
    ("commit_id", .ofText? (state.map OrderState.commitId)),
    ("observed_status", observed)]⟩

/-- The names in the payload of a verification are different. -/
theorem verificationPayload_entries (reason commitId observed : Json) :
    (Dict.ofList [(("reason" : Text), reason), ("commit_id", commitId),
      ("observed_status", observed)]).entries =
        [(("reason" : Text), reason), ("commit_id", commitId), ("observed_status", observed)] := by
  apply Dict.entries_ofList _
  change [(("reason" : Text)), "commit_id", "observed_status"].Nodup
  decide

/-- `verify`. The state is the caller's, and nothing in here knows whether it comes from a
fresh read. A last attempt concludes, whatever it observed. -/
def verify (rt : Runtime) (service : ActionService) (draws : Draws) (actionId tenantId : Text)
    (state : Option OrderState) (isFinalAttempt : Bool) :
    Outcome PyError ActionService ActionDecision :=
  match service.getAction actionId tenantId with
  | .error error => .raises service error
  | .ok action =>
      if verifiable action.decision.status = false then
        .raises service (.valueError "Only provider-accepted actions can be verified.")
      else service.settle rt (newEventId draws 0) tenantId actionId action
        (verificationVerdict rt state isFinalAttempt)

/-! ## Restoring from events -/

/-- The event identifiers the service holds. -/
def eventIds (service : ActionService) : List Text :=
  service.events.values.flatten.map ActionEventRecord.eventId

/-- The status table of `_apply_restored_event`. A refusal at execution has the event type of
one at approval, so restoring it sets the status. -/
def restoredStatus? (eventType : Text) : Option ActionStatus :=
  Dict.lookup eventType [
    ("approved", .approved),
    ("rejected", .rejected),
    ("approval_denied", .denied),
    ("precondition_failed", .preconditionFailed),
    ("provider_accepted", .providerAccepted),
    ("verification_pending", .verificationPending),
    ("verified", .verified),
    ("verification_failed", .verificationFailed),
    ("state_diverged", .stateDiverged)]

/-- `str(event.payload.get("reason", event.event_type))`. The acceptance of a write carries
no reason, so its type is what is restored. -/
def restoredReason (rt : Runtime) (event : ActionEventRecord) : Text :=
  match event.payload.get? "reason" with
  | none => event.eventType
  | some (.str reason) => reason
  | some other => rt.str other

/-- `_apply_restored_event`. Only the status and the reason change, and they do so without
any check of the status before. -/
def applyRestoredEvent (rt : Runtime) (service : ActionService) (action : StoredAction)
    (event : ActionEventRecord) : ActionService :=
  match restoredStatus? event.eventType with
  | none => service
  | some status => service.withDecision event.actionId action status (restoredReason rt event)

/-- Rebuild the action of a policy event from its payload. The payload is the dump, so the
proposal is read back and validated, not kept. -/
def restorePolicy (service : ActionService) (event : ActionEventRecord) :
    Outcome PyError ActionService Unit :=
  match (event.payload.get? "proposal").bind Json.entries?,
      (event.payload.get? "decision").bind Json.entries? with
  | some proposalData, some decisionData =>
      match ActionProposal.modelValidate proposalData with
      | .error error => .raises service error
      | .ok proposal =>
          match ActionDecision.modelValidate decisionData with
          | .error error => .raises service error
          | .ok decision =>
              .returns ((service.register event.actionId
                ⟨proposal, decision, event.actorRole, event.tenantId⟩).push event) ()
  | _, _ =>
      .raises service
        (.valueError "Policy evaluation event is missing proposal or decision.")

/-- `restore`. A known event is skipped, and so is one whose action is unknown. A receipt is
read after the event is appended, so that a broken one raises with the event kept. -/
def restore (rt : Runtime) (service : ActionService) (event : ActionEventRecord) :
    Outcome PyError ActionService Unit :=
  if event.eventId ∈ service.eventIds then .returns service ()
  else if event.eventType ≠ "policy_evaluated" then
    match service.actions.get? event.actionId with
    | none => .returns service ()
    | some action =>
        let applied := (service.applyRestoredEvent rt action event).push event
        if event.eventType = "provider_accepted" then
          match ExecutionReceipt.modelValidate event.payload.entries with
          | .error error => .raises applied error
          | .ok receipt =>
              .returns { applied with
                executions := applied.executions.set (event.tenantId, receipt.idempotencyKey) receipt } ()
        else .returns applied ()
  else service.restorePolicy event

/-- Call `restore` on each event in turn. The first that raises ends it, and what was
restored before stays. -/
def restoreAll (rt : Runtime) (service : ActionService) (events : List ActionEventRecord) :
    Outcome PyError ActionService Unit :=
  Outcome.forEach (fun service event => service.restore rt event) service events

end ActionService

end Actions
end RealityLayer
