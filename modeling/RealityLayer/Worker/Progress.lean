import RealityLayer.Actions.Authorization
import RealityLayer.Worker.Rounds

namespace RealityLayer
namespace Worker

open Foundation Python RealityGit WorldState WorldStateService Actions

/-!
# Nothing stands in the way of an honest cancellation

The guards of the service keep writes out.  They must also let one through: a cancellation
that operations proposes under a new key, that is approved and executed on states it expects,
and that the provider accepts, ends with a verdict.  Other calls may come in between, on
any other actions, with any roles, states and executors.  They may raise, and they may fail
to hash their events.

An action that no call names is left as it is.  The key of an action is its own, so no other
action leaves a receipt under it.  And the event of each call can be hashed, because what
it repeats from its action's log was hashed before.
-/

/-! ## What other calls leave alone -/

/-- The action that a call names. -/
def namedAction? : Call -> Option Text
  | .propose _ _ _ _ => none
  | .approve _ actionId _ _ _ _ => some actionId
  | .reject _ actionId _ _ => some actionId
  | .execute _ actionId _ _ _ => some actionId
  | .verify _ actionId _ _ _ => some actionId

/-- An action is stored, with the receipt under its key, if there is one. Calls on other
actions leave it so, because they claim other keys. -/
structure Stands (service : ActionService) (actionId : Text) (action : StoredAction)
    (receipt : Option ExecutionReceipt) : Prop where
  stored : service.actions.get? actionId = some action
  receipt : service.executions.get? (action.tenantId, action.proposal.idempotencyKey) = receipt

/-- Receipts are under keys that actions own. So a new key has no receipt that could answer
its execution. -/
def ReceiptsOwned (service : ActionService) : Prop :=
  forall key, service.idempotency.get? key = none -> service.executions.get? key = none

section Others

variable {rt : Runtime} {service after : ActionService} {hashed : Prop} {call : Call}
variable {entry : Option ActionEventRecord} {actionId : Text} {action : StoredAction}
variable {receipt : Option ExecutionReceipt}

theorem keysOwned_of_run {history : List (Step ActionService Call)}
    (run : (actionSystem rt).Run history service) : KeysOwned service := by
  apply System.Run.invariant run
  · rintro _ rfl actionId action stored
    cases stored
  · intro service call owned _
    rcases perform_effect rt service call with ⟨entry, effect⟩
    exact owned.step effect

theorem ReceiptsOwned.step (owned : KeysOwned service) (receipts : ReceiptsOwned service)
    (effect : Effect rt service hashed call entry after) : ReceiptsOwned after := by
  intro key unclaimed
  cases effect with
  | idle => exact receipts key unclaimed
  | created draws proposal tenantId context _ _ new appends =>
      rw [appends.maps.1, ActionService.register, Dict.get?_set] at unclaimed
      rw [appends.maps.2]
      split at unclaimed
      · cases unclaimed
      · exact receipts key unclaimed
  | settled call target tenantId held verdict _ _ found owner decides appends =>
      rw [appends.maps.1] at unclaimed
      rw [appends.maps.2]
      exact receipts key unclaimed
  | refused draws target tenantId cancelOrder currentState held reason _ _ found owner approved
      ineligible appends =>
      rw [appends.maps.1] at unclaimed
      rw [appends.maps.2]
      exact receipts key unclaimed
  | accepted draws target tenantId cancelOrder currentState held receipt _ _ reaches accepts appends =>
      rw [appends.maps.1] at unclaimed
      rw [appends.maps.2, ActionService.accept, Dict.get?_set_of_ne]
      · exact receipts key unclaimed
      · rintro rfl
        have claimed := owned target held reaches.found
        rw [reaches.owner] at claimed
        cases claimed.symm.trans unclaimed

theorem ReceiptsOwned.of_run {history : List (Step ActionService Call)}
    (run : (actionSystem rt).Run history service) : ReceiptsOwned service := by
  have both : KeysOwned service ∧ ReceiptsOwned service := by
    apply System.Run.invariant run
    · rintro _ rfl
      refine ⟨?_, fun _ _ => rfl⟩
      intro actionId action stored
      cases stored
    · rintro service call ⟨owned, receipts⟩ _
      rcases perform_effect rt service call with ⟨entry, effect⟩
      exact ⟨owned.step effect, receipts.step owned effect⟩
  exact both.2

/-- A call that names another action leaves this one, and its key. -/
theorem Stands.spared (stands : Stands service actionId action receipt) (owned : KeysOwned service)
    (fresh : service.DrawsFresh call) (effect : Effect rt service hashed call entry after)
    (other : namedAction? call ≠ some actionId) : Stands after actionId action receipt := by
  cases effect with
  | idle => exact stands
  | created draws proposal tenantId context _ _ new appends =>
      have drawn : service.actions.get? (ActionService.newActionId draws) = none := fresh.2 _ rfl
      refine ⟨?_, ?_⟩
      · rw [appends.actions, ActionService.register, Dict.get?_set_of_ne]
        · exact stands.stored
        · rintro rfl
          cases drawn.symm.trans stands.stored
      · rw [appends.maps.2]
        exact stands.receipt
  | settled call target tenantId held verdict _ _ found owner decides appends =>
      have different : actionId ≠ target := by
        rintro rfl
        cases decides <;> exact other rfl
      refine ⟨?_, ?_⟩
      · rw [appends.actions, ActionService.withDecision, Dict.get?_set_of_ne _ _ different]
        exact stands.stored
      · rw [appends.maps.2]
        exact stands.receipt
  | refused draws target tenantId cancelOrder currentState held reason _ _ found owner approved
      ineligible appends =>
      refine ⟨?_, ?_⟩
      · rw [appends.actions]
        exact stands.stored
      · rw [appends.maps.2]
        exact stands.receipt
  | accepted draws target tenantId cancelOrder currentState held written _ _ reaches accepts appends =>
      have different : actionId ≠ target := by
        rintro rfl
        exact other rfl
      refine ⟨?_, ?_⟩
      · rw [appends.actions, ActionService.accept, ActionService.withDecision,
          Dict.get?_set_of_ne _ _ different]
        exact stands.stored
      · rw [appends.maps.2, ActionService.accept, Dict.get?_set_of_ne]
        · exact stands.receipt
        · intro same
          -- Two actions with one key would both own it.
          have mine := owned actionId action stands.stored
          have theirs := owned target held reaches.found
          rw [reaches.owner, ← same] at theirs
          exact different (Option.some.inj (mine.symm.trans theirs))

end Others

/-- Calls that name other actions leave this one. They may come from any tenant, in any number. -/
theorem Stands.along {rt : Runtime} {service : ActionService} {actionId : Text}
    {action : StoredAction} {receipt : Option ExecutionReceipt}
    {history : List (Step ActionService Call)} (stands : Stands service actionId action receipt)
    (run : (actionSystem rt).Run history service)
    (calls : List Call) (others : forall call, call ∈ calls -> namedAction? call ≠ some actionId)
    (admitted : (actionSystem rt).AdmitsAll service calls) :
    Stands ((actionSystem rt).trace service calls).2 actionId action receipt := by
  induction calls generalizing service history with
  | nil => exact stands
  | cons call rest ih =>
      rcases perform_effect rt service call with ⟨entry, effect⟩
      have spared := stands.spared (keysOwned_of_run run) admitted.1 effect (others call List.mem_cons_self)
      exact ih spared (.extend call run admitted.1)
        (fun other member => others other (List.mem_cons_of_mem _ member)) admitted.2

/-! ## Events that can be hashed -/

section Sealing

variable {rt : Runtime} {service : ActionService} {draft : EventDraft}

/-- A draft whose texts are valid and whose payload can be hashed can be hashed after a log that
can be continued. -/
theorem draft_sealable (log : LogWritable service) (event : draft.eventId.encodable = true)
    (tenant : draft.tenantId.encodable = true) (named : draft.actionId.encodable = true)
    (typed : draft.eventType.encodable = true) (role : draft.actorRole.encodable = true)
    (payload : hashable rt (.dict draft.payload.entries) = true) : draft.Sealable rt service := by
  have last : ((service.eventsOf draft.actionId).getLast?.map ActionEventRecord.eventHash).all
      Text.encodable = true := by
    cases newest : (service.eventsOf draft.actionId).getLast? with
    | none => rfl
    | some event => exact log.hashes draft.actionId event (List.mem_of_getLast? newest)
  unfold hashable at payload
  rw [Bool.and_eq_true, Json.finite, encodableJson] at payload
  apply hashJson_ok_of_hashable
  unfold ActionService.eventBody hashable
  simp only [Json.finite, Json.finiteEntries, encodableJson, encodableEntries, event, tenant, named,
    typed, role, payload.1, payload.2, last, encodableJson_ofText?, Json.finite_ofText?,
    Text.encodable_ofString, Bool.and_self]

/-- An action with another decision. Its proposal, its tenant and its proposer stay. -/
def decidedAs (action : StoredAction) (status : ActionStatus) (reason : Text) : StoredAction :=
  { action with decision := { action.decision with status, reason } }

/-- A verdict whose event can be hashed is answered with the new decision. -/
theorem settle_answers {eventId tenantId actionId : Text} {action : StoredAction} {verdict : Verdict}
    (sealable : (verdict.draft eventId tenantId actionId).Sealable rt service) :
    Exists fun event : ActionEventRecord =>
      service.settle rt eventId tenantId actionId action verdict =
        .returns ((service.withDecision actionId action verdict.status verdict.reason).push event)
          (decidedAs action verdict.status verdict.reason).decision := by
  rcases sealable with ⟨hash, sealed⟩
  dsimp only [Verdict.draft] at sealed
  unfold ActionService.settle ActionService.appendEvent
  dsimp only [ActionService.withDecision_eventsOf]
  rw [sealed]
  exact ⟨_, rfl⟩

end Sealing

/-! ## One call -/

section Calls

variable {rt : Runtime} {service : ActionService} {actionId : Text} {action : StoredAction}

/-- The decision on a permitted cancellation. -/
def awaitedDecision (actionId : Text) : ActionDecision where
  actionId := actionId
  status := .approvalRequired
  reason := "Cancelling an order requires Operations approval."
  matchedRule := some "approval.operations.cancel_order"
  policyVersion := policyVersion
  requiredRole := some "operations"

theorem evaluatePolicy_permitted {proposal : ActionProposal} {context : PolicyContext}
    (cancels : proposal.actionType = .cancelOrder) (permits : context.Permits) :
    evaluatePolicy rt actionId proposal context = awaitedDecision actionId := by
  have known : context.role ∈ knownRoles ∧ context.role ≠ "observer" := by
    rw [permits.role]
    decide
  unfold evaluatePolicy
  rw [if_neg (not_not_intro known.1), if_neg known.2, if_neg permits.mode,
    if_neg (Bool.eq_false_iff.mp permits.conflict), if_neg (Bool.eq_false_iff.mp permits.limit),
    if_pos ⟨cancels, permits.role⟩]
  rfl

theorem hashable_policyPayload {proposal : ActionProposal} (named : actionId.encodable = true)
    (printable : hashable rt (.dict proposal.dump) = true) :
    hashable rt (.dict (ActionService.policyPayload (awaitedDecision actionId) proposal).entries) =
      true := by
  have entries : (ActionService.policyPayload (awaitedDecision actionId) proposal).entries =
      [(("decision" : Text), .dict (awaitedDecision actionId).dump),
        ("proposal", .dict proposal.dump)] := by
    apply Dict.entries_ofList _
    change [("decision" : Text), "proposal"].Nodup
    decide
  unfold hashable at printable ⊢
  rw [Bool.and_eq_true, Json.finite, encodableJson] at printable
  rw [entries]
  unfold ActionDecision.dump awaitedDecision policyVersion
  simp only [Json.finite, Json.finiteEntries, encodableJson, encodableEntries, printable.1, named,
    printable.2, statusValue_encodable, Json.ofText?, Text.encodable_ofString, Bool.and_self]

/-- A permitted cancellation under a new key is answered with a request for approval. -/
theorem propose_progress (draws : Draws) {tenantId : Text} {proposal : ActionProposal}
    {context : PolicyContext} (log : LogWritable service) (receipts : ReceiptsOwned service)
    (new : service.idempotency.get? (tenantId, proposal.idempotencyKey) = none)
    (cancels : proposal.actionType = .cancelOrder) (permits : context.Permits)
    (owner : tenantId.encodable = true) (dumped : proposal.dumps rt = true)
    (printable : hashable rt (.dict proposal.dump) = true) :
    let created := createdAction rt draws proposal tenantId context
    let outcome := service.propose rt draws proposal tenantId context
    outcome.result = .ok (awaitedDecision (ActionService.newActionId draws)) ∧
      Stands outcome.state (ActionService.newActionId draws) created none := by
  dsimp only
  have decision := @evaluatePolicy_permitted rt (ActionService.newActionId draws) proposal context cancels
    permits
  have created : createdAction rt draws proposal tenantId context =
      ⟨proposal, awaitedDecision (ActionService.newActionId draws), context.role, tenantId⟩ := by
    unfold createdAction
    rw [decision]
  have sealable : (policyDraft draws (createdAction rt draws proposal tenantId context)).Sealable rt
      service := by
    have role : context.role.encodable = true := by
      rw [permits.role]
      exact Text.encodable_ofString _
    rw [created]
    exact draft_sealable log (ActionService.newEventId_encodable draws 1) owner
      (ActionService.newActionId_encodable draws) (Text.encodable_ofString _) role
      (hashable_policyPayload (ActionService.newActionId_encodable draws) printable)
  rcases sealable with ⟨hash, sealed⟩
  rw [created] at sealed ⊢
  dsimp only [policyDraft] at sealed
  unfold ActionService.propose ActionService.appendEvent
  rw [new]
  dsimp only [ActionService.register_eventsOf]
  rw [if_pos dumped, decision, sealed]
  exact ⟨rfl, Dict.get?_set_self _ _ _, receipts _ new⟩

/-- A settled action is stored with its new decision. -/
theorem Stands.settled {receipt : Option ExecutionReceipt}
    (stands : Stands service actionId action receipt) (status : ActionStatus) (reason : Text)
    (event : ActionEventRecord) :
    Stands ((service.withDecision actionId action status reason).push event) actionId
      (decidedAs action status reason) receipt :=
  ⟨Dict.get?_set_self _ _ _, stands.receipt⟩

theorem hashable_reasonPayload {reason : Text} (written : reason.encodable = true) :
    hashable rt (.dict (reasonPayload reason).entries) = true := by
  change hashable rt (.dict [(("reason" : Text), .str reason)]) = true
  unfold hashable
  simp only [Json.finite, Json.finiteEntries, encodableJson, encodableEntries, written,
    Text.encodable_ofString, Bool.and_self]

/-- Operations approves an action that waits for it, on a state that it expects. -/
theorem approve_progress (draws : Draws) (approval : ApprovalRequest) {state : OrderState}
    (log : LogWritable service) (stands : Stands service actionId action none)
    (waits : action.decision.status = .approvalRequired)
    (required : action.decision.requiredRole = some ("operations" : Text))
    (agrees : ActionService.checkPreconditions action.proposal (some state) = none)
    (owner : action.tenantId.encodable = true) :
    let approved := decidedAs action .approved approval.reason
    let outcome := service.approve rt draws actionId approval "operations" action.tenantId (some state)
    outcome.result = .ok approved.decision ∧ Stands outcome.state actionId approved none := by
  dsimp only
  have found := (service.getAction_ok_iff actionId action.tenantId action).mpr ⟨stands.stored, rfl⟩
  have verdict : ActionService.approvalVerdict action approval "operations" (some state) =
      ⟨.approved, approval.reason, "approved", "operations", reasonPayload approval.reason⟩ := by
    unfold ActionService.approvalVerdict
    rw [required, if_neg (not_not_intro rfl), agrees]
  have written : approval.reason.encodable = true := by
    have valid := approval.valid
    simp only [Bool.and_eq_true] at valid
    exact valid.1.1
  have sealable : ((ActionService.approvalVerdict action approval "operations" (some state)).draft
      (ActionService.newEventId draws 0) action.tenantId actionId).Sealable rt service := by
    rw [verdict]
    exact draft_sealable log (ActionService.newEventId_encodable draws 0) owner
      (log.named actionId action stands.stored) (Text.encodable_ofString _) (Text.encodable_ofString _)
      (hashable_reasonPayload written)
  rcases @settle_answers rt service _ _ _ action _ sealable with ⟨event, settled⟩
  unfold ActionService.approve
  rw [found]
  dsimp only
  rw [if_neg (not_not_intro waits), settled, verdict]
  exact ⟨rfl, stands.settled _ _ _⟩

theorem hashable_receipt {receipt : ExecutionReceipt}
    (texts : forall text, text ∈ [receipt.actionId, receipt.provider, receipt.providerRequestId,
      receipt.idempotencyKey] -> text.encodable = true) :
    hashable rt (.dict (Dict.ofList receipt.dump).entries) = true := by
  have entries : (Dict.ofList receipt.dump).entries = receipt.dump := by
    apply Dict.entries_ofList
    change [("action_id" : Text), "status", "provider", "provider_request_id", "idempotency_key"].Nodup
    decide
  simp only [List.forall_mem_cons, List.not_mem_nil, false_implies, implies_true, and_true] at texts
  rcases texts with ⟨named, provider, request, key⟩
  rw [entries]
  unfold ExecutionReceipt.dump hashable
  simp only [Json.finite, Json.finiteEntries, encodableJson, encodableEntries, named, provider, request,
    key, statusValue_encodable, Text.encodable_ofString, Bool.and_self]

/-- An approved cancellation is executed on an eligible order, once the provider accepts.
Nothing else is asked of the state, not even its version. -/
theorem execute_progress (draws : Draws) {cancelOrder : CancelOrderExecutor} {state : OrderState}
    {receipt : ExecutionReceipt} (log : LogWritable service)
    (stands : Stands service actionId action none) (approved : action.decision.status = .approved)
    (cancels : action.proposal.actionType = .cancelOrder)
    (eligible : ActionService.ineligibleReason (some state) = none)
    (accepts : cancelOrder (action.providerCall actionId) = .ok receipt)
    (texts : forall text, text ∈ [receipt.actionId, receipt.provider, receipt.providerRequestId,
      receipt.idempotencyKey] -> text.encodable = true)
    (owner : action.tenantId.encodable = true) :
    let execution := service.execute rt draws actionId action.tenantId cancelOrder (some state)
    execution.invoked = some (action.providerCall actionId) ∧
      execution.outcome.result = .ok receipt ∧
      Stands execution.outcome.state actionId
        (decidedAs action .providerAccepted "Provider accepted write.") (some receipt) := by
  have reaches : ReachesProvider service actionId action.tenantId (some state) action :=
    ⟨stands.stored, rfl, stands.receipt, approved, cancels, eligible⟩
  have sealable : (acceptanceDraft draws action.tenantId actionId receipt).Sealable rt service :=
    draft_sealable log (ActionService.newEventId_encodable draws 0) owner
      (log.named actionId action stands.stored) (Text.encodable_ofString _) (Text.encodable_ofString _)
      (hashable_receipt texts)
  rcases sealable with ⟨hash, sealed⟩
  dsimp only [acceptanceDraft] at sealed
  dsimp only
  rw [execute_reaching rt service draws cancelOrder reaches, accepts]
  unfold ActionService.appendEvent
  dsimp only [ActionService.accept_eventsOf]
  rw [sealed]
  exact ⟨rfl, rfl, Dict.get?_set_self _ _ _, Dict.get?_set_self _ _ _⟩

/-- A verification of an accepted write is answered with the verdict on the state. -/
theorem verify_progress (printable : PrintableTexts rt) (draws : Draws) {state : OrderState}
    (isFinal : Bool) (log : LogWritable service) (stored : service.actions.get? actionId = some action)
    (waiting : ActionService.verifiable action.decision.status = true)
    (owner : action.tenantId.encodable = true)
    (observed : hashable rt (ActionService.observedStatus (some state)) = true)
    (commit : state.commitId.encodable = true) :
    let verdict := ActionService.verificationVerdict rt (some state) isFinal
    let outcome := service.verify rt draws actionId action.tenantId (some state) isFinal
    outcome.result = .ok (decidedAs action verdict.status verdict.reason).decision ∧
      outcome.state.actions.get? actionId = some (decidedAs action verdict.status verdict.reason) := by
  dsimp only
  have found := (service.getAction_ok_iff actionId action.tenantId action).mpr ⟨stored, rfl⟩
  have payload : hashable rt (.dict (ActionService.verificationVerdict rt (some state)
      isFinal).payload.entries) = true := by
    unfold hashable at observed ⊢
    rw [Bool.and_eq_true] at observed
    unfold ActionService.verificationVerdict
    dsimp only
    rw [ActionService.verificationPayload_entries]
    simp only [Json.finite, Json.finiteEntries, encodableJson, encodableEntries, observed.1, observed.2,
      verificationReason_encodable printable, Option.map_some, Json.ofText?, commit,
      Text.encodable_ofString, Bool.and_self]
  have sealable : ((ActionService.verificationVerdict rt (some state) isFinal).draft
      (ActionService.newEventId draws 0) action.tenantId actionId).Sealable rt service :=
    draft_sealable log (ActionService.newEventId_encodable draws 0) owner
      (log.named actionId action stored) (statusValue_encodable _) (Text.encodable_ofString _) payload
  rcases @settle_answers rt service _ _ _ action _ sealable with ⟨event, settled⟩
  unfold ActionService.verify
  rw [found]
  dsimp only
  rw [waiting, if_neg Bool.true_eq_false_eq_False, settled]
  exact ⟨rfl, Dict.get?_set_self _ _ _⟩

end Calls

/-! ## A whole cancellation -/

/-- What is handed to the service for one cancellation: its four calls with their draws, and
the three states that they are given. -/
structure Cancellation where
  tenantId : Text
  proposal : ActionProposal
  context : PolicyContext
  approval : ApprovalRequest
  cancelOrder : CancelOrderExecutor
  approvedOn : OrderState
  executedOn : OrderState
  observed : OrderState
  proposing : Draws
  approving : Draws
  executing : Draws
  verifying : Draws

namespace Cancellation

variable (cancellation : Cancellation)

def actionId : Text := ActionService.newActionId cancellation.proposing

def providerCall : ProviderCall where
  actionId := cancellation.actionId
  orderId := cancellation.proposal.orderId
  idempotencyKey := cancellation.proposal.idempotencyKey

def proposes : Call :=
  .propose cancellation.proposing cancellation.proposal cancellation.tenantId cancellation.context

def approves : Call :=
  .approve cancellation.approving cancellation.actionId cancellation.approval "operations"
    cancellation.tenantId (some cancellation.approvedOn)

def executes : Call :=
  .execute cancellation.executing cancellation.actionId cancellation.tenantId cancellation.cancelOrder
    (some cancellation.executedOn)

def verifies : Call :=
  .verify cancellation.verifying cancellation.actionId cancellation.tenantId
    (some cancellation.observed) true

/-- The service permits it, the states agree with it, the provider accepts it, the proposal is
nested no deeper than a dump goes, and its texts and numbers can be hashed. -/
structure Honest (rt : Runtime) (receipt : ExecutionReceipt) : Prop where
  cancels : cancellation.proposal.actionType = .cancelOrder
  permitted : cancellation.context.Permits
  agrees : ActionService.checkPreconditions cancellation.proposal (some cancellation.approvedOn) = none
  eligible : ActionService.ineligibleReason (some cancellation.executedOn) = none
  accepted : cancellation.cancelOrder cancellation.providerCall = .ok receipt
  owner : cancellation.tenantId.encodable = true
  dumped : cancellation.proposal.dumps rt = true
  proposed : hashable rt (.dict cancellation.proposal.dump) = true
  receipt : forall text, text ∈ [receipt.actionId, receipt.provider, receipt.providerRequestId,
    receipt.idempotencyKey] -> text.encodable = true
  observed : hashable rt (ActionService.observedStatus (some cancellation.observed)) = true
  commit : cancellation.observed.commitId.encodable = true

/-- Each call of the cancellation is answered as it should be, in the service that it meets.
Other calls may have come in between, so the four services are not consecutive. -/
structure Completes (rt : Runtime) (receipt : ExecutionReceipt)
    (service beforeApproval beforeExecution beforeVerdict : ActionService) : Prop where
  proposed : (service.perform rt cancellation.proposes).result =
    .ok (.decision (awaitedDecision cancellation.actionId))
  approved : Exists fun decision : ActionDecision =>
    (beforeApproval.perform rt cancellation.approves).result = .ok (.decision decision) ∧
      decision.status = .approved
  invoked : beforeExecution.invokes rt cancellation.executes = some cancellation.providerCall
  executed : (beforeExecution.perform rt cancellation.executes).result = .ok (.receipt receipt)
  verified : Exists fun decision : ActionDecision =>
    (beforeVerdict.perform rt cancellation.verifies).result = .ok (.decision decision) ∧
      decision.status = ActionService.verificationStatus
        (ActionService.observedStatus (some cancellation.observed)) true

end Cancellation

/-- From any state of any run, an honest cancellation under a new key is proposed, approved,
executed once and judged, whatever calls on other actions come in between. -/
theorem cancellation_progresses {rt : Runtime} (printable : PrintableTexts rt)
    {history : List (Step ActionService Call)} {service : ActionService}
    (run : (actionSystem rt).Run history service) {cancellation : Cancellation}
    {receipt : ExecutionReceipt} (honest : cancellation.Honest rt receipt)
    (new : service.idempotency.get?
      (cancellation.tenantId, cancellation.proposal.idempotencyKey) = none)
    {first second third : List Call}
    (others : forall call, call ∈ first ++ second ++ third ->
      namedAction? call ≠ some cancellation.actionId)
    (admitted : (actionSystem rt).AdmitsAll service (cancellation.proposes :: first ++
      cancellation.approves :: second ++ cancellation.executes :: third)) :
    let beforeApproval := ((actionSystem rt).trace service (cancellation.proposes :: first)).2
    let beforeExecution := ((actionSystem rt).trace beforeApproval (cancellation.approves :: second)).2
    let beforeVerdict := ((actionSystem rt).trace beforeExecution (cancellation.executes :: third)).2
    cancellation.Completes rt receipt service beforeApproval beforeExecution beforeVerdict := by
  rcases System.admitsAll_append.mp admitted with ⟨admitted, executing⟩
  rcases System.admitsAll_append.mp admitted with ⟨proposing, approving⟩
  rw [System.trace_append] at executing
  have openedRun := System.run_append_trace _ run proposing
  have allowedRun := System.run_append_trace _ openedRun approving
  have writtenRun := System.run_append_trace _ allowedRun executing
  -- After each call of the cancellation, the others leave what it has stored.
  rcases @propose_progress rt service cancellation.proposing cancellation.tenantId cancellation.proposal
    cancellation.context (.of_run printable.digests run) (.of_run run) new honest.cancels honest.permitted
    honest.owner honest.dumped honest.proposed with ⟨proposed, stored⟩
  have opened := Stands.along stored (.extend cancellation.proposes run proposing.1) first
    (fun call member => others call (by simp [member])) proposing.2
  have waits : (createdAction rt cancellation.proposing cancellation.proposal cancellation.tenantId
      cancellation.context).decision = awaitedDecision cancellation.actionId :=
    evaluatePolicy_permitted honest.cancels honest.permitted
  rcases approve_progress cancellation.approving cancellation.approval
    (.of_run printable.digests openedRun) opened (congrArg ActionDecision.status waits)
    (congrArg ActionDecision.requiredRole waits) honest.agrees honest.owner with ⟨approved, stored⟩
  have allowed := Stands.along stored (.extend cancellation.approves openedRun approving.1) second
    (fun call member => others call (by simp [member])) approving.2
  rcases execute_progress cancellation.executing (.of_run printable.digests allowedRun) allowed rfl
    honest.cancels honest.eligible honest.accepted honest.receipt honest.owner with
      ⟨invoked, executed, stored⟩
  have written := Stands.along stored (.extend cancellation.executes allowedRun executing.1) third
    (fun call member => others call (by simp [member])) executing.2
  have verified := verify_progress printable cancellation.verifying true
    (.of_run printable.digests writtenRun) written.stored rfl honest.owner honest.observed honest.commit
  exact {
    proposed := congrArg (Except.map Answer.decision) proposed
    approved := ⟨_, congrArg (Except.map Answer.decision) approved, rfl⟩
    invoked
    executed := congrArg (Except.map Answer.receipt) executed
    verified := ⟨_, congrArg (Except.map Answer.decision) verified.1, rfl⟩ }

/-! ## Two cancellations at once -/

/-- A second tenant cancels an order of its own under the same key. Keys of different tenants
do not meet. -/
def secondCancellation : Cancellation where
  tenantId := "acme"
  proposal := sampleProposal
  context := sampleContext
  approval := sampleApproval
  cancelOrder := sampleExecutor
  approvedOn := sampleOrder 1 "open"
  executedOn := sampleOrder 1 "open"
  observed := sampleOrder 2 "cancelled"
  proposing := .numbered 20
  approving := .numbered 22
  executing := .numbered 23
  verifying := .numbered 24

/-- The receipt that the executor returns for it. -/
def secondReceipt : ExecutionReceipt :=
  ⟨secondCancellation.actionId, .providerAccepted, "shopify", "request-1", "cancel-1001"⟩

theorem secondCancellation_honest : secondCancellation.Honest .plain secondReceipt where
  cancels := rfl
  permitted := ⟨rfl, by decide, rfl, rfl⟩
  agrees := by decide +kernel
  eligible := by decide +kernel
  accepted := by rfl
  owner := by decide +kernel
  dumped := by decide +kernel
  proposed := by decide +kernel
  receipt := by decide +kernel
  observed := by decide +kernel
  commit := by decide +kernel

/-- Both cancellations are verified, each call of one between two of the other. -/
theorem cancellation_progresses_sample : Exists fun decision : ActionDecision =>
    decision.status = .verified ∧
      (((actionSystem .plain).trace (sampleService [samplePropose])
        ([secondCancellation.proposes, sampleApprove] ++ [secondCancellation.approves, sampleExecute] ++
          [secondCancellation.executes, sampleVerify])).2.perform .plain
            secondCancellation.verifies).result = .ok (.decision decision) := by
  have run : Exists fun history => (actionSystem .plain).Run history (sampleService [samplePropose]) :=
    ⟨_, (sample_run [samplePropose] ⟨[sampleApprove, sampleExecute, sampleVerify], rfl⟩).ofRestrict⟩
  rcases run with ⟨history, run⟩
  have others : forall call, call ∈ [sampleApprove] ++ [sampleExecute] ++ [sampleVerify] ->
      namedAction? call ≠ some secondCancellation.actionId := by
    intro call member
    simp only [List.mem_append, List.mem_singleton] at member
    rcases member with (rfl | rfl) | rfl
    all_goals decide +kernel
  have admitted : (actionSystem .plain).AdmitsAll (sampleService [samplePropose])
      (secondCancellation.proposes :: [sampleApprove] ++ secondCancellation.approves :: [sampleExecute] ++
        secondCancellation.executes :: [sampleVerify]) := by
    decide +kernel
  have new : (sampleService [samplePropose]).idempotency.get?
      (secondCancellation.tenantId, secondCancellation.proposal.idempotencyKey) = none := by
    decide +kernel
  rcases (cancellation_progresses plain_printableTexts run secondCancellation_honest new others
    admitted).verified with ⟨decision, answered, status⟩
  refine ⟨decision, status.trans (by decide +kernel), ?_⟩
  rw [System.trace_append, System.trace_append]
  exact answered

end Worker
end RealityLayer
