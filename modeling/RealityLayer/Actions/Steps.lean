import RealityLayer.Actions.Service
import RealityLayer.RealityGit.Validation

namespace RealityLayer
namespace Actions

open Foundation Python RealityGit WorldState

/-!
# What one call can do to the action service

A `Call` is one request to the service with all its arguments, and `perform`
hands it to the operation it names.  `actionSystem` is the resulting transition
system: it starts with an empty service and admits every call whose fresh
identifiers are really fresh.

`Effect` is the inversion of all five operations at once.  It lists the five
things a call can do: nothing, create an action, settle one by a verdict, record
a refused execution, or record an accepted one.  Each case names the guards that
were passed and the event that was appended.  `perform_effect` is the only place
where the operations are unfolded; the invariants of later modules argue by
cases on `Effect`.

An event that cannot be hashed leaves the rest of the effect in place.  `Effect`
carries this as an absent entry, and excludes it for calls that are `Hashed`.
-/

/-- One request to the service. The draws and the executor are part of the request, so a run
is determined by its calls. -/
inductive Call where
  | propose (draws : Draws) (proposal : ActionProposal) (tenantId : Text) (context : PolicyContext)
  | approve (draws : Draws) (actionId : Text) (approval : ApprovalRequest) (role tenantId : Text)
      (currentState : Option OrderState)
  | reject (draws : Draws) (actionId : Text) (rejection : ApprovalRequest) (tenantId : Text)
  | execute (draws : Draws) (actionId tenantId : Text) (cancelOrder : CancelOrderExecutor)
      (currentState : Option OrderState)
  | verify (draws : Draws) (actionId tenantId : Text) (state : Option OrderState)
      (isFinalAttempt : Bool)

/-- What a call returns. Only an execution returns a receipt; the decision it leads to is not
returned with it. -/
inductive Answer where
  | decision (decision : ActionDecision)
  | receipt (receipt : ExecutionReceipt)

namespace Call

def tenantId : Call -> Text
  | .propose _ _ tenantId _ => tenantId
  | .approve _ _ _ _ tenantId _ => tenantId
  | .reject _ _ _ tenantId => tenantId
  | .execute _ _ tenantId _ _ => tenantId
  | .verify _ _ tenantId _ _ => tenantId

/-- The identifier the call's event gets, if it appends one. -/
def eventId : Call -> Text
  | .propose draws _ _ _ => ActionService.newEventId draws 1
  | .approve draws _ _ _ _ _ => ActionService.newEventId draws 0
  | .reject draws _ _ _ => ActionService.newEventId draws 0
  | .execute draws _ _ _ _ => ActionService.newEventId draws 0
  | .verify draws _ _ _ _ => ActionService.newEventId draws 0

/-- The identifier of the action the call would create. -/
def createdId? : Call -> Option Text
  | .propose draws _ _ _ => some (ActionService.newActionId draws)
  | .approve _ _ _ _ _ _ => none
  | .reject _ _ _ _ => none
  | .execute _ _ _ _ _ => none
  | .verify _ _ _ _ _ => none

end Call

namespace ActionService

def perform (rt : Runtime) (service : ActionService) : Call -> Outcome PyError ActionService Answer
  | .propose draws proposal tenantId context =>
      (service.propose rt draws proposal tenantId context).map .decision
  | .approve draws actionId approval role tenantId currentState =>
      (service.approve rt draws actionId approval role tenantId currentState).map .decision
  | .reject draws actionId rejection tenantId =>
      (service.reject rt draws actionId rejection tenantId).map .decision
  | .execute draws actionId tenantId cancelOrder currentState =>
      (service.execute rt draws actionId tenantId cancelOrder currentState).outcome.map .receipt
  | .verify draws actionId tenantId state isFinalAttempt =>
      (service.verify rt draws actionId tenantId state isFinalAttempt).map .decision

/-- The provider call that a request makes, if it makes one. A refused execution makes none,
and neither does one that a stored receipt answers. -/
def invokes (rt : Runtime) (service : ActionService) : Call -> Option ProviderCall
  | .execute draws actionId tenantId cancelOrder currentState =>
      (service.execute rt draws actionId tenantId cancelOrder currentState).invoked
  | .propose _ _ _ _ => none
  | .approve _ _ _ _ _ _ => none
  | .reject _ _ _ _ => none
  | .verify _ _ _ _ _ => none

/-- The provider call a request makes with the receipt it gets, when the
provider accepts it. -/
def accepts? (rt : Runtime) (service : ActionService) (call : Call) :
    Option (ProviderCall × ExecutionReceipt) :=
  match call with
  | .execute _ _ _ cancelOrder _ =>
      (service.invokes rt call).bind (fun providerCall =>
        match cancelOrder providerCall with
        | .ok receipt => some (providerCall, receipt)
        | .error _ => none)
  | .propose _ _ _ _ => none
  | .approve _ _ _ _ _ _ => none
  | .reject _ _ _ _ => none
  | .verify _ _ _ _ _ => none

/-- The identifiers a call draws are not in use. The source draws them at random and checks
nothing. -/
def DrawsFresh (service : ActionService) (call : Call) : Prop :=
  call.eventId ∉ service.eventIds ∧
    forall actionId, call.createdId? = some actionId -> service.actions.get? actionId = none

/-- The call's event, if any, can be dumped and hashed. A failure of either is the only error
that this rules out. -/
def Hashed (rt : Runtime) (service : ActionService) (call : Call) : Prop :=
  forall cause, (service.perform rt call).result ≠ .error (.hashing cause)

end ActionService

instance (service : ActionService) (call : Call) : Decidable (service.DrawsFresh call) :=
  decidable_of_iff (call.eventId ∉ service.eventIds ∧
      (call.createdId?.bind service.actions.get?) = none) (by
    unfold ActionService.DrawsFresh
    cases call.createdId? with
    | none => simp
    | some actionId => simp)

instance (rt : Runtime) (service : ActionService) (call : Call) : Decidable (service.Hashed rt call) :=
  match decided : (service.perform rt call).result with
  | .error (.hashing cause) => isFalse (fun sound => sound cause decided)
  | .error (.keyError _) => isTrue (fun _ same => nomatch decided.symm.trans same)
  | .error (.valueError _) => isTrue (fun _ same => nomatch decided.symm.trans same)
  | .error (.typeError _) => isTrue (fun _ same => nomatch decided.symm.trans same)
  | .error (.validation _) => isTrue (fun _ same => nomatch decided.symm.trans same)
  | .error (.executor _) => isTrue (fun _ same => nomatch decided.symm.trans same)
  | .ok _ => isTrue (fun _ same => nomatch decided.symm.trans same)

/-- The action service as a transition system. Its calls draw fresh identifiers, and may
raise like any other. -/
def actionSystem (rt : Runtime) : System ActionService Call where
  start := fun service => service = .fresh
  admits := fun service call => service.DrawsFresh call
  next := fun service call => (service.perform rt call).state

/-- The action service restricted to calls whose events can be hashed. In its runs no call
raises halfway through. -/
def hashedActionSystem (rt : Runtime) : System ActionService Call :=
  (actionSystem rt).restrict (fun service call => service.Hashed rt call)

instance (rt : Runtime) (service : ActionService) (call : Call) :
    Decidable ((actionSystem rt).admits service call) :=
  inferInstanceAs (Decidable (service.DrawsFresh call))

instance (rt : Runtime) (service : ActionService) (call : Call) :
    Decidable ((hashedActionSystem rt).admits service call) :=
  inferInstanceAs (Decidable (service.DrawsFresh call ∧ service.Hashed rt call))

/-! ## What the updates leave alone -/

namespace ActionService

variable (service : ActionService)

@[simp] theorem push_actions (event : ActionEventRecord) :
    (service.push event).actions = service.actions := rfl

@[simp] theorem push_idempotency (event : ActionEventRecord) :
    (service.push event).idempotency = service.idempotency := rfl

@[simp] theorem push_executions (event : ActionEventRecord) :
    (service.push event).executions = service.executions := rfl

theorem eventsOf_push (event : ActionEventRecord) (actionId : Text) :
    (service.push event).eventsOf actionId =
      if actionId = event.actionId then service.eventsOf actionId ++ [event]
      else service.eventsOf actionId := by
  unfold eventsOf push
  rw [Dict.get?_set]
  by_cases same : actionId = event.actionId
  · rw [if_pos same, if_pos same, same]
    rfl
  · rw [if_neg same, if_neg same]

section Decision

variable (actionId : Text) (action : StoredAction) (status : ActionStatus) (reason : Text)

@[simp] theorem withDecision_idempotency :
    (service.withDecision actionId action status reason).idempotency = service.idempotency := rfl

@[simp] theorem withDecision_executions :
    (service.withDecision actionId action status reason).executions = service.executions := rfl

@[simp] theorem withDecision_events :
    (service.withDecision actionId action status reason).events = service.events := rfl

@[simp] theorem withDecision_eventsOf (other : Text) :
    (service.withDecision actionId action status reason).eventsOf other = service.eventsOf other := rfl

end Decision

section Create

variable (actionId : Text) (action : StoredAction)

@[simp] theorem register_executions :
    (service.register actionId action).executions = service.executions := rfl

@[simp] theorem register_events :
    (service.register actionId action).events = service.events := rfl

@[simp] theorem register_eventsOf (other : Text) :
    (service.register actionId action).eventsOf other = service.eventsOf other := rfl

end Create

section Acceptance

variable (actionId tenantId : Text) (action : StoredAction) (receipt : ExecutionReceipt)

@[simp] theorem accept_idempotency :
    (service.accept actionId tenantId action receipt).idempotency = service.idempotency := rfl

@[simp] theorem accept_events :
    (service.accept actionId tenantId action receipt).events = service.events := rfl

@[simp] theorem accept_eventsOf (other : Text) :
    (service.accept actionId tenantId action receipt).eventsOf other = service.eventsOf other := rfl

end Acceptance

theorem getAction_ok_iff (actionId tenantId : Text) (action : StoredAction) :
    service.getAction actionId tenantId = .ok action <->
      service.actions.get? actionId = some action ∧ action.tenantId = tenantId := by
  unfold getAction
  cases service.actions.get? actionId with
  | none => simp
  | some found =>
      by_cases same : found.tenantId = tenantId
      · simp only [same, ne_eq, not_true_eq_false, if_false, Except.ok.injEq, Option.some.injEq]
        constructor
        · rintro rfl
          exact ⟨rfl, same⟩
        · exact And.left
      · simp only [ne_eq, same, not_false_eq_true, if_true, reduceCtorEq, Option.some.injEq, false_iff,
          not_and]
        rintro rfl
        exact same

end ActionService

/-! ## Appending an event -/

/-- An event before it is linked and hashed. The link and the hash depend on the list at the
moment it is appended, and not on the call. -/
structure EventDraft where
  eventId : Text
  tenantId : Text
  actionId : Text
  eventType : Text
  actorRole : Text
  payload : Dict Text Json

/-- The record of a draft in a service: linked to the action's newest event. The first event
of an action has no predecessor. -/
def EventDraft.record (draft : EventDraft) (service : ActionService) (eventHash : Text) :
    ActionEventRecord where
  eventId := draft.eventId
  tenantId := draft.tenantId
  actionId := draft.actionId
  eventType := draft.eventType
  actorRole := draft.actorRole
  payload := draft.payload
  previousEventHash := (service.eventsOf draft.actionId).getLast?.map ActionEventRecord.eventHash
  eventHash := eventHash

/-- What appending a draft leaves: the service with a sealed record of it, or
the service as it was when the draft cannot be hashed. -/
inductive Appends (rt : Runtime) (service : ActionService) (draft : EventDraft) (hashed : Prop) :
    Option ActionEventRecord -> ActionService -> Prop
  | logged (eventHash : Text) (genuine : SealedEvent rt (draft.record service eventHash)) :
      Appends rt service draft hashed (some (draft.record service eventHash))
        (service.push (draft.record service eventHash))
  | unhashable (broken : ¬ hashed) : Appends rt service draft hashed none service

/-- A call that ends by appending an event, without touching the state after it. -/
theorem appendEvent_appends {A : Type} (rt : Runtime) (service : ActionService) (draft : EventDraft)
    (rest : ActionService -> Unit -> Outcome PyError ActionService A) (hashed : Prop)
    (keeps : forall state value, (rest state value).state = state)
    (visible : hashed -> forall cause, ((service.appendEvent rt draft.eventId draft.tenantId
      draft.actionId draft.eventType draft.actorRole draft.payload).andThen rest).result ≠
        .error (.hashing cause)) :
    Exists fun entry => Appends rt service draft hashed entry
      ((service.appendEvent rt draft.eventId draft.tenantId draft.actionId draft.eventType
        draft.actorRole draft.payload).andThen rest).state := by
  rw [Outcome.andThen_state _ _ keeps]
  cases sealing : hashJson rt (ActionService.eventBody draft.eventId draft.tenantId draft.actionId
      draft.eventType draft.actorRole draft.payload
      ((service.eventsOf draft.actionId).getLast?.map ActionEventRecord.eventHash)) with
  | error cause =>
      have raised : service.appendEvent rt draft.eventId draft.tenantId draft.actionId draft.eventType
          draft.actorRole draft.payload = .raises service (.hashing cause) := by
        simp only [ActionService.appendEvent, sealing]
      rw [raised] at visible ⊢
      exact ⟨none, .unhashable (fun sound => visible sound cause rfl)⟩
  | ok eventHash =>
      have returned : service.appendEvent rt draft.eventId draft.tenantId draft.actionId
          draft.eventType draft.actorRole draft.payload =
            .returns (service.push (draft.record service eventHash)) () := by
        simp only [ActionService.appendEvent, sealing]
        rfl
      rw [returned]
      exact ⟨_, .logged eventHash sealing⟩

/-! ## The five effects -/

def Verdict.draft (verdict : Verdict) (eventId tenantId actionId : Text) : EventDraft where
  eventId := eventId
  tenantId := tenantId
  actionId := actionId
  eventType := verdict.eventType
  actorRole := verdict.actorRole
  payload := verdict.payload

/-- The verdict that a deciding call gives on an action of a tenant. Each case carries the
status that the call requires, so a verdict is never given twice on one status that is left. -/
inductive Decides (rt : Runtime) (action : StoredAction) : Call -> Text -> Text -> Verdict -> Prop
  | approval (draws : Draws) (actionId : Text) (approval : ApprovalRequest) (role tenantId : Text)
      (currentState : Option OrderState) (waiting : action.decision.status = .approvalRequired) :
      Decides rt action (.approve draws actionId approval role tenantId currentState) actionId tenantId
        (ActionService.approvalVerdict action approval role currentState)
  | rejection (draws : Draws) (actionId : Text) (rejection : ApprovalRequest) (tenantId : Text)
      (waiting : action.decision.status = .approvalRequired) :
      Decides rt action (.reject draws actionId rejection tenantId) actionId tenantId
        (ActionService.rejectionVerdict rejection)
  | verification (draws : Draws) (actionId tenantId : Text) (state : Option OrderState)
      (isFinalAttempt : Bool) (open_ : ActionService.verifiable action.decision.status = true) :
      Decides rt action (.verify draws actionId tenantId state isFinalAttempt) actionId tenantId
        (ActionService.verificationVerdict rt state isFinalAttempt)

/-- The stored form of a new proposal. -/
def createdAction (rt : Runtime) (draws : Draws) (proposal : ActionProposal) (tenantId : Text)
    (context : PolicyContext) : StoredAction where
  proposal := proposal
  decision := evaluatePolicy rt (ActionService.newActionId draws) proposal context
  proposerRole := context.role
  tenantId := tenantId

def policyDraft (draws : Draws) (action : StoredAction) : EventDraft where
  eventId := ActionService.newEventId draws 1
  tenantId := action.tenantId
  actionId := ActionService.newActionId draws
  eventType := "policy_evaluated"
  actorRole := action.proposerRole
  payload := ActionService.policyPayload action.decision action.proposal

def refusalDraft (draws : Draws) (tenantId actionId reason : Text) : EventDraft where
  eventId := ActionService.newEventId draws 0
  tenantId := tenantId
  actionId := actionId
  eventType := "precondition_failed"
  actorRole := "system"
  payload := ActionService.refusalPayload reason

def acceptanceDraft (draws : Draws) (tenantId actionId : Text) (receipt : ExecutionReceipt) :
    EventDraft where
  eventId := ActionService.newEventId draws 0
  tenantId := tenantId
  actionId := actionId
  eventType := "provider_accepted"
  actorRole := "system"
  payload := Dict.ofList receipt.dump

/-- The provider call for a stored action. -/
def StoredAction.providerCall (action : StoredAction) (actionId : Text) : ProviderCall where
  actionId := actionId
  orderId := action.proposal.orderId
  idempotencyKey := action.proposal.idempotencyKey

/-- An execute call has passed every guard and reaches the provider. Whether the provider
accepts is not said, nor whether the event can be appended afterwards. -/
structure ReachesProvider (service : ActionService) (actionId tenantId : Text)
    (currentState : Option OrderState) (action : StoredAction) : Prop where
  found : service.actions.get? actionId = some action
  owner : action.tenantId = tenantId
  unused : service.executions.get? (tenantId, action.proposal.idempotencyKey) = none
  approved : action.decision.status = .approved
  cancels : action.proposal.actionType = .cancelOrder
  eligible : ActionService.ineligibleReason currentState = none

/-- What a call does to the service, with the event it appends. All five operations come down
to these five effects, and every invariant is proved for them and not for the code. -/
inductive Effect (rt : Runtime) (service : ActionService) (hashed : Prop) :
    Call -> Option ActionEventRecord -> ActionService -> Prop
  | idle (call : Call) : Effect rt service hashed call none service
  | created (draws : Draws) (proposal : ActionProposal) (tenantId : Text) (context : PolicyContext)
      (entry : Option ActionEventRecord) (after : ActionService)
      (unclaimed : service.idempotency.get? (tenantId, proposal.idempotencyKey) = none)
      (appends : Appends rt
        (service.register (ActionService.newActionId draws)
          (createdAction rt draws proposal tenantId context))
        (policyDraft draws (createdAction rt draws proposal tenantId context)) hashed entry after) :
      Effect rt service hashed (.propose draws proposal tenantId context) entry after
  | settled (call : Call) (actionId tenantId : Text) (action : StoredAction) (verdict : Verdict)
      (entry : Option ActionEventRecord) (after : ActionService)
      (found : service.actions.get? actionId = some action) (owner : action.tenantId = tenantId)
      (decides : Decides rt action call actionId tenantId verdict)
      (appends : Appends rt (service.withDecision actionId action verdict.status verdict.reason)
        (verdict.draft call.eventId tenantId actionId) hashed entry after) :
      Effect rt service hashed call entry after
  | refused (draws : Draws) (actionId tenantId : Text) (cancelOrder : CancelOrderExecutor)
      (currentState : Option OrderState) (action : StoredAction) (reason : Text)
      (entry : Option ActionEventRecord) (after : ActionService)
      (found : service.actions.get? actionId = some action) (owner : action.tenantId = tenantId)
      (approved : action.decision.status = .approved)
      (ineligible : ActionService.ineligibleReason currentState = some reason)
      (appends : Appends rt service (refusalDraft draws tenantId actionId reason) hashed entry after) :
      Effect rt service hashed (.execute draws actionId tenantId cancelOrder currentState) entry after
  | accepted (draws : Draws) (actionId tenantId : Text) (cancelOrder : CancelOrderExecutor)
      (currentState : Option OrderState) (action : StoredAction) (receipt : ExecutionReceipt)
      (entry : Option ActionEventRecord) (after : ActionService)
      (reaches : ReachesProvider service actionId tenantId currentState action)
      (accepts : cancelOrder (action.providerCall actionId) = .ok receipt)
      (appends : Appends rt (service.accept actionId tenantId action receipt)
        (acceptanceDraft draws tenantId actionId receipt) hashed entry after) :
      Effect rt service hashed (.execute draws actionId tenantId cancelOrder currentState) entry after

section Inversion

variable (rt : Runtime) (service : ActionService)

theorem propose_effect (draws : Draws) (proposal : ActionProposal) (tenantId : Text)
    (context : PolicyContext) (hashed : Prop)
    (visible : hashed -> forall cause,
      (service.propose rt draws proposal tenantId context).result ≠ .error (.hashing cause)) :
    Exists fun entry => Effect rt service hashed (.propose draws proposal tenantId context) entry
      (service.propose rt draws proposal tenantId context).state := by
  unfold ActionService.propose at visible ⊢
  cases claimed : service.idempotency.get? (tenantId, proposal.idempotencyKey) with
  | some existingId =>
      refine ⟨none, ?_⟩
      simp only
      cases service.actions.get? existingId with
      | some action => exact .idle _
      | none => exact .idle _
  | none =>
      simp only [claimed] at visible ⊢
      by_cases dumped : proposal.dumps rt = true
      · rw [if_pos dumped] at visible ⊢
        rcases appendEvent_appends rt _
          (policyDraft draws (createdAction rt draws proposal tenantId context)) _ hashed
          (fun _ _ => rfl) visible with ⟨entry, appends⟩
        exact ⟨entry, .created draws proposal tenantId context entry _ claimed appends⟩
      · rw [if_neg dumped] at visible ⊢
        exact ⟨none, .created draws proposal tenantId context none _ claimed
          (.unhashable (fun sound => visible sound _ rfl))⟩

/-- The pair of updates that ends every deciding operation. -/
theorem settle_effect (call : Call) (actionId tenantId : Text) (action : StoredAction)
    (verdict : Verdict) (hashed : Prop)
    (found : service.getAction actionId tenantId = .ok action)
    (decides : Decides rt action call actionId tenantId verdict)
    (visible : hashed -> forall cause,
      (service.settle rt call.eventId tenantId actionId action verdict).result ≠
        .error (.hashing cause)) :
    Exists fun entry => Effect rt service hashed call entry
      (service.settle rt call.eventId tenantId actionId action verdict).state := by
  rcases (service.getAction_ok_iff actionId tenantId action).mp found with ⟨stored, owner⟩
  rcases appendEvent_appends rt _ (verdict.draft call.eventId tenantId actionId) _
    hashed (fun _ _ => rfl) visible with ⟨entry, appends⟩
  exact ⟨entry, .settled call actionId tenantId action verdict entry _ stored owner decides appends⟩

theorem approve_effect (draws : Draws) (actionId : Text) (approval : ApprovalRequest)
    (role tenantId : Text) (currentState : Option OrderState) (hashed : Prop)
    (visible : hashed -> forall cause,
      (service.approve rt draws actionId approval role tenantId currentState).result ≠
        .error (.hashing cause)) :
    Exists fun entry => Effect rt service hashed
      (.approve draws actionId approval role tenantId currentState) entry
      (service.approve rt draws actionId approval role tenantId currentState).state := by
  unfold ActionService.approve at visible ⊢
  cases found : service.getAction actionId tenantId with
  | error error => exact ⟨none, .idle _⟩
  | ok action =>
      simp only [found] at visible ⊢
      by_cases waiting : action.decision.status = .approvalRequired
      · rw [if_neg (not_not.mpr waiting)] at visible ⊢
        exact settle_effect rt service _ actionId tenantId action _ hashed found
          (.approval draws actionId approval role tenantId currentState waiting) visible
      · rw [if_pos waiting]
        exact ⟨none, .idle _⟩

theorem reject_effect (draws : Draws) (actionId : Text) (rejection : ApprovalRequest)
    (tenantId : Text) (hashed : Prop)
    (visible : hashed -> forall cause,
      (service.reject rt draws actionId rejection tenantId).result ≠ .error (.hashing cause)) :
    Exists fun entry => Effect rt service hashed (.reject draws actionId rejection tenantId) entry
      (service.reject rt draws actionId rejection tenantId).state := by
  unfold ActionService.reject at visible ⊢
  cases found : service.getAction actionId tenantId with
  | error error => exact ⟨none, .idle _⟩
  | ok action =>
      simp only [found] at visible ⊢
      by_cases waiting : action.decision.status = .approvalRequired
      · rw [if_neg (not_not.mpr waiting)] at visible ⊢
        exact settle_effect rt service _ actionId tenantId action _ hashed found
          (.rejection draws actionId rejection tenantId waiting) visible
      · rw [if_pos waiting]
        exact ⟨none, .idle _⟩

theorem verify_effect (draws : Draws) (actionId tenantId : Text) (state : Option OrderState)
    (isFinalAttempt : Bool) (hashed : Prop)
    (visible : hashed -> forall cause,
      (service.verify rt draws actionId tenantId state isFinalAttempt).result ≠
        .error (.hashing cause)) :
    Exists fun entry => Effect rt service hashed
      (.verify draws actionId tenantId state isFinalAttempt) entry
      (service.verify rt draws actionId tenantId state isFinalAttempt).state := by
  unfold ActionService.verify at visible ⊢
  cases found : service.getAction actionId tenantId with
  | error error => exact ⟨none, .idle _⟩
  | ok action =>
      simp only [found] at visible ⊢
      by_cases closed : ActionService.verifiable action.decision.status = false
      · rw [if_pos closed]
        exact ⟨none, .idle _⟩
      · have pending := Bool.eq_true_of_not_eq_false closed
        rw [if_neg closed] at visible ⊢
        exact settle_effect rt service _ actionId tenantId action _ hashed found
          (.verification draws actionId tenantId state isFinalAttempt pending) visible

/-- What is left of `execute` once every guard is passed. -/
theorem execute_reaching (draws : Draws) {actionId tenantId : Text}
    (cancelOrder : CancelOrderExecutor) {currentState : Option OrderState} {action : StoredAction}
    (reaches : ReachesProvider service actionId tenantId currentState action) :
    service.execute rt draws actionId tenantId cancelOrder currentState =
      ⟨some (action.providerCall actionId),
        match cancelOrder (action.providerCall actionId) with
        | .error message => .raises service (.executor message)
        | .ok receipt =>
            ((service.accept actionId tenantId action receipt).appendEvent rt
              (ActionService.newEventId draws 0) tenantId actionId "provider_accepted" "system"
              (Dict.ofList receipt.dump)).andThen (fun state _ => .returns state receipt)⟩ := by
  have found := (service.getAction_ok_iff actionId tenantId action).mpr ⟨reaches.found, reaches.owner⟩
  simp only [ActionService.execute, found, reaches.unused, reaches.approved, reaches.cancels,
    reaches.eligible, ne_eq, not_true_eq_false, if_false]
  rfl

/-- The provider is called exactly for the calls that pass every guard. A call that is
refused, or answered from a receipt, calls nobody. -/
theorem execute_invoked_iff (draws : Draws) (actionId tenantId : Text)
    (cancelOrder : CancelOrderExecutor) (currentState : Option OrderState)
    (providerCall : ProviderCall) :
    (service.execute rt draws actionId tenantId cancelOrder currentState).invoked =
        some providerCall <->
      Exists fun action => ReachesProvider service actionId tenantId currentState action ∧
        action.providerCall actionId = providerCall := by
  constructor
  · intro invoked
    unfold ActionService.execute at invoked
    cases found : service.getAction actionId tenantId with
    | error error => simp [found] at invoked
    | ok action =>
        rcases (service.getAction_ok_iff actionId tenantId action).mp found with ⟨stored, owner⟩
        refine ⟨action, ?_⟩
        cases unused : service.executions.get? (tenantId, action.proposal.idempotencyKey) with
        | some existing => simp [found, unused] at invoked
        | none =>
            by_cases approved : action.decision.status = .approved
            · by_cases cancels : action.proposal.actionType = .cancelOrder
              · cases eligible : ActionService.ineligibleReason currentState with
                | some reason => simp [found, unused, approved, cancels, eligible] at invoked
                | none =>
                    simp only [found, unused, approved, cancels, eligible, ne_eq, not_true_eq_false,
                      if_false, Option.some.injEq] at invoked
                    exact ⟨⟨stored, owner, unused, approved, cancels, eligible⟩, invoked⟩
              · simp [found, unused, approved, cancels] at invoked
            · simp [found, unused, approved] at invoked
  · rintro ⟨action, reaches, rfl⟩
    rw [execute_reaching rt service draws cancelOrder reaches]

theorem execute_effect (draws : Draws) (actionId tenantId : Text)
    (cancelOrder : CancelOrderExecutor) (currentState : Option OrderState) (hashed : Prop)
    (visible : hashed -> forall cause,
      (service.execute rt draws actionId tenantId cancelOrder currentState).outcome.result ≠
        .error (.hashing cause)) :
    Exists fun entry => Effect rt service hashed
      (.execute draws actionId tenantId cancelOrder currentState) entry
      (service.execute rt draws actionId tenantId cancelOrder currentState).outcome.state := by
  unfold ActionService.execute at visible ⊢
  cases found : service.getAction actionId tenantId with
  | error error => exact ⟨none, .idle _⟩
  | ok action =>
      rcases (service.getAction_ok_iff actionId tenantId action).mp found with ⟨stored, owner⟩
      simp only [found] at visible ⊢
      cases unused : service.executions.get? (tenantId, action.proposal.idempotencyKey) with
      | some existing => exact ⟨none, .idle _⟩
      | none =>
          simp only [unused] at visible ⊢
          by_cases approved : action.decision.status = .approved
          · rw [if_neg (not_not.mpr approved)] at visible ⊢
            by_cases cancels : action.proposal.actionType = .cancelOrder
            · rw [if_neg (not_not.mpr cancels)] at visible ⊢
              cases eligible : ActionService.ineligibleReason currentState with
              | some reason =>
                  simp only [eligible] at visible ⊢
                  rcases appendEvent_appends rt service
                    (refusalDraft draws tenantId actionId reason) _ hashed (fun _ _ => rfl) visible with
                      ⟨entry, appends⟩
                  exact ⟨entry, .refused draws actionId tenantId cancelOrder currentState action reason
                    entry _ stored owner approved eligible appends⟩
              | none =>
                  simp only [eligible] at visible ⊢
                  cases accepts : cancelOrder (action.providerCall actionId) with
                  | error message =>
                      simp only [StoredAction.providerCall] at accepts
                      rw [accepts]
                      exact ⟨none, .idle _⟩
                  | ok receipt =>
                      have returned := accepts
                      simp only [StoredAction.providerCall] at returned
                      simp only [returned] at visible ⊢
                      rcases appendEvent_appends rt _
                        (acceptanceDraft draws tenantId actionId receipt) _ hashed (fun _ _ => rfl)
                        visible with ⟨entry, appends⟩
                      exact ⟨entry, .accepted draws actionId tenantId cancelOrder currentState action
                        receipt entry _ ⟨stored, owner, unused, approved, cancels, eligible⟩ accepts
                        appends⟩
            · rw [if_pos cancels]
              exact ⟨none, .idle _⟩
          · rw [if_pos approved]
            exact ⟨none, .idle _⟩

/-- Every call has one of the five effects. Every invariant of the service is proved from
this, without a look at the calls themselves. -/
theorem perform_effect (call : Call) :
    Exists fun entry => Effect rt service (service.Hashed rt call) call entry
      (service.perform rt call).state := by
  cases call with
  | propose draws proposal tenantId context =>
      exact propose_effect rt service draws proposal tenantId context _
        (fun sound cause raised => sound cause ((Outcome.map_result_error _ _ _).mpr raised))
  | approve draws actionId approval role tenantId currentState =>
      exact approve_effect rt service draws actionId approval role tenantId currentState _
        (fun sound cause raised => sound cause ((Outcome.map_result_error _ _ _).mpr raised))
  | reject draws actionId rejection tenantId =>
      exact reject_effect rt service draws actionId rejection tenantId _
        (fun sound cause raised => sound cause ((Outcome.map_result_error _ _ _).mpr raised))
  | execute draws actionId tenantId cancelOrder currentState =>
      exact execute_effect rt service draws actionId tenantId cancelOrder currentState _
        (fun sound cause raised => sound cause ((Outcome.map_result_error _ _ _).mpr raised))
  | verify draws actionId tenantId state isFinalAttempt =>
      exact verify_effect rt service draws actionId tenantId state isFinalAttempt _
        (fun sound cause raised => sound cause ((Outcome.map_result_error _ _ _).mpr raised))

/-! ## Accepted writes -/

/-- An accepted request is an execute call that passed every guard and whose
executor returned. -/
theorem accepts?_iff (call : Call) (providerCall : ProviderCall) (receipt : ExecutionReceipt) :
    service.accepts? rt call = some (providerCall, receipt) <->
      Exists fun draws => Exists fun actionId => Exists fun tenantId => Exists fun cancelOrder =>
        Exists fun currentState => Exists fun action =>
          call = .execute draws actionId tenantId cancelOrder currentState ∧
          ReachesProvider service actionId tenantId currentState action ∧
          action.providerCall actionId = providerCall ∧ cancelOrder providerCall = .ok receipt := by
  constructor
  · intro accepted
    cases call with
    | propose draws proposal tenantId context => cases accepted
    | approve draws actionId approval role tenantId currentState => cases accepted
    | reject draws actionId rejection tenantId => cases accepted
    | verify draws actionId tenantId state isFinalAttempt => cases accepted
    | execute draws actionId tenantId cancelOrder currentState =>
        rcases Option.bind_eq_some_iff.mp accepted with ⟨made, invoked, answered⟩
        rcases (execute_invoked_iff rt service _ _ _ _ _ _).mp invoked with ⟨action, reaches, rfl⟩
        cases accepts : cancelOrder (action.providerCall actionId) with
        | error message => simp [accepts] at answered
        | ok result =>
            simp only [accepts, Option.some.injEq, Prod.mk.injEq] at answered
            rcases answered with ⟨rfl, rfl⟩
            exact ⟨draws, actionId, tenantId, cancelOrder, currentState, action, rfl, reaches, rfl, accepts⟩
  · rintro ⟨draws, actionId, tenantId, cancelOrder, currentState, action, rfl, reaches, rfl, accepts⟩
    have invoked := (execute_invoked_iff rt service draws actionId tenantId cancelOrder currentState _).mpr
      ⟨action, reaches, rfl⟩
    simp only [ActionService.accepts?, ActionService.invokes, invoked, Option.bind_some, accepts]

section Frame

variable (eventId tenantId actionId eventType actorRole : Text) (payload : Dict Text Json)

theorem appendEvent_frame :
    let after := (service.appendEvent rt eventId tenantId actionId eventType actorRole payload).state
    after.actions = service.actions ∧ after.idempotency = service.idempotency ∧
      after.executions = service.executions := by
  unfold ActionService.appendEvent
  dsimp only
  split
  · exact ⟨rfl, rfl, rfl⟩
  · exact ⟨rfl, rfl, rfl⟩

end Frame

/-- An accepted execution stores the accepted action and its receipt, whether
or not its event can be hashed. -/
theorem execute_accepting (draws : Draws) {actionId tenantId : Text}
    {cancelOrder : CancelOrderExecutor} {currentState : Option OrderState} {action : StoredAction}
    {receipt : ExecutionReceipt}
    (reaches : ReachesProvider service actionId tenantId currentState action)
    (accepts : cancelOrder (action.providerCall actionId) = .ok receipt) :
    let after := (service.perform rt (.execute draws actionId tenantId cancelOrder currentState)).state
    after.actions = (service.accept actionId tenantId action receipt).actions ∧
      after.executions = (service.accept actionId tenantId action receipt).executions := by
  dsimp only [ActionService.perform]
  rw [execute_reaching rt service draws cancelOrder reaches, accepts]
  dsimp only
  rw [Outcome.map_state, Outcome.andThen_state _ _ (fun _ _ => rfl)]
  rcases appendEvent_frame rt
    (service.accept actionId tenantId action receipt) (ActionService.newEventId draws 0) tenantId
    actionId "provider_accepted" "system" (Dict.ofList receipt.dump) with ⟨actions, _, executions⟩
  exact ⟨actions, executions⟩

end Inversion

/-! ## A cancellation from proposal to verification

One concrete run for the witnesses of general results. -/

def sampleProposal : ActionProposal where
  actionType := .cancelOrder
  targetEntity := "order:1001"
  parameters := Dict.empty
  reason := "Customer asked to cancel."
  evidenceRefs := []
  idempotencyKey := "cancel-1001"
  expectedStateVersion := 1
  expectedAttributes := Dict.ofList [("status", .str "open")]
  valid := by decide +kernel

def sampleContext : PolicyContext := ⟨"operations", "demo_proposal", none, none, false⟩

def sampleOrder (stateVersion : Int) (status : Text) : OrderState where
  tenantId := "demo"
  entityId := "1001"
  entityType := "order"
  stateVersion := stateVersion
  attributes := Dict.ofList [("status", ⟨.str status, ⟨0⟩, .utc 0, "fresh", [], some "shopify"⟩)]
  commitId := "commit_1"

def sampleApproval : ApprovalRequest := ⟨"Approved.", by decide +kernel⟩

/-- A provider that accepts every call and echoes its key. -/
def sampleExecutor : CancelOrderExecutor := fun call =>
  .ok ⟨call.actionId, .providerAccepted, "shopify", "request-1", call.idempotencyKey⟩

theorem sampleExecutor_echoes : sampleExecutor.Echoes := by
  intro call receipt answered
  cases answered
  rfl

def sampleId : Text := ActionService.newActionId (.numbered 1)

def samplePropose : Call := .propose (.numbered 1) sampleProposal "demo" sampleContext

def sampleApprove : Call :=
  .approve (.numbered 3) sampleId sampleApproval "operations" "demo" (some (sampleOrder 1 "open"))

def sampleExecute : Call :=
  .execute (.numbered 4) sampleId "demo" sampleExecutor (some (sampleOrder 1 "open"))

def sampleVerify : Call :=
  .verify (.numbered 5) sampleId "demo" (some (sampleOrder 2 "cancelled")) true

def sampleCalls : List Call := [samplePropose, sampleApprove, sampleExecute, sampleVerify]

/-- The service after the first calls of the sample run. -/
def sampleService (calls : List Call) : ActionService :=
  ((actionSystem .plain).trace .fresh calls).2

theorem sample_admitted : (hashedActionSystem .plain).AdmitsAll .fresh sampleCalls := by
  decide +kernel

/-- Each front of the sample calls is a run. -/
theorem sample_run (calls : List Call) (front : calls <+: sampleCalls) :
    (hashedActionSystem .plain).Run ((actionSystem .plain).trace .fresh calls).1
      (sampleService calls) := by
  have run := System.run_trace calls rfl (sample_admitted.front front)
  rwa [hashedActionSystem, System.restrict_trace] at run

/-- The sample action once it is approved. -/
def sampleApproved : StoredAction where
  proposal := sampleProposal
  decision := ⟨sampleId, .approved, "Approved.", some "approval.operations.cancel_order", "mvp-1",
    some "operations"⟩
  proposerRole := "operations"
  tenantId := "demo"

theorem sample_approved :
    (sampleService [samplePropose, sampleApprove]).actions.get? sampleId = some sampleApproved := by
  decide +kernel

end Actions
end RealityLayer
