import RealityLayer.Actions.Authorization
import RealityLayer.Actions.Catchup
import RealityLayer.Actions.Proof

namespace RealityLayer
namespace Actions

open Foundation Python RealityGit WorldState

/-!
# What warrants an action

A process comes by its actions in two ways: a call makes them, or `restore` rebuilds them
from rows that another process wrote.  A warrant says what is known of every action and of
every event, wherever it is held.  A restore keeps it when each event warrants what
`restore` makes of it.  A call keeps it when the action that the call rewrites and the
event that it logs are warranted.
-/

/-- What is known of an action under its identifier, and of an event. It is left open here
what that is: the rules below say which calls any such knowledge survives. -/
structure Warrant where
  action : Text -> StoredAction -> Prop
  event : ActionEventRecord -> Prop

/-- Everything that the service holds is warranted: its actions and the events of its lists.
The receipts need no warrant of their own, since they are read from events. -/
structure Warrant.Covers (warrant : Warrant) (service : ActionService) : Prop where
  actions : forall actionId action, service.actions.get? actionId = some action ->
    warrant.action actionId action
  events : forall event, service.Holds event -> warrant.event event

/-- A warranted event warrants what `restore` makes of it: the action that a policy event
registers, and the status that any other event sets. -/
structure Warrant.Restorable (warrant : Warrant) : Prop where
  policy : forall event proposal decision, warrant.event event ->
    event.eventType = "policy_evaluated" -> ReadsPolicy event proposal decision ->
      warrant.action event.actionId ⟨proposal, decision, event.actorRole, event.tenantId⟩
  status : forall event action status reason, warrant.event event ->
    ActionService.restoredStatus? event.eventType = some status ->
      warrant.action event.actionId action ->
        warrant.action event.actionId
          { action with decision := { action.decision with status, reason } }

theorem Warrant.Covers.fresh (warrant : Warrant) : warrant.Covers .fresh where
  actions := fun _ _ stored => by cases stored
  events := fun _ held => by rcases held with ⟨_, member⟩; cases member

/-- A warrant that says less covers what the stronger one covers. -/
theorem Warrant.Covers.mono {warrant wider : Warrant} {service : ActionService}
    (covers : warrant.Covers service)
    (actions : forall actionId action, warrant.action actionId action -> wider.action actionId action)
    (events : forall event, warrant.event event -> wider.event event) : wider.Covers service where
  actions := fun actionId action stored => actions actionId action (covers.actions actionId action stored)
  events := fun event held => events event (covers.events event held)

/-! ## Restoring -/

section Restore

variable {rt : Runtime} {warrant : Warrant} {service base : ActionService} {event : ActionEventRecord}

theorem entries?_eq_some {value : Option Json} {entries : List (Text × Json)}
    (found : value.bind Json.entries? = some entries) : value = some (.dict entries) := by
  rcases Option.bind_eq_some_iff.mp found with ⟨json, held, read⟩
  cases json <;> cases read
  exact held

/-- Rewriting one action and logging one event keeps the warrant. -/
theorem Warrant.Covers.pushed (covers : warrant.Covers service)
    (events : base.events = service.events) (logged : warrant.event event)
    (actions : forall actionId action, base.actions.get? actionId = some action ->
      service.actions.get? actionId = some action ∨ warrant.action actionId action) :
    warrant.Covers (base.push event) where
  actions := by
    intro actionId action stored
    rcases actions actionId action stored with before | rewritten
    · exact covers.actions actionId action before
    · exact rewritten
  events := by
    intro other held
    rcases ActionService.holds_push.mp held with earlier | rfl
    · exact covers.events other ((holds_congr events).mp earlier)
    · exact logged

/-- Storing one action leaves the others as they were. -/
theorem stored_set {allowed : Text -> StoredAction -> Prop} {actions : Dict Text StoredAction}
    {written : Text} {action : StoredAction} (warranted : allowed written action)
    (actionId : Text) (held : StoredAction)
    (stored : (actions.set written action).get? actionId = some held) :
    actions.get? actionId = some held ∨ allowed actionId held := by
  by_cases same : actionId = written
  · subst same
    rw [Dict.get?_set_self] at stored
    cases stored
    exact Or.inr warranted
  · rw [Dict.get?_set_of_ne _ _ same] at stored
    exact Or.inl stored

theorem Warrant.Covers.restorePolicy (covers : warrant.Covers service)
    (restorable : warrant.Restorable) (logged : warrant.event event)
    (kind : event.eventType = "policy_evaluated") :
    warrant.Covers (service.restorePolicy event).state := by
  unfold ActionService.restorePolicy
  split
  next proposalData decisionData proposed decided =>
      cases readProposal : ActionProposal.modelValidate proposalData with
      | error error => exact covers
      | ok proposal =>
          cases readDecision : ActionDecision.modelValidate decisionData with
          | error error => exact covers
          | ok decision =>
              have reads : ReadsPolicy event proposal decision :=
                ⟨⟨proposalData, entries?_eq_some proposed, readProposal⟩,
                  ⟨decisionData, entries?_eq_some decided, readDecision⟩⟩
              exact covers.pushed rfl logged
                (stored_set (restorable.policy event proposal decision logged kind reads))
  next => exact covers

theorem Warrant.Covers.restore (covers : warrant.Covers service) (restorable : warrant.Restorable)
    (logged : warrant.event event) : warrant.Covers (service.restore rt event).state := by
  unfold ActionService.restore
  by_cases seen : event.eventId ∈ service.eventIds
  · rw [if_pos seen]
    exact covers
  rw [if_neg seen]
  by_cases kind : event.eventType = "policy_evaluated"
  · rw [if_neg (not_not.mpr kind)]
    exact covers.restorePolicy restorable logged kind
  rw [if_pos kind]
  cases stored : service.actions.get? event.actionId with
  | none => exact covers
  | some action =>
      have warranted := covers.actions _ _ stored
      have applied : warrant.Covers ((service.applyRestoredEvent rt action event).push event) := by
        apply covers.pushed (applyRestoredEvent_frame rt service action event).1 logged
        unfold ActionService.applyRestoredEvent
        cases status : ActionService.restoredStatus? event.eventType with
        | none => exact fun _ _ => Or.inl
        | some status =>
            exact stored_set (restorable.status event action _ _ logged ‹_› warranted)
      dsimp only
      by_cases accepted : event.eventType = "provider_accepted"
      · rw [if_pos accepted]
        cases ExecutionReceipt.modelValidate event.payload.entries with
        | error error => exact applied
        | ok receipt => exact ⟨applied.actions, applied.events⟩
      · rw [if_neg accepted]
        exact applied

/-- Restoring warranted events, in any order, keeps the warrant. A restored action comes from
an event, and the event was warranted. -/
theorem Warrant.Covers.restoreAll (restorable : warrant.Restorable)
    (rows : List ActionEventRecord) (covers : warrant.Covers service)
    (logged : forall row, row ∈ rows -> warrant.event row) :
    warrant.Covers (service.restoreAll rt rows).state := by
  unfold ActionService.restoreAll
  induction rows generalizing service with
  | nil => exact covers
  | cons row rest ih =>
      have restored : warrant.Covers (service.restore rt row).state :=
        covers.restore restorable (logged row List.mem_cons_self)
      unfold Outcome.forEach Outcome.andThen
      cases (service.restore rt row).result with
      | error error => exact restored
      | ok _ => exact ih restored (fun later member => logged later (List.mem_cons_of_mem _ member))

end Restore

/-! ## Calling -/

/-- The action that a call rewrites, as it leaves it. A refused execution rewrites none, and
neither does a call that is answered from what is stored. -/
inductive Rewrites (rt : Runtime) (service : ActionService) : Call -> Text -> StoredAction -> Prop
  | created (draws : Draws) (proposal : ActionProposal) (tenantId : Text) (context : PolicyContext)
      (unclaimed : service.idempotency.get? (tenantId, proposal.idempotencyKey) = none) :
      Rewrites rt service (.propose draws proposal tenantId context)
        (ActionService.newActionId draws) (createdAction rt draws proposal tenantId context)
  | settled (call : Call) (actionId tenantId : Text) (action : StoredAction) (verdict : Verdict)
      (found : service.actions.get? actionId = some action) (owner : action.tenantId = tenantId)
      (decides : Decides rt action call actionId tenantId verdict) :
      Rewrites rt service call actionId
        { action with decision :=
          { action.decision with status := verdict.status, reason := verdict.reason } }
  | accepted (draws : Draws) (actionId tenantId : Text) (cancelOrder : CancelOrderExecutor)
      (currentState : Option OrderState) (action : StoredAction)
      (reaches : ReachesProvider service actionId tenantId currentState action) :
      Rewrites rt service (.execute draws actionId tenantId cancelOrder currentState) actionId
        { action with decision :=
          { action.decision with status := .providerAccepted, reason := "Provider accepted write." } }

/-- The event that a call logs: sealed, and telling how the proposal was judged, what was
decided, why the execution was refused, or which receipt the provider gave. -/
inductive Records (rt : Runtime) (service : ActionService) : Call -> ActionEventRecord -> Prop
  | created (draws : Draws) (proposal : ActionProposal) (tenantId : Text) (context : PolicyContext)
      (unclaimed : service.idempotency.get? (tenantId, proposal.idempotencyKey) = none)
      (event : ActionEventRecord) (genuine : SealedEvent rt event)
      (tells : Exists fun base => Exists fun eventHash => event =
        (policyDraft draws (createdAction rt draws proposal tenantId context)).record base eventHash) :
      Records rt service (.propose draws proposal tenantId context) event
  | settled (call : Call) (actionId tenantId : Text) (action : StoredAction) (verdict : Verdict)
      (found : service.actions.get? actionId = some action) (owner : action.tenantId = tenantId)
      (decides : Decides rt action call actionId tenantId verdict)
      (event : ActionEventRecord) (genuine : SealedEvent rt event)
      (tells : Exists fun base => Exists fun eventHash => event =
        (verdict.draft call.eventId tenantId actionId).record base eventHash) :
      Records rt service call event
  | refused (draws : Draws) (actionId tenantId : Text) (cancelOrder : CancelOrderExecutor)
      (currentState : Option OrderState) (reason : Text)
      (ineligible : ActionService.ineligibleReason currentState = some reason)
      (event : ActionEventRecord) (genuine : SealedEvent rt event)
      (tells : Exists fun base => Exists fun eventHash => event =
        (refusalDraft draws tenantId actionId reason).record base eventHash) :
      Records rt service (.execute draws actionId tenantId cancelOrder currentState) event
  | accepted (draws : Draws) (actionId tenantId : Text) (cancelOrder : CancelOrderExecutor)
      (currentState : Option OrderState) (action : StoredAction) (receipt : ExecutionReceipt)
      (reaches : ReachesProvider service actionId tenantId currentState action)
      (accepts : cancelOrder (action.providerCall actionId) = .ok receipt)
      (event : ActionEventRecord) (genuine : SealedEvent rt event)
      (tells : Exists fun base => Exists fun eventHash => event =
        (acceptanceDraft draws tenantId actionId receipt).record base eventHash) :
      Records rt service (.execute draws actionId tenantId cancelOrder currentState) event

section Calls

variable {rt : Runtime} {service after : ActionService} {hashed : Prop} {call : Call}
variable {entry : Option ActionEventRecord} {warrant : Warrant}

/-- An action after a call is the one before, or the one that the call rewrote. -/
theorem Effect.action_cases (effect : Effect rt service hashed call entry after) {actionId : Text}
    {action : StoredAction} (stored : after.actions.get? actionId = some action) :
    service.actions.get? actionId = some action ∨ Rewrites rt service call actionId action := by
  have cases_ : forall (actions : Dict Text StoredAction) (written : Text) (value : StoredAction),
      Rewrites rt service call written value ->
        (actions.set written value).get? actionId = some action ->
          actions.get? actionId = some action ∨ Rewrites rt service call actionId action :=
    fun actions written value rewrites =>
      stored_set rewrites actionId action
  cases effect with
  | idle => exact Or.inl stored
  | created draws proposal tenantId context entry after unclaimed appends =>
      rw [appends.actions] at stored
      exact cases_ _ _ _ (.created draws proposal tenantId context unclaimed) stored
  | settled call target tenantId held verdict entry after found owner decides appends =>
      rw [appends.actions] at stored
      exact cases_ _ _ _ (.settled call target tenantId held verdict found owner decides) stored
  | refused draws target tenantId cancelOrder currentState held reason entry after found owner
      approved ineligible appends =>
      rw [appends.actions] at stored
      exact Or.inl stored
  | accepted draws target tenantId cancelOrder currentState held receipt entry after reaches
      accepts appends =>
      rw [appends.actions] at stored
      exact cases_ _ _ _ (.accepted draws target tenantId cancelOrder currentState held reaches) stored

/-- What the event of a call records. -/
theorem Effect.entry_records {event : ActionEventRecord}
    (effect : Effect rt service hashed call (some event) after) : Records rt service call event := by
  cases effect with
  | created draws proposal tenantId context _ _ unclaimed appends =>
      rcases appends.of_entry with ⟨eventHash, same, genuine, rfl⟩
      exact .created draws proposal tenantId context unclaimed event genuine ⟨_, eventHash, same⟩
  | settled call actionId tenantId action verdict _ _ found owner decides appends =>
      rcases appends.of_entry with ⟨eventHash, same, genuine, rfl⟩
      exact .settled call actionId tenantId action verdict found owner decides event genuine
        ⟨_, eventHash, same⟩
  | refused draws actionId tenantId cancelOrder currentState action reason _ _ found owner approved
      ineligible appends =>
      rcases appends.of_entry with ⟨eventHash, same, genuine, rfl⟩
      exact .refused draws actionId tenantId cancelOrder currentState reason ineligible event genuine
        ⟨_, eventHash, same⟩
  | accepted draws actionId tenantId cancelOrder currentState action receipt _ _ reaches accepts
      appends =>
      rcases appends.of_entry with ⟨eventHash, same, genuine, rfl⟩
      exact .accepted draws actionId tenantId cancelOrder currentState action receipt reaches accepts
        event genuine ⟨_, eventHash, same⟩

/-- A verdict that approves comes from an approval by the required role. -/
theorem Decides.grants {action : StoredAction} {actionId tenantId : Text} {verdict : Verdict}
    (decides : Decides rt action call actionId tenantId verdict) (approved : verdict.status = .approved) :
    Exists fun draws => Exists fun approval => Exists fun role => Exists fun state =>
      call = .approve draws actionId approval role tenantId (some state) ∧
        action.decision.status = .approvalRequired ∧ some role = action.decision.requiredRole ∧
        MeetsPreconditions action.proposal state := by
  cases decides with
  | approval draws actionId approval role tenantId currentState waiting =>
      rcases (approvalVerdict_approved_iff action approval role currentState).mp approved with
        ⟨required, unfailed⟩
      rcases (checkPreconditions_none_iff action.proposal currentState).mp unfailed with
        ⟨state, rfl, meets⟩
      exact ⟨draws, approval, role, state, rfl, waiting, required, meets⟩
  | rejection draws actionId rejection tenantId waiting => cases approved
  | verification draws actionId tenantId state isFinalAttempt open_ =>
      exact absurd approved (verificationStatus_settles _ _).2

/-- The status that an event of a verdict stands for. -/
theorem Decides.status_of_type {action : StoredAction} {actionId tenantId : Text}
    {verdict : Verdict} {status : ActionStatus}
    (decides : Decides rt action call actionId tenantId verdict)
    (maps : ActionService.restoredStatus? verdict.eventType = some status) : verdict.status = status :=
  Option.some.inj (decides.sets.1.symm.trans maps)

theorem approvalVerdict_actorRole (action : StoredAction) (approval : ApprovalRequest) (role : Text)
    (currentState : Option OrderState) :
    (ActionService.approvalVerdict action approval role currentState).actorRole = role := by
  unfold ActionService.approvalVerdict
  split
  · rfl
  · split <;> rfl

/-- A verdict that verifies comes from a verification that saw the order cancelled. -/
theorem Decides.verifies {action : StoredAction} {actionId tenantId : Text} {verdict : Verdict}
    (decides : Decides rt action call actionId tenantId verdict) (verified : verdict.status = .verified) :
    Exists fun draws => Exists fun state => Exists fun isFinal =>
      call = .verify draws actionId tenantId state isFinal ∧
        ActionService.verificationStatus (ActionService.observedStatus state) isFinal = .verified := by
  cases decides with
  | approval draws actionId approval role tenantId currentState waiting =>
      unfold ActionService.approvalVerdict at verified
      split at verified
      · cases verified
      · split at verified <;> cases verified
  | rejection draws actionId rejection tenantId waiting => cases verified
  | verification draws actionId tenantId state isFinal open_ =>
      exact ⟨draws, state, isFinal, rfl, verified⟩

/-- No verdict asks for an approval. -/
theorem Decides.not_waiting {action : StoredAction} {actionId tenantId : Text} {verdict : Verdict}
    (decides : Decides rt action call actionId tenantId verdict) :
    verdict.status ≠ .approvalRequired := by
  cases decides with
  | approval draws actionId approval role tenantId currentState waiting =>
      exact approvalVerdict_not_waiting action approval role currentState
  | rejection draws actionId rejection tenantId waiting => exact fun same => by cases same
  | verification draws actionId tenantId state isFinalAttempt open_ =>
      exact (verificationStatus_settles _ _).1

/-- Only a verification logs a verification. -/
theorem Decides.verification_of_type {action : StoredAction} {actionId tenantId : Text} {verdict : Verdict}
    (decides : Decides rt action call actionId tenantId verdict)
    (verification : verdict.eventType ∈ verificationEventTypes) :
    Exists fun draws => Exists fun state => Exists fun isFinalAttempt =>
      call = .verify draws actionId tenantId state isFinalAttempt ∧
        verdict = ActionService.verificationVerdict rt state isFinalAttempt := by
  cases decides with
  | approval draws actionId approval role tenantId currentState waiting =>
      unfold ActionService.approvalVerdict at verification
      split at verification
      · exact absurd verification (by decide : ("approval_denied" : Text) ∉ verificationEventTypes)
      · split at verification
        · exact absurd verification (by decide : ("precondition_failed" : Text) ∉ verificationEventTypes)
        · exact absurd verification (by decide : ("approved" : Text) ∉ verificationEventTypes)
  | rejection draws actionId rejection tenantId waiting =>
      exact absurd verification (by decide : ("rejected" : Text) ∉ verificationEventTypes)
  | verification draws actionId tenantId state isFinalAttempt open_ =>
      exact ⟨draws, state, isFinalAttempt, rfl, rfl⟩

/-- The event of a verification was logged by one, with its payload. -/
theorem Effect.verification_of_type {event : ActionEventRecord}
    (effect : Effect rt service hashed call (some event) after)
    (verification : event.isVerification = true) :
    Exists fun draws => Exists fun actionId => Exists fun state => Exists fun isFinalAttempt =>
      call = .verify draws actionId event.tenantId state isFinalAttempt ∧
        event.payload = (ActionService.verificationVerdict rt state isFinalAttempt).payload := by
  have kind : event.eventType ∈ verificationEventTypes := of_decide_eq_true verification
  cases effect with
  | created draws proposal tenantId context _ _ unclaimed appends =>
      rcases appends.of_entry with ⟨eventHash, rfl, genuine, rfl⟩
      exact absurd kind (by decide : ("policy_evaluated" : Text) ∉ verificationEventTypes)
  | settled call actionId tenantId action verdict _ _ found owner decides appends =>
      rcases appends.of_entry with ⟨eventHash, rfl, genuine, rfl⟩
      rcases decides.verification_of_type kind with ⟨draws, state, isFinalAttempt, rfl, rfl⟩
      exact ⟨draws, actionId, state, isFinalAttempt, rfl, rfl⟩
  | refused draws actionId tenantId cancelOrder currentState action reason _ _ found owner approved
      ineligible appends =>
      rcases appends.of_entry with ⟨eventHash, rfl, genuine, rfl⟩
      exact absurd kind (by decide : ("precondition_failed" : Text) ∉ verificationEventTypes)
  | accepted draws actionId tenantId cancelOrder currentState action receipt _ _ reaches accepts
      appends =>
      rcases appends.of_entry with ⟨eventHash, rfl, genuine, rfl⟩
      exact absurd kind (by decide : ("provider_accepted" : Text) ∉ verificationEventTypes)

/-- A call keeps a warrant for what it rewrites and for what it logs. What it leaves alone
was warranted before. -/
theorem Warrant.Covers.perform (covers : warrant.Covers service) (call : Call)
    (rewrites : forall actionId action, Rewrites rt service call actionId action ->
      warrant.action actionId action)
    (records : forall event, Records rt service call event -> warrant.event event) :
    warrant.Covers (service.perform rt call).state := by
  rcases perform_effect rt service call with ⟨entry, effect⟩
  constructor
  · intro actionId action stored
    rcases effect.action_cases stored with before | rewritten
    · exact covers.actions actionId action before
    · exact rewrites actionId action rewritten
  · intro event held
    rcases (effect.holds_iff event).mp held with before | rfl
    · exact covers.events event before
    · exact records event effect.entry_records

end Calls

end Actions
end RealityLayer
