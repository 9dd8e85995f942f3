import Mathlib.Data.Option.Defs
import RealityLayer.Actions.Audit

namespace RealityLayer
namespace Actions

open Foundation Python RealityGit WorldState

/-!
# Restoring a service from its events

A live call changes the maps directly and appends an event; `restore` changes the
maps of another service from the event alone.  The two are independent
implementations of one state machine.  `Mirrors` relates a live service with a
restored copy: equal event lists, keys and receipts, and stored actions that
agree except for the status and the reason.

Statuses follow the events instead.  `StatusLink` says what the copy's status is:
the live one, or `precondition_failed` where the last event refused an execution
and the live action stayed approved.  That one event type means two things to
the live service and only one to `restore`.
-/

/-! ## The events a call adds -/

/-- The events of the later service that the earlier one does not hold. They are told apart
by their identifiers, as `restore` does. -/
def ActionService.added (before after : ActionService) : List ActionEventRecord :=
  after.events.values.flatten.filter (fun event => decide (event.eventId ∉ before.eventIds))

theorem ActionService.eventId_mem {service : ActionService} {event : ActionEventRecord}
    (member : event ∈ service.events.values.flatten) : event.eventId ∈ service.eventIds :=
  List.mem_map_of_mem member

theorem ActionService.added_self (service : ActionService) : service.added service = [] := by
  refine List.filter_eq_nil_iff.mpr (fun event member => ?_)
  simp [ActionService.eventId_mem member]

theorem ActionService.mem_flatten_of_eventsOf {service : ActionService} {actionId : Text}
    {event : ActionEventRecord} (member : event ∈ service.eventsOf actionId) :
    event ∈ service.events.values.flatten := by
  unfold ActionService.eventsOf at member
  cases found : service.events.get? actionId with
  | none => simp [found] at member
  | some events =>
      have stored := (service.events.mem_entries_iff actionId events).mpr found
      simp only [found, Option.getD_some] at member
      exact List.mem_flatten.mpr ⟨events, List.mem_map_of_mem (f := Prod.snd) stored, member⟩

section Added

variable {rt : Runtime} {service base after : ActionService} {hashed : Prop} {call : Call}
variable {draft : EventDraft} {entry : Option ActionEventRecord}

theorem Appends.added (appends : Appends rt base draft hashed entry after)
    (events : base.events = service.events) (fresh : draft.eventId ∉ service.eventIds) :
    service.added after = entry.toList := by
  cases appends with
  | unhashable broken =>
      unfold ActionService.added
      rw [events]
      exact service.added_self
  | logged eventHash genuine =>
      have unmet : forall event, event ∈ base.events.values.flatten ->
          decide (event.eventId ∉ service.eventIds) = false := by
        intro event member
        rw [events] at member
        simp [ActionService.eventId_mem member]
      unfold ActionService.added ActionService.push
      rw [Dict.filter_flatten_set _ _ _ _ unmet, List.filter_append]
      have earlier : (base.eventsOf (draft.record base eventHash).actionId).filter
          (fun event => decide (event.eventId ∉ service.eventIds)) = [] :=
        List.filter_eq_nil_iff.mpr (fun event member => by
          simp [unmet event (ActionService.mem_flatten_of_eventsOf member)])
      rw [earlier]
      simp [EventDraft.record, fresh]

/-- The events a call adds are its entry, and nothing else. There is at most one for each call. -/
theorem Effect.added (effect : Effect rt service hashed call entry after)
    (fresh : service.DrawsFresh call) : service.added after = entry.toList := by
  cases effect with
  | idle => exact service.added_self
  | created draws proposal tenantId context _ _ unclaimed appends => exact appends.added rfl fresh.1
  | settled call actionId tenantId action verdict _ _ found owner decides appends =>
      exact appends.added rfl fresh.1
  | refused draws actionId tenantId cancelOrder currentState action reason _ _ found owner approved
      ineligible appends => exact appends.added rfl fresh.1
  | accepted draws actionId tenantId cancelOrder currentState action receipt _ _ reaches accepts
      appends => exact appends.added rfl fresh.1

end Added

/-! ## What `restore` does with each kind of event -/

section Restore

variable (rt : Runtime) (copy : ActionService) (event : ActionEventRecord)

theorem restore_policy {proposal : ActionProposal} {decision : ActionDecision}
    (unseen : event.eventId ∉ copy.eventIds) (kind : event.eventType = "policy_evaluated")
    (payload : event.payload = ActionService.policyPayload decision proposal) :
    copy.restore rt event = .returns ((copy.register event.actionId
      ⟨proposal.jsonMode, decision, event.actorRole, event.tenantId⟩).push event) () := by
  have proposed : event.payload.get? "proposal" = some (.dict proposal.dump) := by
    rw [payload]
    rfl
  have decided : event.payload.get? "decision" = some (.dict decision.dump) := by
    rw [payload]
    rfl
  unfold ActionService.restore
  rw [if_neg unseen, if_neg (not_not.mpr kind), ActionService.restorePolicy, proposed, decided]
  simp only [Option.bind_some, Json.entries?, ActionProposal.modelValidate_dump,
    ActionDecision.modelValidate_dump]

theorem restore_status {action : StoredAction} {status : ActionStatus}
    (unseen : event.eventId ∉ copy.eventIds) (later : event.eventType ≠ "policy_evaluated")
    (known : copy.actions.get? event.actionId = some action)
    (maps : ActionService.restoredStatus? event.eventType = some status)
    (plain : event.eventType ≠ "provider_accepted") :
    copy.restore rt event = .returns ((copy.withDecision event.actionId action status
      (ActionService.restoredReason rt event)).push event) () := by
  unfold ActionService.restore
  rw [if_neg unseen, if_pos later, known]
  simp only [ActionService.applyRestoredEvent, maps, if_neg plain]

theorem restore_acceptance {action : StoredAction} {receipt : ExecutionReceipt}
    (unseen : event.eventId ∉ copy.eventIds) (kind : event.eventType = "provider_accepted")
    (known : copy.actions.get? event.actionId = some action)
    (payload : event.payload = Dict.ofList receipt.dump) :
    Exists fun reason => copy.restore rt event = .returns
      { ((copy.withDecision event.actionId action .providerAccepted reason).push event) with
        executions := copy.executions.set (event.tenantId, receipt.idempotencyKey) receipt } () := by
  have later : event.eventType ≠ "policy_evaluated" := by
    rw [kind]
    decide
  have maps : ActionService.restoredStatus? event.eventType = some .providerAccepted := by
    rw [kind]
    decide
  have entries : event.payload.entries = receipt.dump := by
    rw [payload]
    exact Dict.entries_ofList _ (by simp [ExecutionReceipt.dump])
  refine ⟨ActionService.restoredReason rt event, ?_⟩
  unfold ActionService.restore
  rw [if_neg unseen, if_pos later, known]
  simp only [ActionService.applyRestoredEvent, maps, if_pos kind, entries,
    ExecutionReceipt.modelValidate_dump, ActionService.push_executions,
    ActionService.withDecision_executions]

/-- Restoring an event of this type sets the status and touches nothing else. Policy events
and acceptances are excluded, since those also claim a key or record a receipt. -/
def SetsStatus (eventType : Text) (status : ActionStatus) : Prop :=
  ActionService.restoredStatus? eventType = some status ∧ eventType ≠ "policy_evaluated" ∧
    eventType ≠ "provider_accepted"

instance (eventType : Text) (status : ActionStatus) : Decidable (SetsStatus eventType status) :=
  inferInstanceAs (Decidable (_ ∧ _ ∧ _))

theorem verificationStatus_sets (observed : Json) (isFinalAttempt : Bool) :
    SetsStatus (ActionService.verificationStatus observed isFinalAttempt).value
      (ActionService.verificationStatus observed isFinalAttempt) := by
  unfold ActionService.verificationStatus
  repeat' split
  all_goals decide

/-- The status table of `restore` agrees with every verdict. Without this a restart would
change statuses. -/
theorem Decides.sets {action : StoredAction} {call : Call} {actionId tenantId : Text}
    {verdict : Verdict} (decides : Decides rt action call actionId tenantId verdict) :
    SetsStatus verdict.eventType verdict.status := by
  cases decides with
  | approval draws actionId approval role tenantId currentState waiting =>
      unfold ActionService.approvalVerdict
      split
      · exact (by decide : SetsStatus "approval_denied" .denied)
      · split
        · exact (by decide : SetsStatus "precondition_failed" .preconditionFailed)
        · exact (by decide : SetsStatus "approved" .approved)
  | rejection draws actionId rejection tenantId waiting =>
      exact (by decide : SetsStatus "rejected" .rejected)
  | verification draws actionId tenantId state isFinalAttempt verifiable =>
      exact verificationStatus_sets _ isFinalAttempt

end Restore

/-! ## A live service and its restored copy -/

/-- A stored action and its copy: equal up to status and reason, with proposals
related by `same`. -/
structure StoredAction.Mirrors (same : ActionProposal -> ActionProposal -> Prop)
    (live copy : StoredAction) : Prop where
  proposal : same live.proposal copy.proposal
  proposerRole : copy.proposerRole = live.proposerRole
  tenantId : copy.tenantId = live.tenantId
  decision : copy.decision = { live.decision with
    status := copy.decision.status, reason := copy.decision.reason }

structure ActionService.Mirrors (same : ActionProposal -> ActionProposal -> Prop)
    (live copy : ActionService) : Prop where
  events : copy.events = live.events
  idempotency : copy.idempotency = live.idempotency
  executions : copy.executions = live.executions
  actions : forall actionId, Option.Rel (StoredAction.Mirrors same) (live.actions.get? actionId)
    (copy.actions.get? actionId)

def lastType (events : List ActionEventRecord) : Option Text :=
  events.getLast?.map ActionEventRecord.eventType

/-- The copy's status, as far as the live status and the last event tell it. The two differ
in one case only: a refused execution leaves the live action approved, and fails the copy. -/
structure StatusLink (events : List ActionEventRecord) (live copy : ActionStatus) : Prop where
  refused : lastType events = some ("precondition_failed" : Text) -> copy = .preconditionFailed
  otherwise : copy = live ∨ live = .approved ∧ lastType events = some ("precondition_failed" : Text)

/-- Every copied status is linked to the live one. -/
def StatusesLinked (live copy : ActionService) : Prop :=
  forall actionId action copied, live.actions.get? actionId = some action ->
    copy.actions.get? actionId = some copied ->
      StatusLink (live.eventsOf actionId) action.decision.status copied.decision.status

theorem lastType_snoc (events : List ActionEventRecord) (event : ActionEventRecord) :
    lastType (events ++ [event]) = some event.eventType := by
  simp [lastType]

theorem StatusLink.of_sets {event : ActionEventRecord} {status : ActionStatus}
    (sets : SetsStatus event.eventType status) (events : List ActionEventRecord) :
    StatusLink (events ++ [event]) status status where
  refused := by
    intro last
    rw [lastType_snoc, Option.some.injEq] at last
    have maps := sets.1
    rw [last] at maps
    exact (Option.some.inj maps).symm
  otherwise := Or.inl rfl

theorem StatusLink.of_other {event : ActionEventRecord}
    (different : event.eventType ≠ "precondition_failed") (events : List ActionEventRecord)
    (status : ActionStatus) : StatusLink (events ++ [event]) status status where
  refused := by
    intro last
    rw [lastType_snoc, Option.some.injEq] at last
    exact absurd last different
  otherwise := Or.inl rfl

/-- The two services may differ in one action; this is its form in the second. Nothing is
said of its form in the first: it may not have been there. -/
structure Rebinds (before after : ActionService) (actionId : Text) (action : StoredAction) : Prop where
  here : after.actions.get? actionId = some action
  elsewhere : forall other, other ≠ actionId ->
    after.actions.get? other = before.actions.get? other

theorem Rebinds.of_set {before after : ActionService} {actionId : Text} {action : StoredAction}
    (sets : after.actions = before.actions.set actionId action) :
    Rebinds before after actionId action where
  here := by rw [sets, Dict.get?_set_self]
  elsewhere := fun other different => by rw [sets, Dict.get?_set_of_ne _ _ different]

section Mirror

variable {rt : Runtime} {same : ActionProposal -> ActionProposal -> Prop}
variable {live copy after next : ActionService} {actionId : Text} {action copied : StoredAction}

theorem StoredAction.Mirrors.decided (mirrors : action.Mirrors same copied)
    (status copiedStatus : ActionStatus) (reason copiedReason : Text) :
    StoredAction.Mirrors same
      { action with decision := { action.decision with status := status, reason := reason } }
      { copied with decision := { copied.decision with
          status := copiedStatus, reason := copiedReason } } where
  proposal := mirrors.proposal
  proposerRole := mirrors.proposerRole
  tenantId := mirrors.tenantId
  decision := congrArg (fun decision : ActionDecision =>
    { decision with status := copiedStatus, reason := copiedReason }) mirrors.decision

/-- The copy holds a mirror of every stored action. -/
theorem ActionService.Mirrors.of_stored (mirrors : live.Mirrors same copy)
    (stored : live.actions.get? actionId = some action) :
    Exists fun copied => copy.actions.get? actionId = some copied ∧ action.Mirrors same copied := by
  have related := mirrors.actions actionId
  rw [stored] at related
  cases found : copy.actions.get? actionId with
  | none =>
      rw [found] at related
      cases related
  | some copied =>
      rw [found] at related
      cases related with
      | some alike => exact ⟨copied, rfl, alike⟩

theorem ActionService.Mirrors.rebind (mirrors : live.Mirrors same copy)
    (liveRebinds : Rebinds live after actionId action) (copyRebinds : Rebinds copy next actionId copied)
    (alike : action.Mirrors same copied) (other : Text) :
    Option.Rel (StoredAction.Mirrors same) (after.actions.get? other) (next.actions.get? other) := by
  by_cases equal : other = actionId
  · subst equal
    rw [liveRebinds.here, copyRebinds.here]
    exact .some alike
  · rw [liveRebinds.elsewhere other equal, copyRebinds.elsewhere other equal]
    exact mirrors.actions other

theorem StatusesLinked.rebind (linked : StatusesLinked live copy)
    (liveRebinds : Rebinds live after actionId action) (copyRebinds : Rebinds copy next actionId copied)
    (events : forall other, other ≠ actionId -> after.eventsOf other = live.eventsOf other)
    (link : StatusLink (after.eventsOf actionId) action.decision.status copied.decision.status) :
    StatusesLinked after next := by
  intro other stored copiedOther held copiedHeld
  by_cases equal : other = actionId
  · subst equal
    rw [liveRebinds.here] at held
    rw [copyRebinds.here] at copiedHeld
    cases held
    cases copiedHeld
    exact link
  · rw [liveRebinds.elsewhere other equal] at held
    rw [copyRebinds.elsewhere other equal] at copiedHeld
    rw [events other equal]
    exact linked other stored copiedOther held copiedHeld

theorem eventsOf_congr {first second : ActionService} (events : first.events = second.events) :
    first.eventsOf = second.eventsOf := by
  funext actionId
  simp only [ActionService.eventsOf, events]

theorem push_events_congr {first second : ActionService} (events : first.events = second.events)
    (event : ActionEventRecord) : (first.push event).events = (second.push event).events := by
  simp only [ActionService.push, eventsOf_congr events, events]

/-- Both services rebind the action of a pushed event. -/
theorem StatusesLinked.pushed {base : ActionService} {event : ActionEventRecord}
    (linked : StatusesLinked live copy) (events : base.events = live.events)
    (liveRebinds : Rebinds live (base.push event) event.actionId action)
    (copyRebinds : Rebinds copy next event.actionId copied)
    (link : StatusLink (live.eventsOf event.actionId ++ [event]) action.decision.status
      copied.decision.status) :
    StatusesLinked (base.push event) next := by
  refine linked.rebind liveRebinds copyRebinds (fun other different => ?_) ?_
  · rw [ActionService.eventsOf_push, if_neg different, eventsOf_congr events]
  · rw [ActionService.eventsOf_push, if_pos rfl, eventsOf_congr events]
    exact link

theorem restoreAll_single {event : ActionEventRecord}
    (restored : copy.restore rt event = .returns next ()) :
    ActionService.restoreAll rt copy [event] = .returns next () := by
  simp only [ActionService.restoreAll, Outcome.forEach, restored, Outcome.andThen,
    Outcome.returns_result, Outcome.returns_state]

end Mirror

/-! ## One call and the restoration of its event -/

/-- The calls that claim a key or record a receipt. What they leave in the service without an
event is lost with the process. -/
def Call.recordsKey : Call -> Prop
  | .propose _ _ _ _ => True
  | .execute _ _ _ _ _ => True
  | .approve _ _ _ _ _ _ => False
  | .reject _ _ _ _ => False
  | .verify _ _ _ _ _ => False

instance : (call : Call) -> Decidable call.recordsKey
  | .propose _ _ _ _ => isTrue trivial
  | .execute _ _ _ _ _ => isTrue trivial
  | .approve _ _ _ _ _ _ => isFalse id
  | .reject _ _ _ _ => isFalse id
  | .verify _ _ _ _ _ => isFalse id

/-- What a call must satisfy for its event to carry its effect. Its event must be appended at
all, its proposal must survive the dump up to `same`, and the receipt must name the key that
was claimed. -/
structure Restorable (rt : Runtime) (same : ActionProposal -> ActionProposal -> Prop)
    (live : ActionService) (call : Call) (hashed : Prop) : Prop where
  durable : call.recordsKey -> hashed
  proposals : forall draws proposal tenantId context,
    call = .propose draws proposal tenantId context -> same proposal proposal.jsonMode
  echoes : forall providerCall receipt, live.accepts? rt call = some (providerCall, receipt) ->
    receipt.idempotencyKey = providerCall.idempotencyKey

section Step

variable {rt : Runtime} {same : ActionProposal -> ActionProposal -> Prop}
variable {live copy after : ActionService} {hashed : Prop} {call : Call}
variable {entry : Option ActionEventRecord}

/-- Restoring the event of a call takes a copy of the service before the call to
a copy of the service after it. -/
theorem ActionService.Mirrors.step (mirrors : live.Mirrors same copy)
    (effect : Effect rt live hashed call entry after) (fresh : live.DrawsFresh call)
    (restorable : Restorable rt same live call hashed) :
    Exists fun next => ActionService.restoreAll rt copy entry.toList = .returns next () ∧
      after.Mirrors same next ∧ (hashed -> StatusesLinked live copy -> StatusesLinked after next) := by
  have unseen : call.eventId ∉ copy.eventIds := by
    have ids : copy.eventIds = live.eventIds := by
      unfold ActionService.eventIds
      rw [mirrors.events]
    rw [ids]
    exact fresh.1
  cases effect with
  | idle => exact ⟨copy, rfl, mirrors, fun _ linked => linked⟩
  | created draws proposal tenantId context _ _ unclaimed appends =>
      rcases appends.of_hashed (restorable.durable trivial) with ⟨eventHash, rfl, rfl⟩
      refine ⟨_, restoreAll_single (restore_policy rt copy _ unseen rfl rfl), ⟨?_, ?_, ?_, ?_⟩, ?_⟩
      · exact push_events_congr mirrors.events _
      · exact congrArg (fun keys : Dict (Text × Text) Text => keys.set _ _) mirrors.idempotency
      · exact mirrors.executions
      · exact mirrors.rebind (.of_set rfl) (.of_set rfl)
          ⟨restorable.proposals draws proposal tenantId context rfl, rfl, rfl, rfl⟩
      · intro _ linked
        exact linked.pushed rfl (.of_set rfl) (.of_set rfl) (.of_other
          (by decide : ("policy_evaluated" : Text) ≠ "precondition_failed") _ _)
  | settled call actionId tenantId action verdict _ _ found owner decides appends =>
      rcases mirrors.of_stored found with ⟨copied, known, alike⟩
      cases appends with
      | unhashable broken =>
          refine ⟨copy, rfl, ⟨mirrors.events, mirrors.idempotency, mirrors.executions, ?_⟩,
            fun sound => absurd sound broken⟩
          apply mirrors.rebind (.of_set rfl) ⟨known, fun _ _ => rfl⟩
          exact alike.decided _ copied.decision.status _ copied.decision.reason
      | logged eventHash genuine =>
          rcases decides.sets with ⟨maps, later, plain⟩
          refine ⟨_, restoreAll_single (restore_status rt copy _ unseen later known maps plain),
            ⟨push_events_congr mirrors.events _, mirrors.idempotency, mirrors.executions, ?_⟩, ?_⟩
          · exact mirrors.rebind (.of_set rfl) (.of_set rfl) (alike.decided _ _ _ _)
          · intro _ linked
            exact linked.pushed rfl (.of_set rfl) (.of_set rfl) (.of_sets decides.sets _)
  | refused draws actionId tenantId cancelOrder currentState action reason _ _ found owner approved
      ineligible appends =>
      rcases mirrors.of_stored found with ⟨copied, known, alike⟩
      rcases appends.of_hashed (restorable.durable trivial) with ⟨eventHash, rfl, rfl⟩
      have sets : SetsStatus "precondition_failed" .preconditionFailed := by decide
      refine ⟨_, restoreAll_single (restore_status rt copy _ unseen sets.2.1 known sets.1 sets.2.2),
        ⟨push_events_congr mirrors.events _, mirrors.idempotency, mirrors.executions, ?_⟩, ?_⟩
      · apply mirrors.rebind ⟨found, fun _ _ => rfl⟩ (.of_set rfl)
        exact alike.decided action.decision.status _ action.decision.reason _
      · intro _ linked
        refine linked.pushed rfl ⟨found, fun _ _ => rfl⟩ (.of_set rfl) ⟨fun _ => rfl, Or.inr ?_⟩
        exact ⟨approved, lastType_snoc _ _⟩
  | accepted draws actionId tenantId cancelOrder currentState action receipt _ _ reaches accepts
      appends =>
      rcases mirrors.of_stored reaches.found with ⟨copied, known, alike⟩
      rcases appends.of_hashed (restorable.durable trivial) with ⟨eventHash, rfl, rfl⟩
      rcases restore_acceptance rt copy
        ((acceptanceDraft draws tenantId actionId receipt).record
          (live.accept actionId tenantId action receipt) eventHash) unseen rfl known rfl with
          ⟨reason, restored⟩
      have echoed : receipt.idempotencyKey = action.proposal.idempotencyKey :=
        restorable.echoes _ _ ((accepts?_iff rt live _ _ _).mpr ⟨draws, actionId, tenantId, cancelOrder,
          currentState, action, rfl, reaches, rfl, accepts⟩)
      refine ⟨_, restoreAll_single restored, ⟨push_events_congr mirrors.events _, mirrors.idempotency,
        ?_, ?_⟩, ?_⟩
      · change copy.executions.set (tenantId, receipt.idempotencyKey) receipt =
          live.executions.set (tenantId, action.proposal.idempotencyKey) receipt
        rw [mirrors.executions, echoed]
      · exact mirrors.rebind (.of_set rfl) (.of_set rfl) (alike.decided _ _ _ _)
      · intro _ linked
        exact linked.pushed rfl (.of_set rfl) (.of_set rfl) (.of_other
          (by decide : ("provider_accepted" : Text) ≠ "precondition_failed") _ _)

end Step

/-! ## Restart fidelity -/

/-- What is compared of a stored action. The reason is left out: the restored one is read
from the payload or is the event type. -/
structure ActionView where
  proposal : ActionProposal
  proposerRole : Text
  tenantId : Text
  status : ActionStatus
  requiredRole : Option Text
deriving DecidableEq

def StoredAction.view (action : StoredAction) : ActionView where
  proposal := action.proposal
  proposerRole := action.proposerRole
  tenantId := action.tenantId
  status := action.decision.status
  requiredRole := action.decision.requiredRole

/-- The restored service holds what the live one held: the actions up to their reasons, the
event lists, and both maps by which a repeated request is recognised. -/
structure Fidelity (live restored : ActionService) : Prop where
  actions : forall actionId, (restored.actions.get? actionId).map StoredAction.view =
    (live.actions.get? actionId).map StoredAction.view
  events : forall actionId, restored.eventsOf actionId = live.eventsOf actionId
  idempotency : restored.idempotency = live.idempotency
  executions : restored.executions = live.executions

/-- The events of a run, in the order they were appended. It is the table of the action
events, without its positions. -/
def eventLog (history : List (Step ActionService Call)) : List ActionEventRecord :=
  System.logOf (fun step => step.before.added step.after) history

/-- The call's proposal has finite numbers under keys that are valid Unicode, so that its dump
is the proposal itself, and its receipt names its key. -/
structure Faithful (rt : Runtime) (service : ActionService) (call : Call) : Prop where
  unaltered : forall draws proposal tenantId context,
    call = .propose draws proposal tenantId context -> proposal.unaltered = true
  echoes : forall providerCall receipt, service.accepts? rt call = some (providerCall, receipt) ->
    receipt.idempotencyKey = providerCall.idempotencyKey

def faithfulActionSystem (rt : Runtime) : System ActionService Call :=
  (hashedActionSystem rt).restrict (Faithful rt)

/-- A copy with linked statuses is faithful exactly when no approved action's
last event refused an execution. -/
theorem Fidelity.iff_of_mirrors {live copy : ActionService} (mirrors : live.Mirrors Eq copy)
    (linked : StatusesLinked live copy) :
    Fidelity live copy <-> forall actionId action, live.actions.get? actionId = some action ->
      action.decision.status = .approved ->
        lastType (live.eventsOf actionId) ≠ some ("precondition_failed" : Text) := by
  constructor
  · intro fidelity actionId action stored approved refused
    rcases mirrors.of_stored stored with ⟨copied, known, _⟩
    have views := fidelity.actions actionId
    rw [stored, known, Option.map_some, Option.map_some, Option.some.injEq] at views
    have status : copied.decision.status = action.decision.status := congrArg ActionView.status views
    rw [(linked actionId action copied stored known).refused refused, approved] at status
    cases status
  · intro unrefused
    refine ⟨fun actionId => ?_, fun actionId => by rw [eventsOf_congr mirrors.events],
      mirrors.idempotency, mirrors.executions⟩
    have related := mirrors.actions actionId
    cases stored : live.actions.get? actionId with
    | none =>
        rw [stored] at related
        cases known : copy.actions.get? actionId with
        | none => rfl
        | some copied =>
            rw [known] at related
            cases related
    | some action =>
        rcases mirrors.of_stored stored with ⟨copied, known, alike⟩
        have status : copied.decision.status = action.decision.status := by
          rcases (linked actionId action copied stored known).otherwise with equal | ⟨approved, refused⟩
          · exact equal
          · exact absurd refused (unrefused actionId action stored approved)
        have role : copied.decision.requiredRole = action.decision.requiredRole := by
          rw [alike.decision]
        rw [known, Option.map_some, Option.map_some, Option.some.injEq]
        unfold StoredAction.view
        rw [← alike.proposal, alike.proposerRole, alike.tenantId, status, role]

/-- A copy of a live service, with its statuses. The proposals are compared by equality here,
so every dump has to be exact. -/
structure FaithfulCopy (live copy : ActionService) : Prop where
  mirrors : live.Mirrors Eq copy
  linked : StatusesLinked live copy

theorem FaithfulCopy.fresh : FaithfulCopy .fresh .fresh where
  mirrors := ⟨rfl, rfl, rfl, fun _ => .none⟩
  linked := by
    intro actionId action copied stored
    cases stored

theorem FaithfulCopy.step {rt : Runtime} {live copy : ActionService} {call : Call}
    (faithful : FaithfulCopy live copy) (admitted : (faithfulActionSystem rt).admits live call) :
    Exists fun next => ActionService.restoreAll rt copy (live.added (live.perform rt call).state) =
      .returns next () ∧ FaithfulCopy (live.perform rt call).state next := by
  rcases admitted with ⟨⟨fresh, hashed⟩, unaltered, echoes⟩
  rcases perform_effect rt live call with ⟨entry, effect⟩
  have restorable : Restorable rt Eq live call (live.Hashed rt call) := {
    durable := fun _ => hashed
    proposals := fun draws proposal tenantId context same =>
      (proposal.jsonMode_of_unaltered (unaltered draws proposal tenantId context same)).symm
    echoes := echoes }
  rcases faithful.mirrors.step effect fresh restorable with ⟨next, restored, mirrored, links⟩
  refine ⟨next, ?_, mirrored, links hashed faithful.linked⟩
  rw [effect.added fresh]
  exact restored

/-- Restoring the event log of a run in which every event can be dumped and hashed, every
proposal is dumped as it is and every receipt names its key always succeeds.  The
restored service is faithful exactly when no approved action's last event
refused an execution. -/
theorem restart_fidelity_iff (rt : Runtime) {history : List (Step ActionService Call)}
    {service : ActionService} (run : (faithfulActionSystem rt).Run history service) :
    Exists fun restored =>
      ActionService.restoreAll rt .fresh (eventLog history) = .returns restored () ∧
      (Fidelity service restored <->
        forall actionId action, service.actions.get? actionId = some action ->
          action.decision.status = .approved ->
            lastType (service.eventsOf actionId) ≠ some ("precondition_failed" : Text)) := by
  have copied : Exists fun restored =>
      ActionService.restoreAll rt .fresh (eventLog history) = .returns restored () ∧
        FaithfulCopy service restored := by
    apply System.replay_mirrors (fun step => step.before.added step.after) _ .fresh FaithfulCopy run
    · rintro _ rfl
      exact .fresh
    · intro earlier live call copy before faithful admitted
      exact faithful.step admitted
  rcases copied with ⟨restored, returned, faithful⟩
  exact ⟨restored, returned, Fidelity.iff_of_mirrors faithful.mirrors faithful.linked⟩

theorem sample_faithful (calls : List Call) (front : calls <+: sampleCalls) :
    (faithfulActionSystem .plain).Run ((actionSystem .plain).trace .fresh calls).1
      (sampleService calls) := by
  have allows : forall call, call ∈ calls -> forall service, Faithful .plain service call := by
    intro call member service
    have known : call ∈ sampleCalls := front.subset member
    constructor
    · rintro draws proposal tenantId context rfl
      rcases List.mem_cons.mp known with same | later
      · cases same
        decide
      · simp [sampleApprove, sampleExecute, sampleVerify] at later
    · intro providerCall receipt accepted
      rcases (accepts?_iff _ _ _ _ _).mp accepted with
          ⟨draws, actionId, tenantId, cancelOrder, currentState, action, rfl, _, _, accepts⟩
      simp [sampleCalls, samplePropose, sampleApprove, sampleExecute, sampleVerify] at known
      rcases known with ⟨_, _, _, rfl, _⟩
      cases accepts
      rfl
  have run := System.run_trace calls rfl ((sample_admitted.front front).restrict allows)
  rwa [System.restrict_trace, hashedActionSystem, System.restrict_trace] at run

/-- The finished sample run restarts faithfully. -/
theorem restart_fidelity_iff_sample :
    Exists fun restored =>
      ActionService.restoreAll .plain .fresh
        (eventLog ((actionSystem .plain).trace .fresh sampleCalls).1) = .returns restored () ∧
      Fidelity (sampleService sampleCalls) restored := by
  rcases restart_fidelity_iff .plain (sample_faithful sampleCalls List.prefix_rfl) with
      ⟨restored, returned, faithful⟩
  refine ⟨restored, returned, faithful.mpr ?_⟩
  intro actionId action stored approved
  have only : (sampleService sampleCalls).actions.entries.all
      (fun entry => decide (entry.2.decision.status ≠ .approved)) = true := by
    decide +kernel
  have member := ((sampleService sampleCalls).actions.mem_entries_iff actionId action).mpr stored
  exact absurd approved (of_decide_eq_true (List.all_eq_true.mp only _ member))

/-- An execute call that the approved sample action's target order refuses. -/
def sampleRefuse : Call :=
  .execute (.numbered 4) sampleId "demo" sampleExecutor (some (sampleOrder 2 "cancelled"))

/-- After a refused execution the live action is approved and the restored one
has failed its preconditions. -/
theorem refused_execution_not_restored :
    Exists fun history => Exists fun service => Exists fun restored =>
      (actionSystem .plain).Run history service ∧
      ActionService.restoreAll .plain .fresh (eventLog history) = .returns restored () ∧
      ¬ Fidelity service restored := by
  have run := System.run_append_trace [sampleRefuse]
    (sample_run [samplePropose, sampleApprove] ⟨_, rfl⟩).ofRestrict ⟨by decide +kernel, trivial⟩
  refine ⟨_, _, _, run, Outcome.eq_returns (by decide +kernel), fun fidelity => ?_⟩
  exact absurd (fidelity.actions sampleId) (by decide +kernel)

end Actions
end RealityLayer
