import RealityLayer.Actions.Steps

namespace RealityLayer
namespace Actions

open Foundation Python RealityGit WorldState

/-!
# The event logs of a run

Each action has its own list of events, and the writer links a new event to the
last one in that list.  The lists are a family of logs in the sense of
`Foundation.GrowsBy`: one call appends at most one event, to the list of the
action the event names.

`AuditSound` is what every run keeps: each list is a linked chain of sealed
events, and each event carries the identifier and the tenant of a stored action.
The tenant part is where fresh action identifiers matter.  A repeated identifier
would replace the stored action and leave the events of the old one in place.
-/

/-! ## How one call changes the lists and the actions -/

section Steps

variable {rt : Runtime} {service after : ActionService} {hashed : Prop} {call : Call}
variable {draft : EventDraft} {entry : Option ActionEventRecord}

theorem Appends.grows (appends : Appends rt service draft hashed entry after) :
    GrowsBy ActionEventRecord.actionId entry service.eventsOf after.eventsOf := by
  cases appends with
  | logged eventHash genuine => exact .of_push (service.eventsOf_push _)
  | unhashable broken => exact GrowsBy.none_iff.mpr (fun _ => rfl)

theorem Appends.actions (appends : Appends rt service draft hashed entry after) :
    after.actions = service.actions := by
  cases appends with
  | logged eventHash genuine => rfl
  | unhashable broken => rfl

theorem Appends.eventsOf_same {event : ActionEventRecord}
    (appends : Appends rt service draft hashed (some event) after) :
    after.eventsOf draft.actionId = service.eventsOf draft.actionId ++ [event] := by
  cases appends with
  | logged eventHash genuine => exact (service.eventsOf_push _ _).trans (if_pos rfl)

theorem Appends.eventsOf_other (appends : Appends rt service draft hashed entry after)
    {other : Text} (different : other ≠ draft.actionId) :
    after.eventsOf other = service.eventsOf other := by
  cases appends with
  | logged eventHash genuine => exact (service.eventsOf_push _ _).trans (if_neg different)
  | unhashable broken => rfl

/-- A hashed call logs the event it drafts. -/
theorem Appends.of_hashed (appends : Appends rt service draft hashed entry after) (sound : hashed) :
    Exists fun eventHash => entry = some (draft.record service eventHash) ∧
      after = service.push (draft.record service eventHash) := by
  cases appends with
  | logged eventHash genuine => exact ⟨eventHash, rfl, rfl⟩
  | unhashable broken => exact False.elim (broken sound)

/-- The appended event is a sealed record of the draft. -/
theorem Appends.of_entry {event : ActionEventRecord}
    (appends : Appends rt service draft hashed (some event) after) :
    Exists fun eventHash => event = draft.record service eventHash ∧ SealedEvent rt event ∧
      after = service.push event := by
  cases appends with
  | logged eventHash genuine => exact ⟨eventHash, rfl, genuine, rfl⟩

theorem Effect.grows (effect : Effect rt service hashed call entry after) :
    GrowsBy ActionEventRecord.actionId entry service.eventsOf after.eventsOf := by
  cases effect with
  | idle => exact GrowsBy.none_iff.mpr (fun _ => rfl)
  | created draws proposal tenantId context entry after unclaimed appends => exact appends.grows
  | settled call actionId tenantId action verdict entry after found owner decides appends =>
      exact appends.grows
  | refused draws actionId tenantId cancelOrder currentState action reason entry after found owner
      approved ineligible appends => exact appends.grows
  | accepted draws actionId tenantId cancelOrder currentState action receipt entry after reaches
      accepts appends => exact appends.grows

/-- A later form of a stored action. Live operations write only the status and the reason of
its decision, so the proposal, the role that proposed it, the tenant and the required role of
the first decision are still there. -/
structure StoredAction.Continues (before after : StoredAction) : Prop where
  proposal : after.proposal = before.proposal
  proposerRole : after.proposerRole = before.proposerRole
  tenantId : after.tenantId = before.tenantId
  decision : after.decision = { before.decision with
    status := after.decision.status, reason := after.decision.reason }

theorem StoredAction.Continues.refl (action : StoredAction) : action.Continues action :=
  ⟨rfl, rfl, rfl, rfl⟩

theorem StoredAction.Continues.trans {first second third : StoredAction}
    (left : first.Continues second) (right : second.Continues third) : first.Continues third where
  proposal := right.proposal.trans left.proposal
  proposerRole := right.proposerRole.trans left.proposerRole
  tenantId := right.tenantId.trans left.tenantId
  decision := by
    have replaced := right.decision
    rw [left.decision] at replaced
    exact replaced

/-- The required role is part of what a decision keeps. -/
theorem StoredAction.Continues.requiredRole {before after : StoredAction}
    (continues : before.Continues after) :
    after.decision.requiredRole = before.decision.requiredRole := by
  rw [continues.decision]

theorem withDecision_keeps (service : ActionService) {actionId : Text} {action : StoredAction}
    (found : service.actions.get? actionId = some action) (status : ActionStatus) (reason : Text)
    {other : Text} {stored : StoredAction} (held : service.actions.get? other = some stored) :
    Exists fun later => (service.withDecision actionId action status reason).actions.get? other =
      some later ∧ stored.Continues later := by
  by_cases same : other = actionId
  · subst same
    rw [found] at held
    cases held
    exact ⟨_, Dict.get?_set_self _ _ _, rfl, rfl, rfl, rfl⟩
  · exact ⟨stored, (Dict.get?_set_of_ne _ _ same).trans held, .refl stored⟩

/-- A call keeps every stored action, up to its status and reason. Nothing in the service
ever removes one. -/
theorem Effect.keeps (effect : Effect rt service hashed call entry after)
    (fresh : service.DrawsFresh call) {actionId : Text} {action : StoredAction}
    (stored : service.actions.get? actionId = some action) :
    Exists fun later => after.actions.get? actionId = some later ∧ action.Continues later := by
  cases effect with
  | idle => exact ⟨action, stored, .refl action⟩
  | created draws proposal tenantId context entry after unclaimed appends =>
      have different : actionId ≠ ActionService.newActionId draws := by
        rintro rfl
        rw [fresh.2 _ rfl] at stored
        cases stored
      refine ⟨action, ?_, .refl action⟩
      rw [appends.actions]
      exact (Dict.get?_set_of_ne _ _ different).trans stored
  | settled call target tenantId held verdict entry after found owner decides appends =>
      rw [appends.actions]
      exact withDecision_keeps service found _ _ stored
  | refused draws target tenantId cancelOrder currentState held reason entry after found owner
      approved ineligible appends =>
      rw [appends.actions]
      exact ⟨action, stored, .refl action⟩
  | accepted draws target tenantId cancelOrder currentState held receipt entry after reaches
      accepts appends =>
      rw [appends.actions]
      exact withDecision_keeps service reaches.found _ _ stored

/-- The appended event continues its own list and names a stored action. -/
theorem Effect.entry_genuine {event : ActionEventRecord}
    (effect : Effect rt service hashed call (some event) after) :
    (event.previousEventHash = headAfter ActionEventRecord.eventHash none
        (service.eventsOf event.actionId) ∧ SealedEvent rt event) ∧
      event.eventId = call.eventId ∧
      Exists fun action => after.actions.get? event.actionId = some action ∧
        action.tenantId = event.tenantId := by
  have headNone : forall events : List ActionEventRecord,
      events.getLast?.map ActionEventRecord.eventHash =
        headAfter ActionEventRecord.eventHash none events := by
    intro events
    exact (Option.or_none).symm
  cases effect with
  | created draws proposal tenantId context _ _ unclaimed appends =>
      rcases appends.of_entry with ⟨eventHash, rfl, genuine, rfl⟩
      exact ⟨⟨headNone _, genuine⟩, rfl, _, Dict.get?_set_self _ _ _, rfl⟩
  | settled call actionId tenantId action verdict _ _ found owner decides appends =>
      rcases appends.of_entry with ⟨eventHash, rfl, genuine, rfl⟩
      exact ⟨⟨headNone _, genuine⟩, rfl, _, Dict.get?_set_self _ _ _, owner⟩
  | refused draws actionId tenantId cancelOrder currentState action reason _ _ found owner approved
      ineligible appends =>
      rcases appends.of_entry with ⟨eventHash, rfl, genuine, rfl⟩
      exact ⟨⟨headNone _, genuine⟩, rfl, action, found, owner⟩
  | accepted draws actionId tenantId cancelOrder currentState action receipt _ _ reaches accepts
      appends =>
      rcases appends.of_entry with ⟨eventHash, rfl, genuine, rfl⟩
      exact ⟨⟨headNone _, genuine⟩, rfl, _, Dict.get?_set_self _ _ _, reaches.owner⟩

end Steps

/-! ## The invariant -/

/-- Every list is a sealed chain, and its events carry their action's identity. The lists are
the only part of the service that a later reader can check by itself: the decisions beside
them are not hashed. -/
structure AuditSound (rt : Runtime) (service : ActionService) : Prop where
  linked : forall actionId, Linked ActionEventRecord.previousEventHash ActionEventRecord.eventHash
    (SealedEvent rt) none (service.eventsOf actionId)
  named : forall actionId event, event ∈ service.eventsOf actionId -> event.actionId = actionId
  owned : forall actionId event, event ∈ service.eventsOf actionId ->
    Exists fun action => service.actions.get? actionId = some action ∧
      action.tenantId = event.tenantId

theorem AuditSound.fresh (rt : Runtime) : AuditSound rt .fresh where
  linked := fun _ => trivial
  named := fun _ _ member => nomatch member
  owned := fun _ _ member => nomatch member

theorem AuditSound.step {rt : Runtime} {service after : ActionService} {hashed : Prop} {call : Call}
    {entry : Option ActionEventRecord} (sound : AuditSound rt service)
    (effect : Effect rt service hashed call entry after) (fresh : service.DrawsFresh call) :
    AuditSound rt after where
  linked := by
    apply effect.grows.linked sound.linked
    rintro event rfl
    exact effect.entry_genuine.1
  named := by
    intro actionId event member
    rcases (effect.grows.mem_iff actionId event).mp member with earlier | ⟨_, names⟩
    · exact sound.named actionId event earlier
    · exact names
  owned := by
    intro actionId event member
    rcases (effect.grows.mem_iff actionId event).mp member with earlier | ⟨rfl, names⟩
    · rcases sound.owned actionId event earlier with ⟨action, stored, owner⟩
      rcases effect.keeps fresh stored with ⟨later, kept, continues⟩
      exact ⟨later, kept, continues.tenantId.trans owner⟩
    · exact names ▸ effect.entry_genuine.2.2

theorem AuditSound.of_run {rt : Runtime} {history : List (Step ActionService Call)}
    {service : ActionService} (run : (actionSystem rt).Run history service) :
    AuditSound rt service := by
  apply run.invariant
  · rintro _ rfl
    exact .fresh rt
  · intro service call sound fresh
    rcases perform_effect rt service call with ⟨entry, effect⟩
    exact sound.step effect fresh

/-- An action seen after some step of a run is still stored at its end. Its status may be
another one by then. -/
theorem actions_persist {rt : Runtime} {history : List (Step ActionService Call)}
    {service : ActionService} (run : (actionSystem rt).Run history service)
    {step : Step ActionService Call} (member : step ∈ history) {actionId : Text}
    {action : StoredAction} (stored : step.after.actions.get? actionId = some action) :
    Exists fun later => service.actions.get? actionId = some later ∧ action.Continues later := by
  induction run with
  | begin initial => cases member
  | @extend earlier state call front fresh ih =>
      rcases List.mem_append.mp member with before | last
      · rcases ih before with ⟨held, kept, continues⟩
        rcases perform_effect rt state call with ⟨entry, effect⟩
        rcases effect.keeps fresh kept with ⟨later, found, further⟩
        exact ⟨later, found, continues.trans further⟩
      · have same := List.mem_singleton.mp last
        subst same
        exact ⟨action, stored, .refl action⟩

/-! ## The logs of every reachable service -/

/-- In every reachable service the validator accepts each action's events, and
each event carries its action's identifier and tenant.  The next call leaves
every list as a prefix of the new one and lengthens at most one of them. -/
theorem event_logs_chained (rt : Runtime) {history : List (Step ActionService Call)}
    {service : ActionService} (run : (actionSystem rt).Run history service) :
    (forall actionId tenantId events, service.listEvents actionId tenantId = .ok events ->
      validateEventChain rt events = .ok () ∧
        forall event, event ∈ events -> event.actionId = actionId ∧ event.tenantId = tenantId) ∧
    (forall call, (forall actionId,
        service.eventsOf actionId <+: (service.perform rt call).state.eventsOf actionId) ∧
      Exists fun target => forall actionId, actionId ≠ target ->
        (service.perform rt call).state.eventsOf actionId = service.eventsOf actionId) := by
  have sound := AuditSound.of_run run
  constructor
  · intro actionId tenantId events listed
    unfold ActionService.listEvents at listed
    cases found : service.getAction actionId tenantId with
    | error error =>
        rw [found] at listed
        cases listed
    | ok action =>
        rw [found] at listed
        cases listed
        rcases (service.getAction_ok_iff actionId tenantId action).mp found with ⟨stored, owner⟩
        refine ⟨(validateEventChain_ok_iff rt _).mpr (sound.linked actionId), ?_⟩
        intro event member
        rcases sound.owned actionId event member with ⟨holder, held, tenant⟩
        rw [stored] at held
        cases held
        exact ⟨sound.named actionId event member, tenant.symm.trans owner⟩
  · intro call
    rcases perform_effect rt service call with ⟨entry, effect⟩
    exact ⟨effect.grows.earlier_front, effect.grows.at_most_one⟩

/-- The four events of the sample run form a valid chain. -/
theorem event_logs_chained_sample :
    ((sampleService sampleCalls).eventsOf sampleId).length = 4 ∧
      validateEventChain .plain ((sampleService sampleCalls).eventsOf sampleId) = .ok () := by
  refine ⟨by decide +kernel, ?_⟩
  exact ((event_logs_chained .plain
    (sample_run sampleCalls List.prefix_rfl).ofRestrict).1 sampleId "demo" _ (by decide +kernel)).1

end Actions
end RealityLayer
