import RealityLayer.Actions.Lifecycle

namespace RealityLayer
namespace Actions

open Foundation Python RealityGit WorldState

/-!
# What the events of an action record

An event keeps its actor and a payload, and nothing checks them when they are read.
`Testifies` says what they are for each type: which operation wrote the event, and what
it took from the action at the time.  An action keeps its proposal, its proposer and its
required role, so what an event testifies stays true of the action for good.
-/

/-- What an event of an action records, by its type. Each case fixes the actor and the whole
payload, so nothing in an event is free text from elsewhere than the call. -/
inductive Testifies (rt : Runtime) (action : StoredAction) (event : ActionEventRecord) : Prop
  | evaluation (decision : ActionDecision) (kind : event.eventType = "policy_evaluated")
      (actor : event.actorRole = action.proposerRole)
      (required : decision.requiredRole = action.decision.requiredRole)
      (payload : event.payload = ActionService.policyPayload decision action.proposal)
  | approval (reason : Text) (kind : event.eventType = "approved")
      (actor : some event.actorRole = action.decision.requiredRole)
      (payload : event.payload = reasonPayload reason)
  | refusal (reason : Text)
      (kind : event.eventType ∈ (["rejected", "approval_denied", "precondition_failed"] : List Text))
      (payload : event.payload = reasonPayload reason)
  | ineligibility (reason : Text) (kind : event.eventType = "precondition_failed")
      (payload : event.payload = ActionService.refusalPayload reason)
  | acceptance (receipt : ExecutionReceipt) (kind : event.eventType = "provider_accepted")
      (payload : event.payload = Dict.ofList receipt.dump)
  | verification (state : Option OrderState) (isFinalAttempt : Bool)
      (kind : event.eventType =
        (ActionService.verificationStatus (ActionService.observedStatus state) isFinalAttempt).value)
      (payload : event.payload = (ActionService.verificationVerdict rt state isFinalAttempt).payload)

section Testimony

variable {rt : Runtime} {action later : StoredAction} {event : ActionEventRecord}

/-- Testimony stays true as the status of the action changes. -/
theorem Testifies.continues (testifies : Testifies rt action event) (continues : action.Continues later) :
    Testifies rt later event := by
  have role := continues.requiredRole
  cases testifies with
  | evaluation decision kind actor required payload =>
      exact .evaluation decision kind (actor.trans continues.proposerRole.symm)
        (required.trans role.symm) (continues.proposal ▸ payload)
  | approval reason kind actor payload => exact .approval reason kind (actor.trans role.symm) payload
  | refusal reason kind payload => exact .refusal reason kind payload
  | ineligibility reason kind payload => exact .ineligibility reason kind payload
  | acceptance receipt kind payload => exact .acceptance receipt kind payload
  | verification state isFinalAttempt kind payload => exact .verification state isFinalAttempt kind payload

/-- The event of a verdict testifies to it. -/
theorem Decides.testifies {call : Call} {actionId tenantId : Text} {verdict : Verdict}
    (decides : Decides rt action call actionId tenantId verdict) (kind : event.eventType = verdict.eventType)
    (actor : event.actorRole = verdict.actorRole) (payload : event.payload = verdict.payload) :
    Testifies rt action event := by
  cases decides with
  | approval draws actionId approval role tenantId currentState waiting =>
      unfold ActionService.approvalVerdict at kind actor payload
      by_cases required : some role = action.decision.requiredRole
      · rw [if_neg (not_not.mpr required)] at kind actor payload
        cases failure : ActionService.checkPreconditions action.proposal currentState with
        | some reason =>
            rw [failure] at kind payload
            exact .refusal reason (by rw [kind]; simp) payload
        | none =>
            rw [failure] at kind actor payload
            exact .approval approval.reason kind (actor ▸ required) payload
      · rw [if_pos required] at kind payload
        exact .refusal _ (by rw [kind]; simp) payload
  | rejection draws actionId rejection tenantId waiting =>
      exact .refusal rejection.reason (by rw [kind]; simp [ActionService.rejectionVerdict]) payload
  | verification draws actionId tenantId state isFinalAttempt open_ =>
      exact .verification state isFinalAttempt kind payload

end Testimony

/-- Every event of a stored action testifies. The proof of an action reads nothing but these
events and the stored action itself. -/
def Evidenced (rt : Runtime) (service : ActionService) : Prop :=
  forall actionId action, service.actions.get? actionId = some action ->
    forall event, event ∈ service.eventsOf actionId -> Testifies rt action event

section Preservation

variable {rt : Runtime} {service after : ActionService} {hashed : Prop} {call : Call}
variable {entry : Option ActionEventRecord}

/-- Appending a draft that testifies to the action it names keeps the evidence. The events of
other actions are not read for it. -/
theorem Evidenced.appended {draft : EventDraft} {base : ActionService}
    (evidenced : Evidenced rt service) (appends : Appends rt base draft hashed entry after)
    (events : base.eventsOf = service.eventsOf)
    (continued : forall other later, base.actions.get? other = some later ->
      (Exists fun action => service.actions.get? other = some action ∧ action.Continues later) ∨
        service.eventsOf other = [])
    (testifies : forall later event, base.actions.get? draft.actionId = some later ->
      event.eventType = draft.eventType -> event.actorRole = draft.actorRole ->
      event.payload = draft.payload -> Testifies rt later event) :
    Evidenced rt after := by
  intro other later stored event member
  rw [appends.actions] at stored
  rcases (appends.grows.mem_iff other event).mp member with earlier | ⟨rfl, names⟩
  · rw [events] at earlier
    rcases continued other later stored with ⟨action, held, continues⟩ | none
    · exact (evidenced other action held event earlier).continues continues
    · rw [none] at earlier
      cases earlier
  · rcases appends.of_entry with ⟨eventHash, rfl, _⟩
    subst names
    exact testifies later _ stored rfl rfl rfl

theorem Evidenced.step (evidenced : Evidenced rt service) (audit : AuditSound rt service)
    (effect : Effect rt service hashed call entry after) (fresh : service.DrawsFresh call) :
    Evidenced rt after := by
  have decided : forall {actionId : Text} {action : StoredAction} (status : ActionStatus) (reason : Text),
      service.actions.get? actionId = some action -> forall other later,
      (service.withDecision actionId action status reason).actions.get? other = some later ->
      Exists fun held => service.actions.get? other = some held ∧ held.Continues later := by
    intro actionId action status reason found other later stored
    rw [ActionService.withDecision, Dict.get?_set] at stored
    split at stored
    · rename_i same
      cases stored
      exact ⟨action, same ▸ found, rfl, rfl, rfl, rfl⟩
    · exact ⟨later, stored, .refl later⟩
  cases effect with
  | idle => exact evidenced
  | created draws proposal tenantId context _ _ unclaimed appends =>
      apply evidenced.appended appends rfl
      · intro other later stored
        rw [ActionService.register, Dict.get?_set] at stored
        split at stored
        · rename_i same
          refine Or.inr (List.eq_nil_iff_forall_not_mem.mpr (fun event member => ?_))
          rcases audit.owned _ event member with ⟨action, held, _⟩
          rw [same, fresh.2 _ rfl] at held
          cases held
        · exact Or.inl ⟨later, stored, .refl later⟩
      · intro later event stored kind actor payload
        have same : createdAction rt draws proposal tenantId context = later := by
          rw [ActionService.register, policyDraft, Dict.get?_set_self] at stored
          exact Option.some.inj stored
        subst same
        exact .evaluation _ kind actor rfl payload
  | settled call actionId tenantId action verdict _ _ found owner decides appends =>
      refine evidenced.appended appends rfl (fun other later stored =>
        Or.inl (decided _ _ found other later stored)) ?_
      intro later event stored kind actor payload
      rcases decided _ _ found _ later stored with ⟨held, found', continues⟩
      rw [Verdict.draft, found] at found'
      cases found'
      exact (decides.testifies kind actor payload).continues continues
  | refused draws actionId tenantId cancelOrder currentState action reason _ _ found owner approved
      ineligible appends =>
      refine evidenced.appended appends rfl (fun other later stored =>
        Or.inl ⟨later, stored, .refl later⟩) ?_
      intro later event stored kind actor payload
      exact .ineligibility reason kind payload
  | accepted draws actionId tenantId cancelOrder currentState action receipt _ _ reaches accepts
      appends =>
      refine evidenced.appended appends rfl (fun other later stored =>
        Or.inl (decided _ _ reaches.found other later stored)) ?_
      intro later event stored kind actor payload
      exact .acceptance receipt kind payload

theorem Evidenced.of_run {history : List (Step ActionService Call)}
    (run : (actionSystem rt).Run history service) : Evidenced rt service := by
  apply System.Run.historyInvariant run
  · rintro _ rfl actionId action stored
    cases stored
  · intro history service call earlier evidenced fresh
    rcases perform_effect rt service call with ⟨entry, effect⟩
    exact evidenced.step (AuditSound.of_run earlier) effect fresh

end Preservation

end Actions
end RealityLayer
