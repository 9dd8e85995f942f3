import RealityLayer.Actions.Restarts

namespace RealityLayer
namespace Actions

open Foundation Python RealityGit WorldState

/-!
# Failed action calls

A call that stops at a guard, or whose executor fails, leaves the service alone.  An
execution refused for an ineligible order appends its one event and nothing else.
What remains are the calls that pass their guards: they write the decision, and with
it the key or the receipt, and append the event last.  `Writes` says which service
and which draft that is.  Such a call raises exactly when its event cannot be hashed,
and then the written service stays.

So a failed call leaves no trace exactly when its event can be dumped and hashed or there was
nothing to write: a verification may find the pending decision it would write.
-/

/-- The event of a draft can be hashed in a service. The predecessor's hash is part of what
is hashed, so that this depends on the service as well. -/
def EventDraft.Sealable (rt : Runtime) (draft : EventDraft) (service : ActionService) : Prop :=
  Exists fun hash => hashJson rt (ActionService.eventBody draft.eventId draft.tenantId draft.actionId
    draft.eventType draft.actorRole draft.payload
    ((service.eventsOf draft.actionId).getLast?.map ActionEventRecord.eventHash)) = .ok hash

/-- Append the event of a draft and answer. Where the event cannot be hashed, the call raises
after whatever it has already changed. -/
def EventDraft.append (rt : Runtime) (draft : EventDraft) (service : ActionService) (answer : Answer) :
    Outcome PyError ActionService Answer :=
  (service.appendEvent rt draft.eventId draft.tenantId draft.actionId draft.eventType draft.actorRole
    draft.payload).andThen (fun state _ => .returns state answer)

/-- A call passes its guards, and writes this service before it appends this draft. The two
are kept apart because the write is not undone when the draft cannot be dumped or hashed. -/
inductive Writes (rt : Runtime) (service : ActionService) : Call -> ActionService -> EventDraft -> Prop
  | proposal (draws : Draws) (proposal : ActionProposal) (tenantId : Text) (context : PolicyContext)
      (unclaimed : service.idempotency.get? (tenantId, proposal.idempotencyKey) = none) :
      Writes rt service (.propose draws proposal tenantId context)
        (service.register (ActionService.newActionId draws)
          (createdAction rt draws proposal tenantId context))
        (policyDraft draws (createdAction rt draws proposal tenantId context))
  | verdict (call : Call) (actionId tenantId : Text) (action : StoredAction) (verdict : Verdict)
      (found : service.actions.get? actionId = some action) (owner : action.tenantId = tenantId)
      (decides : Decides rt action call actionId tenantId verdict) :
      Writes rt service call (service.withDecision actionId action verdict.status verdict.reason)
        (verdict.draft call.eventId tenantId actionId)
  | receipt (draws : Draws) (actionId tenantId : Text) (cancelOrder : CancelOrderExecutor)
      (currentState : Option OrderState) (action : StoredAction) (receipt : ExecutionReceipt)
      (reaches : ReachesProvider service actionId tenantId currentState action)
      (accepts : cancelOrder (action.providerCall actionId) = .ok receipt) :
      Writes rt service (.execute draws actionId tenantId cancelOrder currentState)
        (service.accept actionId tenantId action receipt)
        (acceptanceDraft draws tenantId actionId receipt)

/-- An execution refused for an ineligible order has appended its event. It raises although
it changed the log, and it is the only call that does so on purpose. -/
inductive Refuses (rt : Runtime) (service : ActionService) : Call -> ActionService -> Prop
  | ineligible (draws : Draws) (actionId tenantId : Text) (cancelOrder : CancelOrderExecutor)
      (currentState : Option OrderState) (reason hash : Text)
      (ineligible : ActionService.ineligibleReason currentState = some reason) :
      Refuses rt service (.execute draws actionId tenantId cancelOrder currentState)
        (service.push ((refusalDraft draws tenantId actionId reason).record service hash))

/-- What the call puts into the payload of its event can be dumped.  Only a proposal brings
values of its own. -/
def Call.dumps (rt : Runtime) : Call -> Bool
  | .propose _ proposal _ _ => proposal.dumps rt
  | .approve _ _ _ _ _ _ => true
  | .reject _ _ _ _ => true
  | .execute _ _ _ _ _ => true
  | .verify _ _ _ _ _ => true

/-- The event of the call can be dumped and hashed, or the call has nothing to write. In the
second case the service is left as it was, whatever becomes of the event. -/
def Call.Sealable (rt : Runtime) (service : ActionService) (call : Call) : Prop :=
  forall written draft, Writes rt service call written draft ->
    call.dumps rt = true ∧ draft.Sealable rt written ∨ written = service

section Failure

variable {rt : Runtime} {service : ActionService}

theorem EventDraft.append_cases (rt : Runtime) (draft : EventDraft) (service : ActionService)
    (answer : Answer) :
    draft.Sealable rt service ∧ (draft.append rt service answer).result = .ok answer ∨
      ¬ draft.Sealable rt service ∧ Exists fun cause : HashError =>
        draft.append rt service answer = .raises service (.hashing cause) := by
  unfold EventDraft.append EventDraft.Sealable ActionService.appendEvent
  dsimp only
  generalize hashJson rt (ActionService.eventBody draft.eventId draft.tenantId draft.actionId
    draft.eventType draft.actorRole draft.payload
    ((service.eventsOf draft.actionId).getLast?.map ActionEventRecord.eventHash)) = hashed
  cases hashed with
  | error cause =>
      refine Or.inr ⟨?_, cause, rfl⟩
      rintro ⟨hash, same⟩
      cases same
  | ok hash => exact Or.inl ⟨⟨hash, rfl⟩, rfl⟩

theorem settle_append (draws : Draws) (tenantId actionId : Text) (action : StoredAction)
    (verdict : Verdict) :
    Exists fun answer : Answer =>
      (service.settle rt (ActionService.newEventId draws 0) tenantId actionId action verdict).map
          .decision =
        (verdict.draft (ActionService.newEventId draws 0) tenantId actionId).append rt
          (service.withDecision actionId action verdict.status verdict.reason) answer := by
  refine ⟨.decision { action.decision with status := verdict.status, reason := verdict.reason }, ?_⟩
  unfold ActionService.settle EventDraft.append ActionService.appendEvent
  dsimp only [Verdict.draft]
  split
  · rfl
  · rfl

/-- A call that passes its guards ends by appending its event, if the payload can be dumped.
What it wrote before stands, whatever becomes of the event. -/
theorem Writes.perform_eq {call : Call} {written : ActionService} {draft : EventDraft}
    (writes : Writes rt service call written draft) (dumped : call.dumps rt = true) :
    Exists fun answer : Answer => service.perform rt call = draft.append rt written answer := by
  cases writes with
  | proposal draws proposal tenantId context unclaimed =>
      refine ⟨.decision (createdAction rt draws proposal tenantId context).decision, ?_⟩
      change proposal.dumps rt = true at dumped
      dsimp only [ActionService.perform]
      unfold ActionService.propose EventDraft.append ActionService.appendEvent
      rw [unclaimed]
      dsimp only
      rw [if_pos dumped]
      dsimp only [policyDraft, createdAction]
      split
      · rfl
      · rfl
  | verdict call actionId tenantId action verdict found owner decides =>
      have stored := (ActionService.getAction_ok_iff service actionId tenantId action).mpr ⟨found, owner⟩
      cases decides with
      | approval draws actionId approval role tenantId currentState waiting =>
          dsimp only [ActionService.perform]
          unfold ActionService.approve
          rw [stored]
          dsimp only
          rw [if_neg (not_not_intro waiting)]
          exact settle_append draws tenantId actionId action _
      | rejection draws actionId rejection tenantId waiting =>
          dsimp only [ActionService.perform]
          unfold ActionService.reject
          rw [stored]
          dsimp only
          rw [if_neg (not_not_intro waiting)]
          exact settle_append draws tenantId actionId action _
      | verification draws actionId tenantId state isFinalAttempt waiting =>
          dsimp only [ActionService.perform]
          unfold ActionService.verify
          rw [stored]
          dsimp only
          rw [waiting, if_neg Bool.true_eq_false_eq_False]
          exact settle_append draws tenantId actionId action _
  | receipt draws actionId tenantId cancelOrder currentState action receipt reaches accepts =>
      refine ⟨.receipt receipt, ?_⟩
      dsimp only [ActionService.perform]
      rw [execute_reaching rt service draws cancelOrder reaches, accepts]
      unfold EventDraft.append ActionService.appendEvent
      dsimp only [acceptanceDraft]
      split
      · rfl
      · rfl

/-- A call whose payload cannot be dumped raises on the written service. -/
theorem Writes.undumped {call : Call} {written : ActionService} {draft : EventDraft}
    (writes : Writes rt service call written draft) (undumpable : call.dumps rt = false) :
    service.perform rt call = .raises written dumpRefusal := by
  cases writes with
  | proposal draws proposal tenantId context unclaimed =>
      change proposal.dumps rt = false at undumpable
      dsimp only [ActionService.perform]
      unfold ActionService.propose
      rw [unclaimed]
      dsimp only
      rw [if_neg (Bool.eq_false_iff.mp undumpable)]
      rfl
  | verdict call actionId tenantId action verdict found owner decides =>
      cases decides with
      | approval draws actionId approval role tenantId currentState waiting => cases undumpable
      | rejection draws actionId rejection tenantId waiting => cases undumpable
      | verification draws actionId tenantId state isFinalAttempt waiting => cases undumpable
  | receipt draws actionId tenantId cancelOrder currentState action receipt reaches accepts =>
      cases undumpable

/-- A call that writes is answered if its event can be dumped and hashed, and otherwise raises on
the written service. -/
theorem Writes.outcome {call : Call} {written : ActionService} {draft : EventDraft}
    (writes : Writes rt service call written draft) :
    (call.dumps rt = true ∧ draft.Sealable rt written) ∧
        (Exists fun answer : Answer => (service.perform rt call).result = .ok answer) ∨
      ¬ (call.dumps rt = true ∧ draft.Sealable rt written) ∧
        Exists fun cause : HashError => service.perform rt call = .raises written (.hashing cause) := by
  cases dumped : call.dumps rt with
  | true =>
      rcases writes.perform_eq dumped with ⟨answer, appends⟩
      rw [appends]
      rcases draft.append_cases rt written answer with ⟨hashed, returned⟩ | ⟨broken, cause, raised⟩
      · exact Or.inl ⟨⟨rfl, hashed⟩, answer, returned⟩
      · exact Or.inr ⟨fun both => broken both.2, cause, raised⟩
  | false => exact Or.inr ⟨fun both => Bool.false_ne_true both.1, _, writes.undumped dumped⟩

/-- A call stops at a guard, appends a refusal, or writes and then appends. The last case
leaves the state after it open: the draft may or may not have been appended. -/
inductive Stops (rt : Runtime) (service : ActionService) (call : Call) : ActionService -> Prop
  | guarded : Stops rt service call service
  | refused (after : ActionService) (refuses : Refuses rt service call after) :
      Stops rt service call after
  | written (written after : ActionService) (draft : EventDraft)
      (writes : Writes rt service call written draft) : Stops rt service call after

theorem propose_stops (draws : Draws) (proposal : ActionProposal) (tenantId : Text)
    (context : PolicyContext) :
    Stops rt service (.propose draws proposal tenantId context)
      (service.propose rt draws proposal tenantId context).state := by
  unfold ActionService.propose
  cases unclaimed : service.idempotency.get? (tenantId, proposal.idempotencyKey) with
  | none => exact .written _ _ _ (.proposal draws proposal tenantId context unclaimed)
  | some existingId =>
      dsimp only
      split
      · exact .guarded
      · exact .guarded

theorem approve_stops (draws : Draws) (actionId : Text) (approval : ApprovalRequest)
    (role tenantId : Text) (currentState : Option OrderState) :
    Stops rt service (.approve draws actionId approval role tenantId currentState)
      (service.approve rt draws actionId approval role tenantId currentState).state := by
  unfold ActionService.approve
  cases stored : service.getAction actionId tenantId with
  | error error => exact .guarded
  | ok action =>
      rcases (service.getAction_ok_iff actionId tenantId action).mp stored with ⟨found, owner⟩
      dsimp only
      by_cases waiting : action.decision.status = .approvalRequired
      · exact .written _ _ _ (.verdict _ actionId tenantId action _ found owner
          (.approval draws actionId approval role tenantId currentState waiting))
      · rw [if_pos waiting]
        exact .guarded

theorem reject_stops (draws : Draws) (actionId : Text) (rejection : ApprovalRequest)
    (tenantId : Text) :
    Stops rt service (.reject draws actionId rejection tenantId)
      (service.reject rt draws actionId rejection tenantId).state := by
  unfold ActionService.reject
  cases stored : service.getAction actionId tenantId with
  | error error => exact .guarded
  | ok action =>
      rcases (service.getAction_ok_iff actionId tenantId action).mp stored with ⟨found, owner⟩
      dsimp only
      by_cases waiting : action.decision.status = .approvalRequired
      · exact .written _ _ _ (.verdict _ actionId tenantId action _ found owner
          (.rejection draws actionId rejection tenantId waiting))
      · rw [if_pos waiting]
        exact .guarded

theorem verify_stops (draws : Draws) (actionId tenantId : Text) (state : Option OrderState)
    (isFinalAttempt : Bool) :
    Stops rt service (.verify draws actionId tenantId state isFinalAttempt)
      (service.verify rt draws actionId tenantId state isFinalAttempt).state := by
  unfold ActionService.verify
  cases stored : service.getAction actionId tenantId with
  | error error => exact .guarded
  | ok action =>
      rcases (service.getAction_ok_iff actionId tenantId action).mp stored with ⟨found, owner⟩
      dsimp only
      by_cases closed : ActionService.verifiable action.decision.status = false
      · rw [if_pos closed]
        exact .guarded
      · exact .written _ _ _ (.verdict _ actionId tenantId action _ found owner
          (.verification draws actionId tenantId state isFinalAttempt
            (Bool.eq_true_of_not_eq_false closed)))

theorem execute_stops (draws : Draws) (actionId tenantId : Text)
    (cancelOrder : CancelOrderExecutor) (currentState : Option OrderState) :
    Stops rt service (.execute draws actionId tenantId cancelOrder currentState)
      (service.execute rt draws actionId tenantId cancelOrder currentState).outcome.state := by
  unfold ActionService.execute
  cases stored : service.getAction actionId tenantId with
  | error error => exact .guarded
  | ok action =>
      rcases (service.getAction_ok_iff actionId tenantId action).mp stored with ⟨found, owner⟩
      dsimp only
      cases unused : service.executions.get? (tenantId, action.proposal.idempotencyKey) with
      | some existing => exact .guarded
      | none =>
          dsimp only
          by_cases approved : action.decision.status = .approved
          · rw [if_neg (not_not_intro approved)]
            by_cases cancels : action.proposal.actionType = .cancelOrder
            · rw [if_neg (not_not_intro cancels)]
              cases eligible : ActionService.ineligibleReason currentState with
              | some reason =>
                  dsimp only
                  rw [Outcome.andThen_state _ _ (fun _ _ => rfl)]
                  unfold ActionService.appendEvent
                  dsimp only
                  split
                  · exact .guarded
                  · rename_i hash hashed
                    exact .refused _ (.ineligible draws actionId tenantId cancelOrder currentState
                      reason hash eligible)
              | none =>
                  dsimp only
                  cases accepts : cancelOrder (action.providerCall actionId) with
                  | error message =>
                      simp only [StoredAction.providerCall] at accepts
                      rw [accepts]
                      exact .guarded
                  | ok receipt =>
                      exact .written _ _ _ (.receipt draws actionId tenantId cancelOrder
                        currentState action receipt
                        ⟨found, owner, unused, approved, cancels, eligible⟩ accepts)
            · rw [if_pos cancels]
              exact .guarded
          · rw [if_pos approved]
            exact .guarded

theorem perform_stops (rt : Runtime) (service : ActionService) (call : Call) :
    Stops rt service call (service.perform rt call).state := by
  cases call with
  | propose draws proposal tenantId context => exact propose_stops draws proposal tenantId context
  | approve draws actionId approval role tenantId currentState =>
      exact approve_stops draws actionId approval role tenantId currentState
  | reject draws actionId rejection tenantId => exact reject_stops draws actionId rejection tenantId
  | execute draws actionId tenantId cancelOrder currentState =>
      exact execute_stops draws actionId tenantId cancelOrder currentState
  | verify draws actionId tenantId state isFinalAttempt =>
      exact verify_stops draws actionId tenantId state isFinalAttempt

/-- A call that writes is no refused execution: the execution that writes has found
its order eligible. -/
theorem Writes.not_refuses {call : Call} {written after : ActionService} {draft : EventDraft}
    (writes : Writes rt service call written draft) : ¬ Refuses rt service call after := by
  intro refuses
  cases refuses with
  | ineligible draws actionId tenantId cancelOrder currentState reason hash ineligible =>
      cases writes with
      | verdict _ _ _ action verdict found owner decides => cases decides
      | receipt _ _ _ _ _ action receipt reaches accepts =>
          rw [reaches.eligible] at ineligible
          cases ineligible

/-- A call leaves no trace of a failure exactly when its event can be dumped and hashed, or it
has nothing to write. -/
theorem failed_call_traceless_iff (rt : Runtime) (service : ActionService) (call : Call) :
    (forall error, (service.perform rt call).result = .error error ->
      (service.perform rt call).state = service ∨
        Refuses rt service call (service.perform rt call).state) <->
      call.Sealable rt service := by
  constructor
  · intro traceless written draft writes
    rcases writes.outcome with ⟨sealable, _⟩ | ⟨broken, cause, raised⟩
    · exact Or.inl sealable
    · rw [raised] at traceless
      rcases traceless (.hashing cause) rfl with same | refuses
      · exact Or.inr same
      · exact absurd refuses writes.not_refuses
  · intro sealable error failed
    have stops := perform_stops rt service call
    generalize reached : (service.perform rt call).state = after at stops ⊢
    cases stops with
    | guarded => exact Or.inl rfl
    | refused _ refuses => exact Or.inr refuses
    | written written _ draft writes =>
        rcases writes.outcome with ⟨_, answer, returned⟩ | ⟨broken, cause, raised⟩
        · rw [returned] at failed
          cases failed
        · rw [raised] at reached
          rcases sealable written draft writes with hashed | same
          · exact absurd hashed broken
          · exact Or.inl (reached.symm.trans same)

end Failure

/-! ## A proposal with an unpaired surrogate -/

def proposeUnhashable : Call := .propose (.numbered 1) unhashableProposal "demo" sampleContext

/-- The proposal raises, and its action and its key stay in the service. A second proposal
with the key is then answered from them. -/
theorem failed_propose_leaves_trace :
    (ActionService.fresh.perform .plain proposeUnhashable).result.toBool = false ∧
      ¬ ((ActionService.fresh.perform .plain proposeUnhashable).state = .fresh ∨
        Refuses .plain .fresh proposeUnhashable
          (ActionService.fresh.perform .plain proposeUnhashable).state) := by
  refine ⟨by decide +kernel, ?_⟩
  rintro (same | refuses)
  · exact absurd same (by decide +kernel)
  · cases refuses

end Actions
end RealityLayer
