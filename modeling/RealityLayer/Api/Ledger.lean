import RealityLayer.Api.Governance

namespace RealityLayer
namespace Api

open Foundation Python RealityGit WorldState Actions

/-!
# The event table tells what happened

The events of an action are read by whoever asks for its proof, from a process that may
have logged none of them.  In every run of a fleet each event, in the table or in a
process, was logged by a call of the run.  It is sealed, and it says what that call did:
an approval was given by the required role, an acceptance carries the receipt of a write
that was sent, and a verification saw the order cancelled.
-/

section Events

variable {W : Type} (host : Host)

/-- A step makes a call that records the event. Restoring an event copies it and records nothing. -/
structure Logs (event : ActionEventRecord) (step : Step (Fleet W) (Move W)) : Prop where
  made : Exists fun worker : W => Exists fun call : Call =>
    step.before.call? host step.label = some (worker, call) ∧
      Records host.rt (step.before.processes worker).actions call event

/-- Every event was logged by a step of the history. -/
def logged (history : List (Step (Fleet W) (Move W))) : Warrant where
  action := fun _ _ => True
  event := fun event => Exists fun step => step ∈ history ∧ Logs host event step

theorem logged_upheld : Upheld host (logged (W := W) host) where
  restorable := fun _ => ⟨fun _ _ _ _ _ _ => trivial, fun _ _ _ _ _ _ _ => trivial⟩
  actions := fun _ _ _ _ _ => trivial
  events := by
    rintro history step event ⟨earlier, member, logs⟩
    exact ⟨earlier, List.mem_append_left _ member, logs⟩
  performed := by
    intro history fleet after move worker call covers made
    have kept : (logged host (history ++ [⟨fleet, move, after⟩])).Covers
        (fleet.processes worker).actions := by
      apply covers.mono (fun _ _ _ => trivial)
      rintro event ⟨earlier, member, logs⟩
      exact ⟨earlier, List.mem_append_left _ member, logs⟩
    apply kept.perform call (fun _ _ _ => trivial)
    intro event records
    exact ⟨_, List.mem_append_right _ (List.mem_singleton_self _), worker, call, made, records⟩

/-- The event is in the table, or in the service of some process. An event of a restarted
process may be in neither. -/
def Fleet.Holds (fleet : Fleet W) (event : ActionEventRecord) : Prop :=
  event ∈ fleet.events ∨ Exists fun worker : W => (fleet.processes worker).actions.Holds event

/-- What an event says is what a step did. The verdict of a verification is about the state
it was given, and not about where that state came from. -/
structure TellsOf (event : ActionEventRecord) (step : Step (Fleet W) (Move W)) : Prop where
  genuine : SealedEvent host.rt event
  judged : event.eventType = "policy_evaluated" -> Exists fun base => Exists fun filing : Filing W =>
    Registers host event.actionId base filing step ∧ event.tenantId = base.tenantId ∧
      event.actorRole = base.proposerRole ∧
      event.payload = ActionService.policyPayload base.decision base.proposal
  approved : event.eventType = "approved" -> Exists fun held => Exists fun state =>
    Grants host event.actionId held event.actorRole state step ∧ event.tenantId = held.tenantId
  accepted : event.eventType = "provider_accepted" -> Exists fun call => Exists fun receipt =>
    step.before.write? host step.label = some call ∧ call.actionId = event.actionId ∧
      (Exists fun worker => Exists fun number => Exists fun inputs : Inputs =>
        step.label = .serve worker number (.act inputs) ∧ inputs.cancelOrder call = .ok receipt) ∧
      event.payload = Dict.ofList receipt.dump
  verified : event.eventType = "verified" -> Exists fun worker => Exists fun draws =>
    Exists fun state => Exists fun isFinal =>
      step.before.call? host step.label =
          some (worker, .verify draws event.actionId event.tenantId state isFinal) ∧
        ActionService.observedStatus state = .str "cancelled"

end Events

section Telling

variable {W : Type} {host : Host} {event : ActionEventRecord} {step : Step (Fleet W) (Move W)}

/-- The event of a verdict tells of the approval or of the verification behind it. -/
theorem tellsOf_settled {worker : W} {call : Call} {actionId tenantId : Text} {held : StoredAction}
    {verdict : Verdict} {base : ActionService} {eventHash : Text}
    (made : step.before.call? host step.label = some (worker, call))
    (found : (step.before.processes worker).actions.actions.get? actionId = some held)
    (owner : held.tenantId = tenantId) (decides : Decides host.rt held call actionId tenantId verdict)
    (genuine : SealedEvent host.rt
      ((verdict.draft call.eventId tenantId actionId).record base eventHash)) :
    TellsOf host ((verdict.draft call.eventId tenantId actionId).record base eventHash) step where
  genuine := genuine
  judged := fun kind => absurd kind decides.sets.2.1
  accepted := fun kind => absurd kind decides.sets.2.2
  approved := by
    intro kind
    have same : verdict.eventType = "approved" := kind
    have status : verdict.status = .approved := decides.status_of_type (by rw [same]; decide)
    rcases decides.grants status with ⟨draws, approval, role, state, rfl, waiting, required, meets⟩
    have actor : verdict.actorRole = role := by
      cases decides with
      | approval _ _ _ _ _ _ _ => exact approvalVerdict_actorRole held approval role (some state)
    subst owner
    change Exists fun held => Exists fun state =>
      Grants host actionId held verdict.actorRole state step ∧ _
    rw [actor]
    exact ⟨held, state, ⟨⟨worker, draws, approval, made, found⟩, waiting, required, meets⟩, rfl⟩
  verified := by
    intro kind
    have same : verdict.eventType = "verified" := kind
    have status : verdict.status = .verified := decides.status_of_type (by rw [same]; decide)
    rcases decides.verifies status with ⟨draws, state, isFinal, rfl, verified⟩
    exact ⟨worker, draws, state, isFinal, made, Worker.verificationStatus_verified verified⟩

/-- A step tells the truth in the event that it logs. What a verification tells is the state
that it was given. -/
theorem Logs.tellsOf (logs : Logs host event step) : TellsOf host event step := by
  rcases logs.made with ⟨worker, call, made, records⟩
  cases records with
  | created draws proposal tenantId context unclaimed _ genuine tells =>
      rcases tells with ⟨base, eventHash, rfl⟩
      rcases registers_of_call step.after made unclaimed with ⟨filing, registers⟩
      exact {
        genuine := genuine
        judged := fun _ => ⟨_, filing, registers, rfl, rfl, rfl⟩
        approved := fun kind => absurd kind (by decide : ("policy_evaluated" : Text) ≠ "approved")
        accepted := fun kind =>
          absurd kind (by decide : ("policy_evaluated" : Text) ≠ "provider_accepted")
        verified := fun kind => absurd kind (by decide : ("policy_evaluated" : Text) ≠ "verified") }
  | settled _ actionId tenantId held verdict found owner decides _ genuine tells =>
      rcases tells with ⟨base, eventHash, rfl⟩
      exact tellsOf_settled made found owner decides genuine
  | refused draws actionId tenantId cancelOrder currentState reason ineligible _ genuine tells =>
      rcases tells with ⟨base, eventHash, rfl⟩
      exact {
        genuine := genuine
        judged := fun kind =>
          absurd kind (by decide : ("precondition_failed" : Text) ≠ "policy_evaluated")
        approved := fun kind => absurd kind (by decide : ("precondition_failed" : Text) ≠ "approved")
        accepted := fun kind =>
          absurd kind (by decide : ("precondition_failed" : Text) ≠ "provider_accepted")
        verified := fun kind => absurd kind (by decide : ("precondition_failed" : Text) ≠ "verified") }
  | accepted draws actionId tenantId cancelOrder currentState held receipt reaches accepts _ genuine
      tells =>
      rcases tells with ⟨base, eventHash, rfl⟩
      exact {
        genuine := genuine
        judged := fun kind =>
          absurd kind (by decide : ("provider_accepted" : Text) ≠ "policy_evaluated")
        approved := fun kind => absurd kind (by decide : ("provider_accepted" : Text) ≠ "approved")
        accepted := by
          intro _
          rcases executing_of_call made with ⟨number, inputs, labelled, _, provider, _⟩
          refine ⟨_, receipt, ?_, rfl, ⟨worker, number, inputs, labelled, provider ▸ accepts⟩, rfl⟩
          unfold Fleet.write?
          rw [made]
          exact (execute_invoked_iff host.rt _ draws actionId tenantId cancelOrder currentState _).mpr
            ⟨held, reaches, rfl⟩
        verified := fun kind => absurd kind (by decide : ("provider_accepted" : Text) ≠ "verified") }

/-- In every run of a fleet, every event that a process or the table holds was logged by a
step of the run, and tells of what that step did. -/
theorem events_told [DecidableEq W] {history : List (Step (Fleet W) (Move W))} {fleet : Fleet W}
    (run : (fleetSystem W host).Run history fleet) (held : fleet.Holds event) :
    Exists fun step => step ∈ history ∧ Logs host event step ∧ TellsOf host event step := by
  have under := (logged_upheld host).of_run run
  have source : Exists fun step => step ∈ history ∧ Logs host event step := by
    rcases held with row | ⟨worker, event_⟩
    · exact under.table event row
    · exact (under.processes worker).events event event_
  rcases source with ⟨step, member, logs⟩
  exact ⟨step, member, logs, logs.tellsOf⟩

end Telling

/-- The first process writes, and persists the receipt. -/
def writtenMoves : List (Move Bool) := executingMoves ++ [executingMove, .serve false 1 .persist]

def writtenFleet : Fleet Bool :=
  ((fleetSystem Bool memoryHost.toHost).trace emptyFleet writtenMoves).2

theorem writtenFleet_reached : (fleetSystem Bool memoryHost.toHost).Run
    ((fleetSystem Bool memoryHost.toHost).trace emptyFleet writtenMoves).1 writtenFleet := by
  have admitted : (fleetSystem Bool memoryHost.toHost).AdmitsAll emptyFleet writtenMoves := by
    decide +kernel
  exact System.run_trace writtenMoves ⟨fun _ => rfl, fun _ => rfl, rfl, rfl⟩ admitted

theorem events_told_sample : Exists fun event : ActionEventRecord =>
    event.eventType = "provider_accepted" ∧ Exists fun step =>
      step ∈ ((fleetSystem Bool memoryHost.toHost).trace emptyFleet writtenMoves).1 ∧
        Logs memoryHost.toHost event step ∧ TellsOf memoryHost.toHost event step := by
  have stored : (writtenFleet.events.any (fun event =>
      decide (event.eventType = "provider_accepted"))) = true := by
    decide +kernel
  rcases List.any_eq_true.mp stored with ⟨event, row, kind⟩
  exact ⟨event, of_decide_eq_true kind, events_told writtenFleet_reached (Or.inl row)⟩

end Api
end RealityLayer
