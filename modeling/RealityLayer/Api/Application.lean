import RealityLayer.Actions.Authorization
import RealityLayer.Api.Refusals
import RealityLayer.Foundation.Projection

namespace RealityLayer
namespace Api

open Foundation Python RealityGit WorldState WorldStateService Actions Connectors Worker

/-!
# The services of the application

The application in memory drives two services that know nothing of each other.  A
verification makes a call to both: it ingests what it read, and gives the state that World
State answers with to the action service.  Every other request makes a call to one of
them at most.  So a run of the application is a run of each service, and what holds in
every run of a service holds here, with one thing more: the state that the action service
is given is the state that World State holds.

That is what joins an approval and a write.  The approval is given against the version
that the proposal expects.  The write checks the order again, but not its version.
-/

section Parts

variable (host : MemoryHost)

/-- The read that a verification ingests, when it gets that far. An action that the tenant
does not have stops it before the read. -/
def verificationRead? (services : Services) (tenantId actionId : Text) (attempt : Attempt) :
    Option Observation :=
  (services.actions.getAction actionId tenantId).toOption.bind (fun _ =>
    (attempt.observation host.rt host.fromisoformat).toOption)

/-- The ingestion of a verification. -/
def verificationIngest (tenantId : Text) (attempt : Attempt) (observation : Observation) : WorldCall :=
  .ingest attempt.ingestDraws tenantId observation "verified_action" "verified"

/-- The call that a request makes to World State. It depends on the services, as a
verification may stop before its read. -/
def ApplicationRequest.worldCall? (services : Services) : ApplicationRequest -> Option WorldCall
  | .world call => some call
  | .verify tenantId actionId attempt =>
      (verificationRead? host services tenantId actionId attempt).map
        (verificationIngest tenantId attempt)
  | .propose _ _ _ _ => none
  | .approve _ _ _ _ _ => none
  | .reject _ _ _ _ => none
  | .execute _ _ _ _ => none

/-- The call that a request makes to the action service. A verification makes one only if its
read was taken in. -/
def ApplicationRequest.actionCall? (services : Services) (request : ApplicationRequest) : Option Call :=
  match request with
  | .verify tenantId actionId attempt =>
      (verificationRead? host services tenantId actionId attempt).bind (fun observation =>
        (services.world.ingest host.rt attempt.ingestDraws tenantId observation "verified_action"
          "verified").result.toOption.map (fun state =>
            .verify attempt.verifyDraws actionId tenantId (some state) true))
  | other => other.call? host services

/-- The write that a request makes, when it makes one. -/
def ApplicationRequest.writes? (services : Services) (request : ApplicationRequest) :
    Option ProviderCall :=
  (request.actionCall? host services).bind (services.actions.invokes host.rt)

variable {host}

theorem verify_unread {services : Services} {tenantId actionId : Text} {attempt : Attempt}
    (unread : verificationRead? host services tenantId actionId attempt = none) :
    (host.verify services tenantId actionId attempt).state = services := by
  unfold MemoryHost.verify verifyInMemory
  unfold verificationRead? at unread
  cases stored : services.actions.getAction actionId tenantId with
  | error error => rfl
  | ok action =>
      rw [stored] at unread
      cases read : attempt.observation host.rt host.fromisoformat with
      | error error => rfl
      | ok observation =>
          rw [read] at unread
          cases unread

theorem verify_read {services : Services} {tenantId actionId : Text} {attempt : Attempt}
    {observation : Observation}
    (read : verificationRead? host services tenantId actionId attempt = some observation) :
    host.verify services tenantId actionId attempt =
      judged host.rt services tenantId actionId attempt.verifyDraws
        (services.world.ingest host.rt attempt.ingestDraws tenantId observation "verified_action"
          "verified") := by
  rcases Option.bind_eq_some_iff.mp read with ⟨action, stored, observed⟩
  exact verifyInMemory_judged (ok_of_toOption stored) (ok_of_toOption observed)

/-- A verification that read the order leaves World State as the ingestion left it. -/
theorem verify_world {services : Services} {tenantId actionId : Text} {attempt : Attempt}
    {observation : Observation}
    (read : verificationRead? host services tenantId actionId attempt = some observation) :
    (host.verify services tenantId actionId attempt).state.world =
      services.world.perform host.rt (verificationIngest tenantId attempt observation) := by
  rw [verify_read read]
  unfold judged verificationIngest WorldStateService.perform
  split
  · rfl
  · rfl

/-- A call to the action service leaves World State alone. -/
theorem called_services (services : Services) (call : Option Call) :
    (match call with
      | some call => { services with actions := (services.actions.perform host.rt call).state }
      | none => services : Services).world = services.world ∧
    (match call with
      | some call => { services with actions := (services.actions.perform host.rt call).state }
      | none => services : Services).actions =
        (call.map (fun call => (services.actions.perform host.rt call).state)).getD services.actions := by
  cases call with
  | none => exact ⟨rfl, rfl⟩
  | some call => exact ⟨rfl, rfl⟩

/-- The calls that a request makes lead to what it leaves. So a run of the application is a
run of each of its two parts. -/
theorem perform_calls (host : MemoryHost) (services : Services) (request : ApplicationRequest) :
    (request.perform host services).world =
        ((request.worldCall? host services).map (services.world.perform host.rt)).getD services.world ∧
      (request.perform host services).actions =
        ((request.actionCall? host services).map (fun call =>
          (services.actions.perform host.rt call).state)).getD services.actions := by
  cases request with
  | world call => exact ⟨rfl, rfl⟩
  | verify tenantId actionId attempt =>
      unfold ApplicationRequest.perform ApplicationRequest.worldCall? ApplicationRequest.actionCall?
      dsimp only
      cases read : verificationRead? host services tenantId actionId attempt with
      | none =>
          rw [verify_unread read]
          exact ⟨rfl, rfl⟩
      | some observation =>
          rw [Option.map_some, Option.map_some, Option.getD_some, verify_world read,
            Option.bind_some, verify_read read]
          refine ⟨rfl, ?_⟩
          unfold judged
          cases (services.world.ingest host.rt attempt.ingestDraws tenantId observation
              "verified_action" "verified").result with
          | error error => rfl
          | ok state => rfl
  | propose draws proposal role tenantId => exact called_services services _
  | approve draws actionId approval role tenantId => exact called_services services _
  | reject draws actionId rejection tenantId => exact ⟨rfl, rfl⟩
  | execute draws actionId tenantId cancelOrder => exact called_services services _

/-- The identifiers of an admitted request are new to the services that it calls. -/
theorem worldCall_fresh {services : Services} {request : ApplicationRequest} {call : WorldCall}
    (fresh : request.DrawsFresh host services) (called : request.worldCall? host services = some call) :
    services.world.DrawsFresh call := by
  cases request with
  | world other =>
      cases called
      exact fresh
  | verify tenantId actionId attempt =>
      rcases Option.map_eq_some_iff.mp called with ⟨observation, read, rfl⟩
      exact fresh.2
  | propose draws proposal role tenantId => cases called
  | approve draws actionId approval role tenantId => cases called
  | reject draws actionId rejection tenantId => cases called
  | execute draws actionId tenantId cancelOrder => cases called

theorem actionCall_fresh {services : Services} {request : ApplicationRequest} {call : Call}
    (fresh : request.DrawsFresh host services) (called : request.actionCall? host services = some call) :
    services.actions.DrawsFresh call := by
  cases request with
  | world other => cases called
  | verify tenantId actionId attempt =>
      rcases Option.bind_eq_some_iff.mp called with ⟨observation, read, called⟩
      rcases Option.map_eq_some_iff.mp called with ⟨state, ingested, rfl⟩
      refine ⟨fresh.1, fun created names => ?_⟩
      cases names
  | propose draws proposal role tenantId => exact fresh call called
  | approve draws actionId approval role tenantId => exact fresh call called
  | reject draws actionId rejection tenantId => exact fresh call called
  | execute draws actionId tenantId cancelOrder => exact fresh call called

variable (host)

/-- World State inside the application. Its steps are those of the requests that call it. -/
def worldPart : Projection (application host) (worldSystem host.rt) where
  state := Services.world
  label := fun services request => request.worldCall? host services
  starts := by
    rintro _ rfl
    rfl
  moves := by
    intro services request call admitted called
    refine ⟨worldCall_fresh admitted called, ?_⟩
    have moved := (perform_calls host services request).1
    rw [called] at moved
    exact moved
  stays := by
    intro services request admitted silent
    have stayed := (perform_calls host services request).1
    rw [silent] at stayed
    exact stayed

/-- The action service inside the application. Its steps are those of the requests that call it. -/
def actionPart : Projection (application host) (actionSystem host.rt) where
  state := Services.actions
  label := fun services request => request.actionCall? host services
  starts := by
    rintro _ rfl
    rfl
  moves := by
    intro services request call admitted called
    refine ⟨actionCall_fresh admitted called, ?_⟩
    have moved := (perform_calls host services request).2
    rw [called] at moved
    exact moved
  stays := by
    intro services request admitted silent
    have stayed := (perform_calls host services request).2
    rw [silent] at stayed
    exact stayed

end Parts

/-! ## A write and the approval behind it -/

/-- An order was proposed to be cancelled, by a role and under a policy that permit it. The
value of the order is the one that World State held at that step. -/
structure Proposes (host : MemoryHost) (actionId tenantId : Text) (proposal : ActionProposal)
    (step : Step Services ApplicationRequest) : Prop where
  proposes : Exists fun draws => Exists fun role => Exists fun orderValue =>
    step.label = .propose draws proposal role tenantId ∧
      ActionService.newActionId draws = actionId ∧
      orderValueFor host.float step.before.world tenantId proposal = .ok orderValue ∧
      (host.context step.before.world proposal role tenantId orderValue).Permits

/-- The required role approved an action while World State held its order as expected. The
order is resolved by the application, and the caller has no say in it. -/
structure ApprovesHeld (actionId tenantId : Text) (action : StoredAction)
    (step : Step Services ApplicationRequest) : Prop where
  approves : Exists fun draws => Exists fun approval => Exists fun role =>
    step.label = .approve draws actionId approval role tenantId ∧
      some role = action.decision.requiredRole
  held : Exists fun state =>
    resolveOrderState step.before.world tenantId action.proposal.orderId = some state ∧
      MeetsPreconditions action.proposal state

/-- What stands behind a write of the application. The order may have moved on between the
approval and the write, and then it is only known to be eligible. -/
structure WriteGrounded (host : MemoryHost) (history : List (Step Services ApplicationRequest))
    (services : Services) (actionId tenantId : Text) (call : ProviderCall) (action : StoredAction) :
    Prop where
  lineage : Exists fun creation => Exists fun approval => [creation, approval].Sublist history ∧
    Proposes host actionId tenantId action.proposal creation ∧
    ApprovesHeld actionId tenantId action approval
  held : Exists fun state =>
    resolveOrderState services.world tenantId action.proposal.orderId = some state ∧
      EligibleTestOrder state ∧ action.proposal.expectedStateVersion ≤ state.stateVersion ∧
      (MeetsPreconditions action.proposal state <->
        state.stateVersion = action.proposal.expectedStateVersion)
  arguments : call = action.providerCall actionId

section Writes

variable {host : MemoryHost} {history : List (Step Services ApplicationRequest)} {services : Services}

/-- No request takes a state back to an earlier version. Without persistence nothing is
hydrated here. -/
theorem request_grows (host : MemoryHost) (services : Services) (request : ApplicationRequest) :
    OnlyGrows services.world (request.perform host services).world := by
  rw [(perform_calls host services request).1]
  cases request.worldCall? host services with
  | none => exact .of_same rfl
  | some call =>
      rcases perform_entity host.rt services.world call with ⟨entry, _, effect⟩
      exact effect.onlyGrows

theorem grown_since (run : (application host).Run history services)
    {step : Step Services ApplicationRequest} (member : step ∈ history) :
    OnlyGrows step.before.world services.world := by
  induction run with
  | begin initial => cases member
  | @extend history services request earlier admitted ih =>
      have further := request_grows host services request
      rcases List.mem_append.mp member with before | last
      · exact (ih before).trans further
      · rw [List.mem_singleton.mp last]
        exact further

/-- An action stored before some step of a run is still stored at its end. -/
theorem stored_since {rt : Runtime} {history : List (Step ActionService Call)} {service : ActionService}
    (run : (actionSystem rt).Run history service) {step : Step ActionService Call}
    (member : step ∈ history) {actionId : Text} {action : StoredAction}
    (stored : step.before.actions.get? actionId = some action) :
    Exists fun later => service.actions.get? actionId = some later ∧ action.Continues later := by
  rcases (run.reaches_step member).1 with ⟨fresh, after⟩
  rcases Actions.perform_effect rt step.before step.label with ⟨entry, effect⟩
  rcases effect.keeps fresh stored with ⟨next, kept, continues⟩
  have held : step.after.actions.get? actionId = some next := after ▸ kept
  rcases actions_persist run member held with ⟨later, found, further⟩
  exact ⟨later, found, continues.trans further⟩

/-- A request that proposes in the action service is a proposal. -/
theorem proposes_of_call {request : ApplicationRequest} {draws : Draws} {proposal : ActionProposal}
    {tenantId : Text} {context : PolicyContext}
    (called : request.actionCall? host services = some (.propose draws proposal tenantId context)) :
    Exists fun role => Exists fun orderValue => request = .propose draws proposal role tenantId ∧
      orderValueFor host.float services.world tenantId proposal = .ok orderValue ∧
      context = host.context services.world proposal role tenantId orderValue := by
  cases request with
  | world call => cases called
  | verify tenantId' actionId attempt =>
      rcases Option.bind_eq_some_iff.mp called with ⟨observation, read, called⟩
      rcases Option.map_eq_some_iff.mp called with ⟨state, ingested, other⟩
      cases other
  | propose draws' proposal' role tenantId' =>
      rcases Option.map_eq_some_iff.mp called with ⟨orderValue, priced, same⟩
      cases same
      exact ⟨role, orderValue, rfl, ok_of_toOption priced, rfl⟩
  | approve draws' actionId approval role tenantId' =>
      rcases Option.map_eq_some_iff.mp called with ⟨action, stored, other⟩
      cases other
  | reject draws' actionId rejection tenantId' => cases called
  | execute draws' actionId tenantId' cancelOrder =>
      rcases Option.map_eq_some_iff.mp called with ⟨action, stored, other⟩
      cases other

/-- A request that approves in the action service is an approval, and gives the state that
is held. -/
theorem approves_of_call {request : ApplicationRequest} {draws : Draws} {actionId : Text}
    {approval : ApprovalRequest} {role tenantId : Text} {currentState : Option OrderState}
    (called : request.actionCall? host services =
      some (.approve draws actionId approval role tenantId currentState)) :
    request = .approve draws actionId approval role tenantId ∧ Exists fun action =>
      services.actions.getAction actionId tenantId = .ok action ∧
        currentState = resolveOrderState services.world tenantId action.proposal.orderId := by
  cases request with
  | world call => cases called
  | verify tenantId' actionId' attempt =>
      rcases Option.bind_eq_some_iff.mp called with ⟨observation, read, called⟩
      rcases Option.map_eq_some_iff.mp called with ⟨state, ingested, other⟩
      cases other
  | propose draws' proposal role' tenantId' =>
      rcases Option.map_eq_some_iff.mp called with ⟨orderValue, priced, other⟩
      cases other
  | approve draws' actionId' approval' role' tenantId' =>
      rcases Option.map_eq_some_iff.mp called with ⟨action, stored, same⟩
      cases same
      exact ⟨rfl, action, ok_of_toOption stored, rfl⟩
  | reject draws' actionId' rejection tenantId' => cases called
  | execute draws' actionId' tenantId' cancelOrder =>
      rcases Option.map_eq_some_iff.mp called with ⟨action, stored, other⟩
      cases other

/-- A request that writes executes an action against the state that is held. -/
theorem executes_of_writes {request : ApplicationRequest} {call : ProviderCall}
    (writes : request.writes? host services = some call) :
    Exists fun draws => Exists fun actionId => Exists fun tenantId => Exists fun cancelOrder =>
      Exists fun action => request = .execute draws actionId tenantId cancelOrder ∧
        services.actions.getAction actionId tenantId = .ok action ∧
        (services.actions.execute host.rt draws actionId tenantId cancelOrder
          (resolveOrderState services.world tenantId action.proposal.orderId)).invoked = some call := by
  rcases Option.bind_eq_some_iff.mp writes with ⟨made, called, invoked⟩
  cases request with
  | world call => cases called
  | verify tenantId actionId attempt =>
      rcases Option.bind_eq_some_iff.mp called with ⟨observation, read, called⟩
      rcases Option.map_eq_some_iff.mp called with ⟨state, ingested, rfl⟩
      cases invoked
  | propose draws proposal role tenantId =>
      rcases Option.map_eq_some_iff.mp called with ⟨orderValue, priced, rfl⟩
      cases invoked
  | approve draws actionId approval role tenantId =>
      rcases Option.map_eq_some_iff.mp called with ⟨action, stored, rfl⟩
      cases invoked
  | reject draws actionId rejection tenantId =>
      cases called
      cases invoked
  | execute draws actionId tenantId cancelOrder =>
      rcases Option.map_eq_some_iff.mp called with ⟨action, stored, rfl⟩
      exact ⟨draws, actionId, tenantId, cancelOrder, action, rfl, ok_of_toOption stored, invoked⟩

/-- What the provider was asked for was permitted to be proposed, approved in that state,
and eligible. -/
structure Vetted (rt : Runtime) (history : List (Step ActionService Call)) (actionId tenantId : Text)
    (currentState : Option OrderState) (call : ProviderCall) (action : StoredAction) : Prop where
  lineage : Exists fun creation => Exists fun context => Exists fun approval =>
    Exists fun role => Exists fun state => [creation, approval].Sublist history ∧
      Creates rt actionId action.proposal tenantId context creation ∧ context.Permits ∧
      some role = action.decision.requiredRole ∧
      Approves actionId action.proposal tenantId role state approval
  eligible : Exists fun state => currentState = some state ∧ EligibleTestOrder state
  arguments : call = ⟨actionId, Text.removePrefix "order:" action.proposal.targetEntity,
    action.proposal.idempotencyKey⟩

theorem vetted_of_invoked {rt : Runtime} {history : List (Step ActionService Call)}
    {service : ActionService} (part : (actionSystem rt).Run history service) {draws : Draws}
    {actionId tenantId : Text} {cancelOrder : CancelOrderExecutor} {currentState : Option OrderState}
    {call : ProviderCall}
    (invoked : (service.execute rt draws actionId tenantId cancelOrder currentState).invoked =
      some call) :
    Exists fun action => service.actions.get? actionId = some action ∧
      Vetted rt history actionId tenantId currentState call action := by
  rcases (execute_invoked_iff rt service draws _ _ _ _ _).mp invoked with ⟨action, reaches, rfl⟩
  rcases (Backed.of_run part).approved actionId action reaches.found reaches.approved with
    ⟨⟨creation, context, approval, role, state, order, creates, required, same, approves⟩, _⟩
  rw [reaches.owner] at creates approves
  have permits := (evaluatePolicy_cancel_permits rt actionId action.proposal context reaches.cancels
    creates.waits).1
  exact ⟨action, reaches.found, {
    lineage := ⟨creation, context, approval, role, state, order, creates, permits, same, approves⟩
    eligible := (ineligibleReason_none_iff currentState).mp reaches.eligible
    arguments := rfl }⟩

/-- In every run of the application, a write to the provider is made by an execute request,
for an action of the tenant that made the request.  That action was proposed and approved
in the run, the approval found the order as the proposal expects it, and the order is
still held at that version exactly when it still meets the proposal's preconditions.  It
may be held at a later version, and is then only eligible. -/
theorem write_grounded (host : MemoryHost) (run : (application host).Run history services)
    {request : ApplicationRequest} {call : ProviderCall}
    (writes : request.writes? host services = some call) :
    Exists fun draws => Exists fun tenantId => Exists fun cancelOrder => Exists fun action =>
      request = .execute draws call.actionId tenantId cancelOrder ∧
        services.actions.getAction call.actionId tenantId = .ok action ∧
        WriteGrounded host history services call.actionId tenantId call action := by
  rcases executes_of_writes writes with
    ⟨draws, actionId, tenantId, cancelOrder, action, rfl, stored, invoked⟩
  have part := (actionPart host).run run
  rcases vetted_of_invoked part invoked with ⟨found, held, vetted⟩
  rcases (services.actions.getAction_ok_iff _ _ _).mp stored with ⟨kept, owner⟩
  cases kept.symm.trans held
  have named : call.actionId = actionId := by rw [vetted.arguments]
  subst named
  refine ⟨draws, tenantId, cancelOrder, action, rfl, stored, ?_⟩
  obtain ⟨proposing, context, approving, role, state, order, creates, permits, required, approves⟩ :=
    vetted.lineage
  rcases (actionPart host).steps_pair order with ⟨creation, approval, sublist, created, approved⟩
  rcases ((actionPart host).step_eq_some_iff _ _).mp created with ⟨creationCall, _, _⟩
  rcases ((actionPart host).step_eq_some_iff _ _).mp approved with ⟨approvalCall, before, _⟩
  rcases approves.approves with ⟨approvalDraws, approvalBody, approves'⟩
  rw [approves'] at approvalCall
  rcases approves_of_call approvalCall with ⟨request, earlier, waiting, current⟩
  -- The action had the same proposal when it was approved.
  have stood : approving.before.actions.get? call.actionId = some earlier := by
    rw [before]
    exact ((approval.before.actions.getAction_ok_iff _ _ _).mp waiting).1
  have inside : approving ∈ (actionPart host).steps history := order.subset (by simp)
  rcases stored_since part inside stood with ⟨later, kept', continues⟩
  cases kept.symm.trans kept'
  rw [← continues.proposal] at current
  refine ⟨⟨creation, approval, sublist, ?_, ?_⟩, ?_, vetted.arguments⟩
  · rcases creates.proposes with ⟨proposalDraws, proposes, named⟩
    rw [proposes] at creationCall
    rcases proposes_of_call creationCall with ⟨proposer, orderValue, request, priced, rfl⟩
    exact ⟨⟨proposalDraws, proposer, orderValue, request, named, priced, permits⟩⟩
  · exact ⟨⟨approvalDraws, approvalBody, role, request, required⟩,
      ⟨state, current.symm, approves.preconditions⟩⟩
  · rcases vetted.eligible with ⟨present, holds, eligible⟩
    have grown := grown_since run (sublist.subset (by simp : approval ∈ [creation, approval]))
    rcases grown _ state current.symm with ⟨present', holds', newer, same⟩
    cases holds.symm.trans holds'
    have expected := approves.preconditions.version
    refine ⟨present, holds, eligible, expected ▸ newer, fun meets => meets.version, fun version => ?_⟩
    rw [← same (expected.trans version.symm)]
    exact approves.preconditions

end Writes

/-- The sample cancellation, ready to be written. -/
def writable : List ApplicationRequest :=
  proposed importedReading ++ [.approve (.numbered 3) sampleId sampleApproval "operations" "demo"]

theorem writable_run : Exists fun history =>
    (application memoryHost).Run history (memoryHost.after writable) :=
  ⟨_, System.run_trace writable rfl (by decide +kernel)⟩

theorem write_grounded_sample :
    Exists fun history => Exists fun call => Exists fun action =>
      (application memoryHost).Run history (memoryHost.after writable) ∧
        WriteGrounded memoryHost history (memoryHost.after writable) call.actionId "demo" call
          action := by
  rcases writable_run with ⟨history, run⟩
  have sampled : (ApplicationRequest.writes? memoryHost (memoryHost.after writable)
      (.execute (.numbered 4) sampleId "demo" sampleExecutor)).isSome = true := by
    decide +kernel
  rcases Option.isSome_iff_exists.mp sampled with ⟨call, writes⟩
  rcases write_grounded memoryHost run writes with ⟨draws, tenantId, cancelOrder, action, same, _, grounded⟩
  have asked : Text.ofString "demo" = tenantId := by injection same
  exact ⟨history, call, action, run, asked ▸ grounded⟩

end Api
end RealityLayer
