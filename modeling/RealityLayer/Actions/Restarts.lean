import RealityLayer.Actions.Replay

namespace RealityLayer
namespace Actions

open Foundation Python RealityGit WorldState

/-!
# At most one accepted write across restarts

A deployment is a service together with the events it has appended so far.  A
restart discards the service and restores a fresh one from those events.  Keys
are claimed by `propose` and receipts recorded by `execute`; both are protected
across a restart only through the event of the call.

`propose` and `execute` write their maps before they hash that event.  When it
cannot be hashed, the key or the receipt lives in the process alone, and a
restart frees it for a second write.  A call is `Durable` when this does not
happen, and durable runs accept at most one write for each key.
-/

/-! ## Deployments -/

structure Deployment where
  service : ActionService
  log : List ActionEventRecord

inductive Operation where
  | call (call : Call)
  | restart

namespace Deployment

def fresh : Deployment := ⟨.fresh, []⟩

/-- A call appends its events to the log; a restart rebuilds the service from it. What a call
left in the service without an event does not survive a restart. -/
def next (rt : Runtime) (deployment : Deployment) : Operation -> Deployment
  | .call call =>
      let after := (deployment.service.perform rt call).state
      ⟨after, deployment.log ++ deployment.service.added after⟩
  | .restart => ⟨(ActionService.restoreAll rt .fresh deployment.log).state, deployment.log⟩

/-- The identifiers a call draws occur neither in the service nor in the log. -/
def DrawsFresh (deployment : Deployment) : Operation -> Prop
  | .call call => deployment.service.DrawsFresh call ∧
      call.eventId ∉ deployment.log.map ActionEventRecord.eventId
  | .restart => True

instance (deployment : Deployment) : (operation : Operation) ->
    Decidable (deployment.DrawsFresh operation)
  | .call _ => inferInstanceAs (Decidable (_ ∧ _))
  | .restart => isTrue trivial

/-- A call that claims a key or records a receipt has a hashable event. Where it has none,
the key or the receipt is in the process only. -/
def Durable (rt : Runtime) (deployment : Deployment) : Operation -> Prop
  | .call call => call.recordsKey -> deployment.service.Hashed rt call
  | .restart => True

instance (rt : Runtime) (deployment : Deployment) : (operation : Operation) ->
    Decidable (deployment.Durable rt operation)
  | .call call => inferInstanceAs (Decidable (call.recordsKey -> _))
  | .restart => isTrue trivial

end Deployment

/-- The executor of an execute call echoes the idempotency key it is given. Restarts restore
receipts under the key they carry, not under the one of the action. -/
def Operation.Echoes : Operation -> Prop
  | .call (.execute _ _ _ cancelOrder _) => cancelOrder.Echoes
  | .call (.propose _ _ _ _) => True
  | .call (.approve _ _ _ _ _ _) => True
  | .call (.reject _ _ _ _) => True
  | .call (.verify _ _ _ _ _) => True
  | .restart => True

/-- Deployments whose calls draw fresh identifiers. Identifiers in the log count as used,
even where the service does not hold the event. -/
def deploymentSystem (rt : Runtime) : System Deployment Operation where
  start := fun deployment => deployment = .fresh
  admits := fun deployment operation => deployment.DrawsFresh operation
  next := fun deployment operation => deployment.next rt operation

instance (rt : Runtime) (deployment : Deployment) (operation : Operation) :
    Decidable ((deploymentSystem rt).admits deployment operation) :=
  inferInstanceAs (Decidable (deployment.DrawsFresh operation))

instance (rt : Runtime) (deployment : Deployment) (operation : Operation) :
    Decidable (((deploymentSystem rt).restrict (Deployment.Durable rt)).admits deployment operation) :=
  inferInstanceAs (Decidable (deployment.DrawsFresh operation ∧ deployment.Durable rt operation))

/-- Deployments whose executors echo their keys. -/
def echoingDeployments (rt : Runtime) : System Deployment Operation :=
  (deploymentSystem rt).restrict (fun _ operation => operation.Echoes)

/-- The same deployments with durable calls only. Here a restarted service knows every key
and every receipt that the old one knew. -/
def durableDeployments (rt : Runtime) : System Deployment Operation :=
  ((deploymentSystem rt).restrict (Deployment.Durable rt)).restrict
    (fun _ operation => operation.Echoes)

/-! ## Accepted writes of a history -/

/-- One accepted write: who asked for it, the provider call and the receipt. Two acceptances
under one key of one tenant are what must not happen. -/
structure Acceptance where
  tenantId : Text
  call : ProviderCall
  receipt : ExecutionReceipt
deriving DecidableEq

def Acceptance.key (acceptance : Acceptance) : Text × Text :=
  (acceptance.tenantId, acceptance.call.idempotencyKey)

/-- The write a call gets accepted, if it does. A call that answers from a stored receipt
reaches no provider, so it gets none. -/
def ActionService.acceptance? (rt : Runtime) (service : ActionService) (call : Call) :
    Option Acceptance :=
  (service.accepts? rt call).map (fun accepted => ⟨call.tenantId, accepted.1, accepted.2⟩)

def stepAcceptance? (rt : Runtime) (step : Step Deployment Operation) : Option Acceptance :=
  match step.label with
  | .call call => step.before.service.acceptance? rt call
  | .restart => none

/-- Every write the provider accepted in a history, in order. -/
def acceptances (rt : Runtime) (history : List (Step Deployment Operation)) : List Acceptance :=
  history.filterMap (stepAcceptance? rt)

/-- One action for each key, now and in every earlier state; one accepted write
for each key; and its receipt for every later execute call. -/
structure AtMostOnce (rt : Runtime) (history : List (Step Deployment Operation))
    (deployment : Deployment) : Prop where
  oneAction : forall first second one other,
    deployment.service.actions.get? first = some one ->
    deployment.service.actions.get? second = some other -> one.tenantId = other.tenantId ->
    one.proposal.idempotencyKey = other.proposal.idempotencyKey -> first = second
  sameAction : forall step, step ∈ history -> forall first second one other,
    step.after.service.actions.get? first = some one ->
    deployment.service.actions.get? second = some other -> one.tenantId = other.tenantId ->
    one.proposal.idempotencyKey = other.proposal.idempotencyKey -> first = second
  onceAccepted : ((acceptances rt history).map Acceptance.key).Nodup
  repeated : forall acceptance, acceptance ∈ acceptances rt history ->
    forall draws cancelOrder currentState,
      deployment.service.execute rt draws acceptance.call.actionId acceptance.tenantId cancelOrder
        currentState = ⟨none, .returns deployment.service acceptance.receipt⟩

/-! ## Keys and receipts under one call -/

/-- Every stored action owns its key. A proposal that repeats a key is answered from the
owner, and makes no action of its own. -/
def KeysOwned (service : ActionService) : Prop :=
  forall actionId action, service.actions.get? actionId = some action ->
    service.idempotency.get? (action.tenantId, action.proposal.idempotencyKey) = some actionId

section Step

variable {rt : Runtime} {service after : ActionService} {hashed : Prop} {call : Call}
variable {draft : EventDraft} {entry : Option ActionEventRecord}

theorem Appends.maps (appends : Appends rt service draft hashed entry after) :
    after.idempotency = service.idempotency ∧ after.executions = service.executions := by
  cases appends with
  | logged eventHash genuine => exact ⟨rfl, rfl⟩
  | unhashable broken => exact ⟨rfl, rfl⟩

/-- An update of one decision keeps every key owned. -/
theorem KeysOwned.decided (owned : KeysOwned service) {actionId : Text} {action : StoredAction}
    (found : service.actions.get? actionId = some action) {status : ActionStatus} {reason : Text}
    (actions : after.actions = (service.withDecision actionId action status reason).actions)
    (idempotency : after.idempotency = service.idempotency) : KeysOwned after := by
  intro other stored held
  rw [actions, ActionService.withDecision] at held
  rw [idempotency]
  by_cases same : other = actionId
  · subst same
    rw [Dict.get?_set_self] at held
    cases held
    exact owned other action found
  · rw [Dict.get?_set_of_ne _ _ same] at held
    exact owned other stored held

theorem KeysOwned.step (owned : KeysOwned service)
    (effect : Effect rt service hashed call entry after) : KeysOwned after := by
  cases effect with
  | idle => exact owned
  | created draws proposal tenantId context _ _ unclaimed appends =>
      intro other stored held
      rw [appends.actions, ActionService.register] at held
      rw [appends.maps.1, ActionService.register]
      by_cases same : other = ActionService.newActionId draws
      · subst same
        rw [Dict.get?_set_self] at held
        cases held
        exact Dict.get?_set_self _ _ _
      · rw [Dict.get?_set_of_ne _ _ same] at held
        have claimed := owned other stored held
        rw [Dict.get?_set_of_ne]
        · exact claimed
        · intro equal
          rw [equal] at claimed
          cases unclaimed.symm.trans claimed
  | settled call actionId tenantId action verdict _ _ found owner decides appends =>
      exact owned.decided found appends.actions appends.maps.1
  | refused draws actionId tenantId cancelOrder currentState action reason _ _ found owner approved
      ineligible appends =>
      intro other stored held
      rw [appends.actions] at held
      rw [appends.maps.1]
      exact owned other stored held
  | accepted draws actionId tenantId cancelOrder currentState action receipt _ _ reaches accepts
      appends => exact owned.decided reaches.found appends.actions appends.maps.1

/-- A recorded receipt stays recorded. The service overwrites none, since a key with a
receipt is answered before the provider is called. -/
theorem Effect.keeps_receipt (effect : Effect rt service hashed call entry after)
    {key : Text × Text} {receipt : ExecutionReceipt}
    (recorded : service.executions.get? key = some receipt) :
    after.executions.get? key = some receipt := by
  cases effect with
  | idle => exact recorded
  | created draws proposal tenantId context _ _ unclaimed appends =>
      rw [appends.maps.2]
      exact recorded
  | settled call actionId tenantId action verdict _ _ found owner decides appends =>
      rw [appends.maps.2]
      exact recorded
  | refused draws actionId tenantId cancelOrder currentState action reason _ _ found owner approved
      ineligible appends =>
      rw [appends.maps.2]
      exact recorded
  | accepted draws actionId tenantId cancelOrder currentState action new _ _ reaches accepts appends =>
      rw [appends.maps.2, ActionService.accept, Dict.get?_set_of_ne]
      · exact recorded
      · rintro rfl
        cases reaches.unused.symm.trans recorded

end Step

/-- The receipt of an accepted write is recorded for the action's key, and the action is
still stored. The second half is what lets a restored service find the receipt again. -/
structure Recorded (service : ActionService) (acceptance : Acceptance) : Prop where
  receipt : service.executions.get? acceptance.key = some acceptance.receipt
  action : Exists fun action => service.actions.get? acceptance.call.actionId = some action ∧
    action.tenantId = acceptance.tenantId ∧
    action.proposal.idempotencyKey = acceptance.call.idempotencyKey

/-- An execute call of a recorded action returns the receipt and calls nobody. The status of
the action does not come into it. -/
theorem Recorded.execute {rt : Runtime} {service : ActionService} {acceptance : Acceptance}
    (recorded : Recorded service acceptance) (draws : Draws) (cancelOrder : CancelOrderExecutor)
    (currentState : Option OrderState) :
    service.execute rt draws acceptance.call.actionId acceptance.tenantId cancelOrder currentState =
      ⟨none, .returns service acceptance.receipt⟩ := by
  rcases recorded with ⟨receipt, action, stored, owner, key⟩
  have found := (service.getAction_ok_iff acceptance.call.actionId acceptance.tenantId action).mpr
    ⟨stored, owner⟩
  have existing : service.executions.get? (acceptance.tenantId, action.proposal.idempotencyKey) =
      some acceptance.receipt := by
    rw [key]
    exact receipt
  simp only [ActionService.execute, found, existing]

theorem acceptance?_iff {rt : Runtime} {service : ActionService} {call : Call}
    {acceptance : Acceptance} :
    service.acceptance? rt call = some acceptance <->
      service.accepts? rt call = some (acceptance.call, acceptance.receipt) ∧
        call.tenantId = acceptance.tenantId := by
  unfold ActionService.acceptance?
  cases service.accepts? rt call with
  | none => simp
  | some accepted =>
      cases acceptance
      simp [Prod.ext_iff]
      tauto

/-- An accepted write is recorded at once, and its key had no receipt before. -/
theorem Recorded.of_acceptance {rt : Runtime} {service : ActionService} {call : Call}
    {acceptance : Acceptance} (accepted : service.acceptance? rt call = some acceptance) :
    Recorded (service.perform rt call).state acceptance ∧
      service.executions.get? acceptance.key = none := by
  rcases acceptance?_iff.mp accepted with ⟨accepts, tenant⟩
  rcases (accepts?_iff rt service call _ _).mp accepts with
      ⟨draws, actionId, tenantId, cancelOrder, currentState, action, rfl, reaches, made, answered⟩
  cases acceptance with
  | mk tenant' providerCall receipt =>
      cases tenant
      cases made
      rcases execute_accepting rt service draws reaches answered with ⟨actions, executions⟩
      refine ⟨⟨?_, ?_⟩, reaches.unused⟩
      · rw [executions]
        exact Dict.get?_set_self _ _ _
      · rw [actions]
        exact ⟨_, Dict.get?_set_self _ _ _, reaches.owner, rfl⟩

/-! ## The invariant of a durable deployment -/

/-- Two proposals with the same idempotency key. -/
def SameKey (first second : ActionProposal) : Prop := second.idempotencyKey = first.idempotencyKey

theorem ActionService.Mirrors.refl (service : ActionService) : service.Mirrors SameKey service where
  events := rfl
  idempotency := rfl
  executions := rfl
  actions := by
    intro actionId
    cases service.actions.get? actionId with
    | none => exact .none
    | some action => exact .some ⟨rfl, rfl, rfl, rfl⟩

/-- The same tenant and the same idempotency key. Everything else about an action may change
between two moments, its status above all. -/
structure SameIdentity (first second : StoredAction) : Prop where
  tenantId : second.tenantId = first.tenantId
  key : second.proposal.idempotencyKey = first.proposal.idempotencyKey

structure DeploymentSound (rt : Runtime) (history : List (Step Deployment Operation))
    (deployment : Deployment) : Prop where
  owned : KeysOwned deployment.service
  copied : Exists fun copy =>
    ActionService.restoreAll rt .fresh deployment.log = .returns copy () ∧
      deployment.service.Mirrors SameKey copy
  recorded : forall acceptance, acceptance ∈ acceptances rt history ->
    Recorded deployment.service acceptance
  once : ((acceptances rt history).map Acceptance.key).Nodup
  kept : forall step, step ∈ history -> forall actionId action,
    step.after.service.actions.get? actionId = some action ->
      Exists fun later => deployment.service.actions.get? actionId = some later ∧
        SameIdentity action later

theorem acceptances_snoc (rt : Runtime) (history : List (Step Deployment Operation))
    (step : Step Deployment Operation) :
    acceptances rt (history ++ [step]) = acceptances rt history ++ (stepAcceptance? rt step).toList := by
  unfold acceptances
  rw [List.filterMap_append]
  cases found : stepAcceptance? rt step with
  | none => simp [found]
  | some acceptance => simp [found]

/-- Earlier actions stay known when each action of the last state does. -/
theorem kept_snoc {history : List (Step Deployment Operation)} {before after : Deployment}
    (operation : Operation)
    (kept : forall step, step ∈ history -> forall actionId action,
      step.after.service.actions.get? actionId = some action ->
        Exists fun later => before.service.actions.get? actionId = some later ∧
          SameIdentity action later)
    (keeps : forall actionId action, before.service.actions.get? actionId = some action ->
      Exists fun later => after.service.actions.get? actionId = some later ∧
        SameIdentity action later)
    (step : Step Deployment Operation) (member : step ∈ history ++ [⟨before, operation, after⟩])
    (actionId : Text) (action : StoredAction)
    (stored : step.after.service.actions.get? actionId = some action) :
    Exists fun later => after.service.actions.get? actionId = some later ∧
      SameIdentity action later := by
  rcases List.mem_append.mp member with earlier | last
  · rcases kept step earlier actionId action stored with ⟨held, found, same⟩
    rcases keeps actionId held found with ⟨later, known, further⟩
    exact ⟨later, known, further.tenantId.trans same.tenantId, further.key.trans same.key⟩
  · rw [List.mem_singleton.mp last] at stored
    exact ⟨action, stored, rfl, rfl⟩

section Deployments

variable {rt : Runtime} {history : List (Step Deployment Operation)} {deployment : Deployment}

/-- A restart keeps keys and receipts, because the copy mirrors the service. This is where
durability is needed: a key without an event is lost here. -/
theorem DeploymentSound.restart (sound : DeploymentSound rt history deployment) :
    DeploymentSound rt (history ++ [⟨deployment, .restart, deployment.next rt .restart⟩])
      (deployment.next rt .restart) := by
  rcases sound.copied with ⟨copy, restored, mirrors⟩
  have next : deployment.next rt .restart = ⟨copy, deployment.log⟩ := by
    unfold Deployment.next
    rw [restored]
    rfl
  have same : acceptances rt (history ++ [⟨deployment, .restart, deployment.next rt .restart⟩]) =
      acceptances rt history := by
    rw [acceptances_snoc]
    exact List.append_nil _
  rw [next] at same ⊢
  refine ⟨?_, ⟨copy, restored, .refl copy⟩, ?_, same ▸ sound.once, kept_snoc _ sound.kept ?_⟩
  · intro actionId copied known
    have related := mirrors.actions actionId
    rw [known] at related
    cases stored : deployment.service.actions.get? actionId with
    | none =>
        rw [stored] at related
        cases related
    | some action =>
        rw [stored] at related
        cases related with
        | some alike =>
            have owns := sound.owned actionId action stored
            rw [← alike.tenantId, ← show copied.proposal.idempotencyKey = _ from alike.proposal] at owns
            rw [mirrors.idempotency]
            exact owns
  · intro acceptance member
    rw [same] at member
    rcases sound.recorded acceptance member with ⟨receipt, action, stored, owner, key⟩
    rcases mirrors.of_stored stored with ⟨copied, known, alike⟩
    refine ⟨?_, copied, known, alike.tenantId.trans owner, alike.proposal.trans key⟩
    rw [mirrors.executions]
    exact receipt
  · intro actionId action stored
    rcases mirrors.of_stored stored with ⟨copied, known, alike⟩
    exact ⟨copied, known, alike.tenantId, alike.proposal⟩

/-- A durable call keeps the copy a mirror, and accepts only a write whose key
has no receipt yet. -/
theorem DeploymentSound.call (sound : DeploymentSound rt history deployment) {call : Call}
    (admitted : (durableDeployments rt).admits deployment (.call call)) :
    DeploymentSound rt (history ++ [⟨deployment, .call call, deployment.next rt (.call call)⟩])
      (deployment.next rt (.call call)) := by
  rcases admitted with ⟨⟨⟨fresh, _⟩, durable⟩, echoes⟩
  rcases perform_effect rt deployment.service call with ⟨entry, effect⟩
  rcases sound.copied with ⟨copy, restored, mirrors⟩
  have answers : forall providerCall receipt,
      deployment.service.accepts? rt call = some (providerCall, receipt) ->
        receipt.idempotencyKey = providerCall.idempotencyKey := by
    intro providerCall receipt accepted
    rcases (accepts?_iff rt _ _ _ _).mp accepted with
        ⟨draws, actionId, tenantId, cancelOrder, currentState, action, rfl, _, _, answered⟩
    exact echoes providerCall receipt answered
  rcases mirrors.step effect fresh
    ⟨durable, fun _ proposal _ _ _ => rfl, answers⟩ with ⟨next, further, mirrored, _⟩
  have earlier : forall acceptance, acceptance ∈ acceptances rt history ->
      Recorded (deployment.service.perform rt call).state acceptance := by
    intro acceptance member
    rcases sound.recorded acceptance member with ⟨receipt, action, stored, owner, key⟩
    rcases effect.keeps fresh stored with ⟨later, kept, continues⟩
    exact ⟨effect.keeps_receipt receipt, later, kept, continues.tenantId.trans owner,
      (congrArg (fun proposal : ActionProposal => proposal.idempotencyKey) continues.proposal).trans key⟩
  refine ⟨sound.owned.step effect, ⟨next, ?_, mirrored⟩, ?_, ?_, kept_snoc _ sound.kept ?_⟩
  · change Outcome.forEach _ _ (deployment.log ++ _) = _
    rw [Outcome.forEach_append _ restored, effect.added fresh]
    exact further
  · intro acceptance member
    rw [acceptances_snoc] at member
    rcases List.mem_append.mp member with before | now
    · exact earlier acceptance before
    · exact (Recorded.of_acceptance (Option.mem_toList.mp now)).1
  · rw [acceptances_snoc, List.map_append, List.nodup_append]
    refine ⟨sound.once, ?_, ?_⟩
    · cases stepAcceptance? rt ⟨deployment, .call call, deployment.next rt (.call call)⟩ with
      | none => exact List.nodup_nil
      | some acceptance => exact List.nodup_singleton _
    · rintro key before other now rfl
      rcases List.mem_map.mp before with ⟨first, member, rfl⟩
      rcases List.mem_map.mp now with ⟨second, again, same⟩
      have unused := (Recorded.of_acceptance (Option.mem_toList.mp again)).2
      have receipt := (sound.recorded first member).receipt
      rw [same] at unused
      cases unused.symm.trans receipt
  · intro actionId action stored
    rcases effect.keeps fresh stored with ⟨later, kept, continues⟩
    exact ⟨later, kept, continues.tenantId,
      congrArg (fun proposal : ActionProposal => proposal.idempotencyKey) continues.proposal⟩

theorem DeploymentSound.of_run (run : (durableDeployments rt).Run history deployment) :
    DeploymentSound rt history deployment := by
  apply System.Run.historyInvariant run
  · rintro _ rfl
    refine ⟨?_, ⟨.fresh, rfl, .refl .fresh⟩, ?_, List.nodup_nil, ?_⟩
    · intro actionId action stored
      cases stored
    · intro acceptance member
      cases member
    · intro step member
      cases member
  · intro history deployment operation earlier sound admitted
    cases operation with
    | call call => exact sound.call admitted
    | restart => exact sound.restart

/-- In every run of durable calls and restarts, each key has at most one action,
the provider accepts at most one write for it, and every later execute call of
that action returns the accepted receipt without calling the provider. -/
theorem at_most_one_write (rt : Runtime) (run : (durableDeployments rt).Run history deployment) :
    AtMostOnce rt history deployment := by
  have sound := DeploymentSound.of_run run
  have only : forall first second one other,
      deployment.service.actions.get? first = some one ->
      deployment.service.actions.get? second = some other -> one.tenantId = other.tenantId ->
      one.proposal.idempotencyKey = other.proposal.idempotencyKey -> first = second := by
    intro first second one other stored held tenants keys
    have claimed := sound.owned first one stored
    rw [tenants, keys, sound.owned second other held] at claimed
    exact (Option.some.inj claimed).symm
  refine ⟨only, ?_, sound.once, fun acceptance member draws cancelOrder currentState =>
    (sound.recorded acceptance member).execute draws cancelOrder currentState⟩
  intro step member first second one other stored held tenants keys
  rcases sound.kept step member first one stored with ⟨later, known, same⟩
  exact only first second later other known held (same.tenantId.trans tenants) (same.key.trans keys)

end Deployments

/-- The sample cancellation, restarted after its acceptance. -/
def restartedSample : List Operation :=
  [.call samplePropose, .call sampleApprove, .call sampleExecute, .restart]

theorem at_most_one_write_sample :
    Exists fun history => Exists fun deployment =>
      (acceptances .plain history).length = 1 ∧ AtMostOnce .plain history deployment := by
  have sampled : ((deploymentSystem .plain).restrict (Deployment.Durable .plain)).AdmitsAll .fresh
        restartedSample ∧
      (acceptances .plain ((durableDeployments .plain).trace .fresh restartedSample).1).length = 1 := by
    decide +kernel
  rcases sampled with ⟨admitted, accepted⟩
  have echoes : forall operation, operation ∈ restartedSample ->
      Deployment -> operation.Echoes := by
    intro operation member _
    simp only [restartedSample, List.mem_cons, List.not_mem_nil, or_false] at member
    rcases member with rfl | rfl | rfl | rfl
    · exact True.intro
    · exact True.intro
    · exact sampleExecutor_echoes
    · exact True.intro
  have run : (durableDeployments .plain).Run _ _ :=
    System.run_trace restartedSample rfl (admitted.restrict echoes)
  exact ⟨_, _, accepted, at_most_one_write .plain run⟩

/-! ## A write accepted twice -/

/-- The sample proposal with a parameter that UTF-8 cannot encode. -/
def unhashableProposal : ActionProposal :=
  { sampleProposal with
    parameters := Dict.ofList [("note", .str ⟨[0xD800]⟩)]
    valid := by decide +kernel }

/-- Propose, approve and execute, with identifiers drawn from a start number. -/
def unhashableCancellation (start : Nat) : List Operation :=
  let actionId := ActionService.newActionId (.numbered start)
  [.call (.propose (.numbered start) unhashableProposal "demo" sampleContext),
    .call (.approve (.numbered (start + 2)) actionId sampleApproval "operations" "demo"
      (some (sampleOrder 1 "open"))),
    .call (.execute (.numbered (start + 3)) actionId "demo" sampleExecutor
      (some (sampleOrder 1 "open")))]

/-- The policy event of the proposal is never written, so the restart forgets
the key and its receipt, and the same cancellation is accepted again. -/
theorem unhashable_proposal_accepted_twice :
    Exists fun history => Exists fun deployment =>
      (echoingDeployments .plain).Run history deployment ∧ ¬ AtMostOnce .plain history deployment := by
  have admitted : (deploymentSystem .plain).AdmitsAll .fresh
      (unhashableCancellation 1 ++ .restart :: unhashableCancellation 11) := by
    decide +kernel
  have echoes : forall operation,
      operation ∈ unhashableCancellation 1 ++ .restart :: unhashableCancellation 11 ->
        Deployment -> operation.Echoes := by
    intro operation member _
    simp only [unhashableCancellation, List.cons_append, List.nil_append, List.mem_cons,
      List.not_mem_nil, or_false] at member
    rcases member with rfl | rfl | rfl | rfl | rfl | rfl | rfl
    · exact True.intro
    · exact True.intro
    · exact sampleExecutor_echoes
    · exact True.intro
    · exact True.intro
    · exact True.intro
    · exact sampleExecutor_echoes
  have run : (echoingDeployments .plain).Run _ _ :=
    System.run_trace (unhashableCancellation 1 ++ .restart :: unhashableCancellation 11) rfl
      (admitted.restrict echoes)
  refine ⟨_, _, run, fun once => ?_⟩
  exact absurd once.onceAccepted (by decide +kernel)

end Actions
end RealityLayer
