import RealityLayer.Worker.Soundness
import RealityLayer.WorldState.Renaming

namespace RealityLayer
namespace Api

open Foundation Python RealityGit WorldState WorldStateService Actions Connectors Worker

/-!
# Two verifiers of one action

The API and the worker verify an action by the same steps: read the order, normalize the
read, ingest it, judge the state that `ingest` answers with.  They differ in the identifier
that the read is ingested under.  The API keeps the connector's, which every read of the
order has, and the worker draws a new one.  So where the order was read before, the API is
answered with the held state and the worker with what it has just read.

The two agree exactly when World State knows both identifiers or neither, or the read has
nothing to tell it.
-/

/-! ## The endpoint -/

section Endpoint

variable (rt : Runtime) (fromisoformat : Text -> Except PyError Timestamp)

/-- `POST /v1/actions/{action_id}/verify`, without a session.  It takes the inputs of an
attempt of the worker's, but draws no nonce and has no deadline. -/
def verifyInMemory (services : Services) (tenantId actionId : Text) (attempt : Attempt) :
    Outcome PyError Services ActionDecision :=
  match services.actions.getAction actionId tenantId with
  | .error error => .raises services error
  | .ok _ =>
      match attempt.observation rt fromisoformat with
      | .error error => .raises services error
      | .ok observation =>
          let ingested := services.world.ingest rt attempt.ingestDraws tenantId observation
            "verified_action" "verified"
          match ingested.result with
          | .error error => .raises ⟨services.actions, ingested.state⟩ error
          | .ok state =>
              let verified := services.actions.verify rt attempt.verifyDraws actionId tenantId
                (some state) true
              ⟨⟨verified.state, ingested.state⟩, verified.result⟩

end Endpoint

/-! ## What a verification leaves -/

/-- What a caller and the two services show after a verification: the status that was
answered, the status of the stored decision, and the values of the target order. -/
structure Account where
  answered : Option ActionStatus
  decided : Option ActionStatus
  values : Text -> Option Json

/-- The values a service holds for an order. -/
def orderValues (world : WorldStateService) (tenantId orderId name : Text) : Option Json :=
  (world.states.get? (tenantId, "order", orderId)).bind (fun state => state.value? name)

def account (tenantId actionId orderId : Text) (outcome : Outcome PyError Services ActionDecision) :
    Account where
  answered := outcome.result.toOption.map ActionDecision.status
  decided := (outcome.state.actions.actions.get? actionId).map (fun action => action.decision.status)
  values := orderValues outcome.state.world tenantId orderId

/-- World State has seen both identifiers of a read, or neither. One is the connector's own,
and the other is the worker's. -/
def SeenAlike (world : WorldStateService) (tenantId : Text) (observation : Observation) (nonce : Uuid) :
    Prop :=
  world.observations.contains (tenantId, observation.observationId) =
    world.observations.contains (tenantId, verificationId observation.observationId nonce)

instance (world : WorldStateService) (tenantId : Text) (observation : Observation) (nonce : Uuid) :
    Decidable (SeenAlike world tenantId observation nonce) :=
  inferInstanceAs (Decidable (_ = _))

/-! ## Judging a state -/

section Judging

variable {rt : Runtime} {services : Services} {tenantId actionId orderId : Text} {action : StoredAction}

/-- What both verifiers do with the outcome of `ingest`. A read that raises reaches no verdict. -/
def judged (rt : Runtime) (services : Services) (tenantId actionId : Text) (draws : Draws)
    (ingested : Outcome PyError WorldStateService OrderState) : Outcome PyError Services ActionDecision :=
  match ingested.result with
  | .error error => .raises ⟨services.actions, ingested.state⟩ error
  | .ok state =>
      let verified := services.actions.verify rt draws actionId tenantId (some state) true
      ⟨⟨verified.state, ingested.state⟩, verified.result⟩

/-- The event of a verdict can be hashed. -/
def eventHashable (rt : Runtime) (service : ActionService) (tenantId actionId : Text) (draws : Draws)
    (verdict : Verdict) : Bool :=
  hashable rt (ActionService.eventBody (ActionService.newEventId draws 0) tenantId actionId
    verdict.eventType verdict.actorRole verdict.payload
    ((service.eventsOf actionId).getLast?.map ActionEventRecord.eventHash))

theorem settle_status (service : ActionService) (draws : Draws) (verdict : Verdict) :
    let settled := service.settle rt (ActionService.newEventId draws 0) tenantId actionId action verdict
    settled.result.toOption.map ActionDecision.status =
        (if eventHashable rt service tenantId actionId draws verdict then some verdict.status else none) ∧
      (settled.state.actions.get? actionId).map (fun action => action.decision.status) =
        some verdict.status := by
  unfold ActionService.settle ActionService.appendEvent eventHashable
  dsimp only
  have events : (service.withDecision actionId action verdict.status verdict.reason).eventsOf actionId =
      service.eventsOf actionId := rfl
  have stored : forall after : ActionService,
      after.actions = (service.withDecision actionId action verdict.status verdict.reason).actions ->
      (after.actions.get? actionId).map (fun action => action.decision.status) =
        some verdict.status := by
    intro after same
    rw [same, ActionService.withDecision, Dict.get?_set_self]
    rfl
  rw [events]
  cases hashed : hashJson rt (ActionService.eventBody (ActionService.newEventId draws 0) tenantId
      actionId verdict.eventType verdict.actorRole verdict.payload
      ((service.eventsOf actionId).getLast?.map ActionEventRecord.eventHash)) with
  | ok hash =>
      rw [((hashJson_ok_iff _ _).mp hashed).1, if_pos rfl]
      exact ⟨rfl, stored _ rfl⟩
  | error cause =>
      refine ⟨?_, stored _ rfl⟩
      rw [if_neg]
      · rfl
      · intro accepted
        rcases hashJson_ok_of_hashable accepted with ⟨hash, same⟩
        rw [hashed] at same
        cases same

/-- A final verdict leaves an action that cannot be verified again. -/
theorem verificationStatus_final (observed : Json) :
    ActionService.verifiable (ActionService.verificationStatus observed true) = false := by
  unfold ActionService.verificationStatus
  split
  · rfl
  · rw [if_neg (by decide)]
    split
    · rfl
    · rfl

/-- Judging a raised outcome leaves the decision alone. -/
theorem account_raised (stored : services.actions.getAction actionId tenantId = .ok action)
    (draws : Draws) (after : WorldStateService) (error : PyError) :
    account tenantId actionId orderId (judged rt services tenantId actionId draws (.raises after error)) =
      ⟨none, some action.decision.status, orderValues after tenantId orderId⟩ := by
  have found := ((ActionService.getAction_ok_iff services.actions actionId tenantId action).mp stored).1
  unfold account judged
  dsimp only [Outcome.raises_result, Outcome.raises_state]
  rw [found]
  rfl

/-- Judging a state gives its verdict. -/
theorem account_returned (stored : services.actions.getAction actionId tenantId = .ok action)
    (waiting : ActionService.verifiable action.decision.status = true) (draws : Draws)
    (after : WorldStateService) (state : OrderState) :
    account tenantId actionId orderId (judged rt services tenantId actionId draws (.returns after state)) =
      ⟨if eventHashable rt services.actions tenantId actionId draws
          (ActionService.verificationVerdict rt (some state) true)
        then some (ActionService.verificationStatus (ActionService.observedStatus (some state)) true)
        else none,
        some (ActionService.verificationStatus (ActionService.observedStatus (some state)) true),
        orderValues after tenantId orderId⟩ := by
  have settled := @settle_status rt tenantId actionId action services.actions draws
    (ActionService.verificationVerdict rt (some state) true)
  unfold account judged ActionService.verify
  dsimp only [Outcome.returns_result, Outcome.returns_state] at settled ⊢
  rw [stored]
  dsimp only
  rw [waiting, if_neg (by decide), settled.1, settled.2]
  rfl

/-- Two states with one status get verdicts that are recorded alike. -/
theorem eventHashable_congr (service : ActionService) (draws draws' : Draws) {first second : OrderState}
    (status : first.value? "status" = second.value? "status")
    (named : first.commitId.encodable = second.commitId.encodable) :
    eventHashable rt service tenantId actionId draws
        (ActionService.verificationVerdict rt (some first) true) =
      eventHashable rt service tenantId actionId draws'
        (ActionService.verificationVerdict rt (some second) true) := by
  have observed : ActionService.observedStatus (some first) =
      ActionService.observedStatus (some second) := by
    unfold ActionService.observedStatus
    rw [Option.bind_some, Option.bind_some, status]
  unfold eventHashable ActionService.verificationVerdict ActionService.eventBody hashable
  dsimp only
  rw [observed, ActionService.verificationPayload_entries, ActionService.verificationPayload_entries]
  simp only [Json.finite, Json.finiteEntries, encodableJson, encodableEntries,
    ActionService.newEventId_encodable,
    Option.map_some, Json.ofText?, named]

end Judging

/-! ## One read under two identifiers -/

section Reads

variable {rt : Runtime} {fromisoformat : Text -> Except PyError Timestamp} {services : Services}
variable {tenantId actionId orderId : Text} {action : StoredAction}

/-- A read of a payload for an order is an observation of that order, and its values have
distinct keys when those of the payload have. -/
theorem shopify_read {now : Int} {payload : Payload} {observation : Observation}
    (accepted : shopifyNormalize rt fromisoformat now payload = .ok observation)
    (target : payload.get? "id" = some (.str orderId))
    (distinct : forall name value, payload.get? name = some value -> keyed value = true) :
    observation.objectType = "order" ∧ observation.objectId = orderId ∧ KeyedPayload observation := by
  rcases bind_ok accepted with ⟨readId, identified, accepted⟩
  rcases bind_ok accepted with ⟨status, _, accepted⟩
  rcases bind_ok accepted with ⟨observed, _, accepted⟩
  have same : readId = orderId := by
    unfold requiredString field at identified
    rw [target] at identified
    dsimp only [Option.getD_some] at identified
    split at identified
    · cases identified
    · exact (Except.ok.inj identified).symm
  have fields := validated_ok accepted
  unfold KeyedPayload
  rw [fields]
  refine ⟨rfl, same, Dict.All.ofList _ ?_⟩
  intro entry member
  simp only [List.mem_cons, List.mem_append, optionalEntry, List.mem_map, Option.mem_toList,
    Option.map_eq_some_iff, present?, Option.filter_eq_some_iff] at member
  rcases member with rfl | rfl | ((⟨value, read, rfl⟩ | ⟨value, ⟨price, _, rfl⟩, rfl⟩) |
    ⟨value, ⟨read, _⟩, rfl⟩)
  · rfl
  · rfl
  · exact distinct _ value read
  · rfl
  · exact distinct _ value read

theorem renamed_same (observation : Observation) (nonce : Uuid) :
    SameReading observation (renamed observation nonce) := ⟨rfl, rfl, rfl, rfl, rfl⟩

theorem verifyInMemory_judged (stored : services.actions.getAction actionId tenantId = .ok action)
    {attempt : Attempt} {observation : Observation}
    (read : attempt.observation rt fromisoformat = .ok observation) :
    verifyInMemory rt fromisoformat services tenantId actionId attempt =
      judged rt services tenantId actionId attempt.verifyDraws
        (services.world.ingest rt attempt.ingestDraws tenantId observation "verified_action"
          "verified") := by
  unfold verifyInMemory judged
  rw [stored, read]

theorem worker_judged (stored : services.actions.getAction actionId tenantId = .ok action)
    {attempt : Attempt} {observation : Observation}
    (read : attempt.observation rt fromisoformat = .ok observation) :
    (Worker.verifyAction rt fromisoformat services tenantId actionId attempt []).outcome =
      judged rt services tenantId actionId attempt.verifyDraws
        (services.world.ingest rt attempt.ingestDraws tenantId (renamed observation attempt.nonce)
          "verification" "verified") := by
  unfold Worker.verifyAction judged
  rw [stored]
  dsimp only [poll]
  unfold attemptOnce ingestVerificationRead
  rewrite [read]
  rfl

theorem orderValues_set {world after : WorldStateService} {state : OrderState}
    (states : after.states = world.states.set (tenantId, "order", orderId) state) :
    orderValues after tenantId orderId = state.value? := by
  funext name
  unfold orderValues
  rw [states, Dict.get?_set_self, Option.bind_some]

theorem orderValues_congr {world after : WorldStateService} (states : after.states = world.states) :
    orderValues after tenantId orderId = orderValues world tenantId orderId := by
  unfold orderValues
  rw [states]

/-- Two new readings of one content are judged alike. -/
theorem account_alike (stored : services.actions.getAction actionId tenantId = .ok action)
    (waiting : ActionService.verifiable action.decision.status = true)
    {observation : Observation} (kind : observation.objectType = "order")
    (about : observation.objectId = orderId) {previous : Option OrderState} {ending : Fate}
    {left right : Outcome PyError WorldStateService OrderState} (draws draws' : Draws)
    (learned : Learned services.world tenantId observation previous ending left)
    (learned' : Learned services.world tenantId observation previous ending right) :
    account tenantId actionId orderId (judged rt services tenantId actionId draws left) =
      account tenantId actionId orderId (judged rt services tenantId actionId draws' right) := by
  cases learned with
  | refused after error states =>
      cases learned' with
      | refused after' error' states' =>
          rw [account_raised stored, account_raised stored, orderValues_congr states,
            orderValues_congr states']
  | unchanged after state held states =>
      cases learned' with
      | unchanged after' state' held' states' =>
          cases held.symm.trans held'
          rw [account_returned stored waiting, account_returned stored waiting,
            orderValues_congr states, orderValues_congr states',
            eventHashable_congr services.actions draws draws' rfl rfl]
  | advanced after state states values named =>
      cases learned' with
      | advanced after' state' states' values' named' =>
          have alike : forall name, state.value? name = state'.value? name :=
            fun name => (values name).trans (values' name).symm
          have observed : ActionService.observedStatus (some state) =
              ActionService.observedStatus (some state') := by
            unfold ActionService.observedStatus
            rw [Option.bind_some, Option.bind_some, alike]
          rw [kind, about] at states states'
          rw [account_returned stored waiting, account_returned stored waiting,
            orderValues_set states, orderValues_set states', observed, funext alike,
            eventHashable_congr services.actions draws draws' (alike "status")
              (named.trans named'.symm)]

/-- Where a state is held, it is judged like a new read exactly when that is redundant. This
is the case in which the connector's identifier is known. -/
theorem account_held_iff (stored : services.actions.getAction actionId tenantId = .ok action)
    (waiting : ActionService.verifiable action.decision.status = true)
    {observation : Observation} (kind : observation.objectType = "order")
    (about : observation.objectId = orderId) (payload : KeyedPayload observation) (draws draws' : Draws)
    {state : OrderState} (distinct : KeyedAttributes state.attributes)
    (held : services.world.states.get? (tenantId, "order", orderId) = some state)
    {new : Outcome PyError WorldStateService OrderState}
    (learned : Learned services.world tenantId observation (some state)
      (fate rt tenantId observation (some state)) new) :
    account tenantId actionId orderId
          (judged rt services tenantId actionId draws (.returns services.world state)) =
        account tenantId actionId orderId (judged rt services tenantId actionId draws' new) <->
      observation.observedAt.instant?.isSome = true ∧ dumpable rt observation (some state) = true ∧
        NothingNew state.attributes observation := by
  have values : orderValues services.world tenantId orderId = state.value? := by
    funext name
    unfold orderValues
    rw [held, Option.bind_some]
  -- A final verdict replaces the status that the action waits with.
  have moved : ActionService.verificationStatus (ActionService.observedStatus (some state)) true ≠
      action.decision.status := by
    intro same
    have final := verificationStatus_final (ActionService.observedStatus (some state))
    rw [same, waiting] at final
    cases final
  rw [← fate_unchanged_iff rt tenantId observation state distinct, account_returned stored waiting]
  generalize met : fate rt tenantId observation (some state) = ending at learned ⊢
  cases learned with
  | refused after error states =>
      rw [account_raised stored]
      constructor
      · intro same
        exact absurd (Option.some.inj (congrArg Account.decided same)) moved
      · intro same
        cases same
  | unchanged after state' held' states =>
      cases held'
      rw [account_returned stored waiting, orderValues_congr states,
        eventHashable_congr services.actions draws draws' rfl rfl]
      exact ⟨fun _ => rfl, fun _ => rfl⟩
  | advanced after state' states learns named =>
      rcases learnedValue_ne payload (fate_advanced met distinct) with ⟨name, differs⟩
      rw [kind, about] at states
      rw [account_returned stored waiting]
      constructor
      · intro same
        have alike := congrFun (congrArg Account.values same) name
        dsimp only at alike
        rw [values, orderValues_set states, learns] at alike
        exact absurd alike.symm differs
      · intro same
        cases same

/-- Where no state is held, raising is judged like a new read exactly when that is refused.
An identifier can be known without a state when its first ingestion raised. -/
theorem account_absent_iff (stored : services.actions.getAction actionId tenantId = .ok action)
    (waiting : ActionService.verifiable action.decision.status = true)
    {observation : Observation} (draws draws' : Draws) (error : PyError)
    {new : Outcome PyError WorldStateService OrderState}
    (learned : Learned services.world tenantId observation none (fate rt tenantId observation none) new) :
    account tenantId actionId orderId
          (judged rt services tenantId actionId draws (.raises services.world error)) =
        account tenantId actionId orderId (judged rt services tenantId actionId draws' new) <->
      ¬ Readable rt tenantId observation := by
  rw [← fate_refused_iff rt tenantId observation, account_raised stored]
  generalize fate rt tenantId observation none = ending at learned ⊢
  cases learned with
  | refused after error states =>
      rw [account_raised stored, orderValues_congr states]
      exact ⟨fun _ => rfl, fun _ => rfl⟩
  | unchanged after state held states => cases held
  | advanced after state states learns named =>
      rw [account_returned stored waiting]
      constructor
      · intro same
        have moved := Option.some.inj (congrArg Account.decided same)
        have final := verificationStatus_final (ActionService.observedStatus (some state))
        rw [← moved, waiting] at final
        cases final
      · intro same
        cases same

/-- Two ingestions of one read are judged alike exactly when both are repetitions or none
is, or the read is redundant. -/
theorem account_iff (kept : WellKept services.world)
    (stored : services.actions.getAction actionId tenantId = .ok action)
    (waiting : ActionService.verifiable action.decision.status = true)
    {observation : Observation} (kind : observation.objectType = "order")
    (about : observation.objectId = orderId) (payload : KeyedPayload observation) (draws draws' : Draws)
    {seen seen' : Bool} {left right : Outcome PyError WorldStateService OrderState}
    (first : ReadAs rt services.world tenantId observation seen left)
    (second : ReadAs rt services.world tenantId observation seen' right) :
    account tenantId actionId orderId (judged rt services tenantId actionId draws left) =
        account tenantId actionId orderId (judged rt services tenantId actionId draws' right) <->
      seen = seen' ∨ Redundant rt services.world tenantId observation := by
  unfold Redundant
  cases first with
  | repeated state held =>
      cases second with
      | repeated state' held' =>
          cases held.symm.trans held'
          rw [account_returned stored waiting, account_returned stored waiting,
            eventHashable_congr services.actions draws draws' rfl rfl]
          exact ⟨fun _ => Or.inl rfl, fun _ => rfl⟩
      | stateless error absent => cases held.symm.trans absent
      | learned outcome learned =>
          rw [held] at learned ⊢
          have distinct := kept.distinct _ state held
          rw [kind, about] at held
          rw [account_held_iff stored waiting kind about payload draws draws' distinct held learned]
          simp
  | stateless error absent =>
      cases second with
      | repeated state held => cases absent.symm.trans held
      | stateless error' absent' =>
          rw [account_raised stored, account_raised stored]
          exact ⟨fun _ => Or.inl rfl, fun _ => rfl⟩
      | learned outcome learned =>
          rw [absent] at learned ⊢
          rw [account_absent_iff stored waiting draws draws' error learned]
          simp
  | learned outcome learned =>
      cases second with
      | repeated state held =>
          rw [held] at learned ⊢
          have distinct := kept.distinct _ state held
          rw [kind, about] at held
          rw [eq_comm, account_held_iff stored waiting kind about payload draws' draws distinct held
            learned]
          simp
      | stateless error absent =>
          rw [absent] at learned ⊢
          rw [eq_comm, account_absent_iff stored waiting draws' draws error learned]
          simp
      | learned outcome' learned' =>
          rw [account_alike stored waiting kind about draws draws' learned learned']
          exact ⟨fun _ => Or.inl rfl, fun _ => rfl⟩

/-- The two verifiers agree on an action and its order exactly when World State has seen
both identifiers of the read or neither, or the read is redundant. -/
theorem verifiers_agree_iff (rt : Runtime) (digests : DigestsEncodable rt)
    (fromisoformat : Text -> Except PyError Timestamp)
    {history : List (Step WorldStateService WorldCall)}
    (reached : (keyedSystem rt).Run history services.world)
    (stored : services.actions.getAction actionId tenantId = .ok action)
    (waiting : ActionService.verifiable action.decision.status = true)
    {payload : Payload} (target : payload.get? "id" = some (.str action.proposal.orderId))
    (distinct : forall name value, payload.get? name = some value -> keyed value = true)
    {served polled : Attempt} (servedRead : served.read = .ok payload)
    (polledRead : polled.read = .ok payload) (clock : served.now = polled.now) :
    account tenantId actionId action.proposal.orderId
          (verifyInMemory rt fromisoformat services tenantId actionId served) =
        account tenantId actionId action.proposal.orderId
          (Worker.verifyAction rt fromisoformat services tenantId actionId polled []).outcome <->
      forall observation, served.observation rt fromisoformat = .ok observation ->
        SeenAlike services.world tenantId observation polled.nonce ∨
          Redundant rt services.world tenantId observation := by
  have alike : polled.observation rt fromisoformat = served.observation rt fromisoformat := by
    unfold Attempt.observation
    rw [servedRead, polledRead, clock]
  cases read : served.observation rt fromisoformat with
  | error error =>
      have same : verifyInMemory rt fromisoformat services tenantId actionId served =
          (Worker.verifyAction rt fromisoformat services tenantId actionId polled []).outcome := by
        unfold verifyInMemory Worker.verifyAction
        rw [stored, read]
        dsimp only [poll]
        unfold attemptOnce ingestVerificationRead
        rw [alike.trans read]
        rfl
      rw [same]
      refine ⟨fun _ observation found => ?_, fun _ => rfl⟩
      cases found
  | ok observation =>
      have accepted : shopifyNormalize rt fromisoformat served.now payload = .ok observation := by
        unfold Attempt.observation at read
        rw [servedRead] at read
        exact read
      rcases shopify_read accepted target distinct with ⟨kind, about, values⟩
      have kept := WellKept.of_run digests reached
      have same := renamed_same observation polled.nonce
      have first : ReadAs rt services.world tenantId observation _ (services.world.ingest rt
          served.ingestDraws tenantId observation "verified_action" "verified") :=
        SameReading.ingest ⟨rfl, rfl, rfl, rfl, rfl⟩ kept.linkable served.ingestDraws "verified" rfl
      have second : ReadAs rt services.world tenantId observation _ (services.world.ingest rt
          polled.ingestDraws tenantId (renamed observation polled.nonce) "verification" "verified") :=
        same.symm.ingest kept.linkable polled.ingestDraws "verified" rfl
      have decided := account_iff kept stored waiting kind about values served.verifyDraws
        polled.verifyDraws first second
      rw [verifyInMemory_judged stored read, worker_judged stored (alike.trans read)]
      constructor
      · intro agree other found
        cases found
        exact decided.mp agree
      · intro every
        exact decided.mpr (every observation rfl)

end Reads

/-! ## An order that was read before -/

/-- The order was read once before it was cancelled. -/
def earlierRead : WorldCall := .ingest (.numbered 1) "demo" openReading "observation" "observed"

theorem statusPayload_keyed (status : Text) :
    forall name value, (statusPayload status).get? name = some value -> keyed value = true := by
  refine Dict.All.ofList _ ?_
  intro entry member
  simp only [List.mem_cons, List.not_mem_nil, or_false] at member
  rcases member with rfl | rfl
  · rfl
  · rfl

/-- The World State of the sample services is reached by keyed calls. -/
theorem executedWith_reached (calls : List WorldCall) (front : calls <+: [earlierRead]) :
    Exists fun history => (keyedSystem .plain).Run history (executedWith calls).world := by
  have admitted : (worldSystem .plain).AdmitsAll .fresh calls :=
    System.AdmitsAll.front (by decide +kernel) front
  have keyedCalls : forall call, call ∈ calls -> forall state : WorldStateService, call.Keyed := by
    intro call member _
    rw [List.mem_singleton.mp (front.subset member)]
    exact statusPayload_keyed "open"
  have run := System.run_trace calls rfl (admitted.restrict keyedCalls)
  rw [System.restrict_trace] at run
  exact ⟨_, run⟩

theorem verifiers_agree_sample :
    account "demo" sampleId "1001" (verifyInMemory .plain noDatetime (executedWith []) "demo" sampleId
        (attemptReading "cancelled")) =
      account "demo" sampleId "1001" (Worker.verifyAction .plain noDatetime (executedWith []) "demo"
        sampleId (attemptReading "cancelled") []).outcome := by
  rcases executedWith_reached [] (List.nil_prefix) with ⟨history, reached⟩
  have sampled : ((executedWith []).actions.getAction sampleId "demo").toOption.map
      (fun action => (action.proposal.orderId, ActionService.verifiable action.decision.status)) =
        some (("1001" : Text), true) := by
    decide +kernel
  rcases Option.map_eq_some_iff.mp sampled with ⟨action, stored, known⟩
  rcases Prod.mk.inj known with ⟨target, waiting⟩
  rw [← target]
  refine (verifiers_agree_iff .plain plain_digestsEncodable noDatetime reached (ok_of_toOption stored)
    waiting ?_ (statusPayload_keyed "cancelled") rfl rfl rfl).mpr ?_
  · rw [target]
    rfl
  · intro observation read
    rw [attemptReading_observation (by decide +kernel) read]
    exact Or.inl (by decide +kernel)

/-- After one earlier read of the order, the worker finds it cancelled and the API still
finds it open. -/
theorem verifiers_disagree :
    (Exists fun history => (hashedActionSystem .plain).Run history (executedWith [earlierRead]).actions) ∧
      (Exists fun history => (keyedSystem .plain).Run history (executedWith [earlierRead]).world) ∧
      (account "demo" sampleId "1001" (verifyInMemory .plain noDatetime (executedWith [earlierRead])
        "demo" sampleId (attemptReading "cancelled"))).answered = some .stateDiverged ∧
      (account "demo" sampleId "1001" (Worker.verifyAction .plain noDatetime
        (executedWith [earlierRead]) "demo" sampleId (attemptReading "cancelled") []).outcome).answered =
          some .verified := by
  have executed := sample_run [samplePropose, sampleApprove, sampleExecute] ⟨[sampleVerify], rfl⟩
  have actions : (executedWith [earlierRead]).actions =
      sampleService [samplePropose, sampleApprove, sampleExecute] := by rw [executedWith]
  refine ⟨⟨_, actions ▸ executed⟩, executedWith_reached _ (List.prefix_refl _), ?_⟩
  decide +kernel

end Api
end RealityLayer
