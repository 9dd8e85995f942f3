import RealityLayer.Actions.Steps
import RealityLayer.Connectors.Reads
import RealityLayer.Worker.Verifier
import RealityLayer.WorldState.Clocks

namespace RealityLayer
namespace Worker

open Foundation Python RealityGit WorldState WorldStateService Actions Connectors

/-!
# What a verified answer rests on

The verdict is taken from the state that `ingest` answers with, not from the read.  The
two part in two ways.  A held status that disputes the read stays in place, and when
it says cancelled it verifies the action by itself.  And a payload of another order
answers with that order's state.

`Trusted` excludes both, in the services before the attempt.  When every attempt of a
call is trusted, a verified answer rests on a cancelled read of the action's own order.
-/

/-- An attempt read a payload of the order that normalizes to status cancelled. This is about
the read itself, and not about what World State holds. -/
def Confirms (rt : Runtime) (fromisoformat : Text -> Except PyError Timestamp) (orderId : Text)
    (attempt : Attempt) : Prop :=
  Exists fun observation : Observation => attempt.observation rt fromisoformat = .ok observation ∧
    observation.objectId = orderId ∧
    observation.payload.get? "status" = some (.str "cancelled")

/-- The attributes a service holds for the object of an observation. -/
def heldFor (world : WorldStateService) (tenantId : Text) (observation : Observation) :
    Dict Text StateAttribute :=
  heldAttributes (world.states.get? (tenantId, observation.objectType, observation.objectId))

/-- The held status disputes the status that was read. World State then keeps the held one,
and the verdict is about that. -/
def disputesStatus (held : Dict Text StateAttribute) (observation : Observation) : Bool :=
  (observation.payload.get? "status").any (fun value =>
    disputesReading held observation ("status", value))

/-- The read is no repetition, it says cancelled of the target order only, and no held
cancellation of the order disputes it. -/
structure Trusted (world : WorldStateService) (tenantId orderId : Text) (nonce : Uuid)
    (observation : Observation) : Prop where
  new : world.observations.contains (tenantId, verificationId observation.observationId nonce) = false
  target : observation.payload.get? "status" = some (.str "cancelled") ->
    observation.objectId = orderId
  undisputed : ((heldFor world tenantId observation).get? "status").map StateAttribute.value =
    some (.str "cancelled") -> disputesStatus (heldFor world tenantId observation) observation = false

instance (world : WorldStateService) (tenantId orderId : Text) (nonce : Uuid)
    (observation : Observation) : Decidable (Trusted world tenantId orderId nonce observation) :=
  decidable_of_iff (_ ∧ _ ∧ _)
    ⟨fun parts => ⟨parts.1, parts.2.1, parts.2.2⟩, fun sound => ⟨sound.new, sound.target, sound.undisputed⟩⟩

/-- An attempt that reads an order does so in services where the read can be trusted. It is
new there, and its status is not held back. -/
def TrustedAttempt (rt : Runtime) (fromisoformat : Text -> Except PyError Timestamp)
    (tenantId orderId : Text) (made : Services × Attempt) : Prop :=
  forall observation : Observation, made.2.observation rt fromisoformat = .ok observation ->
    Trusted made.1.world tenantId orderId made.2.nonce observation

section Reads

variable {rt : Runtime} {fromisoformat : Text -> Except PyError Timestamp}

theorem get?_shopifyAttributes_status (payload : Payload) (orderId status : Text) :
    (shopifyAttributes rt payload orderId status).get? "status" = some (.str status) := by
  unfold shopifyAttributes optionalEntry
  cases payload.get? "currency" <;> cases present? payload "total_price" <;>
    cases present? payload "fulfillment_status" <;> simp [Dict.ofList, Dict.get?_set]

/-- A Shopify read always has a status. -/
theorem shopify_status {now : Int} {payload : Payload} {observation : Observation}
    (accepted : shopifyNormalize rt fromisoformat now payload = .ok observation) :
    Exists fun status : Text => observation.payload.get? "status" = some (.str status) := by
  rcases bind_ok accepted with ⟨orderId, _, accepted⟩
  rcases bind_ok accepted with ⟨status, _, accepted⟩
  rcases bind_ok accepted with ⟨observed, _, accepted⟩
  rw [validated_ok accepted]
  exact ⟨status, get?_shopifyAttributes_status payload orderId status⟩

theorem Attempt.status {attempt : Attempt} {observation : Observation}
    (read : attempt.observation rt fromisoformat = .ok observation) :
    Exists fun status : Text => observation.payload.get? "status" = some (.str status) := by
  rcases bind_ok read with ⟨payload, _, accepted⟩
  exact shopify_status accepted

/-! ## The state `ingest` answers with -/

variable {world : WorldStateService} {draws : Draws} {tenantId cause assuranceLevel : Text}
variable {observation : Observation}

/-- Compiling a read whose status nothing disputes leaves the status that was read. -/
theorem compiled_status {previous : Option OrderState} {label : Text} {status : Text}
    (read : observation.payload.get? "status" = some (.str status))
    (undisputed : disputesStatus (heldAttributes previous) observation = false) :
    ((compiledAttributes previous (projectedReading observation label)).get? "status").map
      StateAttribute.value = some (.str status) := by
  unfold disputesStatus at undisputed
  rw [read, Option.any_some] at undisputed
  rw [get?_compiledAttributes, read]
  dsimp only
  rw [undisputed, if_neg Bool.false_ne_true]
  rfl

/-- Compiling a disputed read leaves the status that was held. -/
theorem compiled_status_disputed {previous : Option OrderState} {label : Text} {status : Text}
    (read : observation.payload.get? "status" = some (.str status))
    (disputed : disputesStatus (heldAttributes previous) observation = true) :
    (compiledAttributes previous (projectedReading observation label)).get? "status" =
      (heldAttributes previous).get? "status" := by
  unfold disputesStatus at disputed
  rw [read, Option.any_some] at disputed
  rw [get?_compiledAttributes, read]
  dsimp only
  rw [disputed, if_pos rfl]

/-- A cancelled answer to a new read of a status means that the read says cancelled, unless
it disputes a held cancellation. -/
theorem ingest_status (observation : Observation) {after : WorldStateService} {state : OrderState}
    (new : world.observations.contains (tenantId, observation.observationId) = false)
    (read : Exists fun status : Text => observation.payload.get? "status" = some (.str status))
    (undisputed : ((heldFor world tenantId observation).get? "status").map StateAttribute.value =
      some (.str "cancelled") -> disputesStatus (heldFor world tenantId observation) observation = false)
    (returned : world.ingest rt draws tenantId observation cause assuranceLevel =
      .returns after state)
    (cancelled : state.value? "status" = some (.str "cancelled")) :
    observation.payload.get? "status" = some (.str "cancelled") := by
  rcases read with ⟨status, read⟩
  have way := ingest_ingestion rt world draws tenantId observation cause assuranceLevel
  unfold heldFor at undisputed
  generalize world.states.get? (tenantId, observation.objectType, observation.objectId) = previous
    at way undisputed
  rw [returned] at way
  cases way with
  | repeated _ _ known =>
      rw [new] at known
      cases known
  | unchanged incoming _ stored _ projected same =>
      rcases project_ok projected with ⟨label, rfl⟩
      subst stored
      have kept := undisputed cancelled
      have equal : ¬ Differs (attributesFor rt (some state))
          (dumpAttributes rt (compiledAttributes (some state) (projectedReading observation label)))
          "status" := by
        intro differs
        have changed := (mem_changedNames _ _ _).mpr differs
        unfold ingestChanges at same
        rw [same] at changed
        cases changed
      unfold Differs attributesFor at equal
      rw [attributeValue_dump, attributeValue_dump, compiled_status read kept] at equal
      have held : (state.attributes.get? "status").map StateAttribute.value =
        some (.str "cancelled") := cancelled
      rw [held, Bool.not_eq_false] at equal
      rw [read]
      exact congrArg some ((Json.str_pyEq_iff _ _).mp equal)
  | committed incoming commit _ projected =>
      rcases project_ok projected with ⟨label, rfl⟩
      have held : ((compiledAttributes previous (projectedReading observation label)).get? "status").map
        StateAttribute.value = some (.str "cancelled") := cancelled
      cases disputed : disputesStatus (heldAttributes previous) observation with
      | true =>
          rw [compiled_status_disputed read disputed] at held
          rw [undisputed held] at disputed
          cases disputed
      | false =>
          rw [compiled_status read disputed] at held
          exact read.trans held

end Reads

/-! ## From one attempt to a call -/

section Calls

variable {rt : Runtime} {fromisoformat : Text -> Except PyError Timestamp}
variable {tenantId actionId orderId : Text} {decision : ActionDecision}

theorem verificationStatus_verified {observed : Json} {isFinal : Bool}
    (verified : ActionService.verificationStatus observed isFinal = .verified) : observed = .str "cancelled" := by
  unfold ActionService.verificationStatus at verified
  split at verified
  · exact (Json.pyEq_str_iff _ _).mp ‹_›
  · split at verified
    · cases verified
    · split at verified <;> cases verified

/-- A verdict that was settled is the answer. -/
theorem settle_ok {service : ActionService} {eventId : Text} {action : StoredAction} {verdict : Verdict}
    (returned : (service.settle rt eventId tenantId actionId action verdict).result = .ok decision) :
    decision.status = verdict.status := by
  unfold ActionService.settle at returned
  cases appended : (service.withDecision actionId action verdict.status verdict.reason).appendEvent rt
      eventId tenantId actionId verdict.eventType verdict.actorRole verdict.payload with
  | mk after result =>
      rw [appended] at returned
      cases result with
      | error error => cases returned
      | ok _ =>
          cases returned
          rfl

/-- A verified verdict was given to a state that holds the status cancelled. -/
theorem verify_verified {service : ActionService} {draws : Draws} {state : OrderState}
    {isFinal : Bool}
    (returned : (service.verify rt draws actionId tenantId (some state) isFinal).result = .ok decision)
    (verified : decision.status = .verified) :
    state.value? "status" = some (.str "cancelled") := by
  unfold ActionService.verify at returned
  cases found : service.getAction actionId tenantId with
  | error error =>
      rw [found] at returned
      cases returned
  | ok action =>
      rw [found] at returned
      dsimp only at returned
      by_cases early : ActionService.verifiable action.decision.status = false
      · rw [if_pos early] at returned
        cases returned
      rw [if_neg early] at returned
      have settled := settle_ok returned
      rw [settled] at verified
      have held := verificationStatus_verified verified
      unfold ActionService.observedStatus at held
      rw [Option.bind_some] at held
      cases value : state.value? "status" with
      | none =>
          rw [value] at held
          cases held
      | some observed =>
          rw [value] at held
          exact congrArg some held

/-- One trusted attempt that answers verified has confirmed the cancellation. -/
theorem attemptOnce_sound {services : Services} {attempt : Attempt} {isFinal : Bool}
    (trusted : TrustedAttempt rt fromisoformat tenantId orderId (services, attempt))
    (returned : (attemptOnce rt fromisoformat tenantId actionId attempt isFinal services).result =
      .ok decision)
    (verified : decision.status = .verified) : Confirms rt fromisoformat orderId attempt := by
  unfold attemptOnce ingestVerificationRead at returned
  cases read : attempt.observation rt fromisoformat with
  | error error =>
      rw [read] at returned
      cases returned
  | ok observation =>
      have sound := trusted observation read
      have new : services.world.observations.contains
        (tenantId, (renamed observation attempt.nonce).observationId) = false := sound.new
      have status : Exists fun status : Text =>
        (renamed observation attempt.nonce).payload.get? "status" = some (.str status) := by
        rcases Attempt.status read with ⟨status, stored⟩
        exact ⟨status, stored⟩
      rw [read] at returned
      dsimp only at returned
      cases ingested : services.world.ingest rt attempt.ingestDraws tenantId
          (renamed observation attempt.nonce) "verification" "verified" with
      | mk after result =>
          cases result with
          | error error =>
              rw [ingested] at returned
              cases returned
          | ok state =>
              rw [ingested] at returned
              have cancelled := verify_verified returned verified
              have confirmed : observation.payload.get? "status" = some (.str "cancelled") :=
                ingest_status (renamed observation attempt.nonce) new status sound.undisputed ingested
                  cancelled
              exact ⟨observation, read, sound.target confirmed, confirmed⟩

/-- A round that is not the last either ends the loop or is followed by the rest of it. -/
theorem poll_step (tenantId actionId : Text) (attempt next : Attempt) (rest : List Attempt)
    (services : Services) :
    let done := attemptOnce rt fromisoformat tenantId actionId attempt attempt.outOfTime services
    (poll rt fromisoformat tenantId actionId attempt (next :: rest) services =
        ⟨[(services, attempt)], done⟩ ∧
      forall decision, done.result = .ok decision ->
        terminal decision.status = true ∨ attempt.outOfTime = true) ∨
      let later := poll rt fromisoformat tenantId actionId next rest done.state
      poll rt fromisoformat tenantId actionId attempt (next :: rest) services =
          ⟨(services, attempt) :: later.made, later.outcome⟩ ∧
        attempt.outOfTime = false ∧ Exists fun decision : ActionDecision =>
          done.result = .ok decision ∧ terminal decision.status = false := by
  dsimp only
  rw [poll]
  dsimp only
  cases (attemptOnce rt fromisoformat tenantId actionId attempt attempt.outOfTime services).result with
  | error error => exact Or.inl ⟨rfl, fun decision answered => by cases answered⟩
  | ok answer =>
      dsimp only
      by_cases stops : (terminal answer.status || attempt.outOfTime) = true
      · rw [if_pos stops]
        refine Or.inl ⟨rfl, fun decision answered => ?_⟩
        cases answered
        exact Bool.or_eq_true_iff.mp stops
      · rw [if_neg stops]
        rw [Bool.not_eq_true, Bool.or_eq_false_iff] at stops
        exact Or.inr ⟨rfl, stops.2, answer, rfl, stops.1⟩

/-- The loop: when every attempt it makes is trusted, a verified answer comes from one that
confirmed the cancellation. -/
theorem poll_sound {attempt : Attempt} {rest : List Attempt} {services : Services}
    (trusted : forall made, made ∈ (poll rt fromisoformat tenantId actionId attempt rest services).made ->
      TrustedAttempt rt fromisoformat tenantId orderId made)
    (returned : (poll rt fromisoformat tenantId actionId attempt rest services).outcome.result =
      .ok decision)
    (verified : decision.status = .verified) :
    Exists fun made : Services × Attempt =>
      made ∈ (poll rt fromisoformat tenantId actionId attempt rest services).made ∧
        Confirms rt fromisoformat orderId made.2 := by
  induction rest generalizing attempt services with
  | nil =>
      exact ⟨_, List.mem_singleton_self _,
        attemptOnce_sound (trusted _ (List.mem_singleton_self _)) returned verified⟩
  | cons next rest ih =>
      rcases poll_step tenantId actionId attempt next rest services with
        ⟨stopped, _⟩ | ⟨continued, _, _⟩
      · rw [stopped] at trusted returned ⊢
        exact ⟨_, List.mem_singleton_self _,
          attemptOnce_sound (trusted _ (List.mem_singleton_self _)) returned verified⟩
      · rw [continued] at trusted returned ⊢
        rcases ih (fun made member => trusted made (List.mem_cons_of_mem _ member)) returned with
            ⟨made, member, confirms⟩
        exact ⟨made, List.mem_cons_of_mem _ member, confirms⟩

/-- When every read of a call can be trusted, a verified answer rests on a read of that
call which says that the action's own order is cancelled. -/
theorem verification_sound (rt : Runtime) (fromisoformat : Text -> Except PyError Timestamp)
    {services : Services} {first : Attempt} {rest : List Attempt} {action : StoredAction}
    (stored : services.actions.getAction actionId tenantId = .ok action)
    (trusted : forall made,
      made ∈ (verifyAction rt fromisoformat services tenantId actionId first rest).made ->
        TrustedAttempt rt fromisoformat tenantId action.proposal.orderId made)
    (returned : (verifyAction rt fromisoformat services tenantId actionId first rest).outcome.result =
      .ok decision)
    (verified : decision.status = .verified) :
    Exists fun made : Services × Attempt =>
      made ∈ (verifyAction rt fromisoformat services tenantId actionId first rest).made ∧
        Confirms rt fromisoformat action.proposal.orderId made.2 := by
  unfold verifyAction at trusted returned ⊢
  rw [stored] at trusted returned ⊢
  exact poll_sound trusted returned verified

end Calls

/-! ## An order that was cancelled by telephone only -/

/-- The connector reports the order open, the back office reports it cancelled, and an
operator resolves the conflict to cancelled. -/
def operatorCalls : List WorldCall :=
  [.ingest (.numbered 1) "demo" openReading "observation" "observed",
    .ingest (.numbered 2) "demo" disagreeingReading "observation" "observed",
    .resolveConflict (.numbered 5) "demo" (newConflictId (.numbered 2) 0) (.str "cancelled")
      "operations" "Confirmed by telephone."]

/-- The services with the sample action executed, after some calls to World State. -/
def executedWith (calls : List WorldCall) : Services where
  actions := sampleService [samplePropose, sampleApprove, sampleExecute]
  world := ((worldSystem .plain).trace .fresh calls).2

/-- The provider answers with a status of order 1001. -/
def attemptReading (status : Text) : Attempt where
  read := .ok (statusPayload status)
  now := 0
  nonce := (Draws.numbered 9).uuid 0
  ingestDraws := .numbered 9
  verifyDraws := .numbered 9
  outOfTime := false

/-- What the normalizer makes of that answer. -/
theorem attemptReading_observation {status : Text} {observation : Observation}
    (known : shopifyNormalize .plain noDatetime 0 (statusPayload status) = .ok (statusObservation status))
    (read : (attemptReading status).observation .plain noDatetime = .ok observation) :
    observation = statusObservation status :=
  Except.ok.inj (read.symm.trans known)

/-- The attempts of a call that makes one. -/
theorem made_single {services : Services} {tenantId actionId : Text} {attempt : Attempt}
    {made : Services × Attempt}
    (member : made ∈ (verifyAction .plain noDatetime services tenantId actionId attempt []).made) :
    made = (services, attempt) := by
  unfold verifyAction at member
  split at member
  · cases member
  · exact List.mem_singleton.mp member

theorem verification_sound_sample :
    Exists fun made : Services × Attempt =>
      made ∈ (verifyAction .plain noDatetime (executedWith []) "demo" sampleId
        (attemptReading "cancelled") []).made ∧
      Confirms .plain noDatetime "1001" made.2 := by
  have sampled : ((executedWith []).actions.getAction sampleId "demo").toOption.map
        (fun action => action.proposal.orderId) = some "1001" ∧
      (verifyAction .plain noDatetime (executedWith []) "demo" sampleId
        (attemptReading "cancelled") []).outcome.result.toOption.map ActionDecision.status =
          some .verified := by
    decide +kernel
  rcases sampled with ⟨known, answered⟩
  rcases Option.map_eq_some_iff.mp known with ⟨action, stored, target⟩
  rcases Option.map_eq_some_iff.mp answered with ⟨decision, returned, verified⟩
  rw [← target]
  refine verification_sound .plain noDatetime (ok_of_toOption stored) ?_
    (ok_of_toOption returned) verified
  intro made member observation read
  rw [made_single member] at read ⊢
  rw [attemptReading_observation (by decide +kernel) read, target]
  decide +kernel

/-- The provider still reads open, and the held resolution alone verifies the action. -/
theorem verified_without_read :
    (Exists fun history => (hashedActionSystem .plain).Run history (executedWith operatorCalls).actions) ∧
      (Exists fun history => (worldSystem .plain).Run history (executedWith operatorCalls).world) ∧
      ((verifyAction .plain noDatetime (executedWith operatorCalls) "demo" sampleId
        (attemptReading "open") []).outcome.result.toOption.map ActionDecision.status) =
          some .verified ∧
      forall made, made ∈ (verifyAction .plain noDatetime (executedWith operatorCalls) "demo" sampleId
        (attemptReading "open") []).made -> ¬ Confirms .plain noDatetime "1001" made.2 := by
  have sampled : (worldSystem .plain).AdmitsAll .fresh operatorCalls ∧
      (verifyAction .plain noDatetime (executedWith operatorCalls) "demo" sampleId
        (attemptReading "open") []).outcome.result.toOption.map ActionDecision.status =
          some .verified := by
    decide +kernel
  rcases sampled with ⟨admitted, answered⟩
  have executed := sample_run [samplePropose, sampleApprove, sampleExecute] ⟨[sampleVerify], rfl⟩
  have observed := System.run_trace operatorCalls rfl admitted
  have actions : (executedWith operatorCalls).actions =
      sampleService [samplePropose, sampleApprove, sampleExecute] := by rw [executedWith]
  have world : (executedWith operatorCalls).world =
      ((worldSystem .plain).trace .fresh operatorCalls).2 := by rw [executedWith]
  refine ⟨⟨_, actions ▸ executed⟩, ⟨_, world ▸ observed⟩, answered, ?_⟩
  rintro made member ⟨observation, read, _, confirmed⟩
  rw [made_single member] at read
  rw [attemptReading_observation (by decide +kernel) read] at confirmed
  revert confirmed
  decide +kernel

end Worker
end RealityLayer
