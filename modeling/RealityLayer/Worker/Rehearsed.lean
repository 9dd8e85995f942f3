import RealityLayer.Worker.Rehearsal

namespace RealityLayer
namespace Worker

open Foundation Python RealityGit WorldState WorldStateService Actions Connectors

universe u

/-!
# How a rehearsal ends

The worker's one read of a seeded order is answered with the status that it reports, whether
it moves the order on or changes nothing.  The verdict on it is what the fault calls for, and
everything that went before makes a run of each service, so that the proof is faithful and both
chains are valid.  A batch is a list of such runs, each about an order of its own.
-/

/-! ## The verification read -/

section Reading

variable {rt : Runtime} {tenantId orderId : Text} {seed : Observation} {world : WorldStateService}
variable {state : OrderState} {observation : Observation} {draws : Draws} {cause assuranceLevel : Text}

/-- A service takes in a new reading with a timezone whose values can be recorded. -/
theorem Kept.takes (plain : PlainTexts rt) (kept : Kept rt world) (linkable : Linkable world)
    (new : world.observations.contains (tenantId, observation.observationId) = false) {observed : Int}
    (aware : observation.observedAt.instant? = some observed) (owner : tenantId.encodable = true)
    (caused : cause.encodable = true)
    (payload : forall name value, observation.payload.get? name = some value ->
      name.encodable = true ∧ recordable rt value = true) :
    Exists fun after : WorldStateService => Exists fun next : OrderState =>
      world.ingest rt draws tenantId observation cause assuranceLevel = .returns after next := by
  have labelled := freshnessLabel_encodable draws observed
  have held : HashableAttributes rt (heldAttributes
      (world.states.get? (tenantId, observation.objectType, observation.objectId))) := by
    intro name attr found
    rcases heldAttributes_stored found with ⟨state, stored, found⟩
    exact (kept.persisted _ state stored).fit.attributes name attr found
  have after : HashableAttributes rt (compiledAttributes
      (world.states.get? (tenantId, observation.objectType, observation.objectId))
      (projectedReading observation (freshnessLabel draws observed))) := by
    apply compiledAttributes_all held
    intro name value read
    rcases payload name value read with ⟨named, value⟩
    exact ⟨named, value, projectedAttribute_fit observation labelled name _⟩
  have accepted := @compilable_of_recorded rt plain tenantId cause assuranceLevel observation _ _
    owner caused held after
  have settled := @Linkable.settled rt world draws tenantId observation cause assuranceLevel linkable new
    _ (project_eq draws aware) _ rfl
  rw [accepted] at settled
  generalize world.ingest rt draws tenantId observation cause assuranceLevel = outcome at settled ⊢
  generalize moves rt _ _ = asked at settled
  cases settled with
  | unchanged hashed state stored => exact ⟨_, _, rfl⟩
  | committed commit => exact ⟨_, _, rfl⟩

/-- Nothing that the seed reported disputes another reading of the connector. A source never
disputes itself. -/
theorem Seeded.undisputed (seeded : Seeded tenantId orderId seed world state)
    (same : seed.connector = observation.connector) :
    disputesStatus (heldAttributes (some state)) observation = false := by
  rcases seeded.attributes with ⟨label, attributes⟩
  unfold disputesStatus
  cases observation.payload.get? "status" with
  | none => rfl
  | some value =>
      rw [Option.any_some, disputesReading, heldAttributes, Option.map_some, Option.getD_some, attributes,
        projectedReading, Dict.get?_mapValues]
      cases seed.payload.get? "status" with
      | none => rfl
      | some held =>
          rw [Option.map_some, Option.any_some, disputes, projectedAttribute, projectedAttribute]
          dsimp only
          rw [same]
          simp

/-- Another reading of the seeded order leaves the status that it read. -/
theorem Seeded.merged_status (seeded : Seeded tenantId orderId seed world state)
    (payload : seed.payload = ShopifyConnector.report orderId "open")
    (connector : seed.connector = observation.connector) (type_ : observation.objectType = "order")
    (object : observation.objectId = orderId) {status label : Text}
    (read : observation.payload.get? "status" = some (.str status))
    {outcome : Outcome PyError WorldStateService OrderState} {next : OrderState}
    (merged : Merged rt world tenantId observation label outcome) (returned : outcome.result = .ok next) :
    next.value? "status" = some (.str status) := by
  have undisputed := seeded.undisputed connector
  have stored := seeded.stored
  rw [← type_, ← object] at stored
  cases merged with
  | unchanged held stored' same after states =>
      cases returned
      cases stored.symm.trans stored'
      have open_ : state.value? "status" = some (.str "open") :=
        (seeded.value? payload "status").trans (ShopifyConnector.report_status _ _)
      rcases nothingNew_of_quiet rt (some state) label same "status" (.str status) read with
        disputed | equal
      · unfold disputesStatus at undisputed
        rw [read, Option.any_some] at undisputed
        exact absurd (undisputed.symm.trans disputed) Bool.false_ne_true
      · have dumped : dumpedValue (heldAttributes (some state)) "status" = .str "open" := by
          change ((state.value? "status").map Json.jsonMode).getD .null = _
          rw [open_]
          rfl
        rw [dumped] at equal
        cases (Json.pyEq_str_iff (.str "open") status).mp equal
        exact open_
  | advanced next attributes after states =>
      cases returned
      rw [stored] at attributes
      rw [OrderState.value?, attributes]
      exact compiled_status read undisputed

/-- The connector accepts its own report. -/
theorem report_normalized (fromisoformat : Text -> Except PyError Timestamp) (now : Int)
    (named : orderId ≠ "") (order : orderId.encodable = true) (short : orderId.length ≤ 255)
    {status : Text} (full : status ≠ "") :
    Exists fun observation : Observation =>
      shopifyNormalize rt fromisoformat now (ShopifyConnector.report orderId status) = .ok observation ∧
        observation.toObservationFields =
          shopifyFields rt (ShopifyConnector.report orderId status) orderId status (.utc now) := by
  have accepted := (@shopifyFields_accepted_iff rt (ShopifyConnector.report orderId status) orderId status
    named (.utc now)).mpr ⟨order, short⟩
  refine ⟨⟨_, accepted⟩,
    shopifyNormalize_ok_iff.mpr ⟨orderId, status, .utc now, ⟨?_, named⟩, ⟨?_, full⟩, ?_, rfl⟩, rfl⟩
  · rw [field, ShopifyConnector.report_id]
    rfl
  · rw [field, ShopifyConnector.report_status, Option.getD_some, Json.orElse]
    apply if_pos
    exact decide_eq_true (fun empty => full (congrArg Text.mk empty))
  · have updated : (ShopifyConnector.report orderId status).get? "updated_at" = none :=
      ShopifyConnector.report_absent _ _ (by decide)
    have created : (ShopifyConnector.report orderId status).get? "created_at" = none :=
      ShopifyConnector.report_absent _ _ (by decide)
    rw [observedAt, field, updated, field, created]
    rfl

theorem reading_recordable {status : Text} (order : orderId.encodable = true)
    (written : status.encodable = true) {name : Text} {value : Json}
    (read : (shopifyAttributes rt (ShopifyConnector.report orderId status) orderId status).get? name =
      some value) : name.encodable = true ∧ recordable rt value = true := by
  have absent : forall other : Text, other ∉ (["id", "status"] : List Text) ->
      (ShopifyConnector.report orderId status).get? other = none :=
    fun other => ShopifyConnector.report_absent orderId status
  rcases (shopifyAttributes_get? name value).mp read with
    ⟨rfl, rfl⟩ | ⟨rfl, rfl⟩ | ⟨rfl, held⟩ | ⟨rfl, held⟩ | ⟨rfl, held⟩
  · exact ⟨Text.encodable_ofString _, (recordable_text _).trans order⟩
  · exact ⟨Text.encodable_ofString _, (recordable_text _).trans written⟩
  · rw [absent _ (by decide)] at held
    cases held
  · rw [present?, absent _ (by decide)] at held
    cases held
  · rw [present?, absent _ (by decide)] at held
    cases held

/-- The worker takes the connector's report for an observation. -/
theorem report_observed (fromisoformat : Text -> Except PyError Timestamp)
    (able : Rehearsable tenantId orderId) {attempt : Attempt} {status : Text}
    (read : attempt.read = .ok (ShopifyConnector.report orderId status)) (full : status ≠ "") :
    Exists fun observation : Observation => attempt.observation rt fromisoformat = .ok observation ∧
      observation.toObservationFields = shopifyFields rt (ShopifyConnector.report orderId status) orderId
        status (.utc attempt.now) := by
  have short := able.short
  rcases @report_normalized rt orderId fromisoformat attempt.now able.named able.order (by omega) status full
    with ⟨observation, normalized, reported⟩
  refine ⟨observation, ?_, reported⟩
  unfold Attempt.observation
  rw [read]
  exact normalized

/-- The seeding alone is a run, and leaves World State in order. -/
theorem seeding_run (plain : PlainTexts rt)
    (taken : WorldStateService.fresh.ingest rt draws tenantId seed cause assuranceLevel =
      .returns world state) :
    (worldSystem rt).Run [⟨.fresh, .ingest draws tenantId seed cause assuranceLevel, world⟩] world ∧
      Kept rt world ∧ Linkable world := by
  have reached : (worldSystem rt).next .fresh (.ingest draws tenantId seed cause assuranceLevel) = world :=
    congrArg Outcome.state taken
  have run := System.Run.extend (.ingest draws tenantId seed cause assuranceLevel)
    (.begin rfl : (worldSystem rt).Run [] .fresh) (fun used => by cases used)
  have empty : Kept rt .fresh := {
    placed := fun _ _ held => by cases held
    persisted := fun _ _ held => by cases held
    hashes := fun _ _ held => by cases held }
  have performed := empty.perform plain (.ingest draws tenantId seed cause assuranceLevel)
  have linkable := @Linkable.ingest rt .fresh draws tenantId seed cause assuranceLevel Linkable.fresh
    plain.digests
  rw [reached] at run
  rw [taken] at linkable
  exact ⟨run, reached ▸ performed, linkable⟩

/-- The verification's observation is not the seeding's. -/
theorem Seeded.reading_new (seeded : Seeded tenantId orderId seed world state) {seededAt : Int}
    (fields : seed.toObservationFields = seedFields orderId seededAt) {payload : Payload}
    {status : Text} {at_ : Timestamp}
    (reported : observation.toObservationFields = shopifyFields rt payload orderId status at_)
    (nonce : Uuid) :
    world.observations.contains (tenantId, (renamed observation nonce).observationId) = false := by
  have other : (renamed observation nonce).observationId ≠ seed.observationId := by
    intro same
    change verificationId observation.observationId nonce = _ at same
    rw [congrArg ObservationFields.observationId reported, congrArg ObservationFields.observationId fields]
      at same
    have fifth : some 115 = some 114 := congrArg (fun text : Text => text.codes[4]?) same
    exact absurd fifth (by decide)
  rw [seeded.seen, Dict.contains, Dict.get?_set, if_neg (fun same => other (Prod.mk.inj same).2)]
  rfl

/-- The worker's read of the seeded order is answered with the status that it reports. -/
theorem read_taken (plain : PlainTexts rt) (fromisoformat : Text -> Except PyError Timestamp)
    (able : Rehearsable tenantId orderId) {seededAt : Int}
    (fields : seed.toObservationFields = seedFields orderId seededAt)
    (seeded : Seeded tenantId orderId seed world state) {seeding : Draws}
    (taken : WorldStateService.fresh.ingest rt seeding tenantId seed "observation" "observed" =
      .returns world state) {attempt : Attempt} {status : Text}
    (read : attempt.read = .ok (ShopifyConnector.report orderId status)) (full : status ≠ "")
    (written : status.encodable = true) (distinct : newCommitId seeding ≠ newCommitId attempt.ingestDraws) :
    Exists fun after : WorldStateService => Exists fun next : OrderState =>
      ingestVerificationRead rt fromisoformat world tenantId attempt = .returns after next ∧
        next.value? "status" = some (.str status) ∧
        after.states.get? (tenantId, "order", orderId) = some next ∧ next.commitId.encodable = true ∧
        Exists fun history => (worldSystem rt).Run history after := by
  rcases @report_observed rt tenantId orderId fromisoformat able attempt status read full with
    ⟨observation, observed, reported⟩
  have payload : observation.payload =
      shopifyAttributes rt (ShopifyConnector.report orderId status) orderId status :=
    congrArg ObservationFields.payload reported
  have type_ : observation.objectType = "order" := congrArg ObservationFields.objectType reported
  have object : observation.objectId = orderId := congrArg ObservationFields.objectId reported
  rcases seeding_run plain taken with ⟨run, kept, linkable⟩
  have new := seeded.reading_new fields reported attempt.nonce
  have aware : (renamed observation attempt.nonce).observedAt.instant? = some attempt.now := by
    change observation.observedAt.instant? = _
    rw [congrArg ObservationFields.observedAt reported]
    exact congrArg some (sub_zero attempt.now)
  have values : forall name value, (renamed observation attempt.nonce).payload.get? name = some value ->
      name.encodable = true ∧ recordable rt value = true := by
    intro name value held
    change observation.payload.get? name = some value at held
    rw [payload] at held
    exact reading_recordable able.order written held
  rcases @Kept.takes rt tenantId world (renamed observation attempt.nonce) attempt.ingestDraws
    "verification" "verified" plain kept linkable new attempt.now aware able.tenant
    (Text.encodable_ofString _) values with ⟨after, next, returned⟩
  have answered : (world.ingest rt attempt.ingestDraws tenantId (renamed observation attempt.nonce)
      "verification" "verified").result = .ok next := congrArg Outcome.result returned
  rcases ingest_merged new answered with ⟨label, merged⟩
  have reached' : (worldSystem rt).next world (.ingest attempt.ingestDraws tenantId
      (renamed observation attempt.nonce) "verification" "verified") = after :=
    congrArg Outcome.state returned
  have stored : after.states.get? (tenantId, "order", orderId) = some next := by
    have answers := ingest_answered answered
    rw [returned] at answers
    change after.states.get? (tenantId, observation.objectType, observation.objectId) = _ at answers
    rw [type_, object] at answers
    exact answers
  refine ⟨after, next, ?_, ?_, stored, ?_, ?_⟩
  · unfold ingestVerificationRead
    rw [observed]
    exact returned
  · have connector : seed.connector = (renamed observation attempt.nonce).connector :=
      (congrArg ObservationFields.connector fields).trans
        (congrArg ObservationFields.connector reported).symm
    have reads : (renamed observation attempt.nonce).payload.get? "status" = some (.str status) := by
      change observation.payload.get? "status" = _
      rw [payload]
      exact get?_shopifyAttributes_status _ _ _
    exact seeded.merged_status (congrArg ObservationFields.payload fields) connector type_ object reads
      merged answered
  · have performed : Kept rt ((worldSystem rt).next world (.ingest attempt.ingestDraws tenantId
        (renamed observation attempt.nonce) "verification" "verified")) :=
      kept.perform plain (.ingest attempt.ingestDraws tenantId (renamed observation attempt.nonce)
        "verification" "verified")
    rw [reached'] at performed
    exact (performed.persisted _ next stored).commitId
  · -- The two commits have different identifiers, so the two calls make a run.
    have second := System.Run.extend (.ingest attempt.ingestDraws tenantId
      (renamed observation attempt.nonce) "verification" "verified") run (fun used => by
        have drawn := commitId_drawn run used
        exact distinct (List.mem_singleton.mp drawn).symm)
    rw [reached'] at second
    exact ⟨_, second⟩

end Reading

/-! ## The proof -/

section Proving

variable {rt : Runtime} {history : List (Step ActionService Call)} {service : ActionService}
variable {actionId : Text} {action : StoredAction}

/-- An event of a verification has the payload of a call that was made. -/
theorem verification_called (run : (actionSystem rt).Run history service) {event : ActionEventRecord}
    (member : event ∈ service.eventsOf actionId) (verification : event.isVerification = true) :
    Exists fun draws => Exists fun target => Exists fun state => Exists fun isFinal =>
      (.verify draws target event.tenantId state isFinal : Call) ∈ history.map Step.label ∧
        event.payload = (ActionService.verificationVerdict rt state isFinal).payload := by
  induction run with
  | begin initial =>
      cases initial
      cases member
  | extend call earlier admitted ih =>
      rename_i history service
      rw [List.map_append]
      rcases perform_effect rt service call with ⟨entry, effect⟩
      rcases (effect.grows.mem_iff actionId event).mp member with before | ⟨rfl, _⟩
      · rcases ih before with ⟨draws, target, state, isFinal, called, payload⟩
        exact ⟨draws, target, state, isFinal, List.mem_append_left _ called, payload⟩
      · rcases effect.verification_of_type verification with
          ⟨draws, target, state, isFinal, rfl, payload⟩
        exact ⟨draws, target, state, isFinal, List.mem_append_right _ List.mem_cons_self, payload⟩

/-- A log whose status is conclusive reports its last event. -/
theorem OnCourse.reported {log : List ActionEventRecord} {status : ActionStatus}
    (course : OnCourse log status) (final : status.Conclusive) :
    Exists fun event : ActionEventRecord => event ∈ log ∧ event.isTerminal = true := by
  rcases course with ⟨initial, decided, word⟩
  rcases word.conclusions with ⟨_, front, types, _⟩ | ⟨unsettled, _⟩
  · have listed : status.value ∈ log.map ActionEventRecord.eventType := by
      rw [types]
      exact List.mem_append_right _ List.mem_cons_self
    rcases List.mem_map.mp listed with ⟨event, member, kind⟩
    refine ⟨event, member, (isTerminal_iff event).mpr ?_⟩
    rw [kind]
    rcases final with rfl | rfl | rfl <;> decide
  · exact absurd final unsettled

/-- The proof of an action that one verification settled is faithful, and names the commit of
the state that was verified. -/
theorem proof_of_verified (run : (hashedActionSystem rt).Run history service)
    (stored : service.actions.get? actionId = some action)
    (printable : hashable rt (.dict action.proposal.parameters.entries) = true)
    (final : action.decision.status.Conclusive) {verified : OrderState}
    (sole : forall draws target tenantId state isFinal,
      (.verify draws target tenantId state isFinal : Call) ∈ history.map Step.label ->
        state = some verified) (commit : CommitRecord) :
    Exists fun bundle : ProofBundle =>
      service.proof rt actionId action.tenantId (some commit) = .ok bundle ∧
        FaithfulProof rt bundle.events action bundle ∧ bundle.projection = some (projectionOf commit) ∧
        bundle.verificationCommitId = some verified.commitId := by
  have course := LifecycleSound.of_run run actionId action stored
  rcases OnCourse.reported course final with ⟨event, member, terminal⟩
  rcases course with ⟨initial, decided, word⟩
  have testifies := Evidenced.of_run run.ofRestrict actionId action stored
  have chained := (validateEventChain_ok_iff rt _).mpr ((AuditSound.of_run run.ofRestrict).linked actionId)
  have found := (service.getAction_ok_iff actionId action.tenantId action).mpr ⟨stored, rfl⟩
  rcases (providerEvidence_ok_iff rt action.proposal (service.eventsOf actionId)).mpr
    (fun _ => printable) with ⟨provider, accepted⟩
  rcases policy_of_log decided word testifies with ⟨_, policy, evaluated, _⟩
  rcases verification_of_log rt word with ⟨verification, read, attempted, _, reports⟩
  have verification' := (Bool.and_eq_true_iff.mp terminal).1
  refine ⟨_, (proof_ok_iff _ _ _ _ _ _).mpr
    ⟨action, _, provider, verification, found, evaluated, accepted, read, rfl⟩,
    faithful_of_log decided word testifies chained evaluated accepted read, rfl, ?_⟩
  rcases Option.isSome_iff_exists.mp (attempted.mpr ⟨event, member, verification'⟩) with ⟨report, rfl⟩
  rcases verification_called run.ofRestrict member verification' with
    ⟨draws, target, state, isFinal, called, payload⟩
  cases sole _ _ _ _ _ called
  have reported := reports report rfl event member terminal
  unfold reportedBy at reported
  cases typed : statusFrom rt (.str event.eventType) with
  | error error =>
      rw [typed] at reported
      cases reported
  | ok status =>
      rw [typed] at reported
      cases reported
      change (event.payload.get? "commit_id").bind Json.text? = _
      rw [payload]
      rfl

theorem rehearsalProof_ok {services : Services} {tenantId orderId : Text} {state : OrderState}
    {commit : CommitRecord} {bundle : ProofBundle} {commits : List CommitRecord}
    (held : services.world.states.get? (tenantId, "order", orderId) = some state)
    (found : services.world.getCommit tenantId state.commitId = .ok commit)
    (proved : services.actions.proof rt actionId tenantId (some commit) = .ok bundle)
    (listed : services.world.listCommits tenantId none = .ok commits)
    (valid : validateCommitChain rt commits = .ok ())
    (chained : validateEventChain rt bundle.events = .ok ()) :
    rehearsalProof rt services tenantId orderId actionId = .ok bundle := by
  unfold rehearsalProof getEntity
  dsimp only [bind, Except.bind]
  rw [held]
  dsimp only
  rw [found]
  dsimp only
  rw [proved]
  dsimp only
  rw [listed]
  dsimp only
  rw [valid]
  dsimp only
  rw [chained]
  rfl

/-- The state that a World State service holds has a commit, and the tenant's chain is valid. -/
theorem world_proves {history : List (Step WorldStateService WorldCall)} {world : WorldStateService}
    (run : (worldSystem rt).Run history world) {tenantId orderId : Text} {state : OrderState}
    (held : world.states.get? (tenantId, "order", orderId) = some state) :
    Exists fun commit : CommitRecord => world.getCommit tenantId state.commitId = .ok commit ∧
      commit.commitId = state.commitId ∧ Exists fun commits : List CommitRecord =>
        world.listCommits tenantId none = .ok commits ∧ validateCommitChain rt commits = .ok () := by
  have sound := HistorySound.of_run run
  have recorded := (EntitiesSound.of_run run).recorded (tenantId, "order", orderId)
  rw [held] at recorded
  rcases Option.map_eq_some_iff.mp recorded.entityHistory.commitId with ⟨commit, last, named⟩
  rcases List.mem_filter.mp (List.mem_of_getLast? last) with ⟨member, about⟩
  have owner : commit.tenantId = tenantId := congrArg Prod.fst (of_decide_eq_true about)
  have stored := sound.stored commit member
  rw [owner, named] at stored
  refine ⟨commit, ?_, named, _, sound.listCommits tenantId,
    (validateCommitChain_ok_iff rt _).mpr (sound.hashes tenantId)⟩
  unfold getCommit
  rw [stored]

end Proving

/-! ## Whole runs -/

section Running

variable {S : Type u} {rt : Runtime} {draws : RehearsalDraws S} {tenantId orderId : Text}
variable {approved : ApprovedRehearsal}

theorem ApprovedRehearsal.Ready.reaches (ready : approved.Ready rt draws tenantId orderId) :
    Exists fun action : StoredAction =>
      ReachesProvider approved.services.actions approved.actionId tenantId (some approved.state) action ∧
        action.proposal = approved.proposal := by
  rcases ready.seeded with ⟨seed, fields, seeded, _⟩
  rcases ready.stands with ⟨action, stands, status, owner, proposal⟩
  have expected : approved.proposal.toProposalFields =
      rehearsalFields tenantId orderId approved.state.stateVersion := by
    rw [seeded.version]
    exact ready.proposal
  have eligible := (seeded.agrees (congrArg ObservationFields.payload fields) expected).2
  refine ⟨action, ⟨stands.stored, owner, ?_, status, ?_, eligible⟩, proposal⟩
  · rw [← owner]
    exact stands.receipt
  · rw [proposal]
    exact congrArg ProposalFields.actionType ready.proposal

/-- A write that the provider refuses leaves the action approved. -/
theorem refusedWrite_ok (ready : approved.Ready rt draws tenantId orderId) :
    refusedWrite rt draws .providerError tenantId approved =
      .ok ⟨.providerError, ActionStatus.approved.value, true, none⟩ := by
  rcases ready.reaches with ⟨action, reaches, _⟩
  have found := (approved.services.actions.getAction_ok_iff approved.actionId tenantId action).mpr
    ⟨reaches.found, reaches.owner⟩
  unfold refusedWrite
  dsimp only
  rw [execute_reaching rt approved.services.actions draws.executing failingExecutor reaches]
  dsimp only [failingExecutor, Outcome.raises]
  rw [ActionService.getDecision, found]
  change Except.ok _ = _
  rw [reaches.approved]
  rfl

/-- The receipt of the local connector. -/
def rehearsalReceipt (draws : RehearsalDraws S) (approved : ApprovedRehearsal) : ExecutionReceipt where
  actionId := approved.actionId
  status := .providerAccepted
  provider := "shopify"
  providerRequestId := "shopify-test-" ++ draws.request.hex.take 12
  idempotencyKey := approved.proposal.idempotencyKey

/-- The call that executes a rehearsal against the local connector. -/
def ApprovedRehearsal.executes (approved : ApprovedRehearsal) (draws : RehearsalDraws S)
    (tenantId : Text) : Call :=
  .execute draws.executing approved.actionId tenantId (ShopifyConnector.cancelOrder draws.request)
    (some approved.state)

theorem hexText_encodable (uuid : Uuid) (count : Nat) : (uuid.hex.take count).encodable = true := by
  have digits := uuid.digits
  unfold Text.encodable Text.take
  rw [List.all_eq_true] at digits ⊢
  intro code member
  have digit := digits code (List.mem_of_mem_take member)
  simp only [Bool.or_eq_true, Bool.and_eq_true, decide_eq_true_eq] at digit
  unfold Text.scalar
  rw [Bool.or_eq_true]
  exact Or.inl (decide_eq_true (by omega))

/-- The local connector accepts the write, which is of the rehearsed order. -/
theorem acceptedWrite_executes (printable : PrintableTexts rt) (distinct : draws.Distinct)
    (able : Rehearsable tenantId orderId) (ready : approved.Ready rt draws tenantId orderId) :
    let execution := approved.services.actions.execute rt draws.executing approved.actionId tenantId
      (ShopifyConnector.cancelOrder draws.request) (some approved.state)
    (execution.invoked.map ProviderCall.orderId = some orderId) ∧
      execution.outcome.result = .ok (rehearsalReceipt draws approved) ∧
      Called rt (approved.calls draws tenantId ++ [approved.executes draws tenantId])
        execution.outcome.state ∧
      Exists fun action : StoredAction =>
        execution.outcome.state.actions.get? approved.actionId = some action ∧
          action.decision.status = .providerAccepted ∧ action.tenantId = tenantId ∧
          action.proposal = approved.proposal := by
  rcases ready.reaches with ⟨action, reaches, proposal⟩
  have owner := reaches.owner
  subst owner
  rcases ready.called with ⟨history, run, labels⟩
  have log : LogWritable approved.services.actions := .of_run printable.digests run.ofRestrict
  have order : action.proposal.orderId = orderId := by
    rw [proposal, ActionProposal.orderId, congrArg ProposalFields.targetEntity ready.proposal]
    exact Text.removePrefix_append _ _
  have key : approved.proposal.idempotencyKey.encodable = true := by
    rw [congrArg ProposalFields.idempotencyKey ready.proposal]
    simp only [rehearsalFields, Text.encodable_append, Text.encodable_ofString, able.tenant, able.order,
      Bool.and_self]
  have texts : forall text, text ∈ [approved.actionId, ("shopify" : Text),
      "shopify-test-" ++ draws.request.hex.take 12, approved.proposal.idempotencyKey] ->
        text.encodable = true := by
    simp only [List.forall_mem_cons, List.not_mem_nil, false_implies, implies_true, and_true]
    refine ⟨log.named _ action reaches.found, Text.encodable_ofString _, ?_, key⟩
    rw [Text.encodable_append, Text.encodable_ofString, hexText_encodable, Bool.and_self]
  have accepts : ShopifyConnector.cancelOrder draws.request (action.providerCall approved.actionId) =
      .ok (rehearsalReceipt draws approved) := by
    rw [rehearsalReceipt, ← proposal]
    rfl
  have stands : Stands approved.services.actions approved.actionId action none :=
    ⟨reaches.found, reaches.unused⟩
  rcases execute_progress draws.executing log stands reaches.approved reaches.cancels reaches.eligible
    accepts texts able.tenant with ⟨invoked, executed, written⟩
  have answers : (approved.services.actions.perform rt
      (approved.executes draws action.tenantId)).result = _ := congrArg (Except.map Answer.receipt) executed
  dsimp only
  refine ⟨?_, executed, ?_, _, written.stored, rfl, rfl, proposal⟩
  · rw [invoked]
    exact congrArg some order
  · refine ready.called.answered answers ?_ (fun _ created => by cases created)
    have events := distinct.events
    simp only [List.nodup_cons, List.mem_cons, not_or] at events
    intro member
    rcases List.mem_cons.mp member with same | rest
    · exact events.1.2.1 same.symm
    · exact events.2.1.1 (List.mem_singleton.mp rest).symm

/-- What the worker reads from the connector after the write, or despite it. -/
theorem rehearsalRead_eq {invoked : Option ProviderCall}
    (order : invoked.map ProviderCall.orderId = some orderId) (fault : RehearsalFault) :
    rehearsalRead fault (ShopifyConnector.fresh.wrote invoked) orderId = ShopifyConnector.report orderId
      (if fault = .verificationDivergence then "open" else "cancelled") := by
  unfold rehearsalRead
  split
  · rfl
  · unfold ShopifyConnector.readOrder ShopifyConnector.wrote
    rw [order, if_pos (by simp)]

/-- The verdict on what the worker read is the one that the fault is expected to end in. -/
theorem rehearsal_verdict {fault : RehearsalFault} (accepts : fault ≠ .providerError) {state : OrderState}
    (status : state.value? "status" =
      some (.str (if fault = .verificationDivergence then "open" else "cancelled"))) :
    (ActionService.verificationVerdict rt (some state) true).status = expectedTerminal fault := by
  unfold ActionService.verificationVerdict ActionService.observedStatus
  dsimp only
  rw [Option.bind_some, status]
  cases fault with
  | none => rfl
  | providerError => exact absurd rfl accepts
  | verificationDivergence => rfl

/-- The proof of a rehearsal is faithful, and its verification names the commit that it
shows. A run whose write was refused has no proof at all. -/
structure ProvesRehearsal (rt : Runtime) (fault : RehearsalFault) (bundle : ProofBundle) : Prop where
  faithful : Exists fun action : StoredAction => FaithfulProof rt bundle.events action bundle ∧
    action.decision.status = expectedTerminal fault
  projected : Exists fun projection : ProjectionDelta => bundle.projection = some projection ∧
    bundle.verificationCommitId = some projection.commitId

/-- The verification draws its own identifier, so it goes on with the calls of the rehearsal. -/
theorem Called.verified (distinct : draws.Distinct) {service : ActionService}
    (called : Called rt (approved.calls draws tenantId ++ [approved.executes draws tenantId]) service)
    {actionId : Text} {state : Option OrderState} {isFinal : Bool} {decision : ActionDecision}
    (answered : (service.verify rt draws.verifying actionId tenantId state isFinal).result =
      .ok decision) :
    Called rt (approved.calls draws tenantId ++ [approved.executes draws tenantId] ++
        [.verify draws.verifying actionId tenantId state isFinal])
      (service.verify rt draws.verifying actionId tenantId state isFinal).state := by
  have answers : (service.perform rt (.verify draws.verifying actionId tenantId state isFinal)).result =
      _ := congrArg (Except.map Answer.decision) answered
  refine called.answered answers ?_ (fun _ created => by cases created)
  have events := distinct.events
  simp only [List.nodup_cons, List.mem_cons, not_or] at events
  intro member
  rcases List.mem_cons.mp member with same | member
  · exact events.1.2.2.1 same.symm
  · rcases List.mem_cons.mp member with same | member
    · exact events.2.1.2.1 same.symm
    · exact events.2.2.1.1 (List.mem_singleton.mp member).symm

/-- An attempt whose read is taken verifies against the state that it was answered with. -/
theorem attemptOnce_ingested (fromisoformat : Text -> Except PyError Timestamp) {attempt : Attempt}
    {service : ActionService} {world after : WorldStateService} {state : OrderState}
    (ingested : ingestVerificationRead rt fromisoformat world tenantId attempt = .returns after state)
    (actionId : Text) (isFinal : Bool) :
    attemptOnce rt fromisoformat tenantId actionId attempt isFinal ⟨service, world⟩ =
      let verdict := service.verify rt attempt.verifyDraws actionId tenantId (some state) isFinal
      ⟨⟨verdict.state, after⟩, verdict.result⟩ := by
  unfold attemptOnce
  dsimp only
  rw [ingested]
  rfl

/-- A rehearsal whose write is accepted is expected to end in a verification that concludes. -/
theorem expectedTerminal_conclusive {fault : RehearsalFault} (accepts : fault ≠ .providerError) :
    (expectedTerminal fault).Conclusive := by
  cases fault with
  | none => exact Or.inl rfl
  | providerError => exact absurd rfl accepts
  | verificationDivergence => exact Or.inr (Or.inr rfl)

/-- The round that verifies a rehearsal is answered with the expected status, and proved. -/
theorem rehearsal_verified (printable : PrintableTexts rt)
    (fromisoformat : Text -> Except PyError Timestamp) (distinct : draws.Distinct)
    (able : Rehearsable tenantId orderId) (ready : approved.Ready rt draws tenantId orderId)
    {fault : RehearsalFault} (accepts : fault ≠ .providerError) {service : ActionService}
    (called : Called rt (approved.calls draws tenantId ++ [approved.executes draws tenantId]) service)
    {action : StoredAction} (stored : service.actions.get? approved.actionId = some action)
    (status : action.decision.status = .providerAccepted) (owner : action.tenantId = tenantId)
    (proposal : action.proposal = approved.proposal) (attempt : Attempt)
    (read : attempt.read = .ok (ShopifyConnector.report orderId
      (if fault = .verificationDivergence then "open" else "cancelled")))
    (reading : attempt.ingestDraws = draws.reading) (verifying : attempt.verifyDraws = draws.verifying) :
    let done := attemptOnce rt fromisoformat tenantId approved.actionId attempt true
      ⟨service, approved.services.world⟩
    Exists fun decision : ActionDecision => done.result = .ok decision ∧
      decision.status = expectedTerminal fault ∧ Exists fun bundle : ProofBundle =>
        rehearsalProof rt done.state tenantId orderId approved.actionId = .ok bundle ∧
          ProvesRehearsal rt fault bundle := by
  subst owner
  rcases ready.seeded with ⟨seed, fields, seeded, taken⟩
  have full : (if fault = .verificationDivergence then ("open" : Text) else "cancelled") ≠ "" := by
    split <;> decide
  have written : (if fault = .verificationDivergence then ("open" : Text) else "cancelled").encodable =
      true := by
    split <;> exact Text.encodable_ofString _
  rcases read_taken printable.toPlainTexts fromisoformat able fields seeded taken read full written
    (reading ▸ distinct.commits) with ⟨world, verified, ingested, reported, held, commit, history, run⟩
  have observed : hashable rt (ActionService.observedStatus (some verified)) = true := by
    unfold ActionService.observedStatus
    rw [Option.bind_some, reported]
    exact written
  rcases called with ⟨past, pastRun, labels⟩
  rcases @verify_progress rt service approved.actionId action printable attempt.verifyDraws verified
    true (.of_run printable.digests pastRun.ofRestrict) stored (by rw [status]; rfl) able.tenant observed
    commit with ⟨answered, settled⟩
  have ends := @rehearsal_verdict rt fault accepts verified reported
  rcases Called.verified distinct ⟨past, pastRun, labels⟩ (verifying ▸ answered) with
    ⟨whole, wholeRun, calls⟩
  rw [← verifying] at wholeRun calls
  have judged := @attemptOnce_ingested rt action.tenantId fromisoformat attempt service _ world verified
    ingested approved.actionId true
  dsimp only at judged ⊢
  rw [judged]
  refine ⟨_, answered, ends, ?_⟩
  rcases world_proves run held with ⟨shown, found, named, commits, listed, valid⟩
  have sole : forall draws' target tenantId state isFinal,
      (.verify draws' target tenantId state isFinal : Call) ∈ whole.map Step.label ->
        state = some verified := by
    intro draws' target tenantId state isFinal member
    rw [calls] at member
    rcases List.mem_append.mp member with earlier | last
    · simp [ApprovedRehearsal.calls, ApprovedRehearsal.executes] at earlier
    · cases List.mem_singleton.mp last
      rfl
  have plain : action.proposal.parameters = Dict.empty := by
    rw [proposal, congrArg ProposalFields.parameters ready.proposal]
    rfl
  have printed : hashable rt (.dict action.proposal.parameters.entries) = true := by
    rw [plain]
    rfl
  have concluded : (decidedAs action (ActionService.verificationVerdict rt (some verified) true).status
      (ActionService.verificationVerdict rt (some verified) true).reason).decision.status.Conclusive := by
    rw [show _ = expectedTerminal fault from ends]
    exact expectedTerminal_conclusive accepts
  rcases proof_of_verified wholeRun settled printed concluded sole shown with
    ⟨bundle, proved, faithful, projected, cites⟩
  exact ⟨bundle, rehearsalProof_ok held found proved listed valid faithful.validated, {
    faithful := ⟨_, faithful, ends⟩
    projected := ⟨_, projected, cites.trans (congrArg some named.symm)⟩ }⟩

variable [LinearOrder S] [Zero S] [One S] [Add S] [Sub S] [Mul S]

/-- The rehearsal's worker makes one round, and it is final. -/
theorem verifyTimed_once (fromisoformat : Text -> Except PyError Timestamp) {inputs : Nat -> Attempt}
    {services : Services} {actionId : Text} {action : StoredAction}
    (found : services.actions.getAction actionId tenantId = .ok action) :
    (verifyTimed rt fromisoformat rehearsalSettings draws.monotonic inputs services tenantId
        actionId).outcome =
      attemptOnce rt fromisoformat tenantId actionId
        (timedAttempt draws.monotonic (deadlineOf rehearsalSettings draws.monotonic) inputs 0) true
        services := by
  unfold verifyTimed
  rw [found]
  rfl

/-- A run whose write, verification and proof are answered as they should be. -/
theorem acceptedWrite_eq {fromisoformat : Text -> Except PyError Timestamp} {fault : RehearsalFault}
    {execution : Execution} {receipt : ExecutionReceipt} {decision : ActionDecision}
    {bundle : ProofBundle} {done : Outcome PyError Services ActionDecision}
    (executes : approved.services.actions.execute rt draws.executing approved.actionId tenantId
      (ShopifyConnector.cancelOrder draws.request) (some approved.state) = execution)
    (executed : execution.outcome.result = .ok receipt) (status : receipt.status = .providerAccepted)
    (verified : (verifyTimed rt fromisoformat rehearsalSettings draws.monotonic
      (fun _ => draws.attempt (rehearsalRead fault (ShopifyConnector.fresh.wrote execution.invoked)
        approved.proposal.orderId)) ⟨execution.outcome.state, approved.services.world⟩ tenantId
        approved.actionId).outcome = done)
    (answered : done.result = .ok decision) (ends : decision.status = expectedTerminal fault)
    (proves : rehearsalProof rt done.state tenantId orderId approved.actionId = .ok bundle) :
    acceptedWrite rt fromisoformat draws fault tenantId orderId approved =
      .ok ⟨fault, (expectedTerminal fault).value, true, some bundle⟩ := by
  unfold acceptedWrite
  dsimp only [Except.mapError, bind, Except.bind]
  rw [executes, executed]
  dsimp only
  rw [if_neg (not_not_intro status), verified, answered]
  dsimp only
  rw [proves, ends]
  dsimp only
  rw [decide_eq_true rfl, if_neg (fun both => Bool.false_ne_true both.2.symm)]
  rfl

/-- A write that the provider accepts is judged as the fault lets it be, and proved. -/
theorem acceptedWrite_ok (printable : PrintableTexts rt)
    (fromisoformat : Text -> Except PyError Timestamp) (distinct : draws.Distinct)
    (able : Rehearsable tenantId orderId) (ready : approved.Ready rt draws tenantId orderId)
    {fault : RehearsalFault} (accepts : fault ≠ .providerError) :
    Exists fun bundle : ProofBundle =>
      acceptedWrite rt fromisoformat draws fault tenantId orderId approved =
        .ok ⟨fault, (expectedTerminal fault).value, true, some bundle⟩ ∧
        ProvesRehearsal rt fault bundle := by
  rcases acceptedWrite_executes printable distinct able ready with
    ⟨order, executed, called, action, stored, status, owner, proposal⟩
  generalize executes : approved.services.actions.execute rt draws.executing approved.actionId tenantId
    (ShopifyConnector.cancelOrder draws.request) (some approved.state) = execution at *
  have target : approved.proposal.orderId = orderId := by
    rw [ActionProposal.orderId, congrArg ProposalFields.targetEntity ready.proposal]
    exact Text.removePrefix_append _ _
  have found := (execution.outcome.state.getAction_ok_iff approved.actionId tenantId action).mpr
    ⟨stored, owner⟩
  have verified := @verifyTimed_once S rt draws tenantId _ _ _ _ _ _ fromisoformat
    (fun _ => draws.attempt (rehearsalRead fault (ShopifyConnector.fresh.wrote execution.invoked)
      approved.proposal.orderId)) ⟨execution.outcome.state, approved.services.world⟩ approved.actionId
    action found
  have read : (Except.ok (rehearsalRead fault (ShopifyConnector.fresh.wrote execution.invoked)
      approved.proposal.orderId) : Except PyError Payload) = .ok (ShopifyConnector.report orderId
        (if fault = .verificationDivergence then "open" else "cancelled")) := by
    rw [target, rehearsalRead_eq order]
  rcases rehearsal_verified printable fromisoformat distinct able ready accepts called stored status owner
    proposal (timedAttempt draws.monotonic (deadlineOf rehearsalSettings draws.monotonic) (fun _ =>
      draws.attempt (rehearsalRead fault (ShopifyConnector.fresh.wrote execution.invoked)
        approved.proposal.orderId)) 0) read rfl rfl with ⟨decision, answered, ends, bundle, proves, rehearsed⟩
  exact ⟨bundle, acceptedWrite_eq executes executed rfl verified answered ends proves, rehearsed⟩

/-! ## What a rehearsal shows -/

/-- The run ends in the status that its fault calls for, and proves it unless the write was
refused. -/
structure Rehearsed (rt : Runtime) (fault : RehearsalFault) (result : RehearsalResult) : Prop where
  injected : result.fault = fault
  terminal : result.terminalStatus = (expectedTerminal fault).value
  isProtected : result.isProtected = true
  proved : result.proof.isSome = true <-> fault ≠ .providerError
  proves : forall bundle, result.proof = some bundle -> ProvesRehearsal rt fault bundle

/-- A rehearsal under any fault ends protected for exactly the identifiers that the models
accept, and raises for all others. -/
theorem runRehearsal_cases (printable : PrintableTexts rt)
    (fromisoformat : Text -> Except PyError Timestamp) (distinct : draws.Distinct)
    (fault : RehearsalFault) (tenantId orderId : Text) :
    (Rehearsable tenantId orderId ∧ Exists fun result : RehearsalResult =>
      runRehearsal rt fromisoformat draws fault tenantId orderId = .ok result ∧
        Rehearsed rt fault result) ∨
    (¬ Rehearsable tenantId orderId ∧ Exists fun error : RehearsalError =>
      runRehearsal rt fromisoformat draws fault tenantId orderId = .error error) := by
  rcases approveRehearsal_cases printable distinct tenantId orderId with
    ⟨able, approved, begun, ready⟩ | ⟨unable, error, raised⟩
  · refine Or.inl ⟨able, ?_⟩
    unfold runRehearsal
    rw [begun]
    dsimp only [bind, Except.bind]
    by_cases refuses : fault = .providerError
    · subst refuses
      rw [if_pos rfl, refusedWrite_ok ready]
      refine ⟨_, rfl, ?_⟩
      exact {
        injected := rfl
        terminal := rfl
        isProtected := rfl
        proved := iff_of_false Bool.false_ne_true (not_not_intro rfl)
        proves := by
          intro bundle absent
          cases absent }
    · rw [if_neg refuses]
      rcases acceptedWrite_ok printable fromisoformat distinct able ready refuses with
        ⟨bundle, finished, proves⟩
      rw [finished]
      refine ⟨_, rfl, ?_⟩
      exact {
        injected := rfl
        terminal := rfl
        isProtected := rfl
        proved := iff_of_true rfl refuses
        proves := by
          intro bundle' same
          cases same
          exact proves }
  · refine Or.inr ⟨unable, error, ?_⟩
    unfold runRehearsal
    rw [raised]
    rfl

end Running

/-! ## Batches -/

/-- A number has no more digits than a greater one. -/
theorem length_ofNat_le {number larger : Nat} (few : number ≤ larger) :
    (Text.ofNat number).length ≤ (Text.ofNat larger).length := by
  have digits : forall number : Nat, (Text.ofNat number).length = (Nat.toDigits 10 number).length :=
    fun number => List.length_map _
  rw [digits, digits, Nat.length_toDigits_le_iff (by decide) Nat.length_toDigits_pos]
  exact lt_of_le_of_lt few ((Nat.length_toDigits_le_iff (by decide) Nat.length_toDigits_pos).mp le_rfl)

/-- The last order of a batch has the longest name. -/
theorem rehearsalOrder_rehearsable {tenantId orderId : Text} {runs : Int} {index last : Nat}
    (few : index ≤ last) (able : Rehearsable tenantId (rehearsalOrder orderId runs last)) :
    Rehearsable tenantId (rehearsalOrder orderId runs index) := by
  unfold rehearsalOrder at able ⊢
  by_cases single : runs = 1
  · rw [if_pos single] at able ⊢
    exact able
  · rw [if_neg single] at able ⊢
    have numerals := List.all_eq_true.mp (ofNat_numeral index)
    have order := able.order
    have plain := able.plain
    have short := able.short
    rw [Text.encodable_append, Text.encodable_append, Bool.and_eq_true, Bool.and_eq_true] at order
    rw [Text.codes_append, Text.codes_append, List.mem_append, List.mem_append, not_or, not_or] at plain
    rw [Text.length_append] at short
    exact {
      tenant := able.tenant
      order := by
        rw [Text.encodable_append, Text.encodable_append, order.1.1, order.1.2, Bool.true_and]
        exact numeral_scalar (ofNat_numeral index)
      named := by
        intro same
        have sizes := congrArg Text.length same
        have dash : (Text.ofString "-").length = 1 := rfl
        have nothing : (Text.ofString "").length = 0 := rfl
        rw [Text.length_append, Text.length_append] at sizes
        omega
      plain := by
        rw [Text.codes_append, Text.codes_append, List.mem_append, List.mem_append, not_or, not_or]
        exact ⟨plain.1, fun member => absurd (numerals 58 member) (by decide)⟩
      short := by
        have fewer := length_ofNat_le few
        rw [Text.length_append]
        omega }

section Batches

variable {A : Type} {run : Nat -> Text -> Except RehearsalError A} {able : Text -> Prop}
variable {shows : A -> Prop} {orderId : Text} {runs : Int}

/-- A batch whose runs each end well for the orders that they accept, and raise for all others. -/
theorem inBatch_ok_iff
    (each : forall index orderId,
      (able orderId ∧ Exists fun result : A => run index orderId = .ok result ∧ shows result) ∨
        (¬ able orderId ∧ Exists fun error : RehearsalError => run index orderId = .error error)) :
    (Exists fun results : List A => inBatch run orderId runs = .ok results) <->
      1 ≤ runs ∧ forall index, 1 ≤ index -> index ≤ runs.toNat ->
        able (rehearsalOrder orderId runs index) := by
  unfold inBatch
  by_cases empty : runs < 1
  · rw [if_pos empty]
    refine iff_of_false ?_ (fun both => absurd both.1 (not_le.mpr empty))
    rintro ⟨results, returned⟩
    cases returned
  · rw [if_neg empty]
    constructor
    · rintro ⟨results, returned⟩
      refine ⟨not_lt.mp empty, fun index low high => ?_⟩
      have member : index ∈ List.range' 1 runs.toNat := List.mem_range'_1.mpr ⟨low, by omega⟩
      rcases exists_right_of_forall₂ (forall₂_of_mapM returned) member with ⟨result, _, ran⟩
      rcases each index (rehearsalOrder orderId runs index) with ⟨accepted, _⟩ | ⟨_, error, raised⟩
      · exact accepted
      · cases ran.symm.trans raised
    · rintro ⟨_, accepted⟩
      apply mapM_ok
      intro index member
      rcases List.mem_range'_1.mp member with ⟨low, high⟩
      rcases each index (rehearsalOrder orderId runs index) with ⟨_, result, ran, _⟩ | ⟨refused, _⟩
      · exact ⟨result, ran⟩
      · exact absurd (accepted index low (by omega)) refused

theorem inBatch_results
    (each : forall index orderId,
      (able orderId ∧ Exists fun result : A => run index orderId = .ok result ∧ shows result) ∨
        (¬ able orderId ∧ Exists fun error : RehearsalError => run index orderId = .error error))
    {results : List A} (returned : inBatch run orderId runs = .ok results) :
    results.length = runs.toNat ∧ forall result, result ∈ results -> shows result := by
  unfold inBatch at returned
  by_cases empty : runs < 1
  · rw [if_pos empty] at returned
    cases returned
  · rw [if_neg empty] at returned
    have ran := forall₂_of_mapM returned
    refine ⟨?_, fun result member => ?_⟩
    · rw [← ran.length_eq, List.length_range']
    · rcases exists_left_of_forall₂ ran member with ⟨index, _, ran⟩
      rcases each index (rehearsalOrder orderId runs index) with ⟨_, result', ran', good⟩ | ⟨_, error, raised⟩
      · cases ran.symm.trans ran'
        exact good
      · cases ran.symm.trans raised

/-- Every run accepts its order when the last one does. -/
theorem batch_able_iff {tenantId : Text} :
    (1 ≤ runs ∧ forall index, 1 ≤ index -> index ≤ runs.toNat ->
      Rehearsable tenantId (rehearsalOrder orderId runs index)) <->
        1 ≤ runs ∧ Rehearsable tenantId (rehearsalOrder orderId runs runs.toNat) := by
  constructor
  · rintro ⟨some_, all⟩
    exact ⟨some_, all runs.toNat (by omega) le_rfl⟩
  · rintro ⟨some_, last⟩
    exact ⟨some_, fun index _ few => rehearsalOrder_rehearsable few last⟩

/-- The summary of runs that all end as their fault calls for. -/
theorem scenarioSummary_eq {rt : Runtime} {fault : RehearsalFault} {results : List RehearsalResult}
    (some_ : results ≠ []) (all : forall result, result ∈ results -> Rehearsed rt fault result) :
    rehearsalScenarioSummary results = {
      totalRuns := results.length
      protectedRuns := results.length
      unprotectedRuns := 0
      allProtected := true
      faults := List.replicate results.length fault
      terminalStatuses := List.replicate results.length (expectedTerminal fault).value } := by
  have counted : results.countP RehearsalResult.isProtected = results.length :=
    List.countP_eq_length.mpr (fun result member => (all result member).isProtected)
  have faults : results.map RehearsalResult.fault = List.replicate results.length fault :=
    List.map_eq_replicate_iff.mpr (fun result member => (all result member).injected)
  have statuses : results.map RehearsalResult.terminalStatus =
      List.replicate results.length (expectedTerminal fault).value :=
    List.map_eq_replicate_iff.mpr (fun result member => (all result member).terminal)
  unfold rehearsalScenarioSummary
  rw [counted, faults, statuses]
  simp [some_]

end Batches

section Protected

variable {S : Type u} [LinearOrder S] [Zero S] [One S] [Add S] [Sub S] [Mul S]
variable {rt : Runtime} {tenantId orderId : Text}

/-- A rehearsal without a fault yields a proof for exactly the identifiers that the models accept. -/
theorem runLocalRehearsal_cases (printable : PrintableTexts rt)
    (fromisoformat : Text -> Except PyError Timestamp) {draws : RehearsalDraws S}
    (distinct : draws.Distinct) (orderId : Text) :
    (Rehearsable tenantId orderId ∧ Exists fun bundle : ProofBundle =>
      runLocalRehearsal rt fromisoformat draws tenantId orderId = .ok bundle ∧
        ProvesRehearsal rt .none bundle) ∨
    (¬ Rehearsable tenantId orderId ∧ Exists fun error : RehearsalError =>
      runLocalRehearsal rt fromisoformat draws tenantId orderId = .error error) := by
  unfold runLocalRehearsal
  rcases runRehearsal_cases printable fromisoformat distinct .none tenantId orderId with
    ⟨able, result, ran, rehearsed⟩ | ⟨unable, error, raised⟩
  · rcases Option.isSome_iff_exists.mp (rehearsed.proved.mpr (by decide)) with ⟨bundle, proved⟩
    refine Or.inl ⟨able, bundle, ?_, rehearsed.proves bundle proved⟩
    rw [ran]
    dsimp only [bind, Except.bind]
    rw [proved]
  · refine Or.inr ⟨unable, error, ?_⟩
    rw [raised]
    rfl

theorem ProvesRehearsal.status {fault : RehearsalFault} {bundle : ProofBundle}
    (proves : ProvesRehearsal rt fault bundle) : bundle.status = expectedTerminal fault := by
  rcases proves.faithful with ⟨action, faithful, ends⟩
  exact faithful.status.trans ends

/-- A batch is run to its end exactly when its last order can be rehearsed.  Every run then ends
as its fault calls for, and the summary says so; a batch without a fault yields that many
verified proofs. -/
theorem rehearsals_protect (printable : PrintableTexts rt)
    (fromisoformat : Text -> Except PyError Timestamp) {draws : Nat -> RehearsalDraws S}
    (distinct : forall index, (draws index).Distinct) (fault : RehearsalFault) (tenantId orderId : Text)
    (runs : Int) :
    let able := 1 ≤ runs ∧ Rehearsable tenantId (rehearsalOrder orderId runs runs.toNat)
    let batch := runRehearsals rt fromisoformat draws fault tenantId orderId runs
    let proofs := runLocalRehearsals rt fromisoformat draws tenantId orderId runs
    ((Exists fun results : List RehearsalResult => batch = .ok results) <-> able) ∧
      (forall results, batch = .ok results ->
        (forall result, result ∈ results -> Rehearsed rt fault result) ∧
          rehearsalScenarioSummary results = {
            totalRuns := runs.toNat
            protectedRuns := runs.toNat
            unprotectedRuns := 0
            allProtected := true
            faults := List.replicate runs.toNat fault
            terminalStatuses := List.replicate runs.toNat (expectedTerminal fault).value }) ∧
      ((Exists fun bundles : List ProofBundle => proofs = .ok bundles) <-> able) ∧
      forall bundles, proofs = .ok bundles ->
        (rehearsalSummary bundles).verifiedRuns = runs.toNat ∧ (rehearsalSummary bundles).failedRuns = 0 ∧
          (rehearsalSummary bundles).allVerified = true ∧
          forall commitId, commitId ∈ (rehearsalSummary bundles).verificationCommitIds ->
            commitId.isSome = true := by
  dsimp only
  have each := fun index orderId =>
    @runRehearsal_cases S rt (draws index) _ _ _ _ _ _ printable fromisoformat (distinct index) fault tenantId
      orderId
  have proves := fun index orderId =>
    @runLocalRehearsal_cases S _ _ _ _ _ _ rt tenantId printable fromisoformat (draws index) (distinct index)
      orderId
  refine ⟨(inBatch_ok_iff each).trans batch_able_iff, ?_, (inBatch_ok_iff proves).trans batch_able_iff, ?_⟩
  · intro results returned
    rcases inBatch_results each returned with ⟨size, all⟩
    have some_ := ((inBatch_ok_iff each).mp ⟨results, returned⟩).1
    have listed : results ≠ [] := by
      rintro rfl
      rw [List.length_nil] at size
      omega
    refine ⟨all, ?_⟩
    rw [scenarioSummary_eq listed all, size]
  · intro bundles returned
    rcases inBatch_results proves returned with ⟨size, all⟩
    have some_ := ((inBatch_ok_iff proves).mp ⟨bundles, returned⟩).1
    have listed : bundles ≠ [] := by
      rintro rfl
      rw [List.length_nil] at size
      omega
    have counted : bundles.countP (fun proof => decide (proof.status = .verified)) = bundles.length :=
      List.countP_eq_length.mpr (fun bundle member => decide_eq_true (all bundle member).status)
    unfold rehearsalSummary
    dsimp only
    rw [counted]
    refine ⟨size, sub_self _, by simp [listed], ?_⟩
    intro commitId member
    rcases List.mem_map.mp member with ⟨bundle, inside, rfl⟩
    rcases (all bundle inside).projected with ⟨projection, _, cites⟩
    rw [cites]
    rfl

end Protected

/-- What each run of a sample batch draws. -/
def sampleRehearsal : RehearsalDraws Int where
  seededAt := 0
  seeding := .numbered 1
  proposing := .numbered 2
  approving := .numbered 4
  executing := .numbered 5
  request := .numbered 6
  monotonic := fun reading => reading
  readAt := 60
  nonce := .numbered 7
  reading := .numbered 8
  verifying := .numbered 9

theorem rehearsals_protect_sample :
    Exists fun results : List RehearsalResult =>
      runRehearsals .plain noDatetime (fun _ => sampleRehearsal) .verificationDivergence "demo" "1001" 2 =
        .ok results ∧ (rehearsalScenarioSummary results).allProtected = true ∧
          (rehearsalScenarioSummary results).terminalStatuses = ["state_diverged", "state_diverged"] := by
  have distinct : sampleRehearsal.Distinct := ⟨by decide +kernel, by decide +kernel⟩
  have able : Rehearsable "demo" (rehearsalOrder "1001" 2 2) :=
    ⟨by decide, by decide, by decide, by decide, by decide⟩
  rcases rehearsals_protect plain_printableTexts noDatetime (fun _ => distinct) .verificationDivergence "demo"
    "1001" 2 with ⟨runs, shows, _⟩
  rcases runs.mpr ⟨by decide, able⟩ with ⟨results, returned⟩
  refine ⟨results, returned, ?_⟩
  rw [(shows results returned).2]
  exact ⟨rfl, rfl⟩

end Worker
end RealityLayer
