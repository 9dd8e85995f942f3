import RealityLayer.Worker.Progress
import RealityLayer.Worker.Polling
import RealityLayer.Actions.Provenance
import RealityLayer.Actions.Tenancy
import RealityLayer.Connectors.Onboarding
import RealityLayer.WorldState.Disputes
import RealityLayer.WorldState.History
import RealityLayer.WorldState.Reads

namespace RealityLayer
namespace Worker

open Foundation Python RealityGit WorldState WorldStateService Actions Connectors

universe u

/-!
# The rehearsal

A rehearsal drives the whole loop against a connector in memory: it takes in an open order,
proposes, approves and executes its cancellation, verifies it with one read, and assembles the
proof.  A fault can be injected: the provider refuses the write, or the source still reports
the order as open after it.  Each fault has a terminal status that it is expected to end in.

A run reads the clock and `uuid4()` many times; `RehearsalDraws` lists the readings.  The step
latencies are left out.
-/

/-! ## The local connector -/

/-- `ShopifyConnector`, with the orders that it cancelled. It is the local stand-in for the
provider, and it answers a read from that list. -/
structure ShopifyConnector where
  cancelledOrders : List Text

namespace ShopifyConnector

def fresh : ShopifyConnector := ⟨[]⟩

/-- What `cancel_order` answers. The local connector accepts every write, and draws the
identifier of the request. -/
def cancelOrder (request : Uuid) : CancelOrderExecutor := fun call => .ok {
  actionId := call.actionId
  status := .providerAccepted
  provider := "shopify"
  providerRequestId := "shopify-test-" ++ request.hex.take 12
  idempotencyKey := call.idempotencyKey }

/-- The connector after the call that an execution made, if it made one. An order that was
written reads as cancelled from then on. -/
def wrote (shopify : ShopifyConnector) (invoked : Option ProviderCall) : ShopifyConnector :=
  ⟨(invoked.map ProviderCall.orderId).toList ++ shopify.cancelledOrders⟩

/-- A report of an order. -/
def report (orderId status : Text) : Payload :=
  Dict.ofList [("id", .str orderId), ("status", .str status)]

/-- `read_order`. An order that was never written reads as open. -/
def readOrder (shopify : ShopifyConnector) (orderId : Text) : Payload :=
  report orderId (if orderId ∈ shopify.cancelledOrders then "cancelled" else "open")

end ShopifyConnector

/-! ## A run -/

inductive RehearsalFault where
  | none
  | providerError
  | verificationDivergence
deriving DecidableEq

/-- `_EXPECTED_TERMINAL`. A run is protected only when it lands exactly here. After a refused
write this is `approved`, since nothing was sent that could be verified. -/
def expectedTerminal : RehearsalFault -> ActionStatus
  | .none => .verified
  | .providerError => .approved
  | .verificationDivergence => .stateDiverged

/-- What a rehearsal raises: an exception of the services or of the models, or its own for a
run that was not prepared. -/
inductive RehearsalError where
  | service (error : PyError)
  | runtime (message : Text)
deriving DecidableEq

structure RehearsalResult where
  fault : RehearsalFault
  terminalStatus : Text
  isProtected : Bool
  proof : Option ProofBundle
deriving DecidableEq

/-- `verified`. A protected run of a fault is not verified, and is not meant to be. -/
def RehearsalResult.verified (result : RehearsalResult) : Bool :=
  decide (result.terminalStatus = ActionStatus.verified.value)

/-- What one run reads from the clocks and from `uuid4()`. Each step of the run draws for itself. -/
structure RehearsalDraws (S : Type u) where
  seededAt : Int
  seeding : Draws
  proposing : Draws
  approving : Draws
  executing : Draws
  request : Uuid
  monotonic : Nat -> S
  readAt : Int
  nonce : Uuid
  reading : Draws
  verifying : Draws

/-- The observation that seeds the order. Its identifier is the same in every run, as each
run has services of its own. -/
def seedFields (orderId : Text) (seededAt : Int) : ObservationFields where
  observationId := "obs_rehearsal_seed"
  connector := "shopify"
  objectType := "order"
  objectId := orderId
  observedAt := .utc seededAt
  payload := ShopifyConnector.report orderId "open"

/-- The proposal of its cancellation. It expects what the seed reports, and its key names the
tenant and the order. -/
def rehearsalFields (tenantId orderId : Text) (stateVersion : Int) : ProposalFields where
  actionType := .cancelOrder
  targetEntity := "order:" ++ orderId
  parameters := Dict.empty
  reason := "Deterministic local rehearsal of the MVP control loop."
  evidenceRefs := ["obs_rehearsal_seed"]
  idempotencyKey := "rehearsal-cancel:" ++ tenantId ++ ":" ++ orderId
  expectedStateVersion := stateVersion
  expectedAttributes := Dict.ofList [("status", .str "open")]

/-- `ActionProposal(...)`. -/
def proposalOf (fields : ProposalFields) : Except PyError ActionProposal :=
  if valid : fields.accepted = true then .ok ⟨fields, valid⟩ else .error (.validation "ActionProposal")

/-- What `propose` is called with beside the proposal. -/
def rehearsalContext : PolicyContext where
  role := "operations"
  workspaceMode := "demo_proposal"
  orderValue := none
  valueLimit := none
  hasConflict := false

def rehearsalApproval : ApprovalRequest where
  reason := "Approved by the local rehearsal operator."
  valid := by decide

/-- A rehearsal whose action is approved. The injected faults all come after this point. -/
structure ApprovedRehearsal where
  services : Services
  state : OrderState
  proposal : ActionProposal
  actionId : Text

section Run

variable (rt : Runtime)

/-- What precedes the write: the seed, the proposal and the approval. A proposal or an
approval with another outcome raises. -/
def approveRehearsal {S : Type u} (draws : RehearsalDraws S) (tenantId orderId : Text) :
    Except RehearsalError ApprovedRehearsal := do
  let seed <- (validated (seedFields orderId draws.seededAt)).mapError .service
  let seeded := WorldStateService.fresh.ingest rt draws.seeding tenantId seed "observation" "observed"
  let state <- seeded.result.mapError .service
  let proposal <- (proposalOf (rehearsalFields tenantId orderId state.stateVersion)).mapError .service
  let proposed := ActionService.fresh.propose rt draws.proposing proposal tenantId rehearsalContext
  let decision <- proposed.result.mapError .service
  if decision.status ≠ .approvalRequired then
    .error (.runtime ("Rehearsal proposal was not approval-required: " ++ decision.status.value))
  else
    let approved := proposed.state.approve rt draws.approving decision.actionId rehearsalApproval
      "operations" tenantId (some state)
    let answer <- approved.result.mapError .service
    if answer.status ≠ .approved then
      .error (.runtime ("Rehearsal approval failed: " ++ answer.status.value))
    else return ⟨⟨approved.state, seeded.state⟩, state, proposal, decision.actionId⟩

/-- `_failing_executor`. It raises for every call, before anything reaches the connector. -/
def failingExecutor : CancelOrderExecutor :=
  fun _ => .error "Injected provider failure: Shopify rejected the cancel_order write."

/-- A run whose write the provider refuses. Only the executor raises a `RuntimeError`. The
result has no proof. -/
def refusedWrite {S : Type u} (draws : RehearsalDraws S) (fault : RehearsalFault) (tenantId : Text)
    (approved : ApprovedRehearsal) : Except RehearsalError RehearsalResult :=
  let execution := approved.services.actions.execute rt draws.executing approved.actionId tenantId
    failingExecutor (some approved.state)
  let finish : Except RehearsalError RehearsalResult := do
    let decision <- (execution.outcome.state.getDecision approved.actionId tenantId).mapError .service
    let terminal := decision.status.value
    return {
      fault
      terminalStatus := terminal
      isProtected := decide (terminal = (expectedTerminal fault).value)
      proof := none }
  match execution.outcome.result with
  | .ok _ => finish
  | .error (.executor _) => finish
  | .error error => .error (.service error)

/-- The settings of a rehearsal's verifier. There is one attempt, so that no run waits and
every run concludes. -/
def rehearsalSettings {S : Type u} [Zero S] [One S] : VerifierSettings S where
  maxAttempts := 1
  initialIntervalSeconds := 0
  backoffFactor := 1
  maxIntervalSeconds := 0
  timeoutSeconds := 1

/-- What the worker reads: the connector's report, or an order that is still open. The second
is the fault of a divergence. -/
def rehearsalRead (fault : RehearsalFault) (shopify : ShopifyConnector) (orderId : Text) : Payload :=
  if fault = .verificationDivergence then ShopifyConnector.report orderId "open"
  else shopify.readOrder orderId

/-- The inputs of the worker's rounds. -/
def RehearsalDraws.attempt {S : Type u} (draws : RehearsalDraws S) (payload : Payload) : Attempt where
  read := .ok payload
  now := draws.readAt
  nonce := draws.nonce
  ingestDraws := draws.reading
  verifyDraws := draws.verifying
  outOfTime := false

/-- The proof of a verified action, with both chains validated. The commit in it is that of
the state held last. -/
def rehearsalProof (services : Services) (tenantId orderId actionId : Text) :
    Except PyError ProofBundle := do
  let finalState <- services.world.getEntity tenantId "order" orderId
  let commit <- services.world.getCommit tenantId finalState.commitId
  let proof <- services.actions.proof rt actionId tenantId (some commit)
  let commits <- services.world.listCommits tenantId none
  validateCommitChain rt commits
  validateEventChain rt proof.events
  return proof

/-- A run whose write the provider accepts. Without a fault, any other outcome than the
expected one raises. -/
def acceptedWrite {S : Type u} [LinearOrder S] [Zero S] [One S] [Add S] [Sub S] [Mul S]
    (fromisoformat : Text -> Except PyError Timestamp) (draws : RehearsalDraws S)
    (fault : RehearsalFault) (tenantId orderId : Text) (approved : ApprovedRehearsal) :
    Except RehearsalError RehearsalResult := do
  let execution := approved.services.actions.execute rt draws.executing approved.actionId tenantId
    (ShopifyConnector.cancelOrder draws.request) (some approved.state)
  let receipt <- execution.outcome.result.mapError .service
  if receipt.status ≠ .providerAccepted then
    .error (.runtime ("Rehearsal execution failed: " ++ receipt.status.value))
  else
    let shopify := ShopifyConnector.fresh.wrote execution.invoked
    let verification := verifyTimed rt fromisoformat rehearsalSettings draws.monotonic
      (fun _ => draws.attempt (rehearsalRead fault shopify approved.proposal.orderId))
      ⟨execution.outcome.state, approved.services.world⟩ tenantId approved.actionId
    let verified <- verification.outcome.result.mapError .service
    let proof <- (rehearsalProof rt verification.outcome.state tenantId orderId
      approved.actionId).mapError .service
    let terminal := verified.status.value
    let isProtected := decide (terminal = (expectedTerminal fault).value)
    if fault = .none ∧ isProtected = false then
      .error (.runtime ("Rehearsal verification failed: " ++ terminal))
    else return ⟨fault, terminal, isProtected, some proof⟩

/-- `run_rehearsal`. The latencies of its steps are left out. -/
def runRehearsal {S : Type u} [LinearOrder S] [Zero S] [One S] [Add S] [Sub S] [Mul S]
    (fromisoformat : Text -> Except PyError Timestamp) (draws : RehearsalDraws S)
    (fault : RehearsalFault) (tenantId orderId : Text) : Except RehearsalError RehearsalResult := do
  let approved <- approveRehearsal rt draws tenantId orderId
  if fault = .providerError then refusedWrite rt draws fault tenantId approved
  else acceptedWrite rt fromisoformat draws fault tenantId orderId approved

end Run

/-! ## Batches -/

/-- The order that a run of a batch is about. A single run keeps the name it was given. -/
def rehearsalOrder (orderId : Text) (runs : Int) (index : Nat) : Text :=
  if runs = 1 then orderId else orderId ++ "-" ++ Text.ofNat index

/-- One call for each run of a batch, in order. The first that raises ends the batch. -/
def inBatch {A : Type} (run : Nat -> Text -> Except RehearsalError A) (orderId : Text) (runs : Int) :
    Except RehearsalError (List A) :=
  if runs < 1 then .error (.service (.valueError "Rehearsal runs must be at least 1."))
  else (List.range' 1 runs.toNat).mapM (fun index => run index (rehearsalOrder orderId runs index))

section Batch

variable {S : Type u} [LinearOrder S] [Zero S] [One S] [Add S] [Sub S] [Mul S]
variable (rt : Runtime) (fromisoformat : Text -> Except PyError Timestamp)

/-- `run_rehearsals`. -/
def runRehearsals (draws : Nat -> RehearsalDraws S) (fault : RehearsalFault) (tenantId : Text) :
    Text -> Int -> Except RehearsalError (List RehearsalResult) :=
  inBatch (fun index => runRehearsal rt fromisoformat (draws index) fault tenantId)

/-- `run_local_rehearsal`. -/
def runLocalRehearsal (draws : RehearsalDraws S) (tenantId orderId : Text) :
    Except RehearsalError ProofBundle := do
  let result <- runRehearsal rt fromisoformat draws .none tenantId orderId
  match result.proof with
  | none => .error (.runtime "Rehearsal did not produce a proof bundle.")
  | some proof => .ok proof

/-- `run_local_rehearsals`. -/
def runLocalRehearsals (draws : Nat -> RehearsalDraws S) (tenantId : Text) :
    Text -> Int -> Except RehearsalError (List ProofBundle) :=
  inBatch (fun index => runLocalRehearsal rt fromisoformat (draws index) tenantId)

end Batch

/-- `rehearsal_scenario_summary`, without its latencies. They are measured times, and nothing
is decided by them. -/
structure ScenarioSummary where
  totalRuns : Nat
  protectedRuns : Nat
  unprotectedRuns : Int
  allProtected : Bool
  faults : List RehearsalFault
  terminalStatuses : List Text
deriving DecidableEq

def rehearsalScenarioSummary (results : List RehearsalResult) : ScenarioSummary :=
  let protectedRuns := results.countP RehearsalResult.isProtected
  { totalRuns := results.length
    protectedRuns
    unprotectedRuns := results.length - protectedRuns
    allProtected := !results.isEmpty && decide (protectedRuns = results.length)
    faults := results.map RehearsalResult.fault
    terminalStatuses := results.map RehearsalResult.terminalStatus }

/-- `rehearsal_summary`, without the elapsed time. It is made from the proofs of a batch, and
a run without a proof does not come into it. -/
structure RehearsalSummary where
  totalRuns : Nat
  verifiedRuns : Nat
  failedRuns : Int
  allVerified : Bool
  actionIds : List Text
  verificationCommitIds : List (Option Text)
deriving DecidableEq

def rehearsalSummary (proofs : List ProofBundle) : RehearsalSummary :=
  let verifiedRuns := proofs.countP (fun proof => decide (proof.status = .verified))
  { totalRuns := proofs.length
    verifiedRuns
    failedRuns := proofs.length - verifiedRuns
    allVerified := !proofs.isEmpty && decide (verifiedRuns = proofs.length)
    actionIds := proofs.map ProofBundle.actionId
    verificationCommitIds := proofs.map ProofBundle.verificationCommitId }

/-! ## The seed -/

namespace ShopifyConnector

theorem report_get? (orderId status name : Text) (value : Json) :
    (report orderId status).get? name = some value <->
      name = "id" ∧ value = .str orderId ∨ name = "status" ∧ value = .str status := by
  have entries : (report orderId status).entries =
      [(("id" : Text), .str orderId), ("status", .str status)] := by
    apply Dict.entries_ofList _
    change [("id" : Text), "status"].Nodup
    decide
  rw [← Dict.mem_entries_iff, entries]
  simp only [List.mem_cons, Prod.mk.injEq, List.not_mem_nil, or_false]

theorem report_id (orderId status : Text) :
    (report orderId status).get? "id" = some (.str orderId) :=
  (report_get? _ _ _ _).mpr (Or.inl ⟨rfl, rfl⟩)

theorem report_status (orderId status : Text) :
    (report orderId status).get? "status" = some (.str status) :=
  (report_get? _ _ _ _).mpr (Or.inr ⟨rfl, rfl⟩)

theorem report_absent (orderId status : Text) {name : Text}
    (absent : name ∉ (["id", "status"] : List Text)) : (report orderId status).get? name = none := by
  rw [Option.eq_none_iff_forall_ne_some]
  intro value read
  rcases (report_get? _ _ _ _).mp read with ⟨rfl, _⟩ | ⟨rfl, _⟩
  · exact absent (by decide)
  · exact absent (by decide)

theorem report_recordable (rt : Runtime) {orderId status : Text} (order : orderId.encodable = true)
    (written : status.encodable = true) {name : Text} {value : Json}
    (read : (report orderId status).get? name = some value) :
    name.encodable = true ∧ recordable rt value = true := by
  rcases (report_get? _ _ _ _).mp read with ⟨rfl, rfl⟩ | ⟨rfl, rfl⟩
  · exact ⟨Text.encodable_ofString _, (recordable_text _).trans order⟩
  · exact ⟨Text.encodable_ofString _, (recordable_text _).trans written⟩

end ShopifyConnector

/-- The identifiers that a rehearsal can be run for. An order identifier with a colon is
refused by the pattern of the proposal, and a long one by the idempotency key. -/
structure Rehearsable (tenantId orderId : Text) : Prop where
  tenant : tenantId.encodable = true
  order : orderId.encodable = true
  named : orderId ≠ ""
  plain : (58 : Nat) ∉ orderId.codes
  short : tenantId.length + orderId.length ≤ 237

/-- The order is held as the seed reported it. The services are fresh, so nothing else is
held and no reading was seen before. -/
structure Seeded (tenantId orderId : Text) (seed : Observation) (world : WorldStateService)
    (state : OrderState) : Prop where
  stored : world.states.get? (tenantId, "order", orderId) = some state
  seen : world.observations = Dict.empty.set (tenantId, seed.observationId) seed
  version : state.stateVersion = 1
  attributes : Exists fun label : Text => state.attributes = projectedReading seed label

section Seeding

variable {rt : Runtime} {tenantId orderId : Text} {seededAt : Int}

theorem seedFields_accepted_iff :
    (seedFields orderId seededAt).accepted = true <->
      orderId ≠ "" ∧ orderId.encodable = true ∧ orderId.length ≤ 255 := by
  have pattern : observationIdPattern ("obs_rehearsal_seed" : Text) = true := by decide
  have named : (Text.ofString "shopify").encodable = true ∧ (Text.ofString "shopify").length = 7 := by
    decide
  unfold ObservationFields.accepted seedFields
  dsimp only
  by_cases full : orderId = ""
  · have empty : (Text.ofString "").length = 0 := rfl
    simp [full, empty]
  · have long := length_of_full full
    simp [pattern, named, long, full]

/-- A fresh service takes the seed in when its texts are valid Unicode, and raises otherwise. -/
theorem seed_taken (plain : PlainTexts rt) (draws : Draws) {seed : Observation}
    (fields : seed.toObservationFields = seedFields orderId seededAt)
    (order : orderId.encodable = true) :
    let outcome := WorldStateService.fresh.ingest rt draws tenantId seed "observation" "observed"
    (tenantId.encodable = true ∧ Exists fun world => Exists fun state =>
      outcome = .returns world state ∧ Seeded tenantId orderId seed world state) ∨
    (tenantId.encodable = false ∧ Exists fun error : PyError => outcome.result = .error error) := by
  have type_ : seed.objectType = "order" := congrArg ObservationFields.objectType fields
  have object : seed.objectId = orderId := congrArg ObservationFields.objectId fields
  have payload : seed.payload = ShopifyConnector.report orderId "open" :=
    congrArg ObservationFields.payload fields
  have time : seed.observedAt = .utc seededAt := congrArg ObservationFields.observedAt fields
  have readable : FirstReadable rt tenantId "observation" "observed" draws seed <->
      tenantId.encodable = true := by
    rw [firstReadable_iff plain]
    constructor
    · exact fun readable => readable.2.1
    · intro owner
      refine ⟨⟨seededAt, ?_⟩, owner, Text.encodable_ofString _, ?_⟩
      · rw [time]
        exact congrArg some (sub_zero seededAt)
      · intro name value read
        rw [payload] at read
        exact ShopifyConnector.report_recordable rt order (Text.encodable_ofString _) read
  dsimp only
  rcases @ingest_first .fresh tenantId seed rt draws "observation" "observed" Linkable.fresh rfl rfl with
    ⟨taken, state, world, returned, seen, states, values⟩ | ⟨refused, error, world, raised⟩
  · have way := ingest_ingestion rt .fresh draws tenantId seed "observation" "observed"
    rw [returned, show WorldStateService.fresh.states.get? (tenantId, seed.objectType, seed.objectId) =
      none from rfl] at way
    have compiled : state.stateVersion = 1 ∧
        Exists fun label : Text => state.attributes = projectedReading seed label := by
      cases way with
      | repeated _ stored known => cases stored
      | unchanged incoming _ stored new projected same => cases stored
      | committed incoming commit new projected changes continues answers =>
          rcases project_ok projected with ⟨label, rfl⟩
          exact ⟨rfl, label, compiledAttributes_none _⟩
    refine Or.inl ⟨readable.mp taken, world, state, returned, ?_, seen, compiled.1, compiled.2⟩
    rw [states, type_, object]
    exact Dict.get?_set_self _ _ _
  · refine Or.inr ⟨?_, error, by rw [raised]; rfl⟩
    rw [← Bool.not_eq_true, ← readable]
    exact refused

/-- What the order's state holds under a name is what the seed reported. -/
theorem Seeded.value? {seed : Observation} {world : WorldStateService} {state : OrderState}
    (seeded : Seeded tenantId orderId seed world state)
    (payload : seed.payload = ShopifyConnector.report orderId "open") (name : Text) :
    state.value? name = (ShopifyConnector.report orderId "open").get? name := by
  rcases seeded.attributes with ⟨label, attributes⟩
  apply value?_of_values
  rw [stateValues, attributes, projectedReading, Dict.mapValues_mapValues, payload]
  apply Dict.ext
  exact List.map_id _

theorem rehearsalFields_accepted_iff {stateVersion : Int} (version : 1 ≤ stateVersion)
    (named : orderId ≠ "") :
    (rehearsalFields tenantId orderId stateVersion).accepted = true <->
      tenantId.encodable = true ∧ orderId.encodable = true ∧ (58 : Nat) ∉ orderId.codes ∧
        tenantId.length + orderId.length ≤ 237 := by
  have long := length_of_full named
  have target : targetEntityPattern ("order:" ++ orderId) = true <-> (58 : Nat) ∉ orderId.codes := by
    have front : (Text.ofString "order:").codes.length = 6 := rfl
    have drops : ("order:" ++ orderId).codes.drop 6 = orderId.codes := by
      rw [Text.codes_append, ← front, List.drop_left]
    have starts : Text.startsWith "order:" ("order:" ++ orderId) = true :=
      List.isPrefixOf_iff_prefix.mpr (List.prefix_append _ _)
    have size : 6 < ("order:" ++ orderId).length := by
      rw [Text.length_append, show (Text.ofString "order:").length = 6 from rfl]
      omega
    unfold targetEntityPattern
    rw [drops, starts, Bool.true_and, Bool.and_eq_true, decide_eq_true_eq, List.all_eq_true]
    simp only [size, true_and, decide_eq_true_eq]
    exact ⟨fun all member => all 58 member rfl, fun absent code member same => absent (same ▸ member)⟩
  have key : ("rehearsal-cancel:" ++ tenantId ++ ":" ++ orderId : Text).length =
      18 + (tenantId.length + orderId.length) := by
    rw [Text.length_append, Text.length_append, Text.length_append,
      show (Text.ofString "rehearsal-cancel:").length = 17 from rfl,
      show (Text.ofString ":").length = 1 from rfl]
    omega
  have reason : (Text.ofString "Deterministic local rehearsal of the MVP control loop.").length = 54 := rfl
  have clean : containsSensitiveKey (.dict (Dict.empty : Dict Text Json).entries) = false := rfl
  unfold ProposalFields.accepted rehearsalFields
  simp only [Bool.and_eq_true, Text.encodable_append, Text.encodable_ofString, Bool.true_and,
    Bool.and_true, decide_eq_true_eq, target, key, clean, Bool.not_false, reason, List.length_singleton,
    version, and_true]
  constructor
  · rintro ⟨⟨⟨⟨order, plain⟩, _⟩, _⟩, ⟨⟨tenant, _⟩, _⟩, short⟩
    exact ⟨tenant, order, plain, by omega⟩
  · rintro ⟨tenant, order, plain, short⟩
    exact ⟨⟨⟨⟨order, plain⟩, by omega⟩, by omega⟩, ⟨⟨tenant, order⟩, by omega⟩, by omega⟩

/-- The seeded order meets what the proposal expects, and can be cancelled. -/
theorem Seeded.agrees {seed : Observation} {world : WorldStateService} {state : OrderState}
    (seeded : Seeded tenantId orderId seed world state)
    (payload : seed.payload = ShopifyConnector.report orderId "open") {proposal : ActionProposal}
    (fields : proposal.toProposalFields = rehearsalFields tenantId orderId state.stateVersion) :
    ActionService.checkPreconditions proposal (some state) = none ∧
      ActionService.ineligibleReason (some state) = none := by
  have status : state.value? "status" = some (.str "open") :=
    (seeded.value? payload "status").trans (ShopifyConnector.report_status _ _)
  have fulfillment : state.value? "fulfillment_status" = none :=
    (seeded.value? payload _).trans (ShopifyConnector.report_absent _ _ (by decide))
  constructor
  · have version : proposal.expectedStateVersion = state.stateVersion :=
      congrArg ProposalFields.expectedStateVersion fields
    have expected : proposal.expectedAttributes.entries = [(("status" : Text), .str "open")] := by
      rw [congrArg ProposalFields.expectedAttributes fields]
      rfl
    rcases Option.map_eq_some_iff.mp status with ⟨attr, held, value⟩
    unfold ActionService.checkPreconditions
    dsimp only
    rw [if_neg (not_not_intro version.symm), expected, ActionService.failedExpectation, held]
    dsimp only
    rw [value, if_pos (by decide)]
    rfl
  · apply (ineligibleReason_none_iff _).mpr
    refine ⟨state, rfl, ?_, ?_⟩
    · intro text held
      rw [ActionService.heldText?, status] at held
      cases held
      decide
    · intro text held
      rw [ActionService.heldText?, fulfillment] at held
      cases held

end Seeding

/-! ## Identifiers in use -/

section Drawn

variable {rt : Runtime}

theorem eventId_drawn {history : List (Step ActionService Call)} {service : ActionService}
    (run : (actionSystem rt).Run history service) {eventId : Text}
    (used : eventId ∈ service.eventIds) : eventId ∈ history.map (fun step => step.label.eventId) := by
  refine run.drawn (fun service eventId => eventId ∈ service.eventIds) Call.eventId ?_ ?_ used
  · rintro _ eventId rfl member
    cases member
  · intro service call eventId _ member
    rcases perform_effect rt service call with ⟨entry, effect⟩
    rcases ActionService.mem_eventIds_iff.mp member with ⟨event, ⟨actionId, held⟩, rfl⟩
    rcases (effect.grows.mem_iff actionId event).mp held with earlier | ⟨rfl, _⟩
    · exact Or.inl (ActionService.mem_eventIds_iff.mpr ⟨event, ⟨actionId, earlier⟩, rfl⟩)
    · exact Or.inr effect.entry_genuine.2.1

theorem commitId_drawn {history : List (Step WorldStateService WorldCall)} {world : WorldStateService}
    (run : (worldSystem rt).Run history world) {commitId : Text}
    (used : commitId ∈ world.commits.keys.map Prod.snd) :
    commitId ∈ history.map (fun step => step.label.commitId) := by
  refine run.drawn (fun world commitId => commitId ∈ world.commits.keys.map Prod.snd)
    WorldCall.commitId ?_ ?_ used
  · rintro _ commitId rfl member
    cases member
  · intro world call commitId _ member
    rcases perform_commits rt world call with ⟨entry, effect⟩
    change commitId ∈ (world.perform rt call).commits.keys.map Prod.snd at member
    cases effect with
    | quiet _ commits head =>
        rw [commits] at member
        exact Or.inl member
    | committed commit _ continues named commits head =>
        rw [commits] at member
        rcases List.mem_map.mp member with ⟨key, bound, rfl⟩
        rcases (Dict.mem_keys_setEntries _ _ _ _).mp bound with rfl | before
        · exact Or.inr named
        · exact Or.inl (List.mem_map_of_mem before)

end Drawn

/-- A fresh action service that was called so, each call answered. -/
def Called (rt : Runtime) (calls : List Call) (service : ActionService) : Prop :=
  Exists fun history => (hashedActionSystem rt).Run history service ∧ history.map Step.label = calls

section Calling

variable {rt : Runtime} {calls : List Call} {service : ActionService}

theorem Called.begin (rt : Runtime) : Called rt [] .fresh := ⟨[], .begin rfl, rfl⟩

/-- A call that draws new identifiers and is answered continues the calls. -/
theorem Called.answered (called : Called rt calls service) {call : Call} {answer : Answer}
    (answers : (service.perform rt call).result = .ok answer)
    (new : call.eventId ∉ calls.map Call.eventId)
    (created : forall actionId, call.createdId? = some actionId -> service.actions.get? actionId = none) :
    Called rt (calls ++ [call]) (service.perform rt call).state := by
  rcases called with ⟨history, run, rfl⟩
  have fresh : service.DrawsFresh call := by
    refine ⟨fun used => new ?_, created⟩
    rw [List.map_map]
    exact eventId_drawn run.ofRestrict used
  have hashed : service.Hashed rt call := by
    intro cause raised
    cases answers.symm.trans raised
  exact ⟨_, .extend call run ⟨fresh, hashed⟩, List.map_append⟩

end Calling

/-! ## Up to the approval -/

section Approving

variable {S : Type u}

/-- The event identifiers and the commit identifiers that a run draws are different. The
action has an identifier of its own and shares no map with them. -/
structure RehearsalDraws.Distinct (draws : RehearsalDraws S) : Prop where
  events : [ActionService.newEventId draws.proposing 1, ActionService.newEventId draws.approving 0,
    ActionService.newEventId draws.executing 0, ActionService.newEventId draws.verifying 0].Nodup
  commits : newCommitId draws.seeding ≠ newCommitId draws.reading

/-- The calls of a run up to the approval. -/
def ApprovedRehearsal.calls (approved : ApprovedRehearsal) (draws : RehearsalDraws S)
    (tenantId : Text) : List Call := [
  .propose draws.proposing approved.proposal tenantId rehearsalContext,
  .approve draws.approving approved.actionId rehearsalApproval "operations" tenantId
    (some approved.state)]

/-- The order is seeded and its cancellation is approved. From here on a run depends on the
fault and on what is drawn for its remaining steps. -/
structure ApprovedRehearsal.Ready (rt : Runtime) (draws : RehearsalDraws S) (tenantId orderId : Text)
    (approved : ApprovedRehearsal) : Prop where
  seeded : Exists fun seed : Observation => seed.toObservationFields = seedFields orderId draws.seededAt ∧
    Seeded tenantId orderId seed approved.services.world approved.state ∧
    WorldStateService.fresh.ingest rt draws.seeding tenantId seed "observation" "observed" =
      .returns approved.services.world approved.state
  called : Called rt (approved.calls draws tenantId) approved.services.actions
  proposal : approved.proposal.toProposalFields = rehearsalFields tenantId orderId 1
  stands : Exists fun action : StoredAction =>
    Stands approved.services.actions approved.actionId action none ∧
      action.decision.status = .approved ∧ action.tenantId = tenantId ∧
      action.proposal = approved.proposal

theorem rehearsalContext_permits : rehearsalContext.Permits := ⟨rfl, by decide, rfl, rfl⟩

/-- The proposal of a rehearsal has no parameters, and expects one text. -/
theorem dumps_rehearsal (rt : Runtime) {proposal : ActionProposal} {tenantId orderId : Text}
    {version : Int} (fields : proposal.toProposalFields = rehearsalFields tenantId orderId version) :
    proposal.dumps rt = true := by
  have expected : (Dict.ofList [(("status" : Text), Json.str "open")]).values = [.str "open"] := rfl
  unfold ActionProposal.dumps
  rw [fields]
  unfold rehearsalFields
  rw [expected, List.all_cons, rt.dumps_scalar _ rfl]
  rfl

/-- The proposal of a rehearsal can be hashed. -/
theorem hashable_rehearsal {rt : Runtime} {proposal : ActionProposal} {tenantId orderId : Text}
    {version : Int} (fields : proposal.toProposalFields = rehearsalFields tenantId orderId version)
    (tenant : tenantId.encodable = true) (order : orderId.encodable = true) :
    hashable rt (.dict proposal.dump) = true := by
  have whole : proposal.unaltered = true := by
    unfold ActionProposal.unaltered
    rw [fields]
    rfl
  unfold ActionProposal.dump ActionProposal.contents hashable
  rw [proposal.jsonMode_of_unaltered whole, fields]
  have parameters : (Dict.empty : Dict Text Json).entries = [] := rfl
  have expected : (Dict.ofList [(("status" : Text), Json.str "open")]).entries =
      [(("status" : Text), .str "open")] := rfl
  simp only [rehearsalFields, parameters, expected, Json.finite,
    Json.finiteEntries, Json.finiteList, encodableJson, encodableEntries, encodableItems, List.map_cons,
    List.map_nil, Text.encodable_append, Text.encodable_ofString, tenant, order, Bool.and_self]
  rfl

/-- The proposal and the approval of a seeded order go through. -/
theorem approved_of_seeded {rt : Runtime} (printable : PrintableTexts rt) {draws : RehearsalDraws S}
    (distinct : draws.Distinct) {tenantId orderId : Text} (tenant : tenantId.encodable = true)
    (order : orderId.encodable = true) {seed : Observation}
    (seeds : seed.toObservationFields = seedFields orderId draws.seededAt)
    {world : WorldStateService} {state : OrderState}
    (seeded : Seeded tenantId orderId seed world state) {proposal : ActionProposal}
    (fields : proposal.toProposalFields = rehearsalFields tenantId orderId state.stateVersion) :
    let actionId := ActionService.newActionId draws.proposing
    let proposed := ActionService.fresh.propose rt draws.proposing proposal tenantId rehearsalContext
    let approved := proposed.state.approve rt draws.approving actionId rehearsalApproval "operations"
      tenantId (some state)
    proposed.result = .ok (awaitedDecision actionId) ∧
      Exists fun action : StoredAction => approved.result = .ok action.decision ∧
        action.decision.status = .approved ∧ action.tenantId = tenantId ∧ action.proposal = proposal ∧
        Stands approved.state actionId action none ∧
        Called rt [.propose draws.proposing proposal tenantId rehearsalContext,
          .approve draws.approving actionId rehearsalApproval "operations" tenantId (some state)]
          approved.state := by
  have agrees := seeded.agrees (congrArg ObservationFields.payload seeds) fields
  have cancels : proposal.actionType = .cancelOrder := congrArg ProposalFields.actionType fields
  have run : (actionSystem rt).Run [] .fresh := .begin rfl
  dsimp only
  rcases @propose_progress rt _ draws.proposing tenantId proposal rehearsalContext
    (.of_run printable.digests run) (.of_run run) rfl cancels rehearsalContext_permits tenant
    (dumps_rehearsal rt fields) (hashable_rehearsal fields tenant order) with ⟨proposed, opened⟩
  have decided : (createdAction rt draws.proposing proposal tenantId rehearsalContext).decision =
      awaitedDecision (ActionService.newActionId draws.proposing) :=
    @evaluatePolicy_permitted rt _ proposal rehearsalContext cancels rehearsalContext_permits
  have answers : (ActionService.fresh.perform rt
      (.propose draws.proposing proposal tenantId rehearsalContext)).result = _ :=
    congrArg (Except.map Answer.decision) proposed
  have called := (Called.begin rt).answered answers List.not_mem_nil (fun _ _ => rfl)
  rcases called with ⟨_, openedRun, labels⟩
  rcases approve_progress draws.approving rehearsalApproval (.of_run printable.digests openedRun.ofRestrict)
    opened (congrArg ActionDecision.status decided) (congrArg ActionDecision.requiredRole decided)
    agrees.1 tenant with ⟨approved, allowed⟩
  refine ⟨proposed, _, approved, rfl, rfl, rfl, allowed, ?_⟩
  have answers' : ((ActionService.fresh.perform rt
      (.propose draws.proposing proposal tenantId rehearsalContext)).state.perform rt
        (.approve draws.approving (ActionService.newActionId draws.proposing) rehearsalApproval
          "operations" tenantId (some state))).result = _ :=
    congrArg (Except.map Answer.decision) approved
  refine Called.answered ⟨_, openedRun, labels⟩ answers' ?_ ?_
  · have events := distinct.events
    simp only [List.nodup_cons, List.mem_cons, not_or] at events
    exact fun member => events.1.1 (List.mem_singleton.mp member).symm
  · intro actionId created
    cases created

/-- A rehearsal whose steps are answered as they should be gets to its approval. -/
theorem approveRehearsal_ok {rt : Runtime} {draws : RehearsalDraws S} {tenantId orderId : Text}
    {seed : Observation} {seeded : Outcome PyError WorldStateService OrderState} {state : OrderState}
    {proposal : ActionProposal} {proposed approved : Outcome PyError ActionService ActionDecision}
    {decision answer : ActionDecision}
    (seeds : validated (seedFields orderId draws.seededAt) = .ok seed)
    (taken : WorldStateService.fresh.ingest rt draws.seeding tenantId seed "observation" "observed" = seeded)
    (held : seeded.result = .ok state)
    (proposes : proposalOf (rehearsalFields tenantId orderId state.stateVersion) = .ok proposal)
    (opened : ActionService.fresh.propose rt draws.proposing proposal tenantId rehearsalContext = proposed)
    (decided : proposed.result = .ok decision) (waits : decision.status = .approvalRequired)
    (allowed : proposed.state.approve rt draws.approving decision.actionId rehearsalApproval "operations"
      tenantId (some state) = approved)
    (answered : approved.result = .ok answer) (status : answer.status = .approved) :
    approveRehearsal rt draws tenantId orderId =
      .ok ⟨⟨approved.state, seeded.state⟩, state, proposal, decision.actionId⟩ := by
  unfold approveRehearsal
  dsimp only [Except.mapError, bind, Except.bind]
  rw [seeds]
  dsimp only
  rw [taken, held]
  dsimp only
  rw [proposes]
  dsimp only
  rw [opened, decided]
  dsimp only
  rw [if_neg (not_not_intro waits), allowed, answered]
  dsimp only
  rw [if_neg (not_not_intro status)]
  rfl

/-- A rehearsal gets to its approval exactly for the identifiers that it can be run for. For
all others one of its steps raises. -/
theorem approveRehearsal_cases {rt : Runtime} (printable : PrintableTexts rt) {draws : RehearsalDraws S}
    (distinct : draws.Distinct) (tenantId orderId : Text) :
    (Rehearsable tenantId orderId ∧ Exists fun approved : ApprovedRehearsal =>
      approveRehearsal rt draws tenantId orderId = .ok approved ∧
        approved.Ready rt draws tenantId orderId) ∨
    (¬ Rehearsable tenantId orderId ∧ Exists fun error : RehearsalError =>
      approveRehearsal rt draws tenantId orderId = .error error) := by
  by_cases accepted : (seedFields orderId draws.seededAt).accepted = true
  · have seeds : validated (seedFields orderId draws.seededAt) = .ok ⟨_, accepted⟩ := dif_pos accepted
    rcases seedFields_accepted_iff.mp accepted with ⟨named, order, _⟩
    rcases @seed_taken rt tenantId orderId draws.seededAt printable.toPlainTexts draws.seeding
      ⟨_, accepted⟩ rfl order with ⟨tenant, world, state, taken, seeded⟩ | ⟨refused, error, raised⟩
    · have version : 1 ≤ state.stateVersion := le_of_eq seeded.version.symm
      have limits := @rehearsalFields_accepted_iff tenantId orderId _ version named
      by_cases proposes : (rehearsalFields tenantId orderId state.stateVersion).accepted = true
      · have made : proposalOf (rehearsalFields tenantId orderId state.stateVersion) =
            .ok ⟨_, proposes⟩ := dif_pos proposes
        rcases limits.mp proposes with ⟨_, _, plain, short⟩
        rcases @approved_of_seeded _ rt printable draws distinct tenantId orderId tenant order
          ⟨_, accepted⟩ rfl world state seeded ⟨_, proposes⟩ rfl with
            ⟨proposed, action, approved, status, owner, same, stands, called⟩
        refine Or.inl ⟨⟨tenant, order, named, plain, short⟩, _,
          approveRehearsal_ok seeds taken rfl made rfl proposed rfl rfl approved status, ?_⟩
        exact {
          seeded := ⟨⟨_, accepted⟩, rfl, seeded, taken⟩
          called
          proposal := congrArg (rehearsalFields tenantId orderId) seeded.version
          stands := ⟨action, stands, status, owner, same⟩ }
      · have made : proposalOf (rehearsalFields tenantId orderId state.stateVersion) =
            .error (.validation "ActionProposal") := dif_neg proposes
        refine Or.inr ⟨fun able => ?_, .service (.validation "ActionProposal"), ?_⟩
        · exact proposes (limits.mpr ⟨able.tenant, able.order, able.plain, able.short⟩)
        · unfold approveRehearsal
          dsimp only [Except.mapError, bind, Except.bind]
          rw [seeds]
          dsimp only
          rw [taken]
          dsimp only [Outcome.returns]
          rw [made]
    · refine Or.inr ⟨fun able => ?_, .service error, ?_⟩
      · exact absurd (refused.symm.trans able.tenant) Bool.false_ne_true
      · unfold approveRehearsal
        dsimp only [Except.mapError, bind, Except.bind]
        rw [seeds]
        dsimp only
        rw [raised]
  · have seeds : validated (seedFields orderId draws.seededAt) = .error (.validation "Observation") :=
      dif_neg accepted
    refine Or.inr ⟨fun able => accepted ?_, .service (.validation "Observation"), ?_⟩
    · have short := able.short
      exact seedFields_accepted_iff.mpr ⟨able.named, able.order, by omega⟩
    · unfold approveRehearsal
      rw [seeds]
      rfl

end Approving

end Worker
end RealityLayer
