import RealityLayer.Api.Sizes
import RealityLayer.Connectors.Onboarding

namespace RealityLayer
namespace Api

open Foundation Python RealityGit WorldState WorldStateService Connectors

/-!
# Observations and the columns that store them

The model of an observation bounds the connector and the object's identifier, and the
columns take what it accepts.  Two strings are longer than the fields they are made from.
The projection's identifier puts the type and a colon before the object's identifier, in a
column of the same length; and the verifier worker appends twenty characters to the
observation's identifier, for which the model has no bound at all.

An observation can be stored by both paths exactly when these two strings are short enough.
All other strings fit in every reachable state, whatever was served before.
-/

/-! ## Transactions -/

/-- A turn, whose writes the database keeps or drops.  What the request did to the services
stays either way. -/
structure Transaction (W : Type) where
  turn : Turn W
  committed : Bool

namespace Transaction

variable {W : Type}

/-- The strings that reach `ingest` fit their own columns, and other requests only read. The
observation's own strings are limited by its model, and the tenant by nothing. -/
structure Admitted (host : Host) (cluster : Cluster W) (transaction : Transaction W) : Prop where
  named : forall call, transaction.turn.request = .ingest call ->
    call.Named host (cluster.site transaction.turn.worker)
  reads : forall after, transaction.turn.request = .other after ->
    Reads host (cluster.site transaction.turn.worker) after

def next [DecidableEq W] (host : Host) (cluster : Cluster W) (transaction : Transaction W) : Cluster W :=
  let after := cluster.next host transaction.turn
  if transaction.committed then after else { after with database := cluster.database }

end Transaction

/-- Fresh processes in front of empty tables. -/
def transactionSystem (W : Type) [DecidableEq W] (host : Host) :
    System (Cluster W) (Transaction W) where
  start := fun cluster => (forall worker, cluster.processes worker = .fresh) ∧
    cluster.database.tables = .empty
  admits := fun cluster transaction => transaction.Admitted host cluster
  next := fun cluster transaction => transaction.next host cluster

/-! ## What is written for an observation -/

/-- The payload was stored under a hash of `hash_json`. This is what bounds the length of the
column for it. -/
def StoredUnderHash (rt : Runtime) (stored : Storage.StoredObject) : Prop :=
  Exists fun document : Json => hashJson rt document = .ok stored.payloadHash

theorem storedUnderHash_put {rt : Runtime} {store : Storage.LocalObjectStore}
    {request : Storage.PutRequest} {stored : Storage.StoredObject}
    (put : (store.putRawPayload rt request).result = .ok stored) : StoredUnderHash rt stored :=
  ⟨request.document, (Storage.putRawPayload_puts put).hashed⟩

/-- Whatever was served before, all rows that the two paths write for the observation fit.
Both paths derive longer identifiers from the observation's own, which is where the room runs
out. -/
structure Storable (W : Type) [DecidableEq W] (host : Host) (observation : Observation) : Prop where
  observe : forall history cluster, (transactionSystem W host).Run history cluster ->
    forall worker draws tenantId stored nonce, tenantId.length ≤ 255 -> StoredUnderHash host.rt stored ->
    forall written, written ∈ observeWrites host.rt (cluster.site worker).store draws tenantId
      ⟨observation, stored⟩ nonce -> written.Fits host.rt
  compile : forall history cluster, (transactionSystem W host).Run history cluster ->
    forall worker draws tenantId stored nonce, tenantId.length ≤ 255 -> StoredUnderHash host.rt stored ->
    forall stores suffix written, written ∈ compileWrites host.rt stores (cluster.site worker).store draws
      tenantId ⟨Worker.renamed observation suffix, stored⟩ nonce -> written.Fits host.rt

/-- The worker's identifier and the identifier of the projection are short enough. The model
of an observation bounds their parts, but neither of them as a whole. -/
def ShortNames (observation : Observation) : Prop :=
  observation.observationId.length ≤ 44 ∧
    observation.objectType.length + 1 + observation.objectId.length ≤ 255

instance (observation : Observation) : Decidable (ShortNames observation) :=
  inferInstanceAs (Decidable (_ ∧ _))

/-! ## Every reachable state -/

section Runs

variable {W : Type} [DecidableEq W] {host : Host} {cluster : Cluster W}

theorem sites_next (digests : DigestsSized host.rt) {transaction : Transaction W}
    (sized : forall worker, SiteSized (cluster.site worker)) (admitted : transaction.Admitted host cluster)
    (worker : W) : SiteSized ((transaction.next host cluster).site worker) := by
  have after := (sized transaction.turn.worker).after digests transaction.turn.request admitted.named
    admitted.reads
  have world : sizes.MetBy ((cluster.next host transaction.turn).processes worker).world := by
    unfold Cluster.next
    dsimp only
    by_cases same : worker = transaction.turn.worker
    · rw [same, Function.update_self]
      exact after.world
    · rw [Function.update_of_ne same]
      exact (sized worker).world
  unfold Transaction.next
  dsimp only
  split
  · exact ⟨world, after.tables⟩
  · exact ⟨world, (sized worker).tables⟩

theorem sites_sized (digests : DigestsSized host.rt) {history : List (Step (Cluster W) (Transaction W))}
    (run : (transactionSystem W host).Run history cluster) (worker : W) :
    SiteSized (cluster.site worker) := by
  have all : forall worker, SiteSized (cluster.site worker) := by
    refine run.invariant ?_ (fun _ transaction sized admitted => sites_next digests sized admitted)
    rintro cluster ⟨fresh, empty⟩ worker
    refine ⟨?_, ?_⟩
    · change sizes.MetBy (cluster.processes worker).world
      rw [fresh worker]
      exact .fresh sizes
    · change TablesSized cluster.database.tables
      rw [empty]
      exact .empty
  exact all worker

/-- The worker appends twenty characters. -/
theorem verificationId_length (observationId : Text) (nonce : Uuid) :
    (Worker.verificationId observationId nonce).length = observationId.length + 20 := by
  have digits : (nonce.hex.take 12).length = 12 := by
    have size : nonce.hex.codes.length = 32 := nonce.size
    unfold Text.length Text.take
    rw [List.length_take, size]
    rfl
  have word : (Text.ofString "_verify_").length = 8 := by decide
  unfold Worker.verificationId
  rw [Text.length_append, Text.length_append, digits, word]

/-- The rows of a bounded call fit when the identifier of the entity is short enough. -/
theorem writes_fit {rt : Runtime} (digests : DigestsSized rt) {ingesting : Ingesting}
    (bounded : ingesting.Bounded) (met : sizes.MetBy ingesting.base)
    (short : ingesting.observation.objectType.length + 1 + ingesting.observation.objectId.length ≤ 255)
    (logged : Tables) (persists : OrderState -> Bool) (conflicts : Bool) (written : Written)
    (member : written ∈ ingesting.writes rt logged persists conflicts) : written.Fits rt := by
  have sized := ingesting.writes_sized digests bounded met logged persists conflicts written member
  cases written with
  | observation row => exact sized.elim
  | commit record => exact CommitSized.fits sized
  | projection state => exact (StateSized.fits_iff sized).mpr short
  | conflict record => exact ConflictSized.fits sized

theorem logWrites_fit {rt : Runtime} (digests : DigestsSized rt) {tables : Tables} {tenantId : Text}
    {observed : Db.ObservedPayload} {nonce : Uuid} (tenant : tenantId.length ≤ 255)
    (hashed : StoredUnderHash rt observed.rawPayload)
    (short : observed.observation.observationId.length ≤ 64) (written : Written)
    (member : written ∈ logWrites tables (Db.observationRow tenantId observed nonce)) :
    written.Fits rt := by
  rcases hashed with ⟨document, hashed⟩
  unfold logWrites at member
  split at member
  · rw [List.mem_singleton.mp member]
    exact (observationRow_fits_iff tenant (hashJson_sized digests hashed)).mpr short
  · cases member

/-- With short names, everything that the two paths write fits. All other strings are bounded
by the model or drawn by the code. -/
theorem storable_of_short (digests : DigestsSized host.rt) {observation : Observation}
    (names : forall name, name ∈ observation.payload.keys -> name.length ≤ 255)
    (short : ShortNames observation) : Storable W host observation where
  observe := by
    intro history cluster run worker draws tenantId stored nonce tenant hashed written member
    have sized := sites_sized digests run worker
    rcases List.mem_append.mp member with logged | compiled
    · exact logWrites_fit digests tenant hashed (Nat.le_trans short.1 (by decide)) written logged
    · cases prepared : observeIngesting host.rt (cluster.site worker).store draws tenantId observation with
      | none =>
          rw [prepared] at compiled
          cases compiled
      | some ingesting =>
          rw [prepared] at compiled
          rcases observeIngesting_some prepared with ⟨existing, conflicts, _, _, made⟩
          have call : (IngestCall.observe draws tenantId observation).Named host (cluster.site worker) := by
            intro other prepared'
            rcases observeIngesting_some prepared' with ⟨_, _, _, _, rfl⟩
            exact ⟨tenant, names⟩
          rcases sized.prepared call prepared with ⟨bounded, met⟩
          refine writes_fit digests bounded met ?_ _ _ _ written compiled
          rw [made]
          exact short.2
  compile := by
    intro history cluster run worker draws tenantId stored nonce tenant hashed stores suffix written member
    have sized := sites_sized digests run worker
    unfold compileWrites at member
    cases loaded : (cluster.site worker).store.tables.loadState host.rt tenantId
        (entityIdOf (Worker.renamed observation suffix)) with
    | error error =>
        rw [loaded] at member
        cases member
    | ok existing =>
        rw [loaded] at member
        rcases List.mem_append.mp member with logged | compiled
        · split at logged
          · refine logWrites_fit digests tenant hashed ?_ written logged
            exact Nat.le_trans (Nat.le_of_eq (verificationId_length _ suffix)) (Nat.add_le_add_right short.1 20)
          · cases logged
        · have words : (Text.ofString "verification").length ≤ 64 ∧
              (Text.ofString "verified").length ≤ 64 := by
            decide
          refine writes_fit digests ⟨tenant, names, words.1, words.2⟩ ?_ short.2 _ _ _ written compiled
          exact sized.tables.hydrateFrom sized.world loaded

end Runs

/-! ## Observations that do not fit -/

/-- The same object under the same identifier, with nothing reported. Its rows have the same
columns but for the attributes. -/
def blank (observation : Observation) : Observation where
  toObservationFields := { observation.toObservationFields with
    observedAt := .utc 0
    payload := Dict.empty }
  valid := observation.valid

/-- Fresh processes in front of an empty database. -/
def emptyCluster (W : Type) : Cluster W where
  processes := fun _ => .fresh
  database := ⟨.empty, [], [], []⟩

/-- A hash under which some payload is stored. -/
theorem storedUnderHash_exists (rt : Runtime) :
    Exists fun stored : Storage.StoredObject => StoredUnderHash rt stored := by
  rcases hashJson_ok_of_hashable (rfl : hashable rt .null = true) with ⟨hash, hashed⟩
  exact ⟨⟨"", hash, 0⟩, .null, hashed⟩

/-- In front of empty tables the call is made on the service as it is. -/
theorem observeIngesting_empty (rt : Runtime) (service : WorldStateService) (draws : Draws)
    (tenantId : Text) (observation : Observation) :
    observeIngesting rt ⟨service, .empty⟩ draws tenantId observation =
      some ⟨service, draws, tenantId, observation, "observation", "observed"⟩ := rfl

/-- What a fresh service holds after its first observation. -/
theorem ingested_fresh {rt : Runtime} {draws : Draws} {tenantId cause assuranceLevel : Text}
    {observation : Observation} {service : WorldStateService} {state : OrderState}
    (returned : WorldStateService.fresh.ingest rt draws tenantId observation cause assuranceLevel =
      .returns service state) :
    service.observations.contains (tenantId, observation.observationId) = true ∧
      service.states.get? (tenantId, observation.objectType, observation.objectId) = some state ∧
      state.entityId = entityIdOf observation ∧
      Exists fun commit : CommitRecord => service.commits.get? (tenantId, state.commitId) = some commit := by
  have way := ingest_ingestion rt .fresh draws tenantId observation cause assuranceLevel
  rw [returned] at way
  change Ingestion rt .fresh draws tenantId observation cause assuranceLevel none _ at way
  have merged := merged_same .fresh draws tenantId observation none
  generalize found : Outcome.returns service state = outcome at way
  cases way with
  | repeated other stored known => cases stored
  | stateless absent known => cases found
  | unprojected error new failed => cases found
  | unchanged incoming other stored new projected same dumped => cases stored
  | undumped incoming new projected undumpable => cases found
  | refused incoming error new projected changes failed dumped => cases found
  | committed incoming commit new projected changes continues answers dumped =>
      cases found
      refine ⟨?_, Dict.get?_set_self _ _ _, rfl, commit, ?_⟩
      · have seen := (merged incoming).observations
        change (WorldStateService.fresh.merged draws tenantId observation none
          incoming).observations.contains _ = true
        rw [seen]
        exact congrArg Option.isSome (Dict.get?_set_self _ _ observation)
      · change (Dict.set _ (commit.tenantId, commit.commitId) commit).get? (tenantId, commit.commitId) = _
        rw [answers.tenantId]
        exact Dict.get?_set_self _ _ _

section Long

variable {W : Type} [DecidableEq W] {host : Host} {observation : Observation}

theorem Storable.observationId (storable : Storable W host observation) (worker : W) :
    observation.observationId.length ≤ 44 := by
  rcases storedUnderHash_exists host.rt with ⟨stored, hashed⟩
  have fits := storable.compile [] (emptyCluster W) (.begin ⟨fun _ => rfl, rfl⟩) worker (.numbered 0) "demo"
    stored (Uuid.numbered 0) (by decide) hashed true (Uuid.numbered 0)
    (.observation (Db.observationRow "demo" ⟨Worker.renamed observation (Uuid.numbered 0), stored⟩
      (Uuid.numbered 0))) List.mem_cons_self
  have short := (Db.Cell.fits_iff "observation_id" 64 _).mp
    (fits ⟨"observation_id", some 64, (Worker.renamed observation (Uuid.numbered 0)).observationId⟩
      (List.mem_cons_of_mem _ List.mem_cons_self))
  have longer := verificationId_length observation.observationId (Uuid.numbered 0)
  change (Worker.verificationId observation.observationId (Uuid.numbered 0)).length ≤ 64 at short
  omega

/-- The process keeps what the request did to it when the writes are dropped. -/
theorem dropped_store (host : Host) (cluster : Cluster W) (worker : W) (request : Request) :
    ((Transaction.next host cluster ⟨⟨worker, request⟩, false⟩).site worker).store =
      ⟨(request.after host (cluster.site worker)).process.world, cluster.database.tables⟩ := by
  unfold Transaction.next Cluster.next Cluster.site Site.store
  dsimp only
  rw [if_neg Bool.false_ne_true]
  dsimp only
  rw [Function.update_self]

/-- A process has ingested the observation's object, and the database dropped the writes. -/
theorem dropped_run (host : Host) (observation : Observation) (worker : W) (draws : Draws) :
    Exists fun history => Exists fun cluster : Cluster W =>
      (transactionSystem W host).Run history cluster ∧
        (cluster.site worker).store =
          ⟨(WorldStateService.fresh.ingest host.rt draws "demo" (blank observation) "observation"
            "observed").state, .empty⟩ := by
  have prepared := observeIngesting_empty host.rt .fresh draws "demo" (blank observation)
  have way := ingestObservation_observing host.rt ⟨.fresh, .empty⟩ draws "demo" (blank observation)
  rw [prepared] at way
  have admitted : Transaction.Admitted host (emptyCluster W)
      ⟨⟨worker, .ingest (.observe draws "demo" (blank observation))⟩, false⟩ := by
    refine ⟨fun call same => ?_, fun after same => by cases same⟩
    cases same
    intro ingesting made
    cases prepared.symm.trans made
    have tenant : (Text.ofString "demo").length ≤ 255 := by decide
    exact ⟨tenant, nofun⟩
  refine ⟨_, _, .extend _ (.begin ⟨fun _ => rfl, rfl⟩) admitted, (dropped_store host _ worker _).trans ?_⟩
  have service : (Request.after host ((emptyCluster W).site worker)
      (.ingest (.observe draws "demo" (blank observation)))).process.world =
        (ingestObservation host.rt ⟨.fresh, .empty⟩ draws "demo" (blank observation)).state.service := by
    have store : ((emptyCluster W).site worker).store = ⟨.fresh, .empty⟩ := rfl
    dsimp only [Request.after, IngestCall.perform, Site.withStore]
    rw [store]
  rw [service]
  generalize ingestObservation host.rt ⟨.fresh, .empty⟩ draws "demo" (blank observation) = outcome at way ⊢
  cases way with
  | ingested existing conflicts ingesting loaded listed made =>
      rw [(settle_frame _ _ _ _ _).1]
      rfl

theorem Storable.entityId (plain : PlainTexts host.rt) (storable : Storable W host observation)
    (worker : W) : observation.objectType.length + 1 + observation.objectId.length ≤ 255 := by
  have readable : FirstReadable host.rt "demo" "observation" "observed" (.numbered 0) (blank observation) :=
    (firstReadable_iff plain).mpr
      ⟨⟨0, rfl⟩, Text.encodable_ofString _, Text.encodable_ofString _, nofun⟩
  rcases ingest_fresh_returns readable with ⟨service, state, returned⟩
  rcases ingested_fresh returned with ⟨known, held, named, commit, logged⟩
  change service.observations.contains ("demo", observation.observationId) = true at known
  change service.states.get? ("demo", observation.objectType, observation.objectId) = some state at held
  rcases dropped_run host observation worker (.numbered 0) with ⟨history, cluster, run, served⟩
  rw [returned] at served
  rcases storedUnderHash_exists host.rt with ⟨stored, hashed⟩
  have again : service.ingest host.rt (.numbered 0) "demo" observation "observation" "observed" =
      .returns service state := by
    unfold WorldStateService.ingest
    dsimp only
    rw [if_pos known, held]
  have written : Written.projection state ∈ observeWrites host.rt (cluster.site worker).store (.numbered 0)
      "demo" ⟨observation, stored⟩ (Uuid.numbered 0) := by
    rw [served]
    apply List.mem_append_right _
    rw [show (Outcome.returns service state : Outcome PyError WorldStateService OrderState).state = service
      from rfl, observeIngesting_empty]
    dsimp only
    unfold Ingesting.writes Ingesting.outcome
    dsimp only
    rw [again]
    dsimp only [Outcome.returns]
    have created : Tables.empty.createsObservation ("demo", observation.observationId) = true := rfl
    rw [if_pos created, logged]
    exact List.mem_append_left _ (List.mem_cons_of_mem _ List.mem_cons_self)
  have fits := storable.observe history cluster run worker (.numbered 0) "demo" stored (Uuid.numbered 0)
    (by decide) hashed _ written
  have short := (Db.Cell.fits_iff "entity_id" 255 state.entityId).mp
    (fits _ (List.mem_cons_of_mem _ List.mem_cons_self))
  rw [named] at short
  unfold entityIdOf at short
  rw [Text.length_append, Text.length_append] at short
  exact short

end Long

/-- Both paths can store an accepted observation, in every reachable state, exactly when its two
lengthened names are short. -/
theorem columns_hold_iff {W : Type} [DecidableEq W] (worker : W) (host : Host)
    (digests : DigestsSized host.rt) (plain : PlainTexts host.rt) (observation : Observation)
    (names : forall name, name ∈ observation.payload.keys -> name.length ≤ 255) :
    Storable W host observation <-> ShortNames observation := by
  constructor
  · intro storable
    exact ⟨storable.observationId worker, storable.entityId plain worker⟩
  · intro short
    exact storable_of_short digests names short

/-- The digits of a checksum, as many as SHA-256 has. -/
def checksumDigits (text : Text) : Text :=
  let total := text.codes.foldl (fun total code => (total * 257 + code) % 2 ^ 61) 7
  ⟨(List.range 64).map (fun place => 48 + total / 10 ^ place % 10)⟩

def columnHost : Host := ⟨{ Runtime.plain with sha256 := checksumDigits }, noDatetime, floatOfFloat, ⟨none⟩⟩

theorem columnHost_digests : DigestsSized columnHost.rt := by
  intro text
  change ((List.range 64).map _).length = 64
  rw [List.length_map, List.length_range]

theorem columnHost_plain : PlainTexts columnHost.rt where
  digests := by
    intro text
    change (checksumDigits text).codes.all Text.scalar = true
    unfold checksumDigits
    rw [List.all_map, List.all_eq_true]
    intro place _
    refine Bool.or_eq_true_iff.mpr (Or.inl (decide_eq_true ?_))
    dsimp only
    omega
  times := plain_plainTexts.times
  floats := plain_plainTexts.floats

/-- The longest identifier that the model accepts for an object. -/
def longestOrder : Observation where
  observationId := "obs_1"
  connector := "shopify"
  objectType := "order"
  objectId := ⟨List.replicate 255 49⟩
  observedAt := .utc 0
  payload := Dict.empty
  valid := by decide +kernel

theorem columns_hold_sample :
    Storable Bool columnHost openReading ∧ ¬ Storable Bool columnHost longestOrder := by
  have facts : (forall name, name ∈ openReading.payload.keys -> name.length ≤ 255) ∧
      ShortNames openReading ∧ ¬ ShortNames longestOrder := by
    decide +kernel
  have first := columns_hold_iff true columnHost columnHost_digests columnHost_plain openReading facts.1
  have second := columns_hold_iff true columnHost columnHost_digests columnHost_plain longestOrder nofun
  exact ⟨first.mpr facts.2.1, fun storable => facts.2.2 (second.mp storable)⟩

/-- An accepted order whose projection cannot be stored. Its identifier fits the model, but
not with the type in front of it. -/
theorem longest_order_overflows :
    (forall name, name ∈ longestOrder.payload.keys -> name.length ≤ 255) ∧
      ¬ Storable Bool sampleHost longestOrder := by
  refine ⟨nofun, fun storable => ?_⟩
  have short := storable.entityId plain_plainTexts true
  have long : ¬ longestOrder.objectType.length + 1 + longestOrder.objectId.length ≤ 255 := by
    decide +kernel
  exact long short

end Api
end RealityLayer
