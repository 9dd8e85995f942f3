import RealityLayer.WorldState.CommitLog
import RealityLayer.WorldState.Renaming
import RealityLayer.WorldState.Twins

namespace RealityLayer
namespace WorldState

open Foundation Python RealityGit WorldStateService

/-!
# The rows that a request leaves

A request that succeeds draws an identifier for its commit and for each conflict that it
opens, and reads the clock.  None of that is an effect of the request: `SameRows` compares
what the tables tell about the observations, the entities, their history and their open
conflicts.

`Served` is everything that a request that returned has done.  Two requests with the same
observation that are served by the same store leave the same rows, whatever they draw.
-/

/-! ## What the rows tell -/

/-- The version of an entity, and the values of its attributes. -/
def StateProjection.account (row : StateProjection) : Int × Dict Text Json :=
  (row.stateVersion, dumpedValues row.attributes)

/-- Two databases tell the same. Identifiers and hashes are left out of the comparison, since
a retry draws them anew. -/
structure SameRows (first second : Tables) : Prop where
  observations : first.observationLog = second.observationLog
  projections : forall key, (first.projections.get? key).map StateProjection.account =
    (second.projections.get? key).map StateProjection.account
  commits : first.commitLog.map CommitRecord.account = second.commitLog.map CommitRecord.account
  conflicts : first.openAccounts.Perm second.openAccounts

theorem SameRows.refl (tables : Tables) : SameRows tables tables := ⟨rfl, fun _ => rfl, rfl, .refl _⟩

theorem SameRows.symm {first second : Tables} (same : SameRows first second) : SameRows second first :=
  ⟨same.observations.symm, fun key => (same.projections key).symm, same.commits.symm,
    same.conflicts.symm⟩

theorem SameRows.trans {first second third : Tables} (left : SameRows first second)
    (right : SameRows second third) : SameRows first third where
  observations := left.observations.trans right.observations
  projections := fun key => (left.projections key).trans (right.projections key)
  commits := left.commits.trans right.commits
  conflicts := left.conflicts.trans right.conflicts

/-! ## Consistent stores -/

/-- The service and the tables of one process fit together. The tables may have more than the
service, because other processes write to them. -/
structure Consistent (rt : Runtime) (store : Store) : Prop where
  /-- The log has every observation that the service has seen. -/
  observed : forall id, store.service.observations.contains id = true -> store.tables.Logged id
  /-- Every entity that the service holds has a projection. -/
  projected : forall tenantId objectType objectId state,
    store.service.states.get? (tenantId, objectType, objectId) = some state ->
      (store.tables.projections.get? (tenantId, objectType ++ ":" ++ objectId)).isSome = true
  filed : Filed store.service
  keyed : Keyed store.tables
  /-- The service and the rows know one attribute for each conflict. -/
  registered : Exists fun registry : Registry =>
    Registered registry store.service ∧ RegisteredRows registry store.tables
  /-- The projection of an observed object has its type. -/
  typed : forall (observation : Observation) tenantId row,
    store.tables.projections.get? (tenantId, entityIdOf observation) = some row ->
      row.entityType = capitalize observation.objectType
  /-- The objects in the values of a projection have distinct keys. -/
  distinct : forall tenantId entityId state,
    store.tables.loadState rt tenantId entityId = .ok (some state) -> KeyedAttributes state.attributes

/-- What a request draws is new to the store, and different for different conflicts. The
commit identifier is new to the whole table, which is shared by all tenants. -/
structure FreshRequest (store : Store) (draws : Draws) (tenantId : Text) (observation : Observation) :
    Prop where
  commit : newCommitId draws ∉ store.tables.commitLog.map CommitRecord.commitId
  conflicts : FreshIds store.service tenantId draws 0 observation.payload.entries.length
  rows : forall place, place < observation.payload.entries.length ->
    store.tables.conflicts.get? (tenantId, newConflictId draws place) = none

/-! ## A request that returned -/

/-- The service that a request ingests on. Everything the process held before is still in it. -/
def Store.hydrated (store : Store) (tenantId : Text) (existing : Option OrderState)
    (conflicts : List Conflict) : WorldStateService :=
  conflicts.foldl WorldStateService.hydrateConflict
    (store.service.hydrateFrom store.tables tenantId existing)

/-- The tables after a new observation's commit and conflicts are persisted. The row of the
observation itself is written before. -/
def Tables.compiled (rt : Runtime) (tables : Tables) (tenantId : Text) (observation : Observation)
    (after : WorldStateService) (state : OrderState) (commit : CommitRecord) : Tables :=
  ((tables.logObservation (tenantId, observation.observationId)).persist rt state commit).persistConflicts
    rt after tenantId

/-- What a request that returned has done. It was a repetition and left the tables alone, or
it logged the observation and wrote what the ingestion made. -/
inductive Served (rt : Runtime) (store : Store) (draws : Draws) (tenantId : Text)
    (observation : Observation) : Store -> OrderState -> Prop
  | repeated (existing : Option OrderState) (after : Store) (state : OrderState)
      (known : store.tables.Logged (tenantId, observation.observationId))
      (loaded : store.tables.loadState rt tenantId (entityIdOf observation) = .ok existing)
      (same : after.tables = store.tables)
      (hydrated : forall held, existing = some held ->
        after.service = store.service.hydrateFrom store.tables tenantId existing) :
      Served rt store draws tenantId observation after state
  | compiled (existing : Option OrderState) (conflicts : List Conflict) (after : WorldStateService)
      (state : OrderState) (commit : CommitRecord)
      (new : ¬ store.tables.Logged (tenantId, observation.observationId))
      (loaded : store.tables.loadState rt tenantId (entityIdOf observation) = .ok existing)
      (listed : store.tables.listConflicts rt tenantId = .ok conflicts)
      (ingested : (store.hydrated tenantId existing conflicts).ingest rt draws tenantId observation
        "observation" "observed" = .returns after state)
      (stored : after.commits.get? (tenantId, state.commitId) = some commit) :
      Served rt store draws tenantId observation
        ⟨after, store.tables.compiled rt tenantId observation after state commit⟩ state

section Requests

variable {rt : Runtime} {store : Store} {draws : Draws} {tenantId : Text} {observation : Observation}

theorem loadState_congr {tables other : Tables} (same : other.projections = tables.projections)
    (tenantId entityId : Text) :
    other.loadState rt tenantId entityId = tables.loadState rt tenantId entityId := by
  unfold Tables.loadState
  rw [same]

theorem listConflicts_congr {tables other : Tables} (same : other.conflicts = tables.conflicts)
    (tenantId : Text) : other.listConflicts rt tenantId = tables.listConflicts rt tenantId := by
  unfold Tables.listConflicts
  rw [same]

theorem hydrateFrom_congr {tables other : Tables} (same : other.commitLog = tables.commitLog)
    (service : WorldStateService) (tenantId : Text) (existing : Option OrderState) :
    service.hydrateFrom other tenantId existing = service.hydrateFrom tables tenantId existing := by
  have load : other.loadCommit tenantId = tables.loadCommit tenantId := by
    unfold Tables.loadCommit
    rw [same]
  unfold hydrateFrom
  rw [load]

theorem returns_of_toBool {E A S : Type} {outcome : Outcome E S A}
    (returned : outcome.result.toBool = true) :
    Exists fun answer : A => outcome = .returns outcome.state answer := by
  rcases outcome with ⟨state, result⟩
  cases result with
  | error error => cases returned
  | ok answer => exact ⟨answer, rfl⟩

theorem served_of_returns {after : Store} {state : OrderState}
    (returned : ingestObservation rt store draws tenantId observation = .returns after state) :
    Served rt store draws tenantId observation after state := by
  have frame := logObservation_frame store.tables (tenantId, observation.observationId)
  have rows := logObservation_conflicts store.tables (tenantId, observation.observationId)
  unfold ingestObservation at returned
  dsimp only at returned
  rw [loadState_congr frame.2, listConflicts_congr rows] at returned
  by_cases known : (tenantId, observation.observationId) ∈ store.tables.observationLog
  · have kept : store.tables.logObservation (tenantId, observation.observationId) = store.tables :=
      if_pos known
    rw [kept, decide_eq_false (not_not.mpr known)] at returned
    cases loaded : store.tables.loadState rt tenantId (entityIdOf observation) with
    | error error =>
        rw [loaded] at returned
        cases returned
    | ok existing =>
        rw [loaded] at returned
        dsimp only at returned
        cases existing with
        | some held =>
            rw [Option.filter_some, if_pos Bool.not_false] at returned
            cases returned
            exact .repeated _ _ _ known loaded rfl (fun _ _ => rfl)
        | none =>
            refine .repeated none after state known loaded ?_ nofun
            rw [Option.filter_none] at returned
            dsimp only at returned
            split at returned
            · cases returned
            · split at returned
              · cases returned
              · rw [if_neg Bool.false_ne_true] at returned
                cases returned
                rfl
  · rw [decide_eq_true known] at returned
    cases loaded : store.tables.loadState rt tenantId (entityIdOf observation) with
    | error error =>
        rw [loaded] at returned
        cases returned
    | ok existing =>
        have waits : existing.filter (fun _ => !true) = none := by
          cases existing with
          | none => rfl
          | some state => rfl
        rw [loaded] at returned
        dsimp only at returned
        rw [waits, hydrateFrom_congr frame.1] at returned
        cases listed : store.tables.listConflicts rt tenantId with
        | error error =>
            rw [listed] at returned
            cases returned
        | ok conflicts =>
            rw [listed] at returned
            dsimp only at returned
            generalize ingested : WorldStateService.ingest rt (conflicts.foldl
              WorldStateService.hydrateConflict (store.service.hydrateFrom store.tables tenantId existing))
              draws tenantId observation "observation" "observed" = outcome at returned
            rcases outcome with ⟨reached, result⟩
            cases result with
            | error error => cases returned
            | ok answer =>
                dsimp only at returned
                rw [if_pos rfl] at returned
                split at returned
                · cases returned
                · rename_i commit stored
                  cases returned
                  exact .compiled existing conflicts reached _ commit known loaded listed ingested stored

end Requests

/-! ## The hydrated service -/

section Hydrated

variable {rt : Runtime} {store : Store} {draws : Draws} {tenantId : Text} {observation : Observation}
variable {existing : Option OrderState} {conflicts : List Conflict}

theorem hydrate_observations (service : WorldStateService) (state : OrderState)
    (parentCommitId parentHash : Option Text) :
    (service.hydrate state parentCommitId parentHash).observations = service.observations := by
  unfold hydrate
  dsimp only
  split
  · rfl
  · rfl

theorem hydrate_states (service : WorldStateService) (state : OrderState)
    (parentCommitId parentHash : Option Text) :
    (service.hydrate state parentCommitId parentHash).states =
      service.states.set (state.tenantId, state.entityType.lower, state.entityId.afterColon) state := by
  unfold hydrate
  dsimp only
  split
  · rfl
  · rfl

theorem hydrate_commits (service : WorldStateService) (state : OrderState)
    (parentCommitId parentHash : Option Text) :
    (service.hydrate state parentCommitId parentHash).commits =
      match truthy? parentCommitId, truthy? parentHash with
      | some commitId, some hash =>
          service.commits.set (state.tenantId, commitId) (hydratedCommit state commitId hash)
      | _, _ => service.commits := by
  unfold hydrate
  cases truthy? parentCommitId with
  | none => rfl
  | some commitId =>
      cases truthy? parentHash with
      | none => rfl
      | some hash => rfl

theorem hydrate_latestCommit (service : WorldStateService) (state : OrderState)
    (parentCommitId parentHash : Option Text) :
    (service.hydrate state parentCommitId parentHash).latestCommit =
      service.latestCommit.set state.tenantId (service.hydratedHead state parentCommitId) := by
  unfold hydrate
  dsimp only
  split
  · rfl
  · rfl

theorem hydrated_observations (store : Store) (tenantId : Text) (existing : Option OrderState)
    (conflicts : List Conflict) :
    (store.hydrated tenantId existing conflicts).observations = store.service.observations := by
  apply (hydrateConflicts_same conflicts _).observations.trans
  cases existing with
  | none => rfl
  | some state => exact hydrate_observations _ _ _ _

/-- Hydrating a projection puts it where its object is looked up. -/
theorem hydrated_key (observation : Observation) :
    (capitalize observation.objectType).lower = observation.objectType ∧
      (entityIdOf observation).afterColon = observation.objectId := by
  have valid := observation.valid
  simp only [ObservationFields.accepted, Bool.and_eq_true, Bool.or_eq_true, decide_eq_true_eq] at valid
  have colon : forall word : Text, (word.codes.all (fun code => decide (code ≠ 58))) = true ->
      (word ++ (":" : Text) ++ observation.objectId).afterColon = observation.objectId := by
    intro word plain
    have dropped : (word ++ (":" : Text) ++ observation.objectId).codes.dropWhile
        (fun code => decide (code ≠ 58)) = 58 :: observation.objectId.codes := by
      rw [Text.codes_append, Text.codes_append, List.append_assoc,
        List.dropWhile_append_of_pos (List.all_eq_true.mp plain)]
      rfl
    unfold Text.afterColon
    rw [dropped]
  unfold entityIdOf
  rcases valid.1.2 with order | shipment
  · rw [order]
    exact ⟨by decide, colon _ (by decide)⟩
  · rw [shipment]
    exact ⟨by decide, colon _ (by decide)⟩

/-- A loaded state is the row of its key, with every attribute read. -/
theorem loadState_read {tables : Tables} {entityId : Text} {state : OrderState}
    (loaded : tables.loadState rt tenantId entityId = .ok (some state)) :
    Exists fun row : StateProjection => Exists fun attributes : List (Text × StateAttribute) =>
      tables.projections.get? (tenantId, entityId) = some row ∧
        Tables.readValues (StateAttribute.modelValidate rt) row.attributes.entries = .ok attributes ∧
        state = {
          tenantId
          entityId
          entityType := row.entityType
          stateVersion := row.stateVersion
          attributes := Dict.ofList attributes
          commitId := row.producingCommitId.getD "" } := by
  unfold Tables.loadState at loaded
  cases found : tables.projections.get? (tenantId, entityId) with
  | none =>
      rw [found] at loaded
      cases loaded
  | some row =>
      rw [found] at loaded
      dsimp only at loaded
      split at loaded
      · cases loaded
      · rename_i attributes read
        cases loaded
        exact ⟨row, attributes, rfl, read, rfl⟩

theorem loadState_some {tables : Tables} {entityId : Text} {state : OrderState}
    (loaded : tables.loadState rt tenantId entityId = .ok (some state)) :
    Exists fun row : StateProjection => tables.projections.get? (tenantId, entityId) = some row ∧
      state.tenantId = tenantId ∧ state.entityId = entityId ∧ state.entityType = row.entityType ∧
      state.stateVersion = row.stateVersion := by
  rcases loadState_read loaded with ⟨row, _, found, _, rfl⟩
  exact ⟨row, found, rfl, rfl, rfl, rfl⟩

theorem loadState_none {tables : Tables} {entityId : Text} :
    tables.loadState rt tenantId entityId = .ok none <->
      tables.projections.get? (tenantId, entityId) = none := by
  unfold Tables.loadState
  cases found : tables.projections.get? (tenantId, entityId) with
  | none => exact ⟨fun _ => rfl, fun _ => rfl⟩
  | some row =>
      refine ⟨fun loaded => ?_, fun absent => by cases absent⟩
      dsimp only at loaded
      split at loaded
      · cases loaded
      · cases loaded

/-- The loaded projection is the held state after it is hydrated. -/
theorem hydrated_state {state : OrderState}
    (typed : forall row, store.tables.projections.get? (tenantId, entityIdOf observation) = some row ->
      row.entityType = capitalize observation.objectType)
    (loaded : store.tables.loadState rt tenantId (entityIdOf observation) = .ok (some state)) :
    (store.hydrated tenantId (some state) conflicts).states.get?
      (tenantId, observation.objectType, observation.objectId) = some state := by
  rcases loadState_some loaded with ⟨row, found, tenant, entity, type, _⟩
  have key := hydrated_key observation
  rw [Store.hydrated, (hydrateConflicts_same conflicts _).states, hydrateFrom, hydrate_states, tenant,
    entity, type, typed row found, key.1, key.2]
  exact Dict.get?_set_self _ _ _

/-- A request ingests on the state that it has loaded. What the process held of the entity
before is replaced by it. -/
theorem Consistent.held (consistent : Consistent rt store)
    (loaded : store.tables.loadState rt tenantId (entityIdOf observation) = .ok existing) :
    (store.hydrated tenantId existing conflicts).states.get?
      (tenantId, observation.objectType, observation.objectId) = existing := by
  cases existing with
  | none =>
      have absent := loadState_none.mp loaded
      rw [Store.hydrated, (hydrateConflicts_same conflicts _).states]
      cases stored : (store.service.hydrateFrom store.tables tenantId none).states.get?
          (tenantId, observation.objectType, observation.objectId) with
      | none => rfl
      | some state =>
          have projected := consistent.projected _ _ _ state stored
          rw [entityIdOf] at absent
          rw [absent] at projected
          cases projected
  | some state => exact hydrated_state (consistent.typed observation tenantId) loaded

/-- A new observation is new to the hydrated service. -/
theorem Consistent.unseen (consistent : Consistent rt store)
    (new : ¬ store.tables.Logged (tenantId, observation.observationId)) :
    (store.hydrated tenantId existing conflicts).observations.contains
      (tenantId, observation.observationId) = false := by
  rw [hydrated_observations]
  exact Bool.eq_false_iff.mpr (fun seen => new (consistent.observed _ seen))

theorem Consistent.listed (consistent : Consistent rt store)
    (listed : store.tables.listConflicts rt tenantId = .ok conflicts) :
    Listed rt store.tables tenantId conflicts :=
  listConflicts_listed consistent.keyed listed

/-- The hydrated service and the rows know one attribute for each conflict. -/
theorem Consistent.hydrated_known (consistent : Consistent rt store)
    (listed : store.tables.listConflicts rt tenantId = .ok conflicts) :
    Exists fun registry : Registry =>
      Registered registry (store.hydrated tenantId existing conflicts) ∧
        RegisteredRows registry store.tables := by
  rcases consistent.registered with ⟨registry, registered, rows⟩
  have same := hydrateFrom_sameConflicts store.service store.tables tenantId existing
  exact ⟨registry, (hydrateAll_filed (consistent.filed.congr same) (registered.congr same)
    ((consistent.listed listed).known rows)).2, rows⟩

theorem Consistent.hydrated_filed (consistent : Consistent rt store)
    (listed : store.tables.listConflicts rt tenantId = .ok conflicts) :
    Filed (store.hydrated tenantId existing conflicts) := by
  rcases consistent.registered with ⟨registry, registered, rows⟩
  have same := hydrateFrom_sameConflicts store.service store.tables tenantId existing
  exact (hydrateAll_filed (consistent.filed.congr same) (registered.congr same)
    ((consistent.listed listed).known rows)).1

/-- What is new to the store is new to the hydrated service. -/
theorem FreshRequest.hydrated (fresh : FreshRequest store draws tenantId observation)
    (consistent : Consistent rt store)
    (listed : store.tables.listConflicts rt tenantId = .ok conflicts) :
    FreshIds (store.hydrated tenantId existing conflicts) tenantId draws 0
      observation.payload.entries.length where
  new := by
    intro place inside
    have rows := consistent.listed listed
    have same := hydrateFrom_sameConflicts store.service store.tables tenantId existing
    cases found : (store.hydrated tenantId existing conflicts).conflictsById.get?
        (tenantId, newConflictId draws (0 + place)) with
    | none => rfl
    | some conflict =>
        rcases hydrateAll_source rows.distinct found with held | ⟨other, member, named⟩
        · rw [← same.conflictsById, fresh.conflicts.new place inside] at held
          cases held
        · rcases rows.rows other member with ⟨row, stored, _⟩
          have absent := fresh.rows place inside
          rw [named, Nat.zero_add, absent] at stored
          cases stored
  distinct := fresh.conflicts.distinct

/-- Each listed conflict is held as it is listed. -/
theorem Listed.held (listed : Listed rt store.tables tenantId conflicts) {conflict : Conflict}
    (member : conflict ∈ conflicts) :
    (store.hydrated tenantId existing conflicts).conflictsById.get? conflict.storedId = some conflict := by
  unfold Store.hydrated
  rw [hydrateAll_conflictsById]
  exact (Dict.get?_foldl_set Conflict.storedId (fun conflict => conflict) conflicts listed.distinct _).1
    conflict member

end Hydrated

/-! ## Two draws -/

section Draws

variable {rt : Runtime} {base after after' : WorldStateService} {draws draws' : Draws} {tenantId : Text}
variable {observation : Observation} {previous : Option OrderState} {state state' : OrderState}

variable (rt base draws tenantId observation) in
/-- What ingesting a new observation has done, when it returned: nothing to the entity, or
one commit and the state that it leads to. -/
inductive Taken : Option OrderState -> WorldStateService -> OrderState -> Prop
  | unchanged (label : Text) (state : OrderState)
      (same : ingestChanges rt (some state) (projectedReading observation label) = []) :
      Taken (some state)
        (base.merged draws tenantId observation (some state) (projectedReading observation label)) state
  | committed (label : Text) (previous : Option OrderState) (commit : CommitRecord)
      (changes : previous = none ∨ ingestChanges rt previous (projectedReading observation label) ≠ [])
      (answers : Answers (ingestRequest rt tenantId observation "observation" "observed" previous
        (projectedReading observation label)) draws commit) :
      Taken previous
        (((base.merged draws tenantId observation previous (projectedReading observation label)).record
          commit).setState (tenantId, observation.objectType, observation.objectId)
            (compiledState tenantId observation previous (projectedReading observation label)
              commit.commitId))
        (compiledState tenantId observation previous (projectedReading observation label) commit.commitId)

theorem ingest_taken
    (new : base.observations.contains (tenantId, observation.observationId) = false)
    (ingested : base.ingest rt draws tenantId observation "observation" "observed" =
      .returns after state) :
    Taken rt base draws tenantId observation
      (base.states.get? (tenantId, observation.objectType, observation.objectId)) after state := by
  have way := ingest_ingestion rt base draws tenantId observation "observation" "observed"
  rw [ingested] at way
  generalize base.states.get? (tenantId, observation.objectType, observation.objectId) = previous at way ⊢
  cases way with
  | repeated _ _ known => cases new.symm.trans known
  | unchanged incoming _ stored _ projected same =>
      rcases project_ok projected with ⟨label, rfl⟩
      subst stored
      exact .unchanged label state same
  | committed incoming commit _ projected changes _ answers =>
      rcases project_ok projected with ⟨label, rfl⟩
      exact .committed label previous commit changes answers

/-- The conflicts of the reading are recorded either way. -/
theorem Taken.conflicts (taken : Taken rt base draws tenantId observation previous after state) :
    Exists fun label : Text => SameConflicts
      (base.merged draws tenantId observation previous (projectedReading observation label)) after := by
  cases taken with
  | unchanged label state => exact ⟨label, .refl _⟩
  | committed label _ commit => exact ⟨label, rfl, rfl⟩

/-- A service that has recorded a commit finds it under the answered state's identifier. -/
theorem committed_found {label : Text} {commit stored : CommitRecord}
    (answers : Answers (ingestRequest rt tenantId observation "observation" "observed" previous
      (projectedReading observation label)) draws commit)
    (found : (((base.merged draws tenantId observation previous (projectedReading observation label)).record
        commit).setState (tenantId, observation.objectType, observation.objectId)
          (compiledState tenantId observation previous (projectedReading observation label)
            commit.commitId)).commits.get? (tenantId, commit.commitId) = some stored) :
    stored = commit := by
  change (Dict.set _ (commit.tenantId, commit.commitId) commit).get? (tenantId, commit.commitId) = _
    at found
  have owner : commit.tenantId = tenantId := answers.tenantId
  rw [owner, Dict.get?_set_self] at found
  exact (Option.some.inj found).symm

theorem persist_unused {tables : Tables} (state : OrderState) {commit : CommitRecord}
    (unused : commit.commitId ∉ tables.commitLog.map CommitRecord.commitId) :
    tables.persist rt state commit = { tables with
      commitLog := tables.commitLog ++ [commit]
      projections := tables.projections.set (state.tenantId, state.entityId) {
        entityType := state.entityType
        attributes := dumpAttributes rt state.attributes
        producingCommitId := some state.commitId
        stateVersion := state.stateVersion } } := by
  have absent : tables.loadCommit commit.tenantId commit.commitId = none := by
    refine List.find?_eq_none.mpr (fun row listed same => unused ?_)
    exact List.mem_map.mpr ⟨row, listed, (of_decide_eq_true same).2⟩
  simp only [Tables.persist, absent]

theorem persist_log (tables : Tables) (state : OrderState) (commit : CommitRecord) :
    (tables.persist rt state commit).observationLog = tables.observationLog := by
  unfold Tables.persist
  split
  · rfl
  · rfl

theorem persistConflicts_log (tables : Tables) (service : WorldStateService) (tenantId : Text) :
    (tables.persistConflicts rt service tenantId).observationLog = tables.observationLog := by
  unfold Tables.persistConflicts
  generalize service.conflictsById.values.filter _ = conflicts
  induction conflicts generalizing tables with
  | nil => rfl
  | cons conflict rest ih => exact ih (tables.persistConflict rt conflict)

/-- Two draws persist entities and commits that tell the same. -/
theorem Taken.persist_same {tables : Tables} {commit commit' : CommitRecord}
    (first : Taken rt base draws tenantId observation previous after state)
    (second : Taken rt base draws' tenantId observation previous after' state')
    (stored : after.commits.get? (tenantId, state.commitId) = some commit)
    (stored' : after'.commits.get? (tenantId, state'.commitId) = some commit')
    (unused : newCommitId draws ∉ tables.commitLog.map CommitRecord.commitId)
    (unused' : newCommitId draws' ∉ tables.commitLog.map CommitRecord.commitId) :
    (forall key, ((tables.persist rt state commit).projections.get? key).map StateProjection.account =
        ((tables.persist rt state' commit').projections.get? key).map StateProjection.account) ∧
      (tables.persist rt state commit).commitLog.map CommitRecord.account =
        (tables.persist rt state' commit').commitLog.map CommitRecord.account := by
  have alike : SameReading observation observation := ⟨rfl, rfl, rfl, rfl, rfl⟩
  cases first with
  | unchanged label state same =>
      cases second with
      | unchanged label' =>
          rw [(merged_same base draws tenantId observation _ _).commits] at stored
          rw [(merged_same base draws' tenantId observation _ _).commits] at stored'
          cases stored.symm.trans stored'
          exact ⟨fun _ => rfl, rfl⟩
      | committed label' _ _ changes =>
          rw [← alike.ingestChanges rt (some state) label label'] at changes
          exact (changes.elim nofun (fun changed => changed same)).elim
  | committed label _ made changes answers =>
      cases second with
      | unchanged label' state' same =>
          rw [alike.ingestChanges rt (some state') label label'] at changes
          exact (changes.elim nofun (fun changed => changed same)).elim
      | committed label' _ made' changes' answers' =>
          cases committed_found answers stored
          cases committed_found answers' stored'
          rw [persist_unused _ (answers.commitId ▸ unused), persist_unused _ (answers'.commitId ▸ unused')]
          constructor
          · intro key
            have values : dumpedValues (dumpAttributes rt (compiledAttributes previous
                (projectedReading observation label))) = dumpedValues (dumpAttributes rt
                  (compiledAttributes previous (projectedReading observation label'))) :=
              dumpedValues_congr rt (compiledAttributes_congr rfl (fun _ _ => rfl) label label')
            dsimp only [compiledState]
            rw [Dict.get?_set, Dict.get?_set]
            split
            · rw [Option.map_some, Option.map_some]
              unfold StateProjection.account
              dsimp only
              rw [values]
            · rfl
          · rw [List.map_append, List.map_append]
            have told : commit.account = commit'.account :=
              account_congr rfl (fun _ _ => rfl) answers answers'
            rw [List.map_singleton, List.map_singleton, told]

theorem Twins.congr {count : Nat} {first second other other' : WorldStateService}
    (twins : Twins tenantId draws draws' count first second) (same : SameConflicts first other)
    (same' : SameConflicts second other') : Twins tenantId draws draws' count other other' where
  stored := same.conflictsById ▸ same'.conflictsById ▸ twins.stored
  indexed := same.openConflicts ▸ same'.openConflicts ▸ twins.indexed

/-- Two draws leave twin services. -/
theorem Taken.twins (filed : Filed base)
    (fresh : FreshIds base tenantId draws 0 observation.payload.entries.length)
    (fresh' : FreshIds base tenantId draws' 0 observation.payload.entries.length)
    (first : Taken rt base draws tenantId observation previous after state)
    (second : Taken rt base draws' tenantId observation previous after' state') :
    Twins tenantId draws draws' observation.payload.entries.length after after' := by
  rcases first.conflicts with ⟨label, same⟩
  rcases second.conflicts with ⟨label', same'⟩
  have seen : SameConflicts base (base.seen tenantId observation) := ⟨rfl, rfl⟩
  have twins := (Twins.self filed fresh fresh').congr seen seen
  exact (twins.recordConflicts fresh.apart fresh'.apart observation _ label label' _ _
    observation.payload.entries (Nat.zero_add _).le).congr same same'

/-- Two requests that the same store serves leave the same rows. Only the identifiers that
they draw may differ. -/
theorem served_same {store single other : Store} (consistent : Consistent rt store)
    (fresh : FreshRequest store draws tenantId observation)
    (fresh' : FreshRequest store draws' tenantId observation)
    (served : Served rt store draws tenantId observation single state)
    (served' : Served rt store draws' tenantId observation other state') :
    SameRows single.tables other.tables := by
  cases served with
  | repeated _ _ _ known _ same =>
      cases served' with
      | repeated _ _ _ _ _ same' =>
          rw [same, same']
          exact .refl _
      | compiled _ _ _ _ _ new => exact absurd known new
  | compiled existing conflicts reached state commit new loaded listed ingested stored =>
      cases served' with
      | repeated _ _ _ known => exact absurd known new
      | compiled _ _ reached' state' commit' _ loaded' listed' ingested' stored' =>
          cases loaded.symm.trans loaded'
          cases listed.symm.trans listed'
          have first := ingest_taken (consistent.unseen new) ingested
          have second := ingest_taken (consistent.unseen new) ingested'
          have twins := Taken.twins (consistent.hydrated_filed listed) (fresh.hydrated consistent listed)
            (fresh'.hydrated consistent listed) first second
          have log := (logObservation_frame store.tables (tenantId, observation.observationId)).1
          rcases first.persist_same second stored stored' (log ▸ fresh.commit)
            (log ▸ fresh'.commit) with ⟨projections, commits⟩
          refine ⟨?_, ?_, ?_, .of_eq (openAccounts_congr (twins.persistConflicts ?_ ?_ ?_))⟩
          · dsimp only [Tables.compiled]
            rw [persistConflicts_log, persistConflicts_log, persist_log, persist_log]
          · intro key
            dsimp only [Tables.compiled]
            rw [(persistConflicts_frame rt _ _ _).2, (persistConflicts_frame rt _ _ _).2]
            exact projections key
          · dsimp only [Tables.compiled]
            rw [(persistConflicts_frame rt _ _ _).1, (persistConflicts_frame rt _ _ _).1]
            exact commits
          · exact fresh.conflicts.apart
          · exact fresh'.conflicts.apart
          · rw [persist_conflicts, persist_conflicts, logObservation_conflicts]
            exact rows_match fresh.rows fresh'.rows

end Draws

end WorldState
end RealityLayer
