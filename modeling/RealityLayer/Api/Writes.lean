import RealityLayer.Api.Ingestion
import RealityLayer.Db.Models

namespace RealityLayer
namespace Api

open Foundation Python WorldState

/-!
# What an ingestion writes

The two ways that ingest an observation send rows to the database: the row of the
observation, the commit and the projection, and with `POST /v1/observations` a row for each
conflict of the tenant.  The lists below name the rows in their order, and applying them to
the tables is what the request does to the tables when it returns.
-/

/-- A row that is sent to the database. Whether it fits is a question to its columns, and not
to the model that it was built from. -/
inductive Written where
  | observation (row : Db.ObservationLog)
  | commit (record : CommitRecord)
  | projection (state : OrderState)
  | conflict (record : Conflict)

namespace Written

/-- The string columns of the row. -/
def cells (rt : Runtime) : Written -> List Db.Cell
  | observation row => row.cells
  | commit record => (Db.commitRow record).cells
  | projection state => (Db.projectionRow rt state).cells
  | conflict record => (Db.conflictRow rt record).cells

def Fits (rt : Runtime) (written : Written) : Prop :=
  forall cell, cell ∈ written.cells rt -> cell.Fits

instance (rt : Runtime) (written : Written) : Decidable (written.Fits rt) :=
  inferInstanceAs (Decidable (forall cell, cell ∈ written.cells rt -> cell.Fits))

/-- The row in the tables that the requests read. -/
def apply (rt : Runtime) (tables : Tables) : Written -> Tables
  | observation row => tables.logObservation (row.tenantId, row.observationId)
  | commit record => { tables with commitLog := tables.commitLog ++ [record] }
  | projection state => { tables with
      projections := tables.projections.set (state.tenantId, state.entityId) {
        entityType := state.entityType
        attributes := dumpAttributes rt state.attributes
        producingCommitId := some state.commitId
        stateVersion := state.stateVersion } }
  | conflict record => tables.persistConflict rt record

end Written

/-! ## The rows of each service -/

/-- `ObservationIngestionService.persist`. An observation that has a row gets no second one. -/
def logWrites (tables : Tables) (row : Db.ObservationLog) : List Written :=
  if tables.createsObservation (row.tenantId, row.observationId) then [.observation row] else []

/-- `CompilerPersistenceService.persist`. With the commit in the table already, neither of
the two rows is written. -/
def persistWrites (tables : Tables) (state : OrderState) (commit : CommitRecord) : List Written :=
  match tables.loadCommit commit.tenantId commit.commitId with
  | some _ => []
  | none => [.commit commit, .projection state]

/-- `persist_conflicts`. Every conflict of the tenant gets its row again, resolved ones included. -/
def conflictWrites (service : WorldStateService) (tenantId : Text) : List Written :=
  (service.conflictsById.values.filter (fun conflict => decide (conflict.tenantId = tenantId))).map
    .conflict

section Services

variable (rt : Runtime) (tables : Tables)

theorem logWrites_apply (row : Db.ObservationLog) :
    (logWrites tables row).foldl (Written.apply rt) tables =
      tables.logObservation (row.tenantId, row.observationId) := by
  unfold logWrites Tables.createsObservation
  by_cases known : (row.tenantId, row.observationId) ∈ tables.observationLog
  · rw [if_neg (by simp [known])]
    exact (if_pos known).symm
  · rw [if_pos (decide_eq_true known)]
    rfl

theorem persistWrites_apply (state : OrderState) (commit : CommitRecord) :
    (persistWrites tables state commit).foldl (Written.apply rt) tables =
      tables.persist rt state commit := by
  unfold persistWrites Tables.persist
  cases tables.loadCommit commit.tenantId commit.commitId with
  | none => rfl
  | some stored => rfl

theorem conflictWrites_apply (service : WorldStateService) (tenantId : Text) :
    (conflictWrites service tenantId).foldl (Written.apply rt) tables =
      tables.persistConflicts rt service tenantId := by
  unfold conflictWrites Tables.persistConflicts
  rw [List.foldl_map]
  rfl

end Services

/-! ## The rows of each request -/

section Requests

variable (rt : Runtime)

/-- The rows for the answered state of a call of `ingest`, with the conflicts if they are
persisted. -/
def Ingesting.writes (ingesting : Ingesting) (logged : Tables) (persists : OrderState -> Bool)
    (conflicts : Bool) : List Written :=
  let outcome := ingesting.outcome rt
  match outcome.result with
  | .error _ => []
  | .ok state =>
      if persists state then
        match outcome.state.commits.get? (ingesting.tenantId, state.commitId) with
        | none => []
        | some commit => persistWrites logged state commit ++
            if conflicts then conflictWrites outcome.state ingesting.tenantId else []
      else []

/-- The rows of `POST /v1/observations`. -/
def observeWrites (store : Store) (draws : Draws) (tenantId : Text) (observed : Db.ObservedPayload)
    (nonce : Uuid) : List Written :=
  let created := store.tables.createsObservation (tenantId, observed.observation.observationId)
  let logged := store.tables.logObservation (tenantId, observed.observation.observationId)
  logWrites store.tables (Db.observationRow tenantId observed nonce) ++
    match observeIngesting rt store draws tenantId observed.observation with
    | none => []
    | some ingesting => ingesting.writes rt logged (fun _ => created) true

/-- The rows of the worker's path. -/
def compileWrites (stores : Bool) (store : Store) (draws : Draws) (tenantId : Text)
    (observed : Db.ObservedPayload) (nonce : Uuid) : List Written :=
  match store.tables.loadState rt tenantId (entityIdOf observed.observation) with
  | .error _ => []
  | .ok existing =>
      let logged := if stores then
        store.tables.logObservation (tenantId, observed.observation.observationId) else store.tables
      (if stores then logWrites store.tables (Db.observationRow tenantId observed nonce) else []) ++
        (workerIngesting store draws tenantId observed.observation existing).writes rt logged
          (fun state => decide (existing.map OrderState.commitId ≠ some state.commitId)) false

/-- Ingest, persist the answered state if it is asked for, with the conflicts if these are
persisted too, and commit the tables. -/
def Ingesting.settle (ingesting : Ingesting) (before logged : Tables) (persists : OrderState -> Bool)
    (conflicts : Bool) : Outcome PyError Store OrderState :=
  let outcome := ingesting.outcome rt
  match outcome.result with
  | .error error => .raises ⟨outcome.state, before⟩ error
  | .ok state =>
      if persists state then
        match outcome.state.commits.get? (ingesting.tenantId, state.commitId) with
        | none => .raises ⟨outcome.state, before⟩ (.keyError ("Unknown commit: " ++ state.commitId))
        | some commit =>
            let persisted := logged.persist rt state commit
            .returns ⟨outcome.state, if conflicts then
              persisted.persistConflicts rt outcome.state ingesting.tenantId else persisted⟩ state
      else .returns ⟨outcome.state, logged⟩ state

variable {rt} {store : Store} {draws : Draws} {tenantId : Text} {observation : Observation}
variable {state : OrderState}

/-- The service that a call leaves is the one that `ingest` leaves, and the tables are those
before the call where it raises. -/
theorem settle_frame (ingesting : Ingesting) (before logged : Tables) (persists : OrderState -> Bool)
    (conflicts : Bool) :
    let settled := ingesting.settle rt before logged persists conflicts
    settled.state.service = (ingesting.outcome rt).state ∧
      (settled.state.tables = before ∨
        settled.state.tables =
          (ingesting.writes rt logged persists conflicts).foldl (Written.apply rt) logged) ∧
      forall state, settled.result = .ok state ->
        settled.state.tables =
          (ingesting.writes rt logged persists conflicts).foldl (Written.apply rt) logged := by
  unfold Ingesting.settle Ingesting.writes
  dsimp only
  cases (ingesting.outcome rt).result with
  | error error => exact ⟨rfl, Or.inl rfl, fun state returned => by cases returned⟩
  | ok answered =>
      dsimp only
      cases persists answered with
      | false => exact ⟨rfl, Or.inr rfl, fun _ _ => rfl⟩
      | true =>
          rw [if_pos rfl, if_pos rfl]
          cases (ingesting.outcome rt).state.commits.get? (ingesting.tenantId, answered.commitId) with
          | none => exact ⟨rfl, Or.inl rfl, fun state returned => by cases returned⟩
          | some commit =>
              dsimp only
              rw [List.foldl_append, persistWrites_apply]
              cases conflicts with
              | false => exact ⟨rfl, Or.inr rfl, fun _ _ => rfl⟩
              | true =>
                  rw [if_pos rfl, if_pos rfl, conflictWrites_apply]
                  exact ⟨rfl, Or.inr rfl, fun _ _ => rfl⟩

/-- Every way through `POST /v1/observations`, with the call of `ingest` that it makes, if it
makes one. The rows are rolled back when it raises, and the process is not. -/
inductive Observing (rt : Runtime) (store : Store) (draws : Draws) (tenantId : Text)
    (observation : Observation) (logged : Tables) (created : Bool) :
    Option Ingesting -> Outcome PyError Store OrderState -> Prop
  | unread (error : PyError)
      (failed : logged.loadState rt tenantId (entityIdOf observation) = .error error) :
      Observing rt store draws tenantId observation logged created none (.raises store error)
  | repeated (state : OrderState) (existing : Option OrderState)
      (loaded : logged.loadState rt tenantId (entityIdOf observation) = .ok existing) :
      Observing rt store draws tenantId observation logged created none
        (.returns ⟨store.service.hydrateFrom logged tenantId existing, logged⟩ state)
  | unlisted (existing : Option OrderState) (error : PyError)
      (loaded : logged.loadState rt tenantId (entityIdOf observation) = .ok existing) :
      Observing rt store draws tenantId observation logged created none
        (.raises ⟨store.service.hydrateFrom logged tenantId existing, store.tables⟩ error)
  | ingested (existing : Option OrderState) (conflicts : List Conflict) (ingesting : Ingesting)
      (loaded : logged.loadState rt tenantId (entityIdOf observation) = .ok existing)
      (listed : logged.listConflicts rt tenantId = .ok conflicts)
      (made : ingesting = {
        base := conflicts.foldl WorldStateService.hydrateConflict
          (store.service.hydrateFrom logged tenantId existing)
        draws, tenantId, observation
        cause := "observation"
        assuranceLevel := "observed" }) :
      Observing rt store draws tenantId observation logged created (some ingesting)
        (ingesting.settle rt store.tables logged (fun _ => created) true)

theorem ingestObservation_observing (rt : Runtime) (store : Store) (draws : Draws) (tenantId : Text)
    (observation : Observation) :
    Observing rt store draws tenantId observation
      (store.tables.logObservation (tenantId, observation.observationId))
      (store.tables.createsObservation (tenantId, observation.observationId))
      (observeIngesting rt store draws tenantId observation)
      (ingestObservation rt store draws tenantId observation) := by
  unfold observeIngesting ingestObservation Tables.createsObservation
  dsimp only
  generalize decide ((tenantId, observation.observationId) ∉ store.tables.observationLog) = created
  generalize store.tables.logObservation (tenantId, observation.observationId) = logged
  cases loaded : logged.loadState rt tenantId (entityIdOf observation) with
  | error error => exact .unread error loaded
  | ok existing =>
      dsimp only
      cases existing.filter (fun _ => !created) with
      | some state => exact .repeated state existing loaded
      | none =>
          dsimp only
          cases listed : logged.listConflicts rt tenantId with
          | error error => exact .unlisted existing error loaded
          | ok conflicts => exact .ingested existing conflicts _ loaded listed rfl

/-- The call of `ingest` comes from what the tables had. -/
theorem observeIngesting_some {ingesting : Ingesting}
    (prepared : observeIngesting rt store draws tenantId observation = some ingesting) :
    let logged := store.tables.logObservation (tenantId, observation.observationId)
    Exists fun existing : Option OrderState => Exists fun conflicts : List Conflict =>
      logged.loadState rt tenantId (entityIdOf observation) = .ok existing ∧
        logged.listConflicts rt tenantId = .ok conflicts ∧
        ingesting = {
          base := conflicts.foldl WorldStateService.hydrateConflict
            (store.service.hydrateFrom logged tenantId existing)
          draws, tenantId, observation
          cause := "observation"
          assuranceLevel := "observed" } := by
  have way := ingestObservation_observing rt store draws tenantId observation
  rw [prepared] at way
  generalize ingestObservation rt store draws tenantId observation = outcome at way
  cases way with
  | ingested existing conflicts ingesting loaded listed made =>
      exact ⟨existing, conflicts, loaded, listed, made⟩

theorem finish_eq_settle (ingesting : Ingesting) (before logged : Tables)
    (persists : OrderState -> Bool) :
    ingesting.finish rt before logged persists = ingesting.settle rt before logged persists false := rfl

/-- What `POST /v1/observations` does to the tables when it returns. -/
theorem observeWrites_apply {observed : Db.ObservedPayload} (nonce : Uuid)
    (returned : (ingestObservation rt store draws tenantId observed.observation).result = .ok state) :
    (ingestObservation rt store draws tenantId observed.observation).state.tables =
      (observeWrites rt store draws tenantId observed nonce).foldl (Written.apply rt) store.tables := by
  have way := ingestObservation_observing rt store draws tenantId observed.observation
  unfold observeWrites
  dsimp only
  rw [List.foldl_append, logWrites_apply]
  generalize ingestObservation rt store draws tenantId observed.observation = outcome at way returned ⊢
  generalize observeIngesting rt store draws tenantId observed.observation = call at way ⊢
  cases way with
  | unread error failed => cases returned
  | repeated answered existing loaded => rfl
  | unlisted existing error loaded => cases returned
  | ingested existing conflicts ingesting loaded listed made =>
      exact (settle_frame _ _ _ _ _).2.2 state returned

/-- What the worker's path does to the tables when it returns. -/
theorem compileWrites_apply {stores : Bool} {observed : Db.ObservedPayload} (nonce : Uuid)
    (returned : (compileWithPersistence rt stores store draws tenantId observed.observation).result =
      .ok state) :
    (compileWithPersistence rt stores store draws tenantId observed.observation).state.tables =
      (compileWrites rt stores store draws tenantId observed nonce).foldl (Written.apply rt)
        store.tables := by
  unfold compileWithPersistence at returned ⊢
  unfold compileWrites
  cases loaded : store.tables.loadState rt tenantId (entityIdOf observed.observation) with
  | error error =>
      rw [loaded] at returned
      cases returned
  | ok existing =>
      rw [loaded] at returned
      dsimp only at returned ⊢
      rw [finish_eq_settle] at returned ⊢
      rw [(settle_frame _ _ _ _ _).2.2 state returned, List.foldl_append]
      cases stores with
      | true =>
          rw [if_pos rfl, if_pos rfl, logWrites_apply]
          rfl
      | false => rfl

end Requests

end Api
end RealityLayer
