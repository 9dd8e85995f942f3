import RealityLayer.Actions.Models
import RealityLayer.WorldState.Steps

namespace RealityLayer
namespace WorldState

open Foundation Python RealityGit

/-!
# World State on top of the tables

With persistence enabled, a request for an observation works on the tables and on
the process's own service.  It logs the observation, loads the entity's projection,
hydrates the service from it, ingests, and persists the new commit with the new
projection.  The head of the chain is not in the tables: it lives in the service,
and `hydrate` has to guess it again after a restart.

The tables keep what the requests read.  JSON columns hold the dumped values, and
loading reads them back.  A request that raises rolls the tables back, but not the
service.
-/

/-! ## Rows -/

/-- `StateAttribute.model_validate`. -/
def StateAttribute.modelValidate (rt : Runtime) (data : Json) : Except PyError StateAttribute :=
  let read : Option StateAttribute := do
    let entries <- data.entries?
    let value <- Actions.readOr entries "value" some none
    let confidence <- Actions.readOr entries "confidence" Json.float? none
    guard confidence.inUnit
    let observedAt <- Actions.readOr entries "observed_at"
      (fun value => value.text?.bind rt.parseIsoformat) none
    let freshness <- Actions.readOr entries "freshness" Json.text? none
    let sourceObservationIds <- Actions.readOr entries "source_observation_ids" Json.texts? none
    let connector <- Actions.readOr entries "connector" Json.optionalText? (some none)
    return { value, confidence, observedAt, freshness, sourceObservationIds, connector }
  match read with
  | some attr => .ok attr
  | none => .error (.validation "StateAttribute")

/-- `model_dump(mode="json")`. -/
def ConflictCandidate.dump (rt : Runtime) (candidate : ConflictCandidate) : Json :=
  .dict [
    ("value", candidate.value.jsonMode),
    ("connector", .ofText? candidate.connector),
    ("observation_id", .ofText? candidate.observationId),
    ("observed_at", .str (rt.isoformat candidate.observedAt)),
    ("confidence", .float candidate.confidence)]

/-- `ConflictCandidate.model_validate`. -/
def ConflictCandidate.modelValidate (rt : Runtime) (data : Json) :
    Except PyError ConflictCandidate :=
  let read : Option ConflictCandidate := do
    let entries <- data.entries?
    guard (Actions.onlyKeys ["value", "connector", "observation_id", "observed_at", "confidence"]
      entries)
    let value <- Actions.readOr entries "value" some none
    let connector <- Actions.readOr entries "connector" Json.optionalText? (some none)
    let observationId <- Actions.readOr entries "observation_id" Json.optionalText? (some none)
    let observedAt <- Actions.readOr entries "observed_at"
      (fun value => value.text?.bind rt.parseIsoformat) none
    let confidence <- Actions.readOr entries "confidence" Json.float? none
    guard confidence.inUnit
    return { value, connector, observationId, observedAt, confidence }
  match read with
  | some candidate => .ok candidate
  | none => .error (.validation "ConflictCandidate")

structure StateProjection where
  entityType : Text
  attributes : Dict Text Json
  producingCommitId : Option Text
  stateVersion : Int

/-- A conflict with its candidates dumped. The other fields have columns of their own and
come back as they are. -/
structure ConflictRow where
  conflict : Conflict
  candidates : List Json

/-- The tables the requests share. The commit log is in insertion order, which no query asks
the database for. -/
structure Tables where
  observationLog : List (Text × Text)
  projections : Dict (Text × Text) StateProjection
  commitLog : List CommitRecord
  conflicts : Dict (Text × Text) ConflictRow

namespace Tables

def empty : Tables where
  observationLog := []
  projections := Dict.empty
  commitLog := []
  conflicts := Dict.empty

/-- The log has a row for an observation. -/
def Logged (tables : Tables) (key : Text × Text) : Prop := key ∈ tables.observationLog

instance (tables : Tables) (key : Text × Text) : Decidable (tables.Logged key) :=
  inferInstanceAs (Decidable (_ ∈ _))

/-- The observation's row would be new. -/
def createsObservation (tables : Tables) (key : Text × Text) : Bool :=
  decide (key ∉ tables.observationLog)

/-- `ObservationIngestionService.persist`: whether the row is new is the caller's
to ask. -/
def logObservation (tables : Tables) (key : Text × Text) : Tables :=
  if key ∈ tables.observationLog then tables
  else { tables with observationLog := tables.observationLog ++ [key] }

/-- `load_commit`. The tenant is part of what is asked for, although the identifier alone is
the key. -/
def loadCommit (tables : Tables) (tenantId commitId : Text) : Option CommitRecord :=
  tables.commitLog.find? (fun commit =>
    decide (commit.tenantId = tenantId ∧ commit.commitId = commitId))

/-- Read every value of a JSON object. -/
def readValues {A : Type} (reader : Json -> Except PyError A) :
    List (Text × Json) -> Except PyError (List (Text × A))
  | [] => .ok []
  | (name, data) :: rest =>
      match reader data with
      | .error error => .error error
      | .ok value => (readValues reader rest).map ((name, value) :: ·)

/-- `load_state`. Every attribute is validated, and a row without a producing commit gives an
empty identifier. -/
def loadState (rt : Runtime) (tables : Tables) (tenantId entityId : Text) :
    Except PyError (Option OrderState) :=
  match tables.projections.get? (tenantId, entityId) with
  | none => .ok none
  | some row =>
      match readValues (StateAttribute.modelValidate rt) row.attributes.entries with
      | .error error => .error error
      | .ok attributes => .ok (some {
          tenantId
          entityId
          entityType := row.entityType
          stateVersion := row.stateVersion
          attributes := Dict.ofList attributes
          commitId := row.producingCommitId.getD "" })

/-- `persist`: the commit and the projection, unless the commit is stored. In that case the
projection is not touched either. -/
def persist (rt : Runtime) (tables : Tables) (state : OrderState) (commit : CommitRecord) : Tables :=
  match tables.loadCommit commit.tenantId commit.commitId with
  | some _ => tables
  | none => { tables with
      commitLog := tables.commitLog ++ [commit]
      projections := tables.projections.set (state.tenantId, state.entityId) {
        entityType := state.entityType
        attributes := dumpAttributes rt state.attributes
        producingCommitId := some state.commitId
        stateVersion := state.stateVersion } }

/-- `persist_conflict`. The row replaces the one under its identifier, whatever status that
one has. -/
def persistConflict (rt : Runtime) (tables : Tables) (conflict : Conflict) : Tables :=
  { tables with
    conflicts := tables.conflicts.set (conflict.tenantId, conflict.conflictId)
      ⟨conflict, conflict.candidates.map (ConflictCandidate.dump rt)⟩ }

/-- `_to_conflict`. The candidates are validated again, so that a null confidence or a broken
time raises. -/
def toConflict (rt : Runtime) (row : ConflictRow) : Except PyError Conflict :=
  (row.candidates.mapM (ConflictCandidate.modelValidate rt)).map (fun candidates =>
    { row.conflict with candidates })

/-- Order of conflict rows: by detection time, then by identifier. The second makes the order
total. -/
def detectedBefore (first second : ConflictRow) : Prop :=
  first.conflict.detectedAt.wall < second.conflict.detectedAt.wall ∨
    first.conflict.detectedAt.wall = second.conflict.detectedAt.wall ∧
      first.conflict.conflictId.le second.conflict.conflictId = true

instance : DecidableRel detectedBefore := fun _ _ =>
  inferInstanceAs (Decidable (_ ∨ _ ∧ _))

/-- `list_conflicts`. -/
def listConflicts (rt : Runtime) (tables : Tables) (tenantId : Text) :
    Except PyError (List Conflict) :=
  ((tables.conflicts.values.filter (fun row => decide (row.conflict.tenantId = tenantId))).insertionSort
    detectedBefore).mapM (toConflict rt)

end Tables

/-! ## Requests -/

/-- One process's service over the shared tables. The service is a cache that other
processes' writes do not reach until it is hydrated. -/
structure Store where
  service : WorldStateService
  tables : Tables

/-- The entity identifier of an observation's projection. -/
def entityIdOf (observation : Observation) : Text :=
  observation.objectType ++ ":" ++ observation.objectId

/-- Hydrate a service from a loaded state and its commit. An observation of an unknown entity
hydrates nothing. -/
def WorldStateService.hydrateFrom (service : WorldStateService) (tables : Tables) (tenantId : Text)
    (existing : Option OrderState) : WorldStateService :=
  match existing with
  | none => service
  | some state =>
      let previous := (truthy? (some state.commitId)).bind (tables.loadCommit tenantId)
      service.hydrate state (some state.commitId) (previous.map CommitRecord.hash)

/-- `persist_conflicts`. Every conflict that the service holds for the tenant is written,
changed or not. -/
def Tables.persistConflicts (rt : Runtime) (tables : Tables) (service : WorldStateService)
    (tenantId : Text) : Tables :=
  (service.conflictsById.values.filter (fun conflict => decide (conflict.tenantId = tenantId))).foldl
    (Tables.persistConflict rt) tables

/-- `POST /v1/observations` with persistence enabled.  The whole observation has been dumped for
the object store when this starts, so a value that is nested too deep for a dump is refused
before it is ingested, and no conflict that is written here has one. -/
def ingestObservation (rt : Runtime) (store : Store) (draws : Draws) (tenantId : Text)
    (observation : Observation) : Outcome PyError Store OrderState :=
  let key := (tenantId, observation.observationId)
  let created := decide (key ∉ store.tables.observationLog)
  let logged := store.tables.logObservation key
  match logged.loadState rt tenantId (entityIdOf observation) with
  | .error error => .raises store error
  | .ok existing =>
      let hydrated := store.service.hydrateFrom logged tenantId existing
      match existing.filter (fun _ => !created) with
      | some state => .returns ⟨hydrated, logged⟩ state
      | none =>
          match logged.listConflicts rt tenantId with
          | .error error => .raises ⟨hydrated, store.tables⟩ error
          | .ok conflicts =>
              let outcome := (conflicts.foldl WorldStateService.hydrateConflict hydrated).ingest rt draws
                tenantId observation "observation" "observed"
              match outcome.result with
              | .error error => .raises ⟨outcome.state, store.tables⟩ error
              | .ok state =>
                  if created then
                    match outcome.state.commits.get? (tenantId, state.commitId) with
                    | none => .raises ⟨outcome.state, store.tables⟩
                        (.keyError ("Unknown commit: " ++ state.commitId))
                    | some commit => .returns ⟨outcome.state,
                        (logged.persist rt state commit).persistConflicts rt outcome.state tenantId⟩ state
                  else .returns ⟨outcome.state, logged⟩ state

end WorldState
end RealityLayer
