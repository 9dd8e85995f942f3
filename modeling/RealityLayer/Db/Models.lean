import RealityLayer.Storage.ObjectStore
import RealityLayer.WorldState.Persistence

namespace RealityLayer
namespace Db

open Foundation Python WorldState Actions Storage

/-!
# The rows of the database

Each table has its row type, with the columns that the program fills.  The services write
a record into a row and build it from the row again, column by column.  The times that
the database sets by itself are left out.

A string column has a limit, and PostgreSQL rejects a longer string.  The cells of a row
are its string columns with their limits; a column that may be null has a cell only where
it has a value.
-/

/-! ## Cells -/

/-- A string in a column. A `Text` column has no limit, and the limits of the others are
enforced by the database at the flush and not by the models. -/
structure Cell where
  column : Text
  limit : Option Nat
  value : Text

def Cell.Fits (cell : Cell) : Prop := cell.limit.all (fun limit => decide (cell.value.length ≤ limit)) = true

instance (cell : Cell) : Decidable cell.Fits := inferInstanceAs (Decidable (_ = _))

theorem Cell.fits_iff (column : Text) (limit : Nat) (value : Text) :
    Cell.Fits ⟨column, some limit, value⟩ <-> value.length ≤ limit := by
  unfold Cell.Fits
  rw [Option.all_some, decide_eq_true_iff]

/-- The cell of a column that may be null. Null has no length, so it is no cell. -/
def nullable (column : Text) (limit : Nat) (value : Option Text) : List Cell :=
  value.toList.map (fun value => ⟨column, some limit, value⟩)

/-! ## Rows -/

structure ObservationLog where
  tenantId : Text
  observationId : Text
  connectorId : Text
  externalObjectType : Text
  externalObjectId : Text
  externalEventId : Option Text
  sourceTimestamp : Timestamp
  observedAt : Timestamp
  payloadHash : Text
  payloadRef : Text
  connectorVersion : Text
  schemaVersion : Text
  correlationId : Text
  ingestOutcome : Text

def ObservationLog.cells (row : ObservationLog) : List Cell :=
  [⟨"tenant_id", some 255, row.tenantId⟩,
    ⟨"observation_id", some 64, row.observationId⟩,
    ⟨"connector_id", some 64, row.connectorId⟩,
    ⟨"external_object_type", some 64, row.externalObjectType⟩,
    ⟨"external_object_id", some 255, row.externalObjectId⟩] ++
  nullable "external_event_id" 255 row.externalEventId ++
  [⟨"payload_hash", some 95, row.payloadHash⟩,
    ⟨"payload_ref", none, row.payloadRef⟩,
    ⟨"connector_version", some 64, row.connectorVersion⟩,
    ⟨"schema_version", some 255, row.schemaVersion⟩,
    ⟨"correlation_id", some 64, row.correlationId⟩,
    ⟨"ingest_outcome", some 64, row.ingestOutcome⟩]

structure StateProjection where
  tenantId : Text
  entityId : Text
  entityType : Text
  attributes : Dict Text Json
  confidence : Dict Text Json
  freshness : Dict Text Json
  provenance : List Text
  producingCommitId : Option Text
  stateVersion : Int
deriving DecidableEq

def StateProjection.cells (row : StateProjection) : List Cell :=
  [⟨"tenant_id", some 255, row.tenantId⟩,
    ⟨"entity_id", some 255, row.entityId⟩,
    ⟨"entity_type", some 64, row.entityType⟩] ++
  nullable "producing_commit_id" 64 row.producingCommitId

structure CommitLog where
  tenantId : Text
  commitId : Text
  parentCommitId : Option Text
  entityType : Text
  entityId : Text
  actor : Dict Text Json
  cause : Text
  observationIds : List Text
  actionId : Option Text
  mappingVersion : Text
  before : Dict Text Json
  after : Dict Text Json
  semanticDiff : Dict Text Json
  assuranceLevel : Text
  previousHash : Option Text
  hash : Text
deriving DecidableEq

def CommitLog.cells (row : CommitLog) : List Cell :=
  [⟨"tenant_id", some 255, row.tenantId⟩,
    ⟨"commit_id", some 64, row.commitId⟩] ++
  nullable "parent_commit_id" 64 row.parentCommitId ++
  [⟨"entity_type", some 64, row.entityType⟩,
    ⟨"entity_id", some 255, row.entityId⟩,
    ⟨"cause", some 64, row.cause⟩] ++
  nullable "action_id" 64 row.actionId ++
  [⟨"mapping_version", some 64, row.mappingVersion⟩,
    ⟨"assurance_level", some 64, row.assuranceLevel⟩] ++
  nullable "previous_hash" 95 row.previousHash ++
  [⟨"hash", some 95, row.hash⟩]

/-- The source calls the attribute's name `attribute`, which is a keyword here. -/
structure ConflictRecord where
  tenantId : Text
  conflictId : Text
  entityType : Text
  entityId : Text
  attributeName : Text
  candidates : List Json
  status : Text
  detectedAt : Timestamp
  resolvedValue : Json
  resolvedBy : Option Text
  resolvedAt : Option Timestamp
  resolutionReason : Option Text
deriving DecidableEq

def ConflictRecord.cells (row : ConflictRecord) : List Cell :=
  [⟨"tenant_id", some 255, row.tenantId⟩,
    ⟨"conflict_id", some 64, row.conflictId⟩,
    ⟨"entity_type", some 64, row.entityType⟩,
    ⟨"entity_id", some 255, row.entityId⟩,
    ⟨"attribute", some 255, row.attributeName⟩,
    ⟨"status", some 32, row.status⟩] ++
  nullable "resolved_by" 255 row.resolvedBy ++
  row.resolutionReason.toList.map (fun reason => ⟨"resolution_reason", none, reason⟩)

structure ActionEvent where
  tenantId : Text
  eventId : Text
  actionId : Text
  eventType : Text
  schemaVersion : Text
  actor : Dict Text Json
  correlationId : Text
  payload : Dict Text Json
  evidenceRefs : List Json
  previousEventHash : Option Text
  eventHash : Text
deriving DecidableEq

def ActionEvent.cells (row : ActionEvent) : List Cell :=
  [⟨"tenant_id", some 255, row.tenantId⟩,
    ⟨"event_id", some 64, row.eventId⟩,
    ⟨"action_id", some 64, row.actionId⟩,
    ⟨"event_type", some 64, row.eventType⟩,
    ⟨"schema_version", some 255, row.schemaVersion⟩,
    ⟨"correlation_id", some 64, row.correlationId⟩] ++
  nullable "previous_event_hash" 95 row.previousEventHash ++
  [⟨"event_hash", some 95, row.eventHash⟩]

/-! ## What the services write -/

/-- An observation with its stored payload. The payload is a reference into the object store,
with the hash under which it was stored. -/
structure ObservedPayload where
  observation : Observation
  rawPayload : StoredObject

/-- The row of `ObservationIngestionService.persist`. The payload itself is not in it, only
where it is stored and its hash. -/
def observationRow (tenantId : Text) (observed : ObservedPayload) (nonce : Uuid) : ObservationLog where
  tenantId := tenantId
  observationId := observed.observation.observationId
  connectorId := observed.observation.connector
  externalObjectType := observed.observation.objectType
  externalObjectId := observed.observation.objectId
  externalEventId := some observed.observation.observationId
  sourceTimestamp := observed.observation.observedAt
  observedAt := observed.observation.observedAt
  payloadHash := observed.rawPayload.payloadHash
  payloadRef := observed.rawPayload.ref
  connectorVersion := "mvp-1"
  schemaVersion := "order-to-cash/1.0.0"
  correlationId := "cor_" ++ nonce.hex.take 16
  ingestOutcome := "accepted"

/-- The commit of `CompilerPersistenceService.persist`. The actor and the mapping version are
constants there. -/
def commitRow (commit : CommitRecord) : CommitLog where
  tenantId := commit.tenantId
  commitId := commit.commitId
  parentCommitId := commit.parentCommitId
  entityType := commit.entityType
  entityId := commit.entityId
  actor := Dict.ofList [("type", .str "system"), ("id", .str "reality-compiler")]
  cause := commit.cause
  observationIds := commit.observationIds
  actionId := none
  mappingVersion := "mvp-1"
  before := commit.before
  after := commit.after
  semanticDiff := commit.semanticDiff
  assuranceLevel := commit.assuranceLevel
  previousHash := commit.previousHash
  hash := commit.hash

/-- The projection of `CompilerPersistenceService.persist`. Confidences, labels and
provenance are columns of their own beside the dumped attributes. -/
def projectionRow (rt : Runtime) (state : OrderState) : StateProjection where
  tenantId := state.tenantId
  entityId := state.entityId
  entityType := state.entityType
  attributes := dumpAttributes rt state.attributes
  confidence := state.attributes.mapValues (fun _ attr => .float attr.confidence)
  freshness := state.attributes.mapValues (fun _ attr => .str attr.freshness)
  provenance := state.attributes.values.flatMap StateAttribute.sourceObservationIds
  producingCommitId := some state.commitId
  stateVersion := state.stateVersion

/-- The row of `persist_conflict`. Only the candidates are dumped; the resolved value goes in
as it is. -/
def conflictRow (rt : Runtime) (conflict : Conflict) : ConflictRecord where
  tenantId := conflict.tenantId
  conflictId := conflict.conflictId
  entityType := conflict.entityType
  entityId := conflict.entityId
  attributeName := conflict.attributeName
  candidates := conflict.candidates.map (ConflictCandidate.dump rt)
  status := conflict.status
  detectedAt := conflict.detectedAt
  resolvedValue := conflict.resolvedValue
  resolvedBy := conflict.resolvedBy
  resolvedAt := conflict.resolvedAt
  resolutionReason := conflict.resolutionReason

/-- The row of `ActionEventPersistenceService.persist`. Every field of the record has a column. -/
def eventRow (event : ActionEventRecord) : ActionEvent where
  tenantId := event.tenantId
  eventId := event.eventId
  actionId := event.actionId
  eventType := event.eventType
  schemaVersion := "actions/1.0.0"
  actor := Dict.ofList [("type", .str "role"), ("id", .str event.actorRole)]
  correlationId := event.actionId
  payload := event.payload
  evidenceRefs := []
  previousEventHash := event.previousEventHash
  eventHash := event.eventHash

end Db
end RealityLayer
