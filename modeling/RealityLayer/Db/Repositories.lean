import RealityLayer.Actions.Proof
import RealityLayer.Db.Models

namespace RealityLayer
namespace Db

open Foundation Python WorldState Actions

/-!
# Sessions, repositories and the services that persist

A session shows the rows of the tables under their keys.  A repository adds a row, or
copies the columns of a row into the one that is stored.  Each write is flushed at once,
and the database may refuse it: a string can be too long for its column, and a key or a
hash can be taken.  The values of attributes and candidates are dumped into the row before
that, and a value that is nested too deep stops the write there.

A row that is read later has the JSON that was written.  Its times denote the same
instants, but the database answers in a zone of its own.  That zone is a parameter here.
-/

/-- What a write raises.  The dump of a row refuses a value that is nested too deep, and the
database refuses a string that is too long, or a key or a hash that is taken. -/
inductive WriteError where
  | valueError
  | dataError
  | integrityError
deriving DecidableEq, Repr

/-- The rows of the tables, under their primary keys. The key of the commit log leaves the
tenant out, so a commit identifier is taken for all tenants at once. -/
structure Session where
  stateProjections : Dict (Text × Text) StateProjection
  commitLog : Dict Text CommitLog
  conflicts : Dict (Text × Text) ConflictRecord
  actionEvents : Dict (Text × Text) ActionEvent
deriving DecidableEq

namespace Session

def empty : Session where
  stateProjections := Dict.empty
  commitLog := Dict.empty
  conflicts := Dict.empty
  actionEvents := Dict.empty

/-- Send a row to the database, which refuses a string that is too long. Nothing is written
of a refused row. -/
def flush (cells : List Cell) (written : Session) : Except WriteError Session :=
  if forall cell, cell ∈ cells -> cell.Fits then .ok written else .error .dataError

theorem flush_ok {cells : List Cell} {written after : Session}
    (flushed : flush cells written = .ok after) : after = written := by
  unfold flush at flushed
  split at flushed
  · exact (Except.ok.inj flushed).symm
  · cases flushed

end Session

/-! ## Repositories -/

namespace StateProjectionRepository

def get (session : Session) (tenantId entityId : Text) : Option StateProjection :=
  session.stateProjections.get? (tenantId, entityId)

/-- The columns that `save` copies into the stored row. -/
def updated (existing projection : StateProjection) : StateProjection :=
  { existing with
    entityType := projection.entityType
    attributes := projection.attributes
    confidence := projection.confidence
    freshness := projection.freshness
    provenance := projection.provenance
    producingCommitId := projection.producingCommitId
    stateVersion := projection.stateVersion }

def save (session : Session) (projection : StateProjection) : Except WriteError Session :=
  let row := match get session projection.tenantId projection.entityId with
    | some existing => updated existing projection
    | none => projection
  Session.flush row.cells { session with
    stateProjections := session.stateProjections.set (projection.tenantId, projection.entityId) row }

end StateProjectionRepository

namespace CommitRepository

/-- A commit identifier is a key for all tenants together. A second row with it is refused,
and not merged. -/
def add (session : Session) (commit : CommitLog) : Except WriteError Session :=
  match session.commitLog.get? commit.commitId with
  | some _ => .error .integrityError
  | none => Session.flush commit.cells { session with
      commitLog := session.commitLog.set commit.commitId commit }

def get (session : Session) (tenantId commitId : Text) : Option CommitLog :=
  (session.commitLog.get? commitId).filter (fun row => decide (row.tenantId = tenantId))

end CommitRepository

namespace ConflictRepository

def get (session : Session) (tenantId conflictId : Text) : Option ConflictRecord :=
  session.conflicts.get? (tenantId, conflictId)

/-- The columns that `save` copies into the stored row. -/
def updated (existing conflict : ConflictRecord) : ConflictRecord :=
  { existing with
    entityType := conflict.entityType
    entityId := conflict.entityId
    attributeName := conflict.attributeName
    candidates := conflict.candidates
    status := conflict.status
    detectedAt := conflict.detectedAt
    resolvedValue := conflict.resolvedValue
    resolvedBy := conflict.resolvedBy
    resolvedAt := conflict.resolvedAt
    resolutionReason := conflict.resolutionReason }

def save (session : Session) (conflict : ConflictRecord) : Except WriteError Session :=
  let row := match get session conflict.tenantId conflict.conflictId with
    | some existing => updated existing conflict
    | none => conflict
  Session.flush row.cells { session with
    conflicts := session.conflicts.set (conflict.tenantId, conflict.conflictId) row }

end ConflictRepository

namespace ActionEventRepository

/-- The key of an event and its hash are both unique among the events of its tenant. A row
that repeats either is refused. -/
def append (session : Session) (event : ActionEvent) : Except WriteError Session :=
  if session.actionEvents.contains (event.tenantId, event.eventId) ||
      session.actionEvents.values.any (fun other =>
        decide (other.tenantId = event.tenantId ∧ other.eventHash = event.eventHash))
  then .error .integrityError
  else Session.flush event.cells { session with
    actionEvents := session.actionEvents.set (event.tenantId, event.eventId) event }

end ActionEventRepository

/-! ## World State -/

namespace CompilerPersistenceService

def persist (rt : Runtime) (session : Session) (state : OrderState) (commit : CommitRecord) :
    Except WriteError Session :=
  match CommitRepository.get session commit.tenantId commit.commitId with
  | some _ => .ok session
  | none => do
      let added <- CommitRepository.add session (commitRow commit)
      if dumpsAll rt state.attributes then
        StateProjectionRepository.save added (projectionRow rt state)
      else .error .valueError

def loadState (rt : Runtime) (session : Session) (tenantId entityId : Text) :
    Except PyError (Option OrderState) :=
  match StateProjectionRepository.get session tenantId entityId with
  | none => .ok none
  | some row =>
      match Tables.readValues (StateAttribute.modelValidate rt) row.attributes.entries with
      | .error error => .error error
      | .ok attributes => .ok (some {
          tenantId
          entityId := row.entityId
          entityType := row.entityType
          stateVersion := row.stateVersion
          attributes := Dict.ofList attributes
          commitId := row.producingCommitId.getD "" })

/-- Every candidate's value can be dumped.  A disputed value was never dumped before: it is
kept out of the state, and so out of the commit. -/
def dumpsCandidates (rt : Runtime) (conflict : Conflict) : Bool :=
  conflict.candidates.all (fun candidate => rt.dumps candidate.value)

def persistConflict (rt : Runtime) (session : Session) (conflict : Conflict) :
    Except WriteError Session :=
  if dumpsCandidates rt conflict then ConflictRepository.save session (conflictRow rt conflict)
  else .error .valueError

/-- `_to_conflict`, of a row whose times come from the database. The zone that the database
answers in is a parameter. -/
def toConflict (rt : Runtime) (zone : Timestamp -> Timestamp) (row : ConflictRecord) :
    Except PyError Conflict :=
  (row.candidates.mapM (ConflictCandidate.modelValidate rt)).map (fun candidates => {
    conflictId := row.conflictId
    tenantId := row.tenantId
    entityType := row.entityType
    entityId := row.entityId
    attributeName := row.attributeName
    candidates
    status := row.status
    detectedAt := zone row.detectedAt
    resolvedValue := row.resolvedValue
    resolvedBy := row.resolvedBy
    resolvedAt := row.resolvedAt.map zone
    resolutionReason := row.resolutionReason })

def loadConflict (rt : Runtime) (zone : Timestamp -> Timestamp) (session : Session)
    (tenantId conflictId : Text) : Except PyError (Option Conflict) :=
  match ConflictRepository.get session tenantId conflictId with
  | none => .ok none
  | some row => (toConflict rt zone row).map some

def loadCommit (session : Session) (tenantId commitId : Text) : Option CommitRecord :=
  (CommitRepository.get session tenantId commitId).map (fun row => {
    commitId := row.commitId
    tenantId := row.tenantId
    parentCommitId := row.parentCommitId
    entityType := row.entityType
    entityId := row.entityId
    cause := row.cause
    observationIds := row.observationIds
    before := row.before
    after := row.after
    semanticDiff := row.semanticDiff
    assuranceLevel := row.assuranceLevel
    previousHash := row.previousHash
    hash := row.hash })

end CompilerPersistenceService

/-! ## Action events -/

namespace ActionEventPersistenceService

def persist (session : Session) (event : ActionEventRecord) : Except WriteError Session :=
  match session.actionEvents.get? (event.tenantId, event.eventId) with
  | some _ => .ok session
  | none => ActionEventRepository.append session (eventRow event)

end ActionEventPersistenceService

end Db
end RealityLayer
