import RealityLayer.Api.Database
import RealityLayer.Worker.Verifier

namespace RealityLayer
namespace Api

open Foundation Python WorldState Actions Connectors

/-!
# Three ways to ingest an observation

With persistence enabled an observation reaches `WorldStateService.ingest` in three ways:
`POST /v1/observations`, `POST /v1/actions/{id}/verify`, and the reads of the verifier
worker.  All of them log the observation and hydrate the entity's state from the
database, and persist the commit and the projection afterwards.

Only the first hydrates the conflicts before and persists them afterwards, and that only
for an observation that the log did not have.  The other two keep what they record about
conflicts to their own process.
-/

/-- A call of `ingest`: its arguments, and the service it is made on. That service is the
process's own after hydration, and not what the process held before the request. -/
structure Ingesting where
  base : WorldStateService
  draws : Draws
  tenantId : Text
  observation : Observation
  cause : Text
  assuranceLevel : Text

section Paths

variable (rt : Runtime)

def Ingesting.outcome (ingesting : Ingesting) : Outcome PyError WorldStateService OrderState :=
  ingesting.base.ingest rt ingesting.draws ingesting.tenantId ingesting.observation ingesting.cause
    ingesting.assuranceLevel

/-- Ingest, persist the answered state if it is asked for, and commit the tables. If `ingest`
raises, the tables stay as they were before the request. -/
def Ingesting.finish (ingesting : Ingesting) (before logged : Tables) (persists : OrderState -> Bool) :
    Outcome PyError Store OrderState :=
  let outcome := ingesting.outcome rt
  match outcome.result with
  | .error error => .raises ⟨outcome.state, before⟩ error
  | .ok state =>
      if persists state then
        match outcome.state.commits.get? (ingesting.tenantId, state.commitId) with
        | none => .raises ⟨outcome.state, before⟩ (.keyError ("Unknown commit: " ++ state.commitId))
        | some commit => .returns ⟨outcome.state, logged.persist rt state commit⟩ state
      else .returns ⟨outcome.state, logged⟩ state

/-! ## `POST /v1/observations` -/

/-- The call of `ingest` that `POST /v1/observations` makes, if it makes one. An observation
with a row and a projection is answered from the projection. -/
def observeIngesting (store : Store) (draws : Draws) (tenantId : Text) (observation : Observation) :
    Option Ingesting :=
  let key := (tenantId, observation.observationId)
  let created := store.tables.createsObservation key
  let logged := store.tables.logObservation key
  match logged.loadState rt tenantId (entityIdOf observation) with
  | .error _ => none
  | .ok existing =>
      match existing.filter (fun _ => !created) with
      | some _ => none
      | none =>
          match logged.listConflicts rt tenantId with
          | .error _ => none
          | .ok conflicts => some {
              base := conflicts.foldl WorldStateService.hydrateConflict
                (store.service.hydrateFrom logged tenantId existing)
              draws, tenantId, observation
              cause := "observation"
              assuranceLevel := "observed" }

/-! ## `POST /v1/actions/{id}/verify` -/

/-- The headers of the request, with what the provider read and everything drawn. The rows
are the tenant's events in whatever order the database gave them. -/
structure VerifyRequest where
  actionId : Text
  tenantId : Text
  rows : List ActionEventRecord
  read : Except PyError Payload
  now : Int
  ingestDraws : Draws
  verifyDraws : Draws

/-- The call of `ingest` for a verification read. It hydrates no conflicts, unlike the one
for an observation. -/
def verifyIngesting (store : Store) (request : VerifyRequest) (observation : Observation)
    (existing : Option OrderState) : Ingesting where
  base := store.service.hydrateFrom store.tables request.tenantId existing
  draws := request.ingestDraws
  tenantId := request.tenantId
  observation := observation
  cause := "verified_action"
  assuranceLevel := "verified"

variable (fromisoformat : Text -> Except PyError Timestamp)

/-- What comes before the session's writes: the capability, the action and the read. -/
def VerifyRequest.observation (request : VerifyRequest) (site : Site) :
    Except PyError Observation :=
  if site.database.hasCapability request.tenantId "shopify" "read" = false then
    .error (.valueError "Shopify read capability is not enabled for this workspace.")
  else do
    let restored := site.process.actions.restoreAll rt request.rows
    let _ ← restored.result
    let _ ← restored.state.getAction request.actionId request.tenantId
    let payload ← request.read
    shopifyNormalize rt fromisoformat request.now payload

/-- The services after the restore, which only a missing capability prevents. They keep what
was restored when the request fails later. -/
def VerifyRequest.restored (request : VerifyRequest) (site : Site) : Site :=
  if site.database.hasCapability request.tenantId "shopify" "read" = false then site
  else site.withActions (site.process.actions.restoreAll rt request.rows).state

/-- `verify_action` of the API. -/
def verifyAction (site : Site) (request : VerifyRequest) : Outcome PyError Site ActionDecision :=
  let restored := request.restored rt site
  match request.observation rt fromisoformat site with
  | .error error => .raises restored error
  | .ok observation =>
      let store : Store := ⟨site.process.world, site.database.tables⟩
      let key := (request.tenantId, observation.observationId)
      let created := store.tables.createsObservation key
      let logged := store.tables.logObservation key
      match logged.loadState rt request.tenantId (entityIdOf observation) with
      | .error error => .raises restored error
      | .ok existing =>
          let ingested := (verifyIngesting ⟨store.service, logged⟩ request observation existing).finish rt
            store.tables logged (fun _ => created)
          let held := restored.withWorld ingested.state.service
          match ingested.result with
          | .error error => .raises held error
          | .ok state =>
              let verified := restored.process.actions.verify rt request.verifyDraws request.actionId
                request.tenantId (some state) true
              match verified.result with
              | .error error => .raises (held.withActions verified.state) error
              | .ok decision =>
                  match persistEventsOf { site.database with tables := ingested.state.tables }
                      verified.state request.actionId request.tenantId with
                  | .error error => .raises (held.withActions verified.state) error
                  | .ok database => .returns { held.withActions verified.state with database } decision

/-! ## The reads of the worker -/

/-- The call of `ingest` for a read of the worker. It hydrates no conflicts and persists none. -/
def workerIngesting (store : Store) (draws : Draws) (tenantId : Text) (observation : Observation)
    (existing : Option OrderState) : Ingesting where
  base := store.service.hydrateFrom store.tables tenantId existing
  draws := draws
  tenantId := tenantId
  observation := observation
  cause := "verification"
  assuranceLevel := "verified"

/-- `_compile_with_persistence`.  The observation is logged only where the worker has an
object store. -/
def compileWithPersistence (stores : Bool) (store : Store) (draws : Draws) (tenantId : Text)
    (observation : Observation) : Outcome PyError Store OrderState :=
  match store.tables.loadState rt tenantId (entityIdOf observation) with
  | .error error => .raises store error
  | .ok existing =>
      let logged := if stores then
        store.tables.logObservation (tenantId, observation.observationId) else store.tables
      (workerIngesting store draws tenantId observation existing).finish rt store.tables logged
        (fun state => decide (existing.map OrderState.commitId ≠ some state.commitId))

/-- `_ingest_verification_read`, with a session. -/
def workerRead (stores : Bool) (store : Store) (tenantId : Text) (attempt : Worker.Attempt) :
    Outcome PyError Store OrderState :=
  match attempt.observation rt fromisoformat with
  | .error error => .raises store error
  | .ok observation => compileWithPersistence rt stores store attempt.ingestDraws tenantId
      (Worker.renamed observation attempt.nonce)

/-! ## `POST /v1/conflicts/{id}/resolve` -/

structure ResolveRequest where
  conflictId : Text
  tenantId : Text
  role : Text
  resolvedValue : Json
  reason : Text
  draws : Draws

def resolverRoles : List Text := ["operations", "admin", "system"]

/-- `load_conflict`. -/
def loadConflict (tables : Tables) (tenantId conflictId : Text) :
    Except PyError (Option Conflict) :=
  match tables.conflicts.get? (tenantId, conflictId) with
  | none => .ok none
  | some row => (Tables.toConflict rt row).map some

/-- Resolve a hydrated conflict, and write the conflict and its entity back. An entity
without a projection gets none from it. -/
def resolveHydrated (store : Store) (hydrated : WorldStateService) (stored : Conflict)
    (existing : Option OrderState) (request : ResolveRequest) :
    Outcome PyError Store Conflict :=
  let outcome := hydrated.resolveConflict rt request.draws request.tenantId request.conflictId
    request.resolvedValue request.role request.reason
  match outcome.result with
  | .error error => .raises ⟨outcome.state, store.tables⟩ error
  | .ok resolved =>
      match existing with
      | none => .returns ⟨outcome.state, store.tables.persistConflict rt resolved⟩ resolved
      | some _ =>
          match outcome.state.states.get? (request.tenantId, stored.entityType, stored.entityId) with
          | none => .raises ⟨outcome.state, store.tables⟩
              (.keyError ("Unknown " ++ stored.entityType ++ ": " ++ stored.entityId))
          | some state =>
              match outcome.state.commits.get? (request.tenantId, state.commitId) with
              | none => .raises ⟨outcome.state, store.tables⟩
                  (.keyError ("Unknown commit: " ++ state.commitId))
              | some commit => .returns ⟨outcome.state,
                  (store.tables.persist rt state commit).persistConflict rt resolved⟩ resolved

/-- `resolve_conflict` of the API. A conflict whose row is resolved is answered from the row. -/
def resolveConflict (store : Store) (request : ResolveRequest) :
    Outcome RequestError Store Conflict :=
  if request.role ∉ resolverRoles then
    .raises store (.http 403 "Only operations, admin, or system may resolve a conflict.")
  else
    match loadConflict rt store.tables request.tenantId request.conflictId with
    | .error error => .raises store (.raised error)
    | .ok none => .raises store (.http 404 ("Unknown conflict: " ++ request.conflictId))
    | .ok (some stored) =>
        if stored.status = ("resolved" : Text) then .returns store stored
        else
          match store.tables.loadState rt request.tenantId
              (stored.entityType ++ ":" ++ stored.entityId) with
          | .error error => .raises store (.raised error)
          | .ok existing =>
              let hydrated := (store.service.hydrateFrom store.tables request.tenantId
                existing).hydrateConflict stored
              let outcome := resolveHydrated rt store hydrated stored existing request
              ⟨outcome.state, outcome.result.mapError .raised⟩

end Paths

end Api
end RealityLayer
