import RealityLayer.Api.Ingestion
import RealityLayer.Api.Proposals
import RealityLayer.WorldState.Rows

namespace RealityLayer
namespace Api

open Foundation Python WorldState WorldStateService Actions Connectors

/-!
# Processes in front of one database

Any number of processes, API and worker alike, take turns on one database.  A turn is a
request: one of the three ways to ingest, a proposal, a resolution, or a restart of the
process.  Every other request is a turn too, and may change anything but the conflicts.

The invariant is about conflicts only.  The maps of each process agree, rows are stored
under their own identifiers, and one registry says for all of them which attribute an
identifier is about.  It holds from any content of the tables on, as long as the
identifiers drawn for conflicts are new.
-/

/-! ## Turns -/

/-- A call of one of the persisted ingestion paths. The worker's may come without a session,
and then it does not touch the tables. -/
inductive IngestCall where
  | observe (draws : Draws) (tenantId : Text) (observation : Observation)
  | verify (request : VerifyRequest)
  | workerRead (stores : Bool) (tenantId : Text) (attempt : Worker.Attempt)

/-- A request to a process; `other` leaves the given site behind. What the other requests may
do is restricted where a result needs it, and not here. -/
inductive Request where
  | ingest (call : IngestCall)
  | propose (request : ProposalRequest)
  | resolve (request : ResolveRequest)
  | restart
  | other (after : Site)

/-- What the runtime and the settings fix for all processes. Two processes of one deployment
differ only in what they have seen. -/
structure Host where
  rt : Runtime
  fromisoformat : Text -> Except PyError Timestamp
  float : ToFloat
  settings : Settings

namespace Site

/-- The World State service and the tables. -/
def store (site : Site) : Store := ⟨site.process.world, site.database.tables⟩

/-- Put a World State service and tables in place. -/
def withStore (site : Site) (store : Store) : Site where
  process := { site.process with world := store.service }
  database := { site.database with tables := store.tables }

end Site

section Calls

variable (host : Host)

/-- The call of `ingest` that a path makes, if it makes one. A path that finds its
observation logged may answer without one. -/
def IngestCall.ingesting (site : Site) : IngestCall -> Option Ingesting
  | .observe draws tenantId observation =>
      observeIngesting host.rt site.store draws tenantId observation
  | .verify request =>
      match request.observation host.rt host.fromisoformat site with
      | .error _ => none
      | .ok observation =>
          let logged := site.database.tables.logObservation (request.tenantId, observation.observationId)
          match logged.loadState host.rt request.tenantId (entityIdOf observation) with
          | .error _ => none
          | .ok existing =>
              some (verifyIngesting ⟨site.process.world, logged⟩ request observation existing)
  | .workerRead _ tenantId attempt =>
      match attempt.observation host.rt host.fromisoformat with
      | .error _ => none
      | .ok observation =>
          let renamed := Worker.renamed observation attempt.nonce
          match site.database.tables.loadState host.rt tenantId (entityIdOf renamed) with
          | .error _ => none
          | .ok existing =>
              some (workerIngesting site.store attempt.ingestDraws tenantId renamed existing)

def IngestCall.perform (site : Site) : IngestCall -> Outcome PyError Site Unit
  | .observe draws tenantId observation =>
      let outcome := ingestObservation host.rt site.store draws tenantId observation
      ⟨site.withStore outcome.state, outcome.result.map (fun _ => ())⟩
  | .verify request => (verifyAction host.rt host.fromisoformat site request).map (fun _ => ())
  | .workerRead stores tenantId attempt =>
      let outcome := Api.workerRead host.rt host.fromisoformat stores site.store tenantId attempt
      ⟨site.withStore outcome.state, outcome.result.map (fun _ => ())⟩

/-- The site that a request leaves behind. -/
def Request.after (site : Site) : Request -> Site
  | .ingest call => (call.perform host site).state
  | .propose request => (proposeAction host.rt host.float host.settings site request).state
  | .resolve request => site.withStore (resolveConflict host.rt site.store request).state
  | .restart => { site with process := .fresh }
  | .other after => after

end Calls

/-! ## The cluster -/

structure Cluster (W : Type) where
  processes : W -> Process
  database : Database

structure Turn (W : Type) where
  worker : W
  request : Request

namespace Cluster

variable {W : Type}

/-- One process of a cluster in front of the database. -/
def site (cluster : Cluster W) (worker : W) : Site := ⟨cluster.processes worker, cluster.database⟩

/-- The identifiers that a call of `ingest` draws for conflicts are new everywhere: to the
rows, and to every process, which may hold conflicts that were never written. -/
structure DrawsFresh (cluster : Cluster W) (ingesting : Ingesting) : Prop where
  rows : forall place, place < ingesting.observation.payload.entries.length ->
    cluster.database.tables.conflicts.get?
      (ingesting.tenantId, newConflictId ingesting.draws place) = none
  held : forall worker, FreshIds (cluster.processes worker).world ingesting.tenantId ingesting.draws 0
    ingesting.observation.payload.entries.length

/-- New identifiers for conflicts; another request changes no conflict. -/
def Admits (host : Host) (cluster : Cluster W) (turn : Turn W) : Prop :=
  match turn.request with
  | .ingest call => forall ingesting, call.ingesting host (cluster.site turn.worker) = some ingesting ->
      cluster.DrawsFresh ingesting
  | .other after =>
      SameConflicts (cluster.processes turn.worker).world after.process.world ∧
        after.database.tables.conflicts = cluster.database.tables.conflicts
  | .propose _ => True
  | .resolve _ => True
  | .restart => True

def next [DecidableEq W] (host : Host) (cluster : Cluster W) (turn : Turn W) : Cluster W :=
  let after := turn.request.after host (cluster.site turn.worker)
  ⟨Function.update cluster.processes turn.worker after.process, after.database⟩

end Cluster

/-- A cluster that starts with fresh processes, in front of any tables. Each turn is a whole
request of one process. -/
def clusterSystem (W : Type) [DecidableEq W] (host : Host) : System (Cluster W) (Turn W) where
  start := fun cluster => (forall worker, cluster.processes worker = .fresh) ∧
    Keyed cluster.database.tables
  admits := fun cluster turn => cluster.Admits host turn
  next := fun cluster turn => cluster.next host turn

/-! ## The invariant -/

/-- All conflicts of the cluster agree with a registry. The registry says once and for all
what an identifier is about, so that copies in different processes cannot drift apart in
that. -/
structure ConflictsSound {W : Type} (registry : Registry) (cluster : Cluster W) : Prop where
  keyed : Keyed cluster.database.tables
  rows : RegisteredRows registry cluster.database.tables
  filed : forall worker, Filed (cluster.processes worker).world
  registered : forall worker, Registered registry (cluster.processes worker).world

/-- The part of it that one process sees. A request works on its own process and the shared
tables, so this is all that it can rely on. -/
structure SiteSound (registry : Registry) (site : Site) : Prop where
  keyed : Keyed site.database.tables
  rows : RegisteredRows registry site.database.tables
  filed : Filed site.process.world
  registered : Registered registry site.process.world

theorem ConflictsSound.site {W : Type} {registry : Registry} {cluster : Cluster W}
    (sound : ConflictsSound registry cluster) (worker : W) :
    SiteSound registry (cluster.site worker) :=
  ⟨sound.keyed, sound.rows, sound.filed worker, sound.registered worker⟩

/-! ## Before the call of `ingest` -/

/-- The base of a call of `ingest` is as sound as the site, and its conflicts come from the
process or from the table. -/
structure BaseSound (registry : Registry) (site : Site) (base : WorldStateService) : Prop where
  filed : Filed base
  registered : Registered registry base
  source : forall id conflict, base.conflictsById.get? id = some conflict ->
    (site.process.world.conflictsById.get? id).isSome = true ∨
      (site.database.tables.conflicts.get? id).isSome = true

section Bases

variable {host : Host} {registry : Registry} {site : Site} {ingesting : Ingesting}

theorem BaseSound.of_same {base : WorldStateService} (sound : SiteSound registry site)
    (same : SameConflicts site.process.world base) : BaseSound registry site base where
  filed := sound.filed.congr same
  registered := sound.registered.congr same
  source := by
    intro id conflict stored
    rw [← same.conflictsById] at stored
    exact Or.inl (Option.isSome_iff_exists.mpr ⟨conflict, stored⟩)

theorem BaseSound.of_listed {base : WorldStateService} {tenantId : Text} {conflicts : List Conflict}
    (sound : SiteSound registry site) (same : SameConflicts site.process.world base)
    (listed : Listed host.rt site.database.tables tenantId conflicts) :
    BaseSound registry site (conflicts.foldl WorldStateService.hydrateConflict base) := by
  rcases hydrateAll_filed (sound.filed.congr same)
    (sound.registered.congr same) (listed.known sound.rows) with ⟨filed, registered⟩
  refine ⟨filed, registered, ?_⟩
  intro id conflict stored
  rcases hydrateAll_source listed.distinct stored with held | ⟨member, inside, named⟩
  · rw [← same.conflictsById] at held
    exact Or.inl held
  · rcases listed.rows member inside with ⟨row, found, _⟩
    rw [named] at found
    exact Or.inr (Option.isSome_iff_exists.mpr ⟨row, found⟩)

/-- The rows that `POST /v1/observations` hydrates before it ingests. -/
theorem observeIngesting_listed {draws : Draws} {tenantId : Text} {observation : Observation}
    (keyed : Keyed site.database.tables)
    (prepared : observeIngesting host.rt site.store draws tenantId observation = some ingesting) :
    ingesting.tenantId = tenantId ∧ Exists fun conflicts : List Conflict =>
      Exists fun base : WorldStateService =>
        Listed host.rt site.database.tables tenantId conflicts ∧
          SameConflicts site.process.world base ∧
          ingesting.base = conflicts.foldl WorldStateService.hydrateConflict base := by
  unfold observeIngesting at prepared
  dsimp only at prepared
  split at prepared
  · cases prepared
  split at prepared
  · cases prepared
  split at prepared
  · cases prepared
  · rename_i listed
    cases prepared
    have rows := logObservation_conflicts site.database.tables (tenantId, observation.observationId)
    exact ⟨rfl, _, _, (listConflicts_listed (keyed.congr rows) listed).congr rows,
      hydrateFrom_sameConflicts _ _ _ _, rfl⟩

theorem ingesting_base {call : IngestCall} (sound : SiteSound registry site)
    (prepared : call.ingesting host site = some ingesting) :
    BaseSound registry site ingesting.base := by
  cases call with
  | observe draws tenantId observation =>
      rcases observeIngesting_listed sound.keyed prepared with ⟨_, conflicts, base, listed, same, based⟩
      rw [based]
      exact .of_listed sound same listed
  | verify request =>
      dsimp only [IngestCall.ingesting] at prepared
      split at prepared
      · cases prepared
      split at prepared
      · cases prepared
      · cases prepared
        exact .of_same sound (hydrateFrom_sameConflicts _ _ _ _)
  | workerRead stores tenantId attempt =>
      dsimp only [IngestCall.ingesting] at prepared
      split at prepared
      · cases prepared
      split at prepared
      · cases prepared
      · cases prepared
        exact .of_same sound (hydrateFrom_sameConflicts _ _ _ _)

/-- Identifiers that are new to the process and to the table are new to the base. -/
theorem BaseSound.freshIds {base : WorldStateService} {tenantId : Text} {draws : Draws} {count : Nat}
    (sound : BaseSound registry site base)
    (held : FreshIds site.process.world tenantId draws 0 count)
    (rows : forall place, place < count ->
      site.database.tables.conflicts.get? (tenantId, newConflictId draws place) = none) :
    FreshIds base tenantId draws 0 count where
  new := by
    intro offset inside
    cases found : base.conflictsById.get? (tenantId, newConflictId draws (0 + offset)) with
    | none => rfl
    | some conflict =>
        rcases sound.source _ conflict found with earlier | stored
        · rw [held.new offset inside] at earlier
          cases earlier
        · rw [Nat.zero_add, rows offset inside] at stored
          cases stored
  distinct := held.distinct

end Bases

/-! ## What an ingestion call does to conflicts -/

/-- The path persists conflicts: it is `POST /v1/observations`, for an observation that the
log does not have. -/
def IngestCall.PersistsConflicts (database : Database) : IngestCall -> Prop
  | .observe _ tenantId observation =>
      (tenantId, observation.observationId) ∉ database.tables.observationLog
  | .verify _ => False
  | .workerRead _ _ _ => False

/-- Everything an ingestion call can do to the conflicts of the process and the table. A call
that stops before the ingestion touches neither. -/
inductive CallEffect (host : Host) (call : IngestCall) (site : Site) (result : Except PyError Unit)
    (after : Site) : Prop
  | quiet (unprepared : call.ingesting host site = none)
      (world : SameConflicts site.process.world after.process.world)
      (rows : after.database.tables.conflicts = site.database.tables.conflicts)
  | ingested (ingesting : Ingesting) (prepared : call.ingesting host site = some ingesting)
      (world : after.process.world = (ingesting.outcome host.rt).state)
      (answered : result = .ok () -> Exists fun state : OrderState =>
        (ingesting.outcome host.rt).result = .ok state)
      (unpersisted : result = .ok () -> ¬ call.PersistsConflicts site.database)
      (rows : after.database.tables.conflicts = site.database.tables.conflicts)
  | persisted (ingesting : Ingesting) (prepared : call.ingesting host site = some ingesting)
      (world : after.process.world = (ingesting.outcome host.rt).state)
      (answered : Exists fun state : OrderState => (ingesting.outcome host.rt).result = .ok state)
      (persists : call.PersistsConflicts site.database)
      (rows : after.database.tables.conflicts = (site.database.tables.persistConflicts host.rt
        (ingesting.outcome host.rt).state ingesting.tenantId).conflicts)

section Effects

variable {host : Host} {site : Site}

/-- Ingesting for a verification touches no row of a conflict. -/
theorem finish_frame (rt : Runtime) (ingesting : Ingesting) {before logged : Tables}
    (same : logged.conflicts = before.conflicts) (persists : OrderState -> Bool) :
    let outcome := ingesting.finish rt before logged persists
    outcome.state.service = (ingesting.outcome rt).state ∧
      outcome.state.tables.conflicts = before.conflicts ∧
      forall state, outcome.result = .ok state -> (ingesting.outcome rt).result = .ok state := by
  dsimp only
  unfold Ingesting.finish
  dsimp only
  cases answered : (ingesting.outcome rt).result with
  | error error => exact ⟨rfl, rfl, fun state returned => by cases returned⟩
  | ok state =>
      dsimp only
      split
      · split
        · exact ⟨rfl, rfl, fun state returned => by cases returned⟩
        · refine ⟨rfl, (persist_conflicts _ _ _).trans same, fun other returned => ?_⟩
          cases returned
          rfl
      · refine ⟨rfl, same, fun other returned => ?_⟩
        cases returned
        rfl

section Observing

variable {draws : Draws} {tenantId : Text} {observation : Observation} {existing : Option OrderState}
variable {conflicts : List Conflict}

/-- An observation that is not answered from its projection is ingested on the hydrated rows. -/
theorem observeIngesting_prepared
    (loaded : (site.store.tables.logObservation (tenantId, observation.observationId)).loadState host.rt
      tenantId (entityIdOf observation) = .ok existing)
    (unknown : existing.filter (fun _ =>
      !decide ((tenantId, observation.observationId) ∉ site.store.tables.observationLog)) = none)
    (listed : (site.store.tables.logObservation (tenantId, observation.observationId)).listConflicts
      host.rt tenantId = .ok conflicts) :
    observeIngesting host.rt site.store draws tenantId observation =
      some ⟨conflicts.foldl WorldStateService.hydrateConflict
        (site.store.service.hydrateFrom (site.store.tables.logObservation
          (tenantId, observation.observationId)) tenantId existing),
        draws, tenantId, observation, "observation", "observed"⟩ := by
  unfold observeIngesting Tables.createsObservation
  dsimp only
  rw [loaded]
  dsimp only
  rw [unknown]
  dsimp only
  rw [listed]

/-- A request that gets to `ingest` persists conflicts only for an observation without a row. -/
theorem observe_ingested
    (loaded : (site.store.tables.logObservation (tenantId, observation.observationId)).loadState host.rt
      tenantId (entityIdOf observation) = .ok existing)
    (unknown : existing.filter (fun _ =>
      !decide ((tenantId, observation.observationId) ∉ site.store.tables.observationLog)) = none)
    (listed : (site.store.tables.logObservation (tenantId, observation.observationId)).listConflicts
      host.rt tenantId = .ok conflicts) :
    CallEffect host (.observe draws tenantId observation) site
      ((IngestCall.observe draws tenantId observation).perform host site).result
      ((IngestCall.observe draws tenantId observation).perform host site).state := by
  have logs := logObservation_conflicts site.database.tables (tenantId, observation.observationId)
  have prepared : (IngestCall.observe draws tenantId observation).ingesting host site = _ :=
    observeIngesting_prepared loaded unknown listed
  dsimp only [IngestCall.perform]
  unfold ingestObservation
  dsimp only
  rw [loaded]
  dsimp only
  rw [unknown]
  dsimp only
  rw [listed]
  dsimp only
  generalize conflicts.foldl WorldStateService.hydrateConflict _ = base at prepared ⊢
  cases answered : (base.ingest host.rt draws tenantId observation "observation" "observed").result with
  | error error =>
      exact .ingested _ prepared rfl (fun same => by cases same) (fun same => by cases same) rfl
  | ok state =>
      dsimp only
      by_cases created : (tenantId, observation.observationId) ∉ site.store.tables.observationLog
      · rw [if_pos (decide_eq_true created)]
        cases stored : (base.ingest host.rt draws tenantId observation "observation"
            "observed").state.commits.get? (tenantId, state.commitId) with
        | none =>
            exact .ingested _ prepared rfl (fun same => by cases same) (fun same => by cases same) rfl
        | some commit =>
            exact .persisted _ prepared rfl ⟨state, answered⟩ created
              (persistConflicts_congr ((persist_conflicts _ _ _).trans logs) _)
      · rw [if_neg (fun same => created (of_decide_eq_true same))]
        exact .ingested _ prepared rfl (fun _ => ⟨state, answered⟩)
          (fun _ persists => created persists) logs

end Observing

theorem observe_effect (draws : Draws) (tenantId : Text) (observation : Observation) :
    CallEffect host (.observe draws tenantId observation) site
      ((IngestCall.observe draws tenantId observation).perform host site).result
      ((IngestCall.observe draws tenantId observation).perform host site).state := by
  cases loaded : (site.store.tables.logObservation (tenantId, observation.observationId)).loadState
      host.rt tenantId (entityIdOf observation) with
  | error error =>
      dsimp only [IngestCall.perform]
      unfold ingestObservation
      dsimp only
      rw [loaded]
      refine .quiet ?_ ⟨rfl, rfl⟩ rfl
      dsimp only [IngestCall.ingesting]
      unfold observeIngesting
      dsimp only
      rw [loaded]
  | ok existing =>
      cases known : existing.filter (fun _ =>
          !decide ((tenantId, observation.observationId) ∉ site.store.tables.observationLog)) with
      | some state =>
          dsimp only [IngestCall.perform]
          unfold ingestObservation
          dsimp only
          rw [loaded]
          dsimp only
          rw [known]
          refine .quiet ?_ (hydrateFrom_sameConflicts _ _ _ _) (logObservation_conflicts _ _)
          dsimp only [IngestCall.ingesting]
          unfold observeIngesting Tables.createsObservation
          dsimp only
          rw [loaded]
          dsimp only
          rw [known]
      | none =>
          cases listed : (site.store.tables.logObservation
              (tenantId, observation.observationId)).listConflicts host.rt tenantId with
          | error error =>
              dsimp only [IngestCall.perform]
              unfold ingestObservation
              dsimp only
              rw [loaded]
              dsimp only
              rw [known]
              dsimp only
              rw [listed]
              refine .quiet ?_ (hydrateFrom_sameConflicts _ _ _ _) rfl
              dsimp only [IngestCall.ingesting]
              unfold observeIngesting Tables.createsObservation
              dsimp only
              rw [loaded]
              dsimp only
              rw [known]
              dsimp only
              rw [listed]
          | ok conflicts => exact observe_ingested loaded known listed

theorem workerRead_effect (stores : Bool) (tenantId : Text) (attempt : Worker.Attempt) :
    CallEffect host (.workerRead stores tenantId attempt) site
      ((IngestCall.workerRead stores tenantId attempt).perform host site).result
      ((IngestCall.workerRead stores tenantId attempt).perform host site).state := by
  dsimp only [IngestCall.perform]
  unfold Api.workerRead compileWithPersistence
  cases read : attempt.observation host.rt host.fromisoformat with
  | error error =>
      refine .quiet ?_ ⟨rfl, rfl⟩ rfl
      dsimp only [IngestCall.ingesting]
      rw [read]
  | ok observation =>
      dsimp only
      cases loaded : site.store.tables.loadState host.rt tenantId
          (entityIdOf (Worker.renamed observation attempt.nonce)) with
      | error error =>
          refine .quiet ?_ ⟨rfl, rfl⟩ rfl
          dsimp only [IngestCall.ingesting]
          rw [read]
          dsimp only
          rw [show site.database.tables = site.store.tables from rfl, loaded]
      | ok existing =>
          dsimp only
          have prepared : (IngestCall.workerRead stores tenantId attempt).ingesting host site =
              some (workerIngesting site.store attempt.ingestDraws tenantId
                (Worker.renamed observation attempt.nonce) existing) := by
            dsimp only [IngestCall.ingesting]
            rw [read]
            dsimp only
            rw [show site.database.tables = site.store.tables from rfl, loaded]
          generalize workerIngesting site.store attempt.ingestDraws tenantId
            (Worker.renamed observation attempt.nonce) existing = ingesting at prepared ⊢
          have logs : (if stores = true then site.store.tables.logObservation
              (tenantId, (Worker.renamed observation attempt.nonce).observationId)
                else site.store.tables).conflicts = site.store.tables.conflicts := by
            split
            · exact logObservation_conflicts _ _
            · rfl
          rcases finish_frame host.rt ingesting logs
            (fun state => decide (existing.map OrderState.commitId ≠ some state.commitId)) with
              ⟨world, rows, answered⟩
          refine .ingested ingesting prepared world ?_ (fun _ persists => persists) rows
          intro returned
          generalize ingesting.finish host.rt site.store.tables _ _ = outcome at returned answered
          cases finished : outcome.result with
          | error error =>
              rw [finished] at returned
              cases returned
          | ok state => exact ⟨state, answered state finished⟩

/-- Listing the events of an action changes the event table only. -/
theorem persistEventsOf_tables {database later : Database} {actions : ActionService}
    {actionId tenantId : Text} (persisted : persistEventsOf database actions actionId tenantId =
      .ok later) : later.tables = database.tables := by
  unfold persistEventsOf at persisted
  cases listed : actions.listEvents actionId tenantId with
  | error error =>
      rw [listed] at persisted
      cases persisted
  | ok events =>
      rw [listed] at persisted
      cases persisted
      rfl

theorem restored_frame (rt : Runtime) (request : VerifyRequest) (site : Site) :
    (request.restored rt site).process.world = site.process.world ∧
      (request.restored rt site).database = site.database := by
  unfold VerifyRequest.restored
  split
  · exact ⟨rfl, rfl⟩
  · exact ⟨rfl, rfl⟩

theorem verify_effect (request : VerifyRequest) :
    CallEffect host (.verify request) site
      ((IngestCall.verify request).perform host site).result
      ((IngestCall.verify request).perform host site).state := by
  rcases restored_frame host.rt request site with ⟨world, database⟩
  dsimp only [IngestCall.perform]
  unfold verifyAction Tables.createsObservation
  dsimp only
  cases read : request.observation host.rt host.fromisoformat site with
  | error error =>
      refine .quiet ?_ (world ▸ .refl _) (database ▸ rfl)
      dsimp only [IngestCall.ingesting]
      rw [read]
  | ok observation =>
      dsimp only
      have logs := logObservation_conflicts site.database.tables
        (request.tenantId, observation.observationId)
      cases loaded : (site.database.tables.logObservation
          (request.tenantId, observation.observationId)).loadState host.rt request.tenantId
            (entityIdOf observation) with
      | error error =>
          refine .quiet ?_ (world ▸ .refl _) (database ▸ rfl)
          dsimp only [IngestCall.ingesting]
          rw [read]
          dsimp only
          rw [loaded]
      | ok existing =>
          dsimp only
          have prepared : (IngestCall.verify request).ingesting host site =
              some (verifyIngesting ⟨site.process.world, site.database.tables.logObservation
                (request.tenantId, observation.observationId)⟩ request observation existing) := by
            dsimp only [IngestCall.ingesting]
            rw [read]
            dsimp only
            rw [loaded]
          generalize verifyIngesting ⟨site.process.world, site.database.tables.logObservation
            (request.tenantId, observation.observationId)⟩ request observation existing = ingesting
              at prepared ⊢
          rcases finish_frame host.rt ingesting logs
            (fun _ => decide ((request.tenantId, observation.observationId) ∉
              site.database.tables.observationLog)) with ⟨compiled, rows, answered⟩
          generalize ingesting.finish host.rt site.database.tables _ _ = ingested at compiled rows answered ⊢
          have unpersisted (result : Except PyError Unit) : result = .ok () ->
              ¬ (IngestCall.verify request).PersistsConflicts site.database :=
            fun _ persists => persists
          cases finished : ingested.result with
          | error error =>
              exact .ingested ingesting prepared compiled (fun same => by cases same) (unpersisted _)
                (congrArg (fun database : Database => database.tables.conflicts) database)
          | ok state =>
              dsimp only
              cases verified : ((request.restored host.rt site).process.actions.verify host.rt
                  request.verifyDraws request.actionId request.tenantId (some state) true).result with
              | error error =>
                  exact .ingested ingesting prepared compiled (fun same => by cases same)
                    (unpersisted _)
                    (congrArg (fun database : Database => database.tables.conflicts) database)
              | ok decision =>
                  dsimp only
                  cases persisted : persistEventsOf { site.database with tables := ingested.state.tables }
                      ((request.restored host.rt site).process.actions.verify host.rt
                        request.verifyDraws request.actionId request.tenantId (some state) true).state
                      request.actionId request.tenantId with
                  | error error =>
                      exact .ingested ingesting prepared compiled (fun same => by cases same)
                        (unpersisted _)
                        (congrArg (fun database : Database => database.tables.conflicts) database)
                  | ok later =>
                      refine .ingested ingesting prepared compiled (fun _ => ⟨state, answered state finished⟩)
                        (unpersisted _) ?_
                      exact (congrArg Tables.conflicts (persistEventsOf_tables persisted)).trans rows

theorem perform_effect (host : Host) (call : IngestCall) (site : Site) :
    CallEffect host call site (call.perform host site).result (call.perform host site).state := by
  cases call with
  | observe draws tenantId observation => exact observe_effect draws tenantId observation
  | verify request => exact verify_effect request
  | workerRead stores tenantId attempt => exact workerRead_effect stores tenantId attempt

end Effects

end Api
end RealityLayer
