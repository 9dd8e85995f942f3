import RealityLayer.Api.Cluster
import RealityLayer.Worker.Soundness

namespace RealityLayer
namespace Api

open Foundation Python WorldState WorldStateService Actions Connectors

/-!
# Conflicts and the proposal gate

An open row stays open, about the same attribute, until its conflict is resolved: the only
path that writes rows has read all rows of the tenant before.  As long as it stays open, no
process answers a new proposal against its entity with `approval_required`.

So a conflict gates proposals from the moment it has a row.  Only `POST /v1/observations`
writes one, and only for an observation that the log did not have.  A conflict that
another path records stays in the memory of its process, and no proposal sees it.
-/

/-! ## One request -/

section Requests

variable {host : Host} {registry : Registry} {site : Site}

theorem SiteSound.congr {after : Site} (sound : SiteSound registry site)
    (world : SameConflicts site.process.world after.process.world)
    (rows : after.database.tables.conflicts = site.database.tables.conflicts) :
    SiteSound registry after :=
  ⟨sound.keyed.congr rows, sound.rows.congr rows, sound.filed.congr world,
    sound.registered.congr world⟩

/-- Two registries differ at most on the identifiers that an ingestion draws. -/
def Ingesting.Agree (ingesting : Ingesting) (registry later : Registry) : Prop :=
  AgreeBut ingesting.tenantId ingesting.draws 0 ingesting.observation.payload.entries.length registry
    later

/-- The identifiers that an ingestion draws are new to the process and to the table. What
other processes hold is not asked for here. -/
structure SiteFresh (site : Site) (ingesting : Ingesting) : Prop where
  rows : forall place, place < ingesting.observation.payload.entries.length ->
    site.database.tables.conflicts.get?
      (ingesting.tenantId, newConflictId ingesting.draws place) = none
  held : FreshIds site.process.world ingesting.tenantId ingesting.draws 0
    ingesting.observation.payload.entries.length

/-- What a prepared call of `ingest` does, on the process and the table it is made in. -/
theorem ingesting_outcome {call : IngestCall} {ingesting : Ingesting} (sound : SiteSound registry site)
    (prepared : call.ingesting host site = some ingesting) (fresh : SiteFresh site ingesting) :
    BaseSound registry site ingesting.base ∧
      FreshIds ingesting.base ingesting.tenantId ingesting.draws 0
        ingesting.observation.payload.entries.length ∧
      Filed (ingesting.outcome host.rt).state ∧
      Extends ingesting.tenantId ingesting.draws 0 ingesting.observation.payload.entries.length
        ingesting.base (ingesting.outcome host.rt).state := by
  have base := ingesting_base sound prepared
  have new := base.freshIds fresh.held fresh.rows
  exact ⟨base, new, ingest_filed base.filed new⟩

/-- An ingestion call keeps the site sound, with a registry that knows the new conflicts. -/
theorem SiteSound.performed {call : IngestCall} (sound : SiteSound registry site)
    (fresh : forall ingesting, call.ingesting host site = some ingesting -> SiteFresh site ingesting) :
    SiteSound registry (call.perform host site).state ∨
      Exists fun ingesting : Ingesting => call.ingesting host site = some ingesting ∧
        Exists fun later : Registry => ingesting.Agree registry later ∧
          SiteSound later (call.perform host site).state := by
  have extended : forall ingesting, call.ingesting host site = some ingesting ->
      (call.perform host site).state.process.world = (ingesting.outcome host.rt).state ->
        let later := following registry (ingesting.outcome host.rt).state
        ingesting.Agree registry later ∧ RegisteredRows later site.database.tables ∧
          Filed (call.perform host site).state.process.world ∧
          Registered later (call.perform host site).state.process.world := by
    intro ingesting prepared world
    rcases ingesting_outcome sound prepared (fresh ingesting prepared) with ⟨base, _, filed, grows⟩
    have agree := following_agrees base.registered grows
    refine ⟨agree, sound.rows.agree agree (fresh ingesting prepared).rows, world ▸ filed, ?_⟩
    rw [world]
    exact following_registered _ _
  cases perform_effect host call site with
  | quiet _ world rows => exact Or.inl (sound.congr world rows)
  | ingested ingesting prepared world _ _ rows =>
      rcases extended ingesting prepared world with ⟨agree, registered, filed, known⟩
      exact Or.inr ⟨ingesting, prepared, _, agree, sound.keyed.congr rows, registered.congr rows, filed,
        known⟩
  | persisted ingesting prepared world _ _ rows =>
      rcases extended ingesting prepared world with ⟨agree, registered, filed, known⟩
      rw [world] at filed known
      refine Or.inr ⟨ingesting, prepared, _, agree, ?_, ?_, world ▸ filed, world ▸ known⟩
      · exact (persistConflicts_keyed filed sound.keyed).congr rows
      · exact (persistConflicts_registered filed known registered).congr rows

/-- A proposal changes no conflict. It reads the rows of the open ones and asks nothing more
of them. -/
theorem proposeAction_frame (rt : Runtime) (float : ToFloat) (settings : Settings) (site : Site)
    (request : ProposalRequest) :
    (proposeAction rt float settings site request).state.process.world = site.process.world ∧
      (proposeAction rt float settings site request).state.database.tables = site.database.tables := by
  unfold proposeAction
  split
  · exact ⟨rfl, rfl⟩
  dsimp only
  split
  · exact ⟨rfl, rfl⟩
  split
  · exact ⟨rfl, rfl⟩
  split
  · exact ⟨rfl, rfl⟩
  split
  · exact ⟨rfl, rfl⟩
  · exact ⟨rfl, persistEventsOf_tables ‹_›⟩

/-- What a resolution can change: the process, and the row under the identifier it names.
Every other row is as it was. -/
structure Resolved (registry : Registry) (request : ResolveRequest) (before after : Store) : Prop where
  keyed : Keyed after.tables
  rows : RegisteredRows registry after.tables
  filed : Filed after.service
  registered : Registered registry after.service
  others : forall id, id ≠ (request.tenantId, request.conflictId) ->
    after.tables.conflicts.get? id = before.tables.conflicts.get? id

/-- Writing the resolved conflict back. -/
theorem Resolved.written {rt : Runtime} {request : ResolveRequest} {before : Store}
    {service : WorldStateService} {tables : Tables} {resolved : Conflict}
    (keyed : Keyed before.tables) (rows : RegisteredRows registry before.tables) (filed : Filed service)
    (registered : Registered registry service)
    (same : tables.conflicts = before.tables.conflicts)
    (named : resolved.storedId = (request.tenantId, request.conflictId))
    (about : resolved.key = registry (request.tenantId, request.conflictId)) :
    Resolved registry request before ⟨service, tables.persistConflict rt resolved⟩ where
  keyed := persistConflict_keyed (keyed.congr same) resolved
  rows := persistConflict_registered (rows.congr same) (named ▸ about)
  filed := filed
  registered := registered
  others := by
    intro id other
    exact (persistConflict_other resolved (named ▸ other)).trans (by rw [same])

theorem resolveHydrated_resolved {rt : Runtime} {store : Store} {hydrated : WorldStateService}
    {stored : Conflict} {existing : Option OrderState} {request : ResolveRequest}
    (keyed : Keyed store.tables) (rows : RegisteredRows registry store.tables) (filed : Filed hydrated)
    (registered : Registered registry hydrated) :
    Resolved registry request store
      (resolveHydrated rt store hydrated stored existing request).state := by
  rcases resolveConflict_filed rt request.draws request.tenantId
    request.conflictId request.resolvedValue request.role request.reason filed registered with
      ⟨filed', registered', answered⟩
  unfold resolveHydrated
  dsimp only
  cases finished : (hydrated.resolveConflict rt request.draws request.tenantId request.conflictId
      request.resolvedValue request.role request.reason).result with
  | error error => exact ⟨keyed, rows, filed', registered', fun _ _ => rfl⟩
  | ok resolved =>
      rcases answered resolved finished with ⟨named, about⟩
      cases existing with
      | none => exact .written keyed rows filed' registered' rfl named about
      | some _ =>
          dsimp only
          split
          · exact ⟨keyed, rows, filed', registered', fun _ _ => rfl⟩
          split
          · exact ⟨keyed, rows, filed', registered', fun _ _ => rfl⟩
          · exact .written keyed rows filed' registered' (persist_conflicts _ _ _) named about

theorem resolveConflict_resolved (rt : Runtime) (request : ResolveRequest)
    (sound : SiteSound registry site) :
    Resolved registry request site.store (resolveConflict rt site.store request).state := by
  have kept : Resolved registry request site.store site.store :=
    ⟨sound.keyed, sound.rows, sound.filed, sound.registered, fun _ _ => rfl⟩
  unfold resolveConflict loadConflict
  split
  · exact kept
  cases found : site.store.tables.conflicts.get? (request.tenantId, request.conflictId) with
  | none => exact kept
  | some row =>
      dsimp only
      cases read : Tables.toConflict rt row with
      | error error => exact kept
      | ok stored =>
          dsimp only [Except.map]
          split
          · exact kept
          split
          · exact kept
          · rcases toConflict_ok read with ⟨named, about, _⟩
            have known : stored.key = registry stored.storedId := by
              rw [about, named, sound.keyed _ _ found]
              exact sound.rows _ _ found
            have same := hydrateFrom_sameConflicts site.store.service site.store.tables
              request.tenantId ‹_›
            exact resolveHydrated_resolved sound.keyed sound.rows
              ((sound.filed.congr same).hydrateConflict (sound.registered.congr same) known)
              (hydrateConflict_registered (sound.registered.congr same) known)

end Requests

/-! ## The cluster -/

namespace ConflictsSound

variable {W : Type} [DecidableEq W] {host : Host} {registry later : Registry} {cluster : Cluster W}
variable {worker : W} {after : Site}

/-- One process has taken a turn, and the others know nothing under the new identifiers. -/
theorem updated (sound : ConflictsSound registry cluster) (site : SiteSound later after)
    (others : forall other, Registered later (cluster.processes other).world) :
    ConflictsSound later
      ⟨Function.update cluster.processes worker after.process, after.database⟩ where
  keyed := site.keyed
  rows := site.rows
  filed := by
    intro other
    dsimp only
    by_cases same : other = worker
    · rw [same, Function.update_self]
      exact site.filed
    · rw [Function.update_of_ne same]
      exact sound.filed other
  registered := by
    intro other
    dsimp only
    by_cases same : other = worker
    · rw [same, Function.update_self]
      exact site.registered
    · rw [Function.update_of_ne same]
      exact others other

/-- Every turn keeps the conflicts sound, with a registry that knows the new ones. The
registry only grows along a run. -/
theorem step (sound : ConflictsSound registry cluster) {turn : Turn W}
    (admitted : cluster.Admits host turn) :
    Exists fun later : Registry => ConflictsSound later (cluster.next host turn) := by
  rcases turn with ⟨worker, request⟩
  have site := sound.site worker
  cases request with
  | ingest call =>
      have fresh : forall ingesting, call.ingesting host (cluster.site worker) = some ingesting ->
          SiteFresh (cluster.site worker) ingesting := by
        intro ingesting prepared
        have drawn := admitted ingesting prepared
        exact ⟨drawn.rows, drawn.held worker⟩
      rcases site.performed fresh with same | ⟨ingesting, prepared, later, agree, kept⟩
      · exact ⟨registry, sound.updated same sound.registered⟩
      · have drawn := admitted ingesting prepared
        exact ⟨later, sound.updated kept
          (fun other => (sound.registered other).agree agree (drawn.held other))⟩
  | propose request =>
      rcases proposeAction_frame host.rt host.float host.settings
        (cluster.site worker) request with ⟨world, tables⟩
      exact ⟨registry, sound.updated (site.congr (world ▸ .refl _) (tables ▸ rfl)) sound.registered⟩
  | resolve request =>
      have resolved := resolveConflict_resolved host.rt request site
      have kept : SiteSound registry (Request.after host (cluster.site worker) (.resolve request)) :=
        ⟨resolved.keyed, resolved.rows, resolved.filed, resolved.registered⟩
      exact ⟨registry, sound.updated kept sound.registered⟩
  | restart =>
      have kept : SiteSound registry (Request.after host (cluster.site worker) .restart) := by
        refine ⟨site.keyed, site.rows, .fresh, ?_⟩
        intro id conflict stored
        cases stored
      exact ⟨registry, sound.updated kept sound.registered⟩
  | other after =>
      rcases admitted with ⟨world, rows⟩
      exact ⟨registry, sound.updated (site.congr world rows) sound.registered⟩

end ConflictsSound

/-- The conflicts of all processes and of the table agree with one registry. So no identifier
stands for two attributes. -/
def Cluster.Sound {W : Type} (cluster : Cluster W) : Prop :=
  Exists fun registry : Registry => ConflictsSound registry cluster

theorem start_sound {W : Type} [DecidableEq W] {host : Host} (cluster : Cluster W)
    (initial : (clusterSystem W host).start cluster) : cluster.Sound := by
  rcases initial with ⟨fresh, keyed⟩
  refine ⟨fun id => ((cluster.database.tables.conflicts.get? id).map
    (fun row => row.conflict.key)).getD ("", "", "", ""), keyed, ?_, ?_, ?_⟩
  · intro id row stored
    dsimp only
    rw [stored]
    rfl
  · intro worker
    rw [fresh worker]
    exact .fresh
  · intro worker id conflict stored
    rw [fresh worker] at stored
    cases stored

theorem Cluster.Sound.next {W : Type} [DecidableEq W] {host : Host} {cluster : Cluster W}
    (turn : Turn W) (sound : cluster.Sound) (admitted : cluster.Admits host turn) :
    (cluster.next host turn).Sound := by
  rcases sound with ⟨registry, sound⟩
  exact sound.step admitted

theorem run_sound {W : Type} [DecidableEq W] {host : Host} {history : List (Step (Cluster W) (Turn W))}
    {cluster : Cluster W} (run : (clusterSystem W host).Run history cluster) : cluster.Sound :=
  run.invariant start_sound (fun _ turn sound admitted => sound.next turn admitted)

/-! ## An open row stays open -/

/-- The request resolves the conflict with an identifier. Whether it succeeds is not asked. -/
def Request.Resolves (id : Text × Text) : Request -> Prop
  | .resolve request => id = (request.tenantId, request.conflictId)
  | .ingest _ => False
  | .propose _ => False
  | .restart => False
  | .other _ => False

section Staying

variable {host : Host} {registry : Registry} {site : Site}
variable {id : Text × Text} {key : Text × Text × Text × Text}

theorem perform_stays {call : IngestCall} (sound : SiteSound registry site)
    (fresh : forall ingesting, call.ingesting host site = some ingesting -> SiteFresh site ingesting)
    (waits : OpenUnder site.database.tables id key) :
    OpenUnder (call.perform host site).state.database.tables id key := by
  cases perform_effect host call site with
  | quiet _ _ rows => exact waits.congr (by rw [rows])
  | ingested _ _ _ _ _ rows => exact waits.congr (by rw [rows])
  | persisted ingesting prepared _ _ persists rows =>
      cases call with
      | observe draws tenantId observation =>
          rcases observeIngesting_listed sound.keyed prepared with
              ⟨rfl, conflicts, base, listed, _, based⟩
          rcases ingesting_outcome sound prepared (fresh ingesting prepared) with ⟨_, _, filed, grows⟩
          rw [based] at grows
          exact (waits.persisted sound.keyed listed grows filed).congr (by rw [rows])
      | verify request => exact persists.elim
      | workerRead stores tenantId attempt => exact persists.elim

/-- An open row stays open, about the same attribute, unless its conflict is resolved.
Writing it back from another process does not close it. -/
theorem turn_stays {W : Type} [DecidableEq W] {cluster : Cluster W} {turn : Turn W}
    (sound : cluster.Sound) (admitted : cluster.Admits host turn)
    (unresolved : ¬ turn.request.Resolves id)
    (waits : OpenUnder cluster.database.tables id key) :
    OpenUnder (cluster.next host turn).database.tables id key := by
  rcases sound with ⟨registry, sound⟩
  rcases turn with ⟨worker, request⟩
  have site := sound.site worker
  cases request with
  | ingest call =>
      refine perform_stays site ?_ waits
      intro ingesting prepared
      have drawn := admitted ingesting prepared
      exact ⟨drawn.rows, drawn.held worker⟩
  | propose request =>
      rcases proposeAction_frame host.rt host.float host.settings
        (cluster.site worker) request with ⟨_, tables⟩
      apply waits.congr
      exact congrArg (fun tables : Tables => tables.conflicts.get? id) tables
  | resolve request =>
      exact waits.congr ((resolveConflict_resolved host.rt request site).others id unresolved)
  | restart => exact waits
  | other after => exact waits.congr (congrArg (fun rows => rows.get? id) admitted.2)

end Staying

/-! ## The gate -/

/-- No process answers a new proposal against an entity with `approval_required`. The row
alone decides it, so a process that was just started refuses as well. -/
structure Gates {W : Type} (host : Host) (cluster : Cluster W) (tenantId entityType entityId : Text) :
    Prop where
  row : hasOpenConflictForEntity cluster.database.tables tenantId entityType entityId = true
  refuses : forall (worker : W) (request : ProposalRequest), request.tenantId = tenantId ->
    request.proposal.targetEntity = entityType ++ ":" ++ entityId ->
    NewKey host.rt (cluster.site worker) request ->
    ¬ AnswersApproval host.rt host.float host.settings (cluster.site worker) request

/-- An open row of an entity shows to `has_open_conflict_for_entity`. -/
theorem hasOpen_of_openUnder {tables : Tables} {id : Text × Text}
    {tenantId entityType entityId name : Text}
    (waits : OpenUnder tables id (tenantId, entityType, entityId, name)) :
    hasOpenConflictForEntity tables tenantId entityType entityId = true := by
  rcases waits with ⟨row, stored, about, status⟩
  obtain ⟨tenant, kind, entity, _⟩ : row.conflict.tenantId = tenantId ∧
      row.conflict.entityType = entityType ∧ row.conflict.entityId = entityId ∧
        row.conflict.attributeName = name := by
    unfold Conflict.key at about
    simpa using about
  unfold hasOpenConflictForEntity
  exact List.any_eq_true.mpr ⟨row, (Dict.mem_values_iff _ _).mpr ⟨id, stored⟩,
    decide_eq_true ⟨tenant, kind, entity, status⟩⟩

/-- The target of a proposal is an order, and has one colon. -/
theorem target_split (proposal : ActionProposal) : Exists fun orderId : Text =>
    proposal.targetEntity = "order" ++ ":" ++ orderId ∧ 58 ∉ orderId.codes ∧
      orderId.codes.isEmpty = false := by
  have valid := proposal.valid
  unfold ProposalFields.accepted at valid
  simp only [Bool.and_eq_true] at valid
  have pattern := valid.1.1.1.1.1.2
  unfold targetEntityPattern Text.startsWith at pattern
  simp only [Bool.and_eq_true, decide_eq_true_eq, List.all_eq_true, List.isPrefixOf_iff_prefix]
    at pattern
  rcases pattern with ⟨⟨⟨rest, same⟩, long⟩, plain⟩
  have dropped : proposal.targetEntity.codes.drop 6 = rest := by
    rw [← same]
    rfl
  refine ⟨⟨rest⟩, ?_, ?_, ?_⟩
  · exact congrArg Text.mk same.symm
  · intro member
    exact absurd rfl (plain 58 (dropped ▸ member))
  · cases rest with
    | nil =>
        rw [List.append_nil] at same
        rw [Text.length, ← same] at long
        exact absurd long (by decide)
    | cons code others => rfl

/-- The target of a proposal splits at its only colon. -/
theorem partitionColon_target {proposal : ActionProposal} {entityType entityId : Text}
    (targets : proposal.targetEntity = entityType ++ ":" ++ entityId) :
    partitionColon proposal.targetEntity = (entityType, entityId) ∧
      entityId.codes.isEmpty = false := by
  rcases target_split proposal with ⟨orderId, split, plain, named⟩
  have one : (entityType ++ ":" ++ entityId).codes.count 58 = 1 := by
    rw [← targets, split]
    change ((Text.ofString "order:").codes ++ orderId.codes).count 58 = 1
    rw [List.count_append, List.count_eq_zero.mpr plain]
    decide
  have free : 58 ∉ entityType.codes := by
    rw [← List.count_eq_zero]
    change ((entityType.codes ++ [58]) ++ entityId.codes).count 58 = 1 at one
    rw [List.count_append, List.count_append] at one
    change entityType.codes.count 58 + 1 + entityId.codes.count 58 = 1 at one
    omega
  have parts := partitionColon_append entityType entityId free
  rw [← targets] at parts
  refine ⟨parts, ?_⟩
  rw [split, partitionColon_append "order" orderId (by decide)] at parts
  cases parts
  exact named

theorem gates_of_open {W : Type} (host : Host) {cluster : Cluster W}
    {tenantId entityType entityId : Text}
    (row : hasOpenConflictForEntity cluster.database.tables tenantId entityType entityId = true) :
    Gates host cluster tenantId entityType entityId where
  row := row
  refuses := by
    intro worker request tenant targets new answers
    subst tenant
    rcases answers with ⟨decision, returned, waits⟩
    cases effective : effectivePolicy host.rt host.float host.settings (cluster.site worker).database
        request.tenantId with
    | error error =>
        unfold proposeAction at returned
        rw [effective] at returned
        cases returned
    | ok policy =>
        rcases (answersApproval_iff effective new).mp ⟨decision, returned, waits⟩ with
            ⟨_, orderValue, _, admits, _⟩
        have free : hasConflictFor cluster.database.tables request.tenantId
          request.proposal.targetEntity = false := admits.conflict
        rcases partitionColon_target targets with ⟨parts, named⟩
        unfold hasConflictFor at free
        rw [parts] at free
        dsimp only at free
        rw [named, row] at free
        cases free

/-- From a cluster on, everything but resolving one conflict. Other conflicts may be resolved
meanwhile. -/
def unresolvedSystem {W : Type} [DecidableEq W] (host : Host) (cluster : Cluster W)
    (id : Text × Text) : System (Cluster W) (Turn W) where
  start := fun first => first = cluster
  admits := fun cluster turn => cluster.Admits host turn ∧ ¬ turn.request.Resolves id
  next := fun cluster turn => cluster.next host turn

/-- The table holds a conflict, and its entity is gated until the conflict is resolved,
whatever else is served in the meantime. -/
structure Gated {W : Type} [DecidableEq W] (host : Host) (cluster : Cluster W) (conflict : Conflict) :
    Prop where
  held : HoldsOpen host.rt cluster.database.tables conflict
  stays : forall history later,
    (unresolvedSystem host cluster conflict.storedId).Run history later ->
      Gates host later conflict.tenantId conflict.entityType conflict.entityId

/-- A conflict that the table holds is gated. -/
theorem gated_of_held {W : Type} [DecidableEq W] {host : Host} {cluster : Cluster W}
    {conflict : Conflict} (sound : cluster.Sound)
    (held : HoldsOpen host.rt cluster.database.tables conflict) : Gated host cluster conflict where
  held := held
  stays := by
    intro history later run
    have kept : later.Sound ∧ OpenUnder later.database.tables conflict.storedId conflict.key := by
      apply System.Run.invariant run
      · rintro first rfl
        exact ⟨sound, held.openUnder⟩
      · rintro first turn ⟨sound, waits⟩ ⟨admitted, unresolved⟩
        exact ⟨sound.next turn admitted, turn_stays sound admitted unresolved waits⟩
    exact gates_of_open host (hasOpen_of_openUnder kept.2)

/-! ## What an ingestion records -/

namespace Ingesting

variable (rt : Runtime) (ingesting : Ingesting)

/-- The open conflict of an attribute of the observed object. It is the one that the index of
the service names. -/
def openConflictOf (service : WorldStateService) (name : Text) : Option Conflict :=
  service.openConflict? ingesting.tenantId ingesting.observation.objectType
    ingesting.observation.objectId name

/-- The call opens a conflict, or adds a candidate to it. A candidate that is listed already
is not added. -/
def Records (conflict : Conflict) : Prop :=
  Exists fun name : Text =>
    ingesting.openConflictOf (ingesting.outcome rt).state name = some conflict ∧
      ingesting.openConflictOf ingesting.base name ≠ some conflict

/-- The service has ingested the observation before. It is then answered without a look at
what it says. -/
def Known : Prop :=
  ingesting.base.observations.contains (ingesting.tenantId, ingesting.observation.observationId) = true

/-- The attributes that the service holds of the object. -/
def held : Dict Text StateAttribute :=
  heldAttributes (ingesting.base.states.get?
    (ingesting.tenantId, ingesting.observation.objectType, ingesting.observation.objectId))

/-- An attribute of the reading disputes nothing, or its conflict already lists the candidate,
in the service or in the table. -/
def Settled (tables : Tables) (entry : Text × Json) : Prop :=
  let incoming := readAttribute ingesting.observation entry
  forall existing, disputed? ingesting.held incoming = some existing ->
    Exists fun conflict : Conflict => ingesting.openConflictOf ingesting.base entry.1 = some conflict ∧
      (conflict.lists incoming.2 = true ∨ HoldsOpen rt tables (conflict.extended incoming.2))

end Ingesting

section Recording

variable {host : Host} {registry : Registry} {site : Site} {call : IngestCall} {ingesting : Ingesting}

/-- A recorded conflict is stored under its own identifier, open, and drawn or known. -/
theorem Ingesting.Records.stored {conflict : Conflict} (records : ingesting.Records host.rt conflict)
    (filed : Filed (ingesting.outcome host.rt).state) :
    (ingesting.outcome host.rt).state.conflictsById.get? conflict.storedId = some conflict ∧
      conflict.tenantId = ingesting.tenantId ∧ conflict.status = "open" := by
  rcases records with ⟨name, found, _⟩
  rcases filed.openConflict found with ⟨_, stored, about, waits⟩
  exact ⟨stored, congrArg Prod.fst about, waits⟩

/-- Where conflicts are persisted, the table holds every conflict that the call records. -/
theorem holds_of_persisted {conflict : Conflict} {tables after : Tables}
    (records : ingesting.Records host.rt conflict) (filed : Filed (ingesting.outcome host.rt).state)
    (rows : after.conflicts = (tables.persistConflicts host.rt (ingesting.outcome host.rt).state
      ingesting.tenantId).conflicts) : HoldsOpen host.rt after conflict := by
  rcases records.stored filed with ⟨stored, tenant, waits⟩
  refine ⟨conflictRow host.rt conflict, ?_, rfl, waits, rfl⟩
  rw [rows, persistConflicts_get? filed, stored]
  exact if_pos tenant

/-- An observation that the service knows records nothing. -/
theorem Ingesting.Known.quiet (known : ingesting.Known) (conflict : Conflict) :
    ¬ ingesting.Records host.rt conflict := by
  rintro ⟨name, found, changed⟩
  unfold Ingesting.outcome at found
  rw [ingest_known known] at found
  exact changed found

/-- What the call does to the open conflict of each attribute, in the call's own words. -/
theorem ingesting_files (filed : Filed ingesting.base)
    (fresh : FreshIds ingesting.base ingesting.tenantId ingesting.draws 0
      ingesting.observation.payload.entries.length)
    (new : ¬ ingesting.Known) {state : OrderState}
    (returned : (ingesting.outcome host.rt).result = .ok state) :
    (forall entry, entry ∈ ingesting.observation.payload.entries ->
      Files ingesting.held (readAttribute ingesting.observation entry) ingesting.draws 0
        ingesting.observation.payload.entries.length
        (ingesting.openConflictOf ingesting.base entry.1)
        (ingesting.openConflictOf (ingesting.outcome host.rt).state entry.1)) ∧
      forall name, name ∉ ingesting.observation.payload.keys ->
        ingesting.openConflictOf (ingesting.outcome host.rt).state name =
          ingesting.openConflictOf ingesting.base name :=
  ingest_files filed fresh (Bool.eq_false_iff.mpr new) returned

/-- The table holds whatever a settled reading records. -/
theorem holds_of_settled {tables : Tables} (filed : Filed ingesting.base)
    (fresh : FreshIds ingesting.base ingesting.tenantId ingesting.draws 0
      ingesting.observation.payload.entries.length)
    (new : ¬ ingesting.Known) {state : OrderState}
    (returned : (ingesting.outcome host.rt).result = .ok state)
    (settled : forall entry, entry ∈ ingesting.observation.payload.entries ->
      ingesting.Settled host.rt tables entry)
    {conflict : Conflict} (records : ingesting.Records host.rt conflict) :
    HoldsOpen host.rt tables conflict := by
  rcases ingesting_files filed fresh new returned with ⟨files, others⟩
  rcases records with ⟨name, found, changed⟩
  by_cases read : name ∈ ingesting.observation.payload.keys
  · rcases List.mem_map.mp read with ⟨entry, member, rfl⟩
    have way := files entry member
    rw [found] at way
    generalize before : ingesting.openConflictOf ingesting.base entry.1 = earlier at way changed
    cases way with
    | undisputed quiet => exact absurd rfl changed
    | listed existing held disputed stored listed => exact absurd rfl changed
    | extended existing held disputed stored unlisted =>
        rcases settled entry member existing disputed with ⟨known, same, listed | holds⟩
        · rw [before, stored] at same
          cases same
          rw [unlisted] at listed
          cases listed
        · rw [before, stored] at same
          cases same
          exact holds
    | opened existing held disputed absent drawn =>
        rcases settled entry member existing disputed with ⟨known, same, _⟩
        rw [before, absent] at same
        cases same
  · rw [others name read] at found
    exact absurd found changed

/-- Where the rows do not change, the table holds what is recorded only of a settled reading. -/
theorem settled_of_holds {tables : Tables} (filed : Filed ingesting.base)
    (filed' : Filed (ingesting.outcome host.rt).state)
    (fresh : FreshIds ingesting.base ingesting.tenantId ingesting.draws 0
      ingesting.observation.payload.entries.length)
    (rows : forall place, place < ingesting.observation.payload.entries.length ->
      tables.conflicts.get? (ingesting.tenantId, newConflictId ingesting.draws place) = none)
    (new : ¬ ingesting.Known) {state : OrderState}
    (returned : (ingesting.outcome host.rt).result = .ok state)
    (holds : forall conflict, ingesting.Records host.rt conflict -> HoldsOpen host.rt tables conflict)
    {entry : Text × Json} (member : entry ∈ ingesting.observation.payload.entries) :
    ingesting.Settled host.rt tables entry := by
  intro existing disputed
  rcases ingesting_files filed fresh new returned with ⟨files, _⟩
  have way := files entry member
  have recorded : forall conflict,
      ingesting.openConflictOf (ingesting.outcome host.rt).state entry.1 = some conflict ->
      ingesting.openConflictOf ingesting.base entry.1 ≠ some conflict ->
      HoldsOpen host.rt tables conflict ∧ conflict.tenantId = ingesting.tenantId := by
    intro conflict found changed
    have records : ingesting.Records host.rt conflict := ⟨entry.1, found, changed⟩
    exact ⟨holds conflict records, (records.stored filed').2.1⟩
  generalize ingesting.openConflictOf ingesting.base entry.1 = before at way recorded ⊢
  generalize ingesting.openConflictOf (ingesting.outcome host.rt).state entry.1 = after at way recorded
  cases way with
  | undisputed quiet =>
      rw [quiet] at disputed
      cases disputed
  | listed _ conflict _ stored listed => exact ⟨conflict, stored, Or.inl listed⟩
  | extended _ conflict _ stored unlisted =>
      refine ⟨conflict, stored, Or.inr ?_⟩
      exact (recorded _ rfl (stored ▸ extended_ne conflict _)).1
  | opened _ conflict _ absent drawn =>
      rcases recorded conflict rfl (absent ▸ Option.some_ne_none conflict |>.symm) with
          ⟨⟨row, found, _⟩, tenant⟩
      rcases drawn with ⟨offset, inside, named⟩
      unfold Conflict.storedId at found
      rw [tenant, named, Nat.zero_add, rows offset inside] at found
      cases found

end Recording

/-- After a committed ingestion, every conflict that it recorded is gated exactly when the
path persists conflicts, or the reading has nothing to record, or nothing that the table
does not hold already. -/
theorem conflicts_gate_iff {W : Type} [DecidableEq W] (host : Host)
    {history : List (Step (Cluster W) (Turn W))} {cluster : Cluster W}
    (run : (clusterSystem W host).Run history cluster) {worker : W} {call : IngestCall}
    {ingesting : Ingesting} (admitted : cluster.Admits host ⟨worker, .ingest call⟩)
    (prepared : call.ingesting host (cluster.site worker) = some ingesting)
    (committed : (call.perform host (cluster.site worker)).result = .ok ()) :
    (forall conflict, ingesting.Records host.rt conflict ->
      Gated host (cluster.next host ⟨worker, .ingest call⟩) conflict) <->
    call.PersistsConflicts cluster.database ∨ ingesting.Known ∨
      forall entry, entry ∈ ingesting.observation.payload.entries ->
        ingesting.Settled host.rt cluster.database.tables entry := by
  have sound := run_sound run
  have later := sound.next ⟨worker, .ingest call⟩ admitted
  rcases sound with ⟨registry, sound⟩
  have site := sound.site worker
  have drawn := admitted ingesting prepared
  have fresh : SiteFresh (cluster.site worker) ingesting := ⟨drawn.rows, drawn.held worker⟩
  rcases ingesting_outcome site prepared fresh with ⟨base, new, filed, _⟩
  have same : forall other, call.ingesting host (cluster.site worker) = some other ->
      other = ingesting := by
    intro other found
    rw [prepared] at found
    exact (Option.some.inj found).symm
  cases perform_effect host call (cluster.site worker) with
  | quiet unprepared =>
      rw [prepared] at unprepared
      cases unprepared
  | persisted other found _ _ persists rows =>
      cases same other found
      refine iff_of_true ?_ (Or.inl persists)
      intro conflict records
      exact gated_of_held later (holds_of_persisted records filed rows)
  | ingested other found _ answered unpersisted rows =>
      cases same other found
      rcases answered committed with ⟨state, returned⟩
      have tables : forall conflict, HoldsOpen host.rt
          (cluster.next host ⟨worker, .ingest call⟩).database.tables conflict <->
            HoldsOpen host.rt cluster.database.tables conflict := by
        intro conflict
        unfold HoldsOpen
        rw [show (cluster.next host ⟨worker, .ingest call⟩).database.tables.conflicts =
          cluster.database.tables.conflicts from rows]
      constructor
      · intro gated
        by_cases known : ingesting.Known
        · exact Or.inr (Or.inl known)
        · refine Or.inr (Or.inr ?_)
          intro entry member
          exact settled_of_holds base.filed filed new drawn.rows known returned
            (fun conflict records => (tables conflict).mp (gated conflict records).held) member
      · rintro (persists | known | settled) conflict records
        · exact absurd persists (unpersisted committed)
        · exact absurd records (known.quiet conflict)
        · by_cases known : ingesting.Known
          · exact absurd records (known.quiet conflict)
          · exact gated_of_held later ((tables conflict).mpr
              (holds_of_settled base.filed new known returned settled records))

/-! ## A reading of the worker that disagrees with the back office -/

/-- No process and no row has a conflict. It is where a cluster starts, and it says nothing
of the other tables. -/
structure NoConflicts {W : Type} (cluster : Cluster W) : Prop where
  rows : cluster.database.tables.conflicts.entries = []
  held : forall worker, (cluster.processes worker).world.conflictsById.entries = []

/-- Where there is no conflict, an ingestion need only draw different identifiers. -/
theorem drawsFresh_of_none {W : Type} {cluster : Cluster W} {ingesting : Ingesting}
    (none : NoConflicts cluster)
    (distinct : ((List.range ingesting.observation.payload.entries.length).map
      (newConflictId ingesting.draws)).Nodup) : cluster.DrawsFresh ingesting where
  rows := by
    intro place _
    unfold Dict.get?
    rw [none.rows]
    rfl
  held := by
    intro worker
    refine ⟨?_, ?_⟩
    · intro offset _
      unfold Dict.get?
      rw [none.held worker]
      rfl
    · intro first second inside inside' same
      rw [Nat.zero_add, Nat.zero_add] at same
      exact List.inj_on_of_nodup_map distinct (List.mem_range.mpr inside) (List.mem_range.mpr inside')
        same

def sampleHost : Host := ⟨.plain, noDatetime, floatOfFloat, ⟨none⟩⟩

/-- An API process and a worker, in front of a workspace that takes proposals. -/
def sampleCluster : Cluster Bool where
  processes := fun _ => .fresh
  database := {
    tables := .empty
    events := []
    workspaces := [⟨"ws_1", "demo", "demo_proposal", Dict.empty⟩]
    connectors := [] }

def observeCall (start : Nat) (observation : Observation) : IngestCall :=
  .observe (.numbered start) "demo" observation

/-- The API has ingested the back office's report of a cancellation. -/
def observedCluster : Cluster Bool :=
  sampleCluster.next sampleHost ⟨false, .ingest (observeCall 1 disagreeingReading)⟩

theorem observedCluster_noConflicts : NoConflicts observedCluster where
  rows := by decide +kernel
  held := by
    intro worker
    cases worker with
    | false => decide +kernel
    | true => decide +kernel

/-- An ingestion without a conflict anywhere is admitted if it draws different identifiers. -/
theorem admits_of_none {W : Type} {cluster : Cluster W} (none : NoConflicts cluster) (worker : W)
    (call : IngestCall)
    (distinct : (call.ingesting sampleHost (cluster.site worker)).all (fun ingesting =>
      decide ((List.range ingesting.observation.payload.entries.length).map
        (newConflictId ingesting.draws)).Nodup) = true) :
    cluster.Admits sampleHost ⟨worker, .ingest call⟩ := by
  intro ingesting prepared
  rw [show call.ingesting sampleHost (cluster.site worker) = some ingesting from prepared] at distinct
  exact drawsFresh_of_none none (of_decide_eq_true distinct)

theorem observedCluster_run :
    Exists fun history => (clusterSystem Bool sampleHost).Run history observedCluster := by
  have start : (clusterSystem Bool sampleHost).start sampleCluster := by
    refine ⟨fun _ => rfl, ?_⟩
    intro id row stored
    cases stored
  have admitted : sampleCluster.Admits sampleHost
      ⟨false, .ingest (observeCall 1 disagreeingReading)⟩ :=
    admits_of_none ⟨rfl, fun _ => rfl⟩ _ _ (by decide +kernel)
  exact ⟨_, .extend _ (.begin start) admitted⟩

/-- The call opens a conflict about the status, and commits. -/
def opensStatus (call : IngestCall) (site : Site) : Bool :=
  (call.ingesting sampleHost site).any (fun ingesting =>
    (ingesting.openConflictOf (ingesting.outcome .plain).state "status").isSome &&
      (ingesting.openConflictOf ingesting.base "status").isNone) &&
  (call.perform sampleHost site).result.toOption.isSome

theorem opensStatus_records {call : IngestCall} {site : Site} (opens : opensStatus call site = true) :
    (call.perform sampleHost site).result = .ok () ∧ Exists fun ingesting : Ingesting =>
      call.ingesting sampleHost site = some ingesting ∧
        Exists fun conflict : Conflict => ingesting.Records .plain conflict := by
  rcases Bool.and_eq_true_iff.mp opens with ⟨opened, committed⟩
  rcases (Option.any_eq_true _ _).mp opened with ⟨ingesting, prepared, looked⟩
  rcases Bool.and_eq_true_iff.mp looked with ⟨after, before⟩
  rcases Option.isSome_iff_exists.mp after with ⟨conflict, found⟩
  rcases Option.isSome_iff_exists.mp committed with ⟨value, returned⟩
  refine ⟨ok_of_toOption returned, ingesting, prepared, conflict, "status", found, ?_⟩
  intro same
  rw [same] at before
  cases before

/-- The API ingests Shopify's report that the order is open: the conflict that it records
gates proposals. -/
theorem conflicts_gate_sample :
    Exists fun ingesting : Ingesting =>
      (observeCall 2 openReading).ingesting sampleHost (observedCluster.site false) = some ingesting ∧
        (Exists fun conflict : Conflict => ingesting.Records .plain conflict) ∧
        forall conflict, ingesting.Records .plain conflict -> Gated sampleHost
          (observedCluster.next sampleHost ⟨false, .ingest (observeCall 2 openReading)⟩) conflict := by
  rcases observedCluster_run with ⟨history, run⟩
  have opens : opensStatus (observeCall 2 openReading) (observedCluster.site false) = true := by
    decide +kernel
  rcases opensStatus_records opens with ⟨committed, ingesting, prepared, records⟩
  have admitted : observedCluster.Admits sampleHost ⟨false, .ingest (observeCall 2 openReading)⟩ :=
    admits_of_none observedCluster_noConflicts _ _ (by decide +kernel)
  refine ⟨ingesting, prepared, records, ?_⟩
  refine (conflicts_gate_iff sampleHost run admitted prepared committed).mpr (Or.inl ?_)
  change (("demo" : Text), openReading.observationId) ∉ observedCluster.database.tables.observationLog
  decide +kernel

/-- The worker reads from Shopify that the order is open. -/
def readCall : IngestCall := .workerRead true "demo" (Worker.attemptReading "open")

def readCluster : Cluster Bool := observedCluster.next sampleHost ⟨true, .ingest readCall⟩

/-- The conflict that the worker records has no row, and the API asks for an approval of a
proposal against the order. -/
theorem worker_conflict_ungated :
    (Exists fun history => (clusterSystem Bool sampleHost).Run history observedCluster) ∧
      observedCluster.Admits sampleHost ⟨true, .ingest readCall⟩ ∧
      (Exists fun ingesting : Ingesting =>
        readCall.ingesting sampleHost (observedCluster.site true) = some ingesting ∧
          Exists fun conflict : Conflict => ingesting.Records .plain conflict) ∧
      (readCall.perform sampleHost (observedCluster.site true)).result = .ok () ∧
      readCluster.database.tables.conflicts.entries = [] ∧
      NewKey .plain (readCluster.site false) sampleRequest ∧
      AnswersApproval .plain floatOfFloat ⟨none⟩ (readCluster.site false) sampleRequest := by
  have opens : opensStatus readCall (observedCluster.site true) = true := by decide +kernel
  rcases opensStatus_records opens with ⟨committed, records⟩
  have admitted : observedCluster.Admits sampleHost ⟨true, .ingest readCall⟩ :=
    admits_of_none observedCluster_noConflicts _ _ (by decide +kernel)
  have answered : (proposeAction .plain floatOfFloat ⟨none⟩ (readCluster.site false)
      sampleRequest).result.toOption.map ActionDecision.status = some .approvalRequired := by
    decide +kernel
  rcases Option.map_eq_some_iff.mp answered with ⟨decision, returned, waits⟩
  refine ⟨observedCluster_run, admitted, records, committed, by decide +kernel, ?_, decision,
    ok_of_toOption returned, waits⟩
  unfold NewKey
  decide +kernel

end Api
end RealityLayer
