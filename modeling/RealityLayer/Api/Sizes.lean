import RealityLayer.Api.Gate
import RealityLayer.Api.Writes
import RealityLayer.WorldState.Loading
import RealityLayer.WorldState.Records
import RealityLayer.WorldState.Rewriting

namespace RealityLayer
namespace Api

open Foundation Python RealityGit WorldState WorldStateService Actions

/-!
# The sizes of stored strings

Everything the services put into a record is bounded: identifiers are drawn with a fixed
number of digits, hashes are digests behind a short word, and the rest are constants or
fields of the observation.  The identifier of an entity is the exception.  It is the type
and the object's identifier with a colon between them, so its bound depends on the
observation alone.

The bounds are kept by every request of every process, whether the database accepts the
writes of the request or not.
-/

/-! ## Bounds -/

/-- SHA-256 digests have 64 digits. -/
def DigestsSized (rt : Runtime) : Prop := forall text, (rt.sha256 text).length = 64

/-- The parts of an entity's key fit their columns. They are checked one by one, while the
projection's identifier joins two of them. -/
structure EntitySized (key : Text × Text × Text) : Prop where
  tenantId : key.1.length ≤ 255
  entityType : key.2.1.length ≤ 64
  entityId : key.2.2.length ≤ 255

structure StateSized (key : Text × Text × Text) (state : OrderState) : Prop where
  placed : Placed key state
  entity : EntitySized key
  commitId : state.commitId.length ≤ 64

structure CommitSized (commit : CommitRecord) : Prop where
  tenantId : commit.tenantId.length ≤ 255
  commitId : commit.commitId.length ≤ 64
  parent : forall commitId, commit.parentCommitId = some commitId -> commitId.length ≤ 64
  entityType : commit.entityType.length ≤ 64
  entityId : commit.entityId.length ≤ 255
  cause : commit.cause.length ≤ 64
  assuranceLevel : commit.assuranceLevel.length ≤ 64
  previous : forall hash, commit.previousHash = some hash -> hash.length ≤ 95
  hash : commit.hash.length ≤ 95

/-- The identifier is short enough for the cause of the commit that resolves the conflict,
which is a fixed word with the identifier behind it. -/
structure ConflictSized (conflict : Conflict) : Prop where
  entity : EntitySized (conflict.tenantId, conflict.entityType, conflict.entityId)
  conflictId : conflict.conflictId.length ≤ 46
  attributeName : conflict.attributeName.length ≤ 255
  status : conflict.status.length ≤ 32
  resolvedBy : forall role, conflict.resolvedBy = some role -> role.length ≤ 255

def sizes : Requirements where
  state := StateSized
  commit := CommitSized
  head := fun commitId => commitId.length ≤ 64
  conflict := ConflictSized

/-- The rows of the tables fit, up to the identifiers of the projections. Those are left out
because they may be too long, although both of their parts fit. -/
structure TablesSized (tables : Tables) : Prop where
  projections : tables.projections.All (fun key row =>
    EntitySized (key.1, row.entityType.lower, key.2.afterColon) ∧
      key.2 = row.entityType.lower ++ (":" : Text) ++ key.2.afterColon ∧
      (row.producingCommitId.getD "").length ≤ 64)
  commits : forall commit, commit ∈ tables.commitLog -> CommitSized commit
  conflicts : tables.conflicts.All (fun _ row => ConflictSized row.conflict)

/-- A row that is persisted for an entity, and so not the row of an observation. Its columns
are those of the commit, the projection or the conflict. -/
def WrittenSized (key : Text × Text × Text) : Written -> Prop
  | .observation _ => False
  | .commit record => CommitSized record
  | .projection state => StateSized key state
  | .conflict record => ConflictSized record

/-! ## Rows that fit -/

section Rows

variable {rt : Runtime}

theorem CommitSized.fits {commit : CommitRecord} (sized : CommitSized commit) :
    (Written.commit commit).Fits rt := by
  intro cell member
  have constant : (Text.ofString "mvp-1").length ≤ 64 := by decide
  simp only [Written.cells, Db.CommitLog.cells, Db.commitRow, Db.nullable, List.mem_append,
    List.mem_cons, List.mem_map, Option.mem_toList, List.not_mem_nil, or_false, Option.toList_none,
    false_and, exists_false] at member
  rcases member with ((((((rfl | rfl) | ⟨parent, named, rfl⟩) | rfl | rfl | rfl) | rfl | rfl) |
    ⟨previous, given, rfl⟩) | rfl)
  · exact (Db.Cell.fits_iff _ _ _).mpr sized.tenantId
  · exact (Db.Cell.fits_iff _ _ _).mpr sized.commitId
  · exact (Db.Cell.fits_iff _ _ _).mpr (sized.parent parent named)
  · exact (Db.Cell.fits_iff _ _ _).mpr sized.entityType
  · exact (Db.Cell.fits_iff _ _ _).mpr sized.entityId
  · exact (Db.Cell.fits_iff _ _ _).mpr sized.cause
  · exact (Db.Cell.fits_iff _ _ _).mpr constant
  · exact (Db.Cell.fits_iff _ _ _).mpr sized.assuranceLevel
  · exact (Db.Cell.fits_iff _ _ _).mpr (sized.previous previous given)
  · exact (Db.Cell.fits_iff _ _ _).mpr sized.hash

theorem ConflictSized.fits {conflict : Conflict} (sized : ConflictSized conflict) :
    (Written.conflict conflict).Fits rt := by
  intro cell member
  simp only [Written.cells, Db.ConflictRecord.cells, Db.conflictRow, Db.nullable, List.mem_append,
    List.mem_cons, List.mem_map, Option.mem_toList, List.not_mem_nil, or_false] at member
  rcases member with (((rfl | rfl | rfl | rfl | rfl | rfl) | ⟨role, named, rfl⟩) | ⟨reason, _, rfl⟩)
  · exact (Db.Cell.fits_iff _ _ _).mpr sized.entity.tenantId
  · exact (Db.Cell.fits_iff _ _ _).mpr (Nat.le_trans sized.conflictId (by decide))
  · exact (Db.Cell.fits_iff _ _ _).mpr sized.entity.entityType
  · exact (Db.Cell.fits_iff _ _ _).mpr sized.entity.entityId
  · exact (Db.Cell.fits_iff _ _ _).mpr sized.attributeName
  · exact (Db.Cell.fits_iff _ _ _).mpr sized.status
  · exact (Db.Cell.fits_iff _ _ _).mpr (sized.resolvedBy role named)
  · rfl

theorem StateSized.entityType {key : Text × Text × Text} {state : OrderState}
    (sized : StateSized key state) : state.entityType.length ≤ 64 := by
  rw [← Text.length_lower, sized.placed.entityType]
  exact sized.entity.entityType

theorem StateSized.entityIdLength {key : Text × Text × Text} {state : OrderState}
    (sized : StateSized key state) : state.entityId.length = key.2.1.length + 1 + key.2.2.length := by
  rw [sized.placed.called, Text.length_append, Text.length_append]
  rfl

/-- Of a projection only the identifier can be too long. It is made of two strings, each of
which may be as long as the column. -/
theorem StateSized.fits_iff {key : Text × Text × Text} {state : OrderState}
    (sized : StateSized key state) :
    (Written.projection state).Fits rt <-> key.2.1.length + 1 + key.2.2.length ≤ 255 := by
  rw [← sized.entityIdLength]
  constructor
  · intro fits
    refine (Db.Cell.fits_iff "entity_id" _ _).mp (fits _ ?_)
    simp [Written.cells, Db.StateProjection.cells, Db.projectionRow]
  · intro short cell member
    simp only [Written.cells, Db.StateProjection.cells, Db.projectionRow, Db.nullable, List.mem_append,
      List.mem_cons, List.mem_map, Option.mem_toList, List.not_mem_nil, or_false] at member
    rcases member with (rfl | rfl | rfl) | ⟨commitId, named, rfl⟩
    · apply (Db.Cell.fits_iff _ _ _).mpr
      rw [sized.placed.tenantId]
      exact sized.entity.tenantId
    · exact (Db.Cell.fits_iff _ _ _).mpr short
    · exact (Db.Cell.fits_iff _ _ _).mpr sized.entityType
    · cases named
      exact (Db.Cell.fits_iff _ _ _).mpr sized.commitId

/-- What the model asks of an observation bounds all of its strings but the identifier. -/
theorem observation_bounds (observation : Observation) :
    observation.connector.length ≤ 64 ∧ observation.objectType.length ≤ 8 ∧
      observation.objectId.length ≤ 255 := by
  have valid := observation.valid
  simp only [ObservationFields.accepted, Bool.and_eq_true, Bool.or_eq_true, decide_eq_true_eq] at valid
  refine ⟨valid.1.1.2.2, ?_, valid.2.2⟩
  rcases valid.1.2 with same | same
  · rw [same]
    decide
  · rw [same]
    decide

/-- The row of an observation whose payload was stored under its hash. -/
theorem observationRow_fits_iff {tenantId : Text} {observed : Db.ObservedPayload} {nonce : Uuid}
    (tenant : tenantId.length ≤ 255) (hash : observed.rawPayload.payloadHash.length ≤ 95) :
    (Written.observation (Db.observationRow tenantId observed nonce)).Fits rt <->
      observed.observation.observationId.length ≤ 64 := by
  rcases observation_bounds observed.observation with ⟨connector, typed, named⟩
  have drawn : (Text.ofString "cor_" ++ nonce.hex.take 16).length ≤ 64 := by
    have digits : (nonce.hex.take 16).length ≤ 16 := List.length_take_le 16 _
    have front : (Text.ofString "cor_").length = 4 := by decide
    rw [Text.length_append]
    omega
  have constants : (Text.ofString "mvp-1").length ≤ 64 ∧
      (Text.ofString "order-to-cash/1.0.0").length ≤ 255 ∧ (Text.ofString "accepted").length ≤ 64 := by
    decide
  constructor
  · intro fits
    refine (Db.Cell.fits_iff "observation_id" _ _).mp (fits _ ?_)
    simp [Written.cells, Db.ObservationLog.cells, Db.observationRow]
  · intro short cell member
    simp only [Written.cells, Db.ObservationLog.cells, Db.observationRow, Db.nullable, List.mem_append,
      List.mem_cons, List.mem_map, Option.mem_toList, List.not_mem_nil, or_false] at member
    rcases member with ((rfl | rfl | rfl | rfl | rfl) | ⟨event, given, rfl⟩) |
      (rfl | rfl | rfl | rfl | rfl | rfl)
    · exact (Db.Cell.fits_iff _ _ _).mpr tenant
    · exact (Db.Cell.fits_iff _ _ _).mpr short
    · exact (Db.Cell.fits_iff _ _ _).mpr connector
    · exact (Db.Cell.fits_iff _ _ _).mpr (Nat.le_trans typed (by decide))
    · exact (Db.Cell.fits_iff _ _ _).mpr named
    · cases given
      exact (Db.Cell.fits_iff _ _ _).mpr (Nat.le_trans short (by decide))
    · exact (Db.Cell.fits_iff _ _ _).mpr hash
    · rfl
    · exact (Db.Cell.fits_iff _ _ _).mpr constants.1
    · exact (Db.Cell.fits_iff _ _ _).mpr constants.2.1
    · exact (Db.Cell.fits_iff _ _ _).mpr drawn
    · exact (Db.Cell.fits_iff _ _ _).mpr constants.2.2

end Rows

/-! ## Calls of the service -/

section Calls

variable {rt : Runtime} {service : WorldStateService} {draws : Draws}

theorem hashJson_sized (digests : DigestsSized rt) {value : Json} {hash : Text}
    (hashed : hashJson rt value = .ok hash) : hash.length ≤ 95 := by
  have front : (Text.ofString "sha256:").length = 7 := by decide
  rw [((hashJson_ok_iff value hash).mp hashed).2, Text.length_append, digests, front]
  decide

theorem newCommitId_sized (draws : Draws) : (newCommitId draws).length ≤ 64 := by
  have front : (Text.ofString "cmt_").length = 4 := by decide
  unfold newCommitId
  rw [Text.length_append, Draws.length_hex16, front]
  decide

theorem newConflictId_sized (draws : Draws) (place : Nat) : (newConflictId draws place).length ≤ 46 := by
  have front : (Text.ofString "cnf_").length = 4 := by decide
  unfold newConflictId
  rw [Text.length_append, Draws.length_hex16, front]
  decide

/-- A new commit is sized when what was asked for is. -/
theorem commit_sized (digests : DigestsSized rt) (met : sizes.MetBy service) {request : CommitRequest}
    {commit : CommitRecord} (continues : Continues rt service commit)
    (answers : Answers request draws commit)
    (entity : EntitySized (request.tenantId, request.entityType, request.entityId))
    (cause : request.cause.length ≤ 64) (level : request.assuranceLevel.length ≤ 64) :
    CommitSized commit where
  tenantId := answers.tenantId ▸ entity.tenantId
  commitId := answers.commitId ▸ newCommitId_sized draws
  parent := by
    intro commitId named
    rw [continues.parent] at named
    exact met.heads _ commitId named
  entityType := answers.entityType ▸ entity.entityType
  entityId := answers.entityId ▸ entity.entityId
  cause := answers.cause ▸ cause
  assuranceLevel := answers.assuranceLevel ▸ level
  previous := by
    intro hash given
    have latest := continues.previous
    rw [given] at latest
    unfold WorldStateService.latestHash at latest
    split at latest
    · cases latest
    split at latest
    · cases latest
    · rename_i commit stored
      cases latest
      exact (met.commits _ commit stored).hash
  hash := hashJson_sized digests continues.genuine

/-- The tenant, the attribute names and the words of a call fit their columns. The names
become those of conflicts when their values are disputed. -/
structure Ingesting.Bounded (ingesting : Ingesting) : Prop where
  tenantId : ingesting.tenantId.length ≤ 255
  names : forall name, name ∈ ingesting.observation.payload.keys -> name.length ≤ 255
  cause : ingesting.cause.length ≤ 64
  assuranceLevel : ingesting.assuranceLevel.length ≤ 64

/-- The key of the entity that a call is about. -/
def Ingesting.entityKey (ingesting : Ingesting) : Text × Text × Text :=
  (ingesting.tenantId, ingesting.observation.objectType, ingesting.observation.objectId)

theorem Ingesting.Bounded.entity {ingesting : Ingesting} (bounded : ingesting.Bounded) :
    EntitySized ingesting.entityKey := by
  rcases observation_bounds ingesting.observation with ⟨_, typed, named⟩
  exact ⟨bounded.tenantId, Nat.le_trans typed (by decide), named⟩

theorem project_names {observation : Observation} {incoming : Dict Text StateAttribute}
    (projected : project draws observation = .ok incoming) : incoming.keys = observation.payload.keys := by
  unfold project at projected
  split at projected
  · cases projected
  · cases projected
    exact Dict.keys_mapValues _ _

theorem Ingesting.Bounded.ingestible {ingesting : Ingesting} (bounded : ingesting.Bounded)
    (digests : DigestsSized rt) (previous : Option OrderState) :
    sizes.Ingestible rt ingesting.base ingesting.draws ingesting.tenantId ingesting.observation
      ingesting.cause ingesting.assuranceLevel previous where
  disputable := by
    intro incoming projected
    refine ⟨fun place entry existing member disputed => ?_, fun conflict entry member sized => ?_⟩
    · have known : entry.1 ∈ ingesting.observation.payload.keys :=
        project_names projected ▸ List.mem_map_of_mem member
      have status : (Text.ofString "open").length ≤ 32 := by decide
      exact ⟨bounded.entity, newConflictId_sized _ _, bounded.names _ known, status, nofun⟩
    · exact ⟨sized.entity, sized.conflictId, sized.attributeName, sized.status, sized.resolvedBy⟩
  committed := by
    intro incoming commit projected met continues answers
    have sized := commit_sized digests met continues answers bounded.entity bounded.cause
      bounded.assuranceLevel
    rcases hydrated_key ingesting.observation with ⟨typed, named⟩
    exact ⟨sized, sized.commitId, ⟨rfl, typed, named, rfl⟩, bounded.entity, sized.commitId⟩

theorem Ingesting.sized {ingesting : Ingesting} (bounded : ingesting.Bounded)
    (digests : DigestsSized rt) (met : sizes.MetBy ingesting.base) :
    sizes.MetBy (ingesting.outcome rt).state ∧
      forall state, (ingesting.outcome rt).result = .ok state -> StateSized ingesting.entityKey state :=
  met.ingest (bounded.ingestible digests _)

/-- The roles that may resolve a conflict are short. -/
theorem resolvable_sized (digests : DigestsSized rt) (met : sizes.MetBy service) {tenantId conflictId : Text}
    {resolvedValue : Json} {role reason : Text} (short : role.length ≤ 255) :
    sizes.Resolvable rt service draws tenantId conflictId resolvedValue role reason where
  closed := by
    intro conflict sized
    have status : (Text.ofString "resolved").length ≤ 32 := by decide
    refine ⟨sized.entity, sized.conflictId, sized.attributeName, status, fun other same => ?_⟩
    cases same
    exact short
  committed := by
    intro conflict state commit sized held continues answers
    have cause : (Text.ofString "conflict_resolved:" ++ conflict.conflictId).length ≤ 64 := by
      have front : (Text.ofString "conflict_resolved:").length = 18 := by decide
      have back := sized.conflictId
      rw [Text.length_append]
      omega
    have level : (Text.ofString "operator_resolved").length ≤ 64 := by decide
    have written := commit_sized digests met continues answers held.entity cause level
    refine ⟨written, written.commitId, ⟨rfl, ?_, ?_, ?_⟩, held.entity, written.commitId⟩
    · exact held.placed.entityType
    · exact held.placed.entityId
    · exact held.placed.called

end Calls

/-! ## The tables -/

section Tables

variable {rt : Runtime} {tables : Tables} {tenantId : Text}

theorem TablesSized.empty : TablesSized .empty :=
  ⟨Dict.All.empty _, nofun, Dict.All.empty _⟩

theorem TablesSized.logObservation (sized : TablesSized tables) (key : Text × Text) :
    TablesSized (tables.logObservation key) := by
  unfold Tables.logObservation
  split
  · exact sized
  · exact ⟨sized.projections, sized.commits, sized.conflicts⟩

theorem TablesSized.apply (sized : TablesSized tables) {key : Text × Text × Text} {written : Written}
    (new : WrittenSized key written) : TablesSized (written.apply rt tables) := by
  cases written with
  | observation row => exact new.elim
  | commit record =>
      refine ⟨sized.projections, fun commit member => ?_, sized.conflicts⟩
      rcases List.mem_append.mp member with earlier | last
      · exact sized.commits commit earlier
      · rw [List.mem_singleton.mp last]
        exact new
  | projection state =>
      refine ⟨sized.projections.set ⟨?_, ?_, new.commitId⟩, sized.commits, sized.conflicts⟩
      · dsimp only
        rw [new.placed.tenantId, new.placed.entityType, new.placed.entityId]
        exact new.entity
      · dsimp only
        rw [new.placed.entityType, new.placed.entityId]
        exact new.placed.called
  | conflict record => exact ⟨sized.projections, sized.commits, sized.conflicts.set new⟩

theorem TablesSized.applyAll {key : Text × Text × Text} {writes : List Written}
    (sized : TablesSized tables) (new : forall written, written ∈ writes -> WrittenSized key written) :
    TablesSized (writes.foldl (Written.apply rt) tables) := by
  induction writes generalizing tables with
  | nil => exact sized
  | cons written rest ih =>
      exact ih (sized.apply (new written List.mem_cons_self))
        (fun other member => new other (List.mem_cons_of_mem _ member))

/-- What is loaded is as small as the row. -/
theorem TablesSized.loaded (sized : TablesSized tables) {entityId : Text} {state : OrderState}
    (loaded : tables.loadState rt tenantId entityId = .ok (some state)) :
    StateSized (state.tenantId, state.entityType.lower, state.entityId.afterColon) state := by
  rcases loadState_some loaded with ⟨row, found, owner, named, typed, _⟩
  rcases loadState_matches loaded with ⟨row', found', commitId, _⟩
  cases found.symm.trans found'
  rcases sized.projections _ row found with ⟨entity, called, short⟩
  dsimp only at entity called
  rw [← typed, ← named] at entity called
  rw [← owner] at entity
  exact ⟨⟨rfl, rfl, rfl, called⟩, entity, commitId ▸ short⟩

theorem TablesSized.loadCommit (sized : TablesSized tables) {commitId : Text} {commit : CommitRecord}
    (loaded : tables.loadCommit tenantId commitId = some commit) : CommitSized commit :=
  sized.commits commit (List.mem_of_find?_eq_some loaded)

theorem ConflictSized.read {row : ConflictRow} {conflict : Conflict} (sized : ConflictSized row.conflict)
    (read : Tables.toConflict rt row = .ok conflict) : ConflictSized conflict := by
  rcases toConflict_candidates read with ⟨candidates, rfl⟩
  exact ⟨sized.entity, sized.conflictId, sized.attributeName, sized.status, sized.resolvedBy⟩

theorem TablesSized.listed (sized : TablesSized tables) {conflicts : List Conflict}
    (listed : tables.listConflicts rt tenantId = .ok conflicts) (conflict : Conflict)
    (member : conflict ∈ conflicts) : ConflictSized conflict := by
  rcases exists_left_of_forall₂ (forall₂_of_mapM listed) member with ⟨row, inside, read⟩
  have kept := (List.mem_filter.mp ((List.mem_insertionSort _).mp inside)).1
  rcases (Dict.mem_values_iff _ _).mp kept with ⟨id, stored⟩
  exact (sized.conflicts id row stored).read read

/-- Hydrating from the tables. -/
theorem TablesSized.hydrateFrom (sized : TablesSized tables) {service : WorldStateService}
    (met : sizes.MetBy service) {entityId : Text} {existing : Option OrderState}
    (loaded : tables.loadState rt tenantId entityId = .ok existing) :
    sizes.MetBy (service.hydrateFrom tables tenantId existing) := by
  cases existing with
  | none => exact met
  | some state =>
      have small := sized.loaded loaded
      apply met.hydrate small
      · change ((truthy? (some state.commitId)).getD state.commitId).length ≤ 64
        cases given : truthy? (some state.commitId) with
        | none => exact small.commitId
        | some commitId =>
            cases (Option.filter_eq_some_iff.mp given).1
            exact small.commitId
      · intro commitId hash named given
        cases (Option.filter_eq_some_iff.mp named).1
        rcases Option.map_eq_some_iff.mp (Option.filter_eq_some_iff.mp given).1 with
            ⟨commit, stored, same⟩
        rcases Option.bind_eq_some_iff.mp stored with ⟨_, _, logged⟩
        have written := sized.loadCommit logged
        have words : (Text.ofString "hydrated").length ≤ 64 ∧ (Text.ofString "observed").length ≤ 64 := by
          decide
        exact ⟨small.entity.tenantId, small.commitId, nofun, small.entity.entityType,
          small.entity.entityId, words.1, words.2, nofun, same ▸ written.hash⟩

end Tables

/-! ## The rows of a request -/

section Requests

variable {rt : Runtime} {ingesting : Ingesting}

theorem persistWrites_sized {key : Text × Text × Text} (tables : Tables) {state : OrderState}
    {commit : CommitRecord} (written : CommitSized commit) (filed : StateSized key state)
    (row : Written) (member : row ∈ persistWrites tables state commit) : WrittenSized key row := by
  unfold persistWrites at member
  split at member
  · cases member
  · rcases List.mem_pair.mp member with rfl | rfl
    · exact written
    · exact filed

theorem Ingesting.writes_sized (digests : DigestsSized rt) (bounded : ingesting.Bounded)
    (met : sizes.MetBy ingesting.base) (logged : Tables) (persists : OrderState -> Bool)
    (conflicts : Bool) (written : Written)
    (member : written ∈ ingesting.writes rt logged persists conflicts) :
    WrittenSized ingesting.entityKey written := by
  rcases ingesting.sized bounded digests met with ⟨after, answered⟩
  unfold Ingesting.writes at member
  dsimp only at member
  split at member
  · cases member
  rename_i state returned
  split at member
  swap
  · cases member
  split at member
  · cases member
  rename_i commit stored
  rcases List.mem_append.mp member with persisted | recorded
  · exact persistWrites_sized logged (after.commits _ commit stored) (answered state returned) written
      persisted
  · split at recorded
    · unfold conflictWrites at recorded
      rcases List.mem_map.mp recorded with ⟨conflict, held, rfl⟩
      rcases (Dict.mem_values_iff _ _).mp (List.mem_filter.mp held).1 with ⟨id, stored⟩
      exact after.conflicts id conflict stored
    · cases recorded

/-- A call of `ingest` keeps the bounds, in the service and in the tables. What it draws has
a fixed length. -/
theorem Ingesting.settle_sized (digests : DigestsSized rt) (bounded : ingesting.Bounded)
    (met : sizes.MetBy ingesting.base) {before logged : Tables} (sized : TablesSized before)
    (sized' : TablesSized logged) (persists : OrderState -> Bool) (conflicts : Bool) :
    let settled := ingesting.settle rt before logged persists conflicts
    sizes.MetBy settled.state.service ∧ TablesSized settled.state.tables := by
  rcases settle_frame ingesting before logged persists conflicts with ⟨service, tables, _⟩
  refine ⟨service ▸ (ingesting.sized bounded digests met).1, ?_⟩
  rcases tables with kept | written
  · rw [kept]
    exact sized
  · rw [written]
    exact sized'.applyAll (ingesting.writes_sized digests bounded met logged persists conflicts)

end Requests

/-! ## Every request -/

/-- The strings of a process and of the tables are bounded. Both are needed: what a process
holds is written by a later request, and what the tables hold is hydrated. -/
structure SiteSized (site : Site) : Prop where
  world : sizes.MetBy site.process.world
  tables : TablesSized site.database.tables

/-- The tenant and the attribute names that reach `ingest` fit their columns. -/
def IngestCall.Named (host : Host) (site : Site) (call : IngestCall) : Prop :=
  forall ingesting, call.ingesting host site = some ingesting -> ingesting.tenantId.length ≤ 255 ∧
    forall name, name ∈ ingesting.observation.payload.keys -> name.length ≤ 255

section Sites

variable {host : Host} {site : Site}

/-- A call of `ingest` is made on a bounded service with bounded arguments. -/
theorem SiteSized.prepared (sized : SiteSized site) {call : IngestCall} (named : call.Named host site)
    {ingesting : Ingesting} (prepared : call.ingesting host site = some ingesting) :
    ingesting.Bounded ∧ sizes.MetBy ingesting.base := by
  rcases named ingesting prepared with ⟨tenant, names⟩
  have words : (Text.ofString "observation").length ≤ 64 ∧ (Text.ofString "observed").length ≤ 64 ∧
      (Text.ofString "verified_action").length ≤ 64 ∧ (Text.ofString "verification").length ≤ 64 ∧
      (Text.ofString "verified").length ≤ 64 := by
    decide
  rcases words with ⟨observation, observed, action, verification, verified⟩
  cases call with
  | observe draws tenantId observation =>
      rcases observeIngesting_some prepared with ⟨existing, conflicts, loaded, listed, rfl⟩
      have logged := sized.tables.logObservation (tenantId, observation.observationId)
      exact ⟨⟨tenant, names, ‹_›, observed⟩,
        (logged.hydrateFrom sized.world loaded).hydrateAll (logged.listed listed)⟩
  | verify request =>
      dsimp only [IngestCall.ingesting] at prepared
      split at prepared
      · cases prepared
      split at prepared
      · cases prepared
      · rename_i loaded
        cases prepared
        exact ⟨⟨tenant, names, action, verified⟩,
          (sized.tables.logObservation _).hydrateFrom sized.world loaded⟩
  | workerRead stores tenantId attempt =>
      dsimp only [IngestCall.ingesting] at prepared
      split at prepared
      · cases prepared
      split at prepared
      · cases prepared
      · rename_i loaded
        cases prepared
        exact ⟨⟨tenant, names, verification, verified⟩, sized.tables.hydrateFrom sized.world loaded⟩

theorem SiteSized.observed (sized : SiteSized site) (digests : DigestsSized host.rt) {draws : Draws}
    {tenantId : Text} {observation : Observation}
    (named : (IngestCall.observe draws tenantId observation).Named host site) :
    SiteSized ((IngestCall.observe draws tenantId observation).perform host site).state := by
  have way := ingestObservation_observing host.rt site.store draws tenantId observation
  have call := fun ingesting => @SiteSized.prepared host site sized _ named ingesting
  dsimp only [IngestCall.perform, IngestCall.ingesting] at call ⊢
  generalize observeIngesting host.rt site.store draws tenantId observation = prepared at way call
  generalize ingestObservation host.rt site.store draws tenantId observation = outcome at way ⊢
  have logged := sized.tables.logObservation (tenantId, observation.observationId)
  cases way with
  | unread error failed => exact ⟨sized.world, sized.tables⟩
  | repeated answered existing loaded => exact ⟨logged.hydrateFrom sized.world loaded, logged⟩
  | unlisted existing error loaded => exact ⟨logged.hydrateFrom sized.world loaded, sized.tables⟩
  | ingested existing conflicts ingesting loaded listed made =>
      rcases call ingesting rfl with ⟨bounded, met⟩
      rcases ingesting.settle_sized digests bounded met sized.tables logged _ _ with ⟨world, tables⟩
      exact ⟨world, tables⟩

theorem SiteSized.workerRead (sized : SiteSized site) (digests : DigestsSized host.rt) {stores : Bool}
    {tenantId : Text} {attempt : Worker.Attempt}
    (named : (IngestCall.workerRead stores tenantId attempt).Named host site) :
    SiteSized ((IngestCall.workerRead stores tenantId attempt).perform host site).state := by
  have call := fun ingesting => @SiteSized.prepared host site sized _ named ingesting
  dsimp only [IngestCall.perform, IngestCall.ingesting] at call ⊢
  unfold Api.workerRead compileWithPersistence
  cases read : attempt.observation host.rt host.fromisoformat with
  | error error => exact ⟨sized.world, sized.tables⟩
  | ok observation =>
      rw [read] at call
      dsimp only at call ⊢
      cases loaded : site.store.tables.loadState host.rt tenantId
          (entityIdOf (Worker.renamed observation attempt.nonce)) with
      | error error => exact ⟨sized.world, sized.tables⟩
      | ok existing =>
          rw [show site.database.tables = site.store.tables from rfl, loaded] at call
          rcases call _ rfl with ⟨bounded, met⟩
          dsimp only
          rw [finish_eq_settle]
          have logged : TablesSized (if stores = true then site.store.tables.logObservation
              (tenantId, (Worker.renamed observation attempt.nonce).observationId)
                else site.store.tables) := by
            split
            · exact sized.tables.logObservation _
            · exact sized.tables
          rcases Ingesting.settle_sized digests bounded met sized.tables logged _ false with
              ⟨world, tables⟩
          exact ⟨world, tables⟩

theorem SiteSized.verified (sized : SiteSized site) (digests : DigestsSized host.rt)
    {request : VerifyRequest} (named : (IngestCall.verify request).Named host site) :
    SiteSized ((IngestCall.verify request).perform host site).state := by
  rcases restored_frame host.rt request site with ⟨world, database⟩
  have call := fun ingesting => @SiteSized.prepared host site sized _ named ingesting
  have restored : SiteSized (request.restored host.rt site) := ⟨world ▸ sized.world, database ▸ sized.tables⟩
  dsimp only [IngestCall.perform, IngestCall.ingesting] at call ⊢
  unfold verifyAction
  dsimp only
  cases read : request.observation host.rt host.fromisoformat site with
  | error error => exact restored
  | ok observation =>
      rw [read] at call
      dsimp only at call ⊢
      cases loaded : (site.database.tables.logObservation
          (request.tenantId, observation.observationId)).loadState host.rt request.tenantId
            (entityIdOf observation) with
      | error error => exact restored
      | ok existing =>
          rw [loaded] at call
          rcases call _ rfl with ⟨bounded, met⟩
          dsimp only
          rw [finish_eq_settle]
          have settled := Ingesting.settle_sized digests bounded met sized.tables
            (sized.tables.logObservation (request.tenantId, observation.observationId))
            (fun _ => site.database.tables.createsObservation (request.tenantId, observation.observationId))
            false
          generalize Ingesting.settle host.rt _ _ _ _ _ = ingested at settled ⊢
          rcases settled with ⟨service, tables⟩
          cases finished : ingested.result with
          | error error => exact ⟨service, restored.tables⟩
          | ok state =>
              dsimp only
              split
              · exact ⟨service, restored.tables⟩
              split
              · exact ⟨service, restored.tables⟩
              · rename_i persisted
                exact ⟨service, (congrArg TablesSized (persistEventsOf_tables persisted)).mpr tables⟩

theorem resolveHydrated_sized {rt : Runtime} {store : Store} {hydrated : WorldStateService}
    {stored : Conflict} {existing : Option OrderState} {request : ResolveRequest}
    (digests : DigestsSized rt) (met : sizes.MetBy hydrated) (sized : TablesSized store.tables)
    (role : request.role.length ≤ 255) :
    let resolved := resolveHydrated rt store hydrated stored existing request
    sizes.MetBy resolved.state.service ∧ TablesSized resolved.state.tables := by
  rcases met.resolveConflict (resolvable_sized digests met role) with ⟨after, answered⟩
  unfold resolveHydrated
  dsimp only
  split
  · exact ⟨after, sized⟩
  rename_i resolved finished
  have written : WrittenSized (request.tenantId, stored.entityType, stored.entityId)
      (.conflict resolved) := answered resolved finished
  split
  · exact ⟨after, sized.apply written⟩
  split
  · exact ⟨after, sized⟩
  split
  · exact ⟨after, sized⟩
  · rename_i state held _ commit logged
    refine ⟨after, TablesSized.apply ?_ written⟩
    rw [← persistWrites_apply]
    exact sized.applyAll (persistWrites_sized _ (after.commits _ commit logged)
      (after.states _ state held))

theorem SiteSized.resolved (sized : SiteSized site) (digests : DigestsSized host.rt)
    (request : ResolveRequest) : SiteSized (Request.after host site (.resolve request)) := by
  have roles : forall role, role ∈ resolverRoles -> role.length ≤ 255 := by decide
  have kept : SiteSized (site.withStore site.store) := sized
  change SiteSized (site.withStore (resolveConflict host.rt site.store request).state)
  unfold resolveConflict loadConflict
  split
  · exact kept
  rename_i listed
  cases found : site.store.tables.conflicts.get? (request.tenantId, request.conflictId) with
  | none => exact kept
  | some row =>
      dsimp only
      cases read : Tables.toConflict host.rt row with
      | error error => exact kept
      | ok stored =>
          dsimp only [Except.map]
          split
          · exact kept
          split
          · exact kept
          · rename_i existing loaded
            have small := (sized.tables.conflicts _ row found).read read
            have met := (sized.tables.hydrateFrom sized.world loaded).hydrateConflict small
            rcases @resolveHydrated_sized host.rt site.store _ stored existing request
              digests met sized.tables (roles _ (not_not.mp listed)) with ⟨world, tables⟩
            exact ⟨world, tables⟩

/-- A request may load a state and hydrate it, or leave World State alone. It writes no row
of an entity then. -/
def Reads (host : Host) (site after : Site) : Prop :=
  after.database.tables = site.database.tables ∧
    (after.process.world = site.process.world ∨
      Exists fun tenantId : Text => Exists fun entityId : Text => Exists fun state : OrderState =>
        site.database.tables.loadState host.rt tenantId entityId = .ok (some state) ∧
          (after.process.world = site.process.world.hydrate state none none ∨
            after.process.world =
              site.process.world.hydrateFrom site.database.tables tenantId (some state)))

theorem SiteSized.read (sized : SiteSized site) {after : Site} (reads : Reads host site after) :
    SiteSized after := by
  rcases reads with ⟨tables, same | ⟨tenantId, entityId, state, loaded, bare | whole⟩⟩
  · exact ⟨same ▸ sized.world, tables ▸ sized.tables⟩
  · have small := sized.tables.loaded loaded
    refine ⟨?_, tables ▸ sized.tables⟩
    rw [bare]
    exact sized.world.hydrate small small.commitId (fun _ _ absent => by cases absent)
  · refine ⟨?_, tables ▸ sized.tables⟩
    rw [whole]
    exact sized.tables.hydrateFrom sized.world loaded

/-- Every request keeps the bounds. -/
theorem SiteSized.after (sized : SiteSized site) (digests : DigestsSized host.rt) (request : Request)
    (named : forall call, request = .ingest call -> call.Named host site)
    (reads : forall after, request = .other after -> Reads host site after) :
    SiteSized (request.after host site) := by
  cases request with
  | ingest call =>
      have names := named call rfl
      cases call with
      | observe draws tenantId observation => exact sized.observed digests names
      | verify request => exact sized.verified digests names
      | workerRead stores tenantId attempt => exact sized.workerRead digests names
  | propose request =>
      rcases proposeAction_frame host.rt host.float host.settings site request with ⟨world, tables⟩
      exact ⟨world ▸ sized.world, tables ▸ sized.tables⟩
  | resolve request => exact sized.resolved digests request
  | restart => exact ⟨.fresh sizes, sized.tables⟩
  | other after => exact sized.read (reads after rfl)

end Sites

end Api
end RealityLayer
