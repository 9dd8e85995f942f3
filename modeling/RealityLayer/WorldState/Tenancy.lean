import RealityLayer.Foundation.Walks
import RealityLayer.WorldState.Filing
import RealityLayer.WorldState.Reads

namespace RealityLayer
namespace WorldState

open Foundation Python RealityGit WorldStateService

/-!
# One tenant's part of the service

All tenants share the maps of the service, and every key starts with a tenant.  `viewOf` is
the part of every map that is under one tenant.  Isolation has two halves: an operation for one
tenant leaves the views of all others as they were, and a read for a tenant is a function of
its view.

The walk along a tenant's commits is bounded here by the number of all stored commits, so the
second half needs that a larger bound changes no walk.
-/

/-! ## Operations -/

def WorldCall.tenantId : WorldCall -> Text
  | .ingest _ tenantId _ _ _ => tenantId
  | .resolveConflict _ tenantId _ _ _ _ => tenantId

/-- A call, or hydrating a record of a tenant. These are all the ways in which a service changes. -/
inductive WorldOperation where
  | call (call : WorldCall)
  | hydrate (state : OrderState) (parentCommitId parentHash : Option Text)
  | hydrateConflict (conflict : Conflict)

def WorldOperation.tenantId : WorldOperation -> Text
  | .call request => request.tenantId
  | .hydrate state _ _ => state.tenantId
  | .hydrateConflict conflict => conflict.tenantId

/-- What an operation leaves, and whether it raises. -/
def WorldOperation.outcome (rt : Runtime) (service : WorldStateService) :
    WorldOperation -> Outcome PyError WorldStateService Unit
  | .call (.ingest draws tenantId observation cause assuranceLevel) =>
      (service.ingest rt draws tenantId observation cause assuranceLevel).map (fun _ => ())
  | .call (.resolveConflict draws tenantId conflictId resolvedValue resolvedBy reason) =>
      (service.resolveConflict rt draws tenantId conflictId resolvedValue resolvedBy reason).map
        (fun _ => ())
  | .hydrate state parentCommitId parentHash =>
      .returns (service.hydrate state parentCommitId parentHash) ()
  | .hydrateConflict conflict => .returns (service.hydrateConflict conflict) ()

/-! ## Reads -/

/-- The reads of the service, with their arguments but for the tenant. The tenant is the one
argument that a reader cannot choose freely. -/
inductive WorldRead where
  | getEntity (entityType entityId : Text)
  | listEntities (entityType state freshness : Option Text) (minConfidence : Option PyFloat)
  | getCommit (commitId : Text)
  | listCommits (sinceCommitId : Option Text)
  | getConflict (conflictId : Text)
  | listConflicts (status : Option Text)
  | hasOpenConflicts (entityType entityId : Text)

inductive WorldAnswer where
  | entity (state : OrderState)
  | entities (states : List OrderState)
  | commit (commit : CommitRecord)
  | commits (commits : List CommitRecord)
  | conflict (conflict : Conflict)
  | conflicts (conflicts : List Conflict)
  | flag (value : Bool)
deriving DecidableEq

def WorldStateService.read (rt : Runtime) (service : WorldStateService) (tenantId : Text) :
    WorldRead -> Except PyError WorldAnswer
  | .getEntity entityType entityId =>
      (service.getEntity tenantId entityType entityId).map .entity
  | .listEntities entityType state freshness minConfidence =>
      .ok (.entities (service.listEntities rt tenantId entityType state freshness minConfidence))
  | .getCommit commitId => (service.getCommit tenantId commitId).map .commit
  | .listCommits sinceCommitId => (service.listCommits tenantId sinceCommitId).map .commits
  | .getConflict conflictId => (service.getConflict tenantId conflictId).map .conflict
  | .listConflicts status => (service.listConflicts tenantId status).map .conflicts
  | .hasOpenConflicts entityType entityId =>
      .ok (.flag (service.hasOpenConflicts tenantId entityType entityId))

/-! ## Views -/

/-- The part of the service under one tenant. Nothing that the tenant can ask for depends on
the rest. -/
def WorldStateService.viewOf (service : WorldStateService) (tenantId : Text) : WorldStateService where
  observations := service.observations.restrict (fun key => decide (key.1 = tenantId))
  states := service.states.restrict (fun key => decide (key.1 = tenantId))
  commits := service.commits.restrict (fun key => decide (key.1 = tenantId))
  latestCommit := service.latestCommit.restrict (fun key => decide (key = tenantId))
  openConflicts := service.openConflicts.restrict (fun key => decide (key.1 = tenantId))
  conflictsById := service.conflictsById.restrict (fun key => decide (key.1 = tenantId))

/-- Every conflict is stored under its own identifier. -/
def NamedConflicts (service : WorldStateService) : Prop :=
  forall id conflict, service.conflictsById.get? id = some conflict -> conflict.storedId = id

section Views

variable {service : WorldStateService} {tenantId other : Text}

theorem part_set {K V : Type} [DecidableEq K] (different : tenantId ≠ other) (dict : Dict (Text × K) V)
    (key : K) (value : V) :
    (dict.set (tenantId, key) value).restrict (fun key => decide (key.1 = other)) =
      dict.restrict (fun key => decide (key.1 = other)) :=
  Dict.restrict_set dict value (decide_eq_false different)

theorem part_erase {K V : Type} [DecidableEq K] (different : tenantId ≠ other)
    (dict : Dict (Text × K) V) (key : K) :
    (dict.erase (tenantId, key)).restrict (fun key => decide (key.1 = other)) =
      dict.restrict (fun key => decide (key.1 = other)) :=
  Dict.restrict_erase dict (decide_eq_false different)

theorem part_head {V : Type} (different : tenantId ≠ other) (dict : Dict Text V) (value : V) :
    (dict.set tenantId value).restrict (fun key => decide (key = other)) =
      dict.restrict (fun key => decide (key = other)) :=
  Dict.restrict_set dict value (decide_eq_false different)

theorem viewOf_seen (observation : Observation) (different : tenantId ≠ other) :
    (service.seen tenantId observation).viewOf other = service.viewOf other := by
  simp only [viewOf, seen, part_set different]

theorem viewOf_setState (key : Text × Text) (state : OrderState) (different : tenantId ≠ other) :
    (service.setState (tenantId, key) state).viewOf other = service.viewOf other := by
  simp only [viewOf, setState, part_set different]

theorem viewOf_record {commit : CommitRecord} (different : commit.tenantId ≠ other) :
    (service.record commit).viewOf other = service.viewOf other := by
  simp only [viewOf, record, part_set different, part_head different]

theorem viewOf_storeConflict {conflict : Conflict} (different : conflict.tenantId ≠ other) :
    (service.storeConflict conflict).viewOf other = service.viewOf other := by
  simp only [viewOf, storeConflict, part_set different]

theorem viewOf_index (key : Text × Text × Text) (conflictId : Text) (different : tenantId ≠ other) :
    WorldStateService.viewOf { service with
        openConflicts := service.openConflicts.set (tenantId, key) conflictId } other =
      service.viewOf other := by
  simp only [viewOf, part_set different]

theorem viewOf_unindex (key : Text × Text × Text) (different : tenantId ≠ other) :
    WorldStateService.viewOf { service with
        openConflicts := service.openConflicts.erase (tenantId, key) } other = service.viewOf other := by
  simp only [viewOf, part_erase different]

theorem NamedConflicts.store (named : NamedConflicts service) (conflict : Conflict) :
    NamedConflicts (service.storeConflict conflict) := by
  intro id found stored
  change (service.conflictsById.set conflict.storedId conflict).get? id = some found at stored
  rw [Dict.get?_set] at stored
  split at stored
  · cases stored
    exact Eq.symm ‹_›
  · exact named id found stored

theorem NamedConflicts.congr {after : WorldStateService} (named : NamedConflicts service)
    (same : after.conflictsById = service.conflictsById) : NamedConflicts after := by
  unfold NamedConflicts
  rw [same]
  exact named

end Views

/-! ## Operations and views -/

/-- Between two moments nothing changed but one tenant's part. Conflicts are stored under the
tenant's name, so the views of the others are not touched. -/
structure Keeps (tenantId : Text) (before after : WorldStateService) : Prop where
  named : NamedConflicts after
  views : forall other, tenantId ≠ other -> after.viewOf other = before.viewOf other

section Operations

variable {service before middle after : WorldStateService} {rt : Runtime} {draws : Draws}
variable {tenantId : Text}

theorem Keeps.refl (tenantId : Text) (named : NamedConflicts service) :
    Keeps tenantId service service :=
  ⟨named, fun _ _ => rfl⟩

theorem Keeps.trans (first : Keeps tenantId before middle) (second : Keeps tenantId middle after) :
    Keeps tenantId before after :=
  ⟨second.named, fun other different => (second.views other different).trans (first.views other different)⟩

theorem recordConflict_keeps (named : NamedConflicts service) (place : Nat)
    (entityType entityId name : Text) (existing incoming : StateAttribute) :
    Keeps tenantId service
      (service.recordConflict draws place tenantId entityType entityId name existing incoming) := by
  cases found : service.openConflict? tenantId entityType entityId name with
  | none =>
      rw [recordConflict_absent found]
      refine ⟨(named.store _).congr rfl, ?_⟩
      intro other different
      exact (viewOf_index (entityType, entityId, name) _ different).trans (viewOf_storeConflict different)
  | some conflict =>
      rcases Option.bind_eq_some_iff.mp found with ⟨conflictId, _, stored⟩
      have owner : conflict.tenantId = tenantId := congrArg Prod.fst (named _ _ stored)
      cases listed : conflict.lists incoming with
      | true =>
          rw [recordConflict_listed found listed]
          exact .refl tenantId named
      | false =>
          rw [recordConflict_unlisted found listed]
          refine ⟨named.store _, ?_⟩
          intro other different
          exact viewOf_storeConflict (owner ▸ different)

theorem recordConflicts_keep (named : NamedConflicts service) (place : Nat) (entityType entityId : Text)
    (previous : Dict Text StateAttribute) (entries : List (Text × StateAttribute)) :
    Keeps tenantId service
      (recordConflicts draws tenantId entityType entityId previous place entries service) := by
  induction entries generalizing service place with
  | nil => exact .refl tenantId named
  | cons entry rest ih =>
      rw [recordConflicts]
      cases disputed? previous entry with
      | none => exact ih named (place + 1)
      | some existing =>
          have first : Keeps tenantId service (service.recordConflict draws place tenantId entityType
              entityId entry.1 existing entry.2) :=
            recordConflict_keeps named place entityType entityId entry.1 existing entry.2
          exact first.trans (ih first.named (place + 1))

theorem merged_keeps (named : NamedConflicts service) (observation : Observation)
    (previous : Option OrderState) (incoming : Dict Text StateAttribute) :
    Keeps tenantId service (service.merged draws tenantId observation previous incoming) := by
  have seen : Keeps tenantId service (service.seen tenantId observation) :=
    ⟨named.congr rfl, fun _ different => viewOf_seen observation different⟩
  exact seen.trans (recordConflicts_keep seen.named _ _ _ _ _)

/-- A commit of the tenant and the state it belongs to. -/
theorem committed_keeps (named : NamedConflicts service) {commit : CommitRecord}
    (owner : commit.tenantId = tenantId) (key : Text × Text) (state : OrderState) :
    Keeps tenantId service ((service.record commit).setState (tenantId, key) state) := by
  refine ⟨named.congr rfl, ?_⟩
  intro other different
  exact (viewOf_setState key state different).trans (viewOf_record (owner ▸ different))

theorem ingest_keeps_others (named : NamedConflicts service) (observation : Observation)
    (cause assuranceLevel : Text) :
    Keeps tenantId service (service.ingest rt draws tenantId observation cause assuranceLevel).state := by
  have way := ingest_ingestion rt service draws tenantId observation cause assuranceLevel
  generalize service.states.get? (tenantId, observation.objectType, observation.objectId) = previous
    at way
  generalize service.ingest rt draws tenantId observation cause assuranceLevel = outcome at way ⊢
  cases way with
  | repeated state stored known => exact .refl tenantId named
  | stateless absent known => exact .refl tenantId named
  | unprojected error =>
      exact ⟨named.congr rfl, fun _ different => viewOf_seen observation different⟩
  | unchanged incoming state stored => exact merged_keeps named observation _ incoming
  | undumped incoming => exact merged_keeps named observation _ incoming
  | refused incoming error => exact merged_keeps named observation _ incoming
  | committed incoming commit new projected changes continues answers =>
      have merged : Keeps tenantId service
          (service.merged draws tenantId observation previous incoming) :=
        merged_keeps named observation previous incoming
      exact merged.trans (committed_keeps merged.named answers.tenantId _ _)

theorem closeConflict_keeps (named : NamedConflicts service) {conflict : Conflict}
    (owner : conflict.tenantId = tenantId) (resolvedValue : Json) (resolvedBy reason : Text)
    (now : Timestamp) :
    Keeps tenantId service (service.closeConflict tenantId conflict resolvedValue resolvedBy reason
      now).state := by
  refine ⟨(named.store _).congr rfl, ?_⟩
  intro other different
  refine (viewOf_unindex (conflict.entityType, conflict.entityId, conflict.attributeName)
    different).trans ?_
  exact viewOf_storeConflict (owner ▸ different)

theorem resolveConflict_keeps (named : NamedConflicts service) (conflictId : Text)
    (resolvedValue : Json) (resolvedBy reason : Text) :
    Keeps tenantId service (service.resolveConflict rt draws tenantId conflictId resolvedValue resolvedBy
      reason).state := by
  have way := resolveConflict_resolution rt service draws tenantId conflictId resolvedValue resolvedBy
    reason
  have owned : forall conflict, service.getConflict tenantId conflictId = .ok conflict ->
      conflict.tenantId = tenantId := by
    intro conflict found
    exact congrArg Prod.fst (named _ _ (getConflict_ok found))
  generalize service.resolveConflict rt draws tenantId conflictId resolvedValue resolvedBy reason =
    outcome at way ⊢
  cases way with
  | unknown error absent => exact .refl tenantId named
  | settled conflict found resolved => exact .refl tenantId named
  | undumped conflict state found unresolved stored undumpable => exact .refl tenantId named
  | refused conflict state error found unresolved stored failed => exact .refl tenantId named
  | stateless conflict found unresolved absent =>
      exact closeConflict_keeps named (owned conflict found) _ _ _ _
  | committed conflict state commit found unresolved stored continues answers =>
      have written := committed_keeps named answers.tenantId (conflict.entityType, conflict.entityId)
        (resolvedState tenantId state conflict resolvedValue draws commit.commitId)
      exact written.trans (closeConflict_keeps written.named (owned conflict found) _ _ _ _)

theorem hydrate_keeps (named : NamedConflicts service) (state : OrderState)
    (parentCommitId parentHash : Option Text) :
    Keeps state.tenantId service (service.hydrate state parentCommitId parentHash) := by
  refine ⟨named.congr (hydrate_sameConflicts service state parentCommitId parentHash).conflictsById.symm,
    ?_⟩
  intro other different
  unfold hydrate
  dsimp only
  split
  · simp only [viewOf, setState, part_set different, part_head different]
  · simp only [viewOf, setState, part_set different, part_head different]

theorem hydrateConflict_keeps (named : NamedConflicts service) (conflict : Conflict) :
    Keeps conflict.tenantId service (service.hydrateConflict conflict) := by
  refine ⟨(named.store conflict).congr (hydrateConflict_conflictsById service conflict), ?_⟩
  intro other different
  unfold WorldStateService.hydrateConflict
  dsimp only
  split
  · exact (viewOf_index (conflict.entityType, conflict.entityId, conflict.attributeName) _
      different).trans (viewOf_storeConflict different)
  · exact (viewOf_unindex (conflict.entityType, conflict.entityId, conflict.attributeName)
      different).trans (viewOf_storeConflict different)

/-- An operation for one tenant changes nothing under any other. -/
theorem WorldOperation.keeps (rt : Runtime) (named : NamedConflicts service)
    (operation : WorldOperation) :
    Keeps operation.tenantId service (operation.outcome rt service).state := by
  cases operation with
  | call request =>
      cases request with
      | ingest draws tenantId observation cause assuranceLevel =>
          exact ingest_keeps_others named observation cause assuranceLevel
      | resolveConflict draws tenantId conflictId resolvedValue resolvedBy reason =>
          exact resolveConflict_keeps named conflictId resolvedValue resolvedBy reason
  | hydrate state parentCommitId parentHash => exact hydrate_keeps named state parentCommitId parentHash
  | hydrateConflict conflict => exact hydrateConflict_keeps named conflict

end Operations

/-! ## Reads and views -/

section Reads

variable (service : WorldStateService) (tenantId : Text)

theorem get?_part {K V : Type} [DecidableEq K] (dict : Dict (Text × K) V) (key : K) :
    (dict.restrict (fun key => decide (key.1 = tenantId))).get? (tenantId, key) =
      dict.get? (tenantId, key) := by
  rw [Dict.get?_restrict]
  exact if_pos (decide_eq_true rfl)

theorem viewOf_head : (service.viewOf tenantId).latestCommit.get? tenantId =
    service.latestCommit.get? tenantId := by
  change (service.latestCommit.restrict _).get? tenantId = _
  rw [Dict.get?_restrict]
  exact if_pos (decide_eq_true rfl)

/-- A filter that asks for the tenant first sees the tenant's part only. -/
theorem filter_part {K V : Type} (dict : Dict (Text × K) V) (selects : (Text × K) × V -> Bool)
    (own : forall entry, selects entry = true -> entry.1.1 = tenantId) :
    (dict.restrict (fun key => decide (key.1 = tenantId))).entries.filter selects =
      dict.entries.filter selects := by
  change (dict.entries.filter _).filter selects = dict.entries.filter selects
  rw [List.filter_filter]
  refine List.filter_congr (fun entry _ => ?_)
  cases selected : selects entry with
  | false => rfl
  | true => exact decide_eq_true (own entry selected)

/-- The walk along a tenant's commits sees the tenant's commits only. Commits are looked up
under the tenant, so a parent of another one is never found. -/
theorem viewOf_chainOf : (service.viewOf tenantId).chainOf tenantId = service.chainOf tenantId := by
  have find : (fun commitId => (service.viewOf tenantId).commits.get? (tenantId, commitId)) =
      fun commitId => service.commits.get? (tenantId, commitId) := by
    funext commitId
    exact get?_part tenantId service.commits commitId
  have fewer : (service.viewOf tenantId).commits.entries.length ≤ service.commits.entries.length :=
    List.length_filter_le _ _
  unfold chainOf
  rw [find, viewOf_head]
  apply congrArg List.reverse
  have short : forall seen : List Text,
      (unvisited ((service.viewOf tenantId).commits.keys.map Prod.snd) seen).length ≤
        (service.viewOf tenantId).commits.entries.length := by
    intro seen
    apply (List.length_filter_le _ _).trans
    rw [List.length_map, Dict.keys, List.length_map]
  refine walkBack_bound ((service.viewOf tenantId).commits.keys.map Prod.snd) ?_ _ _ [] _ ?_ ?_
  · intro commitId stored
    rcases Option.isSome_iff_exists.mp stored with ⟨commit, stored⟩
    rw [← get?_part tenantId service.commits commitId] at stored
    have member := ((service.viewOf tenantId).commits.mem_entries_iff _ _).mpr stored
    exact List.mem_map.mpr ⟨_, List.mem_map_of_mem (f := Prod.fst) member, rfl⟩
  · have small := short []
    unfold walkBound
    omega
  · have small := short []
    unfold walkBound
    omega

theorem viewOf_hasOpenConflicts (entityType entityId : Text) :
    (service.viewOf tenantId).hasOpenConflicts tenantId entityType entityId =
      service.hasOpenConflicts tenantId entityType entityId := by
  rw [Bool.eq_iff_iff, hasOpenConflicts_iff, hasOpenConflicts_iff]
  refine exists_congr (fun name => exists_congr (fun conflictId => ?_))
  change (service.openConflicts.restrict _).get? (tenantId, entityType, entityId, name) = _ <-> _
  rw [get?_part]

/-- A read for a tenant is a read of its view. -/
theorem read_viewOf (rt : Runtime) (request : WorldRead) :
    (service.viewOf tenantId).read rt tenantId request = service.read rt tenantId request := by
  cases request with
  | getEntity entityType entityId =>
      unfold WorldStateService.read getEntity
      dsimp only [viewOf]
      rw [get?_part]
  | listEntities entityType state freshness minConfidence =>
      unfold WorldStateService.read listEntities
      dsimp only [viewOf]
      rw [filter_part]
      intro entry selected
      simp only [Bool.and_eq_true] at selected
      exact of_decide_eq_true selected.1.1
  | getCommit commitId =>
      unfold WorldStateService.read getCommit
      dsimp only [viewOf]
      rw [get?_part]
  | listCommits sinceCommitId =>
      unfold WorldStateService.read listCommits
      dsimp only
      rw [viewOf_head, viewOf_chainOf]
  | getConflict conflictId =>
      unfold WorldStateService.read getConflict
      dsimp only [viewOf]
      rw [get?_part]
  | listConflicts status =>
      unfold WorldStateService.read listConflicts conflictsOf
      dsimp only [viewOf]
      rw [filter_part]
      intro entry selected
      exact of_decide_eq_true (Bool.and_eq_true_iff.mp selected).1
  | hasOpenConflicts entityType entityId =>
      exact congrArg (fun flag => Except.ok (WorldAnswer.flag flag))
        (viewOf_hasOpenConflicts service tenantId entityType entityId)

end Reads

/-- An operation for one tenant changes no read of another. This includes what the other one
is answered when it raises. -/
theorem WorldOperation.read_other (rt : Runtime) {service : WorldStateService}
    (named : NamedConflicts service) (operation : WorldOperation) {tenantId : Text}
    (different : operation.tenantId ≠ tenantId) (request : WorldRead) :
    (operation.outcome rt service).state.read rt tenantId request =
      service.read rt tenantId request := by
  rw [← read_viewOf, (operation.keeps rt named).views tenantId different, read_viewOf]

/-- Resolving a conflict that the tenant does not have raises, and changes nothing. -/
theorem resolveConflict_foreign (rt : Runtime) {service : WorldStateService} {tenantId conflictId : Text}
    (foreign : service.conflictsById.get? (tenantId, conflictId) = none) (draws : Draws)
    (resolvedValue : Json) (resolvedBy reason : Text) :
    service.resolveConflict rt draws tenantId conflictId resolvedValue resolvedBy reason =
      .raises service (.keyError ("Unknown conflict: " ++ conflictId)) := by
  unfold resolveConflict getConflict
  rw [foreign]

end WorldState
end RealityLayer
