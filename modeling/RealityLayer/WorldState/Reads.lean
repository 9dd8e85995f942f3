import RealityLayer.WorldState.Calls

namespace RealityLayer
namespace WorldState

open Foundation Python RealityGit

/-!
# Reading a service

The reads go by the keys of the maps, so each of them is about the entries of one
tenant.  A list of conflicts is sorted by detection time, and Python refuses to order a
datetime with an offset and one without.
-/

namespace WorldStateService

/-- `get_entity`. -/
def getEntity (service : WorldStateService) (tenantId entityType entityId : Text) :
    Except PyError OrderState :=
  match service.states.get? (tenantId, entityType, entityId) with
  | some state => .ok state
  | none => .error (.keyError ("Unknown " ++ entityType ++ ": " ++ entityId))

/-- `get_commit`. -/
def getCommit (service : WorldStateService) (tenantId commitId : Text) :
    Except PyError CommitRecord :=
  match service.commits.get? (tenantId, commitId) with
  | some commit => .ok commit
  | none => .error (.keyError ("Unknown commit: " ++ commitId))

/-- `has_open_conflicts`. It asks the index and not the conflicts, so an indexed conflict
counts whatever its status. -/
def hasOpenConflicts (service : WorldStateService) (tenantId entityType entityId : Text) : Bool :=
  service.openConflicts.keys.any (fun key =>
    decide (key.1 = tenantId) && decide (key.2.1 = entityType) && decide (key.2.2.1 = entityId))

end WorldStateService

/-! ## Lists of entities -/

/-- `str(value)`. A filter is a string, and every value is compared in its printed form. -/
def strOf (rt : Runtime) : Json -> Text
  | .str text => text
  | other => rt.str other

/-- `_matches_filters`. Each filter may be met by another attribute of the entity. -/
def matchesFilters (rt : Runtime) (entity : OrderState) (state freshness : Option Text)
    (minConfidence : Option PyFloat) : Bool :=
  let attributes := entity.attributes.values
  state.all (fun state => attributes.any (fun attr => decide (strOf rt attr.value = state))) &&
    freshness.all (fun label => attributes.any (fun attr => decide (attr.freshness = label))) &&
    minConfidence.all (fun bound => attributes.any (fun attr => attr.confidence.ge bound))

/-- `list_entities`. -/
def WorldStateService.listEntities (rt : Runtime) (service : WorldStateService) (tenantId : Text)
    (entityType state freshness : Option Text) (minConfidence : Option PyFloat) : List OrderState :=
  ((service.states.entries.filter (fun entry =>
    decide (entry.1.1 = tenantId) &&
      entityType.all (fun entityType => decide (entry.1.2.1 = entityType.lower)) &&
      matchesFilters rt entry.2 state freshness minConfidence)).map Prod.snd).insertionSort
    (fun first second => first.entityId.le second.entityId = true)

/-! ## Lists of conflicts -/

/-- The time a conflict is sorted by: the instant, or the wall clock without an offset. The
two are never compared with each other. -/
def Conflict.detection (conflict : Conflict) : Int :=
  conflict.detectedAt.instant?.getD conflict.detectedAt.wall

/-- `sorted` by `detected_at`. Python cannot compare a naive time with an aware one, so a
mixed list raises. -/
def sortedByDetection (conflicts : List Conflict) : Except PyError (List Conflict) :=
  if conflicts.all (fun conflict => conflict.detectedAt.offset.isSome) ∨
      conflicts.all (fun conflict => conflict.detectedAt.offset.isNone) then
    .ok (conflicts.insertionSort (fun first second => first.detection ≤ second.detection))
  else .error (.typeError "can't compare offset-naive and offset-aware datetimes")

/-- The status filter of `list_conflicts`. -/
def Conflict.hasStatus (status : Option Text) (conflict : Conflict) : Bool :=
  status.all (fun status => decide (conflict.status = status))

namespace WorldStateService

/-- The conflicts stored for a tenant, with a status if one is asked for. -/
def conflictsOf (service : WorldStateService) (tenantId : Text) (status : Option Text) :
    List Conflict :=
  (service.conflictsById.entries.filter (fun entry =>
    decide (entry.1.1 = tenantId) && entry.2.hasStatus status)).map Prod.snd

/-- `list_conflicts`. -/
def listConflicts (service : WorldStateService) (tenantId : Text) (status : Option Text) :
    Except PyError (List Conflict) :=
  sortedByDetection (service.conflictsOf tenantId status)

theorem mem_conflictsOf (service : WorldStateService) (tenantId : Text) (status : Option Text)
    (conflict : Conflict) :
    conflict ∈ service.conflictsOf tenantId status <->
      (Exists fun conflictId => service.conflictsById.get? (tenantId, conflictId) = some conflict) ∧
        conflict.hasStatus status = true := by
  unfold conflictsOf
  rw [List.mem_map]
  constructor
  · rintro ⟨⟨⟨owner, conflictId⟩, stored⟩, member, rfl⟩
    rcases List.mem_filter.mp member with ⟨inside, passes⟩
    rcases Bool.and_eq_true_iff.mp passes with ⟨tenant, status⟩
    cases of_decide_eq_true tenant
    exact ⟨⟨conflictId, (Dict.mem_entries_iff _ _ _).mp inside⟩, status⟩
  · rintro ⟨⟨conflictId, stored⟩, passes⟩
    refine ⟨((tenantId, conflictId), conflict), List.mem_filter.mpr ⟨?_, ?_⟩, rfl⟩
    · exact (Dict.mem_entries_iff _ _ _).mpr stored
    · rw [passes, Bool.and_true]
      exact decide_eq_true rfl

/-- The open index has an entry for an entity. -/
theorem hasOpenConflicts_iff (service : WorldStateService) (tenantId entityType entityId : Text) :
    service.hasOpenConflicts tenantId entityType entityId = true <->
      Exists fun name : Text => Exists fun conflictId : Text =>
        service.openConflicts.get? (tenantId, entityType, entityId, name) = some conflictId := by
  unfold hasOpenConflicts
  rw [List.any_eq_true]
  constructor
  · rintro ⟨⟨owner, kind, entity, name⟩, member, same⟩
    simp only [Bool.and_eq_true, decide_eq_true_eq] at same
    rcases same with ⟨⟨rfl, rfl⟩, rfl⟩
    rcases List.mem_map.mp member with ⟨⟨key, conflictId⟩, inside, rfl⟩
    exact ⟨name, conflictId, (Dict.mem_entries_iff _ _ _).mp inside⟩
  · rintro ⟨name, conflictId, indexed⟩
    refine ⟨(tenantId, entityType, entityId, name), ?_, by simp⟩
    exact List.mem_map.mpr ⟨_, (Dict.mem_entries_iff _ _ _).mpr indexed, rfl⟩

end WorldStateService

/-- Sorting aware detection times returns, with the same conflicts. -/
theorem sortedByDetection_aware {conflicts : List Conflict}
    (aware : forall conflict, conflict ∈ conflicts -> conflict.detectedAt.offset.isSome = true) :
    Exists fun sorted : List Conflict => sortedByDetection conflicts = .ok sorted ∧
      List.Perm sorted conflicts := by
  unfold sortedByDetection
  rw [if_pos (Or.inl (List.all_eq_true.mpr aware))]
  exact ⟨_, rfl, List.perm_insertionSort _ _⟩

end WorldState
end RealityLayer
