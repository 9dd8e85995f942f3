import Mathlib.Data.List.Sort
import RealityLayer.WorldState.Filing

namespace RealityLayer
namespace WorldState

open Foundation Python RealityGit WorldStateService

/-!
# Conflicts in the table

Hydrating reads every row of a tenant into the service, and persisting writes every
conflict of a tenant back.  Both go by the identifier, so the lemmas say what is found
under each identifier afterwards.
-/

/-- A row is stored under its own identifier. -/
def Keyed (tables : Tables) : Prop :=
  forall id row, tables.conflicts.get? id = some row -> row.conflict.storedId = id

/-- The rows are about the attributes of a registry. -/
def RegisteredRows (registry : Registry) (tables : Tables) : Prop :=
  forall id row, tables.conflicts.get? id = some row -> row.conflict.key = registry id

/-- The table holds a conflict: open, about the same attribute, and with its candidates. The
candidates are there in their dumped form. -/
def HoldsOpen (rt : Runtime) (tables : Tables) (conflict : Conflict) : Prop :=
  Exists fun row : ConflictRow => tables.conflicts.get? conflict.storedId = some row ∧
    row.conflict.key = conflict.key ∧ row.conflict.status = "open" ∧
    row.candidates = conflict.candidates.map (ConflictCandidate.dump rt)

section Rows

variable {rt : Runtime} {tables : Tables} {tenantId : Text} {registry : Registry}

/-- Only the candidates of a row are validated. -/
theorem toConflict_candidates {row : ConflictRow} {conflict : Conflict}
    (read : Tables.toConflict rt row = .ok conflict) :
    Exists fun candidates : List ConflictCandidate => conflict = { row.conflict with candidates } := by
  unfold Tables.toConflict at read
  cases validated : row.candidates.mapM (ConflictCandidate.modelValidate rt) with
  | error error =>
      rw [validated] at read
      cases read
  | ok candidates =>
      rw [validated] at read
      cases read
      exact ⟨candidates, rfl⟩

theorem toConflict_ok {row : ConflictRow} {conflict : Conflict}
    (read : Tables.toConflict rt row = .ok conflict) :
    conflict.storedId = row.conflict.storedId ∧ conflict.key = row.conflict.key ∧
      conflict.status = row.conflict.status := by
  rcases toConflict_candidates read with ⟨candidates, rfl⟩
  exact ⟨rfl, rfl, rfl⟩

theorem Keyed.congr {other : Tables} (keyed : Keyed tables)
    (same : other.conflicts = tables.conflicts) : Keyed other := by
  unfold Keyed
  rw [same]
  exact keyed

theorem RegisteredRows.congr {other : Tables} (registered : RegisteredRows registry tables)
    (same : other.conflicts = tables.conflicts) : RegisteredRows registry other := by
  unfold RegisteredRows
  rw [same]
  exact registered

/-- Agreeing registries register the same rows where no drawn identifier has a row. -/
theorem RegisteredRows.agree {later : Registry} {draws : Draws} {count : Nat}
    (registered : RegisteredRows registry tables) (agree : AgreeBut tenantId draws 0 count registry later)
    (fresh : forall place, place < count ->
      tables.conflicts.get? (tenantId, newConflictId draws place) = none) :
    RegisteredRows later tables := by
  intro id row stored
  rcases agree id with same | ⟨tenant, offset, inside, drawn⟩
  · exact (registered id row stored).trans same.symm
  · have absent := fresh (0 + offset) (by omega)
    rw [← tenant, ← drawn, stored] at absent
    cases absent

/-! ## Reading the rows of a tenant -/

/-- What `list_conflicts` returns: each row of the tenant, read once. The order is the order
of the rows, which no query asks for. -/
structure Listed (rt : Runtime) (tables : Tables) (tenantId : Text) (conflicts : List Conflict) :
    Prop where
  distinct : (conflicts.map Conflict.storedId).Nodup
  rows : forall conflict, conflict ∈ conflicts -> Exists fun row : ConflictRow =>
    tables.conflicts.get? conflict.storedId = some row ∧ row.conflict.tenantId = tenantId ∧
      Tables.toConflict rt row = .ok conflict
  all : forall id row, tables.conflicts.get? id = some row -> row.conflict.tenantId = tenantId ->
    Exists fun conflict : Conflict => conflict ∈ conflicts ∧ Tables.toConflict rt row = .ok conflict

theorem listConflicts_listed (keyed : Keyed tables) {conflicts : List Conflict}
    (listed : tables.listConflicts rt tenantId = .ok conflicts) :
    Listed rt tables tenantId conflicts := by
  unfold Tables.listConflicts at listed
  have read := forall₂_of_mapM listed
  have perm := List.perm_insertionSort Tables.detectedBefore
    (tables.conflicts.values.filter (fun row => decide (row.conflict.tenantId = tenantId)))
  generalize List.insertionSort Tables.detectedBefore
    (tables.conflicts.values.filter (fun row => decide (row.conflict.tenantId = tenantId))) = rows
    at read perm
  have named : conflicts.map Conflict.storedId = rows.map (fun row => row.conflict.storedId) := by
    clear perm listed
    induction read with
    | nil => rfl
    | cons first rest ih => rw [List.map_cons, List.map_cons, ih, (toConflict_ok first).1]
  have members : forall row, row ∈ rows <->
      (Exists fun id => tables.conflicts.get? id = some row) ∧ row.conflict.tenantId = tenantId := by
    intro row
    rw [perm.mem_iff, List.mem_filter, Dict.mem_values_iff, decide_eq_true_iff]
  refine ⟨?_, ?_, ?_⟩
  · rw [named, (perm.map _).nodup_iff]
    apply List.Nodup.sublist (List.filter_sublist.map _)
    rw [Dict.map_values_of_named _ _ keyed]
    exact tables.conflicts.distinct
  · intro conflict member
    rcases exists_left_of_forall₂ read member with ⟨row, inside, same⟩
    rcases (members row).mp inside with ⟨⟨id, stored⟩, owner⟩
    have key := (toConflict_ok same).1.trans (keyed id row stored)
    exact ⟨row, key ▸ stored, owner, same⟩
  · intro id row stored owner
    exact exists_right_of_forall₂ read ((members row).mpr ⟨⟨id, stored⟩, owner⟩)

theorem Listed.congr {other : Tables} {conflicts : List Conflict}
    (listed : Listed rt other tenantId conflicts) (same : other.conflicts = tables.conflicts) :
    Listed rt tables tenantId conflicts where
  distinct := listed.distinct
  rows := same ▸ listed.rows
  all := same ▸ listed.all

/-! ## Hydrating the rows of a tenant -/

theorem hydrateAll_conflictsById (conflicts : List Conflict) (service : WorldStateService) :
    (conflicts.foldl WorldStateService.hydrateConflict service).conflictsById =
      conflicts.foldl (fun stored conflict => stored.set conflict.storedId conflict)
        service.conflictsById := by
  induction conflicts generalizing service with
  | nil => rfl
  | cons conflict rest ih =>
      rw [List.foldl_cons, List.foldl_cons, ih, hydrateConflict_conflictsById]

/-- Hydrating adds no conflict but those of the list. -/
theorem hydrateAll_source {conflicts : List Conflict} {service : WorldStateService}
    (distinct : (conflicts.map Conflict.storedId).Nodup) {id : Text × Text} {conflict : Conflict}
    (stored : (conflicts.foldl WorldStateService.hydrateConflict service).conflictsById.get? id =
      some conflict) :
    (service.conflictsById.get? id).isSome = true ∨
      Exists fun listed : Conflict => listed ∈ conflicts ∧ listed.storedId = id := by
  rw [hydrateAll_conflictsById] at stored
  by_cases inside : id ∈ conflicts.map Conflict.storedId
  · exact Or.inr (List.mem_map.mp inside)
  · rw [(Dict.get?_foldl_set Conflict.storedId (fun conflict => conflict) conflicts distinct
      service.conflictsById).2 id inside] at stored
    exact Or.inl (Option.isSome_iff_exists.mpr ⟨conflict, stored⟩)

/-- After hydrating a tenant's rows, an open row is an open conflict of the service. -/
theorem Listed.hydrated {conflicts : List Conflict} (listed : Listed rt tables tenantId conflicts)
    (service : WorldStateService) {id : Text × Text} {row : ConflictRow}
    (stored : tables.conflicts.get? id = some row) (owner : row.conflict.tenantId = tenantId)
    (keyed : Keyed tables) :
    Exists fun conflict : Conflict =>
      (conflicts.foldl WorldStateService.hydrateConflict service).conflictsById.get? id =
        some conflict ∧ conflict.key = row.conflict.key ∧ conflict.status = row.conflict.status := by
  rcases listed.all id row stored owner with ⟨conflict, member, read⟩
  rcases toConflict_ok read with ⟨named, about, status⟩
  refine ⟨conflict, ?_, about, status⟩
  rw [hydrateAll_conflictsById, ← keyed id row stored, ← named]
  exact (Dict.get?_foldl_set Conflict.storedId (fun conflict => conflict) conflicts listed.distinct
    service.conflictsById).1 conflict member

/-- The conflicts of listed rows are about the attributes that the rows are about. -/
theorem Listed.known {conflicts : List Conflict} (listed : Listed rt tables tenantId conflicts)
    (registered : RegisteredRows registry tables) (conflict : Conflict) (member : conflict ∈ conflicts) :
    conflict.key = registry conflict.storedId := by
  rcases listed.rows conflict member with ⟨row, stored, _, read⟩
  rw [(toConflict_ok read).2.1]
  exact registered _ row stored

/-! ## Persisting the conflicts of a tenant -/

/-- The row of a conflict. -/
def conflictRow (rt : Runtime) (conflict : Conflict) : ConflictRow :=
  ⟨conflict, conflict.candidates.map (ConflictCandidate.dump rt)⟩

theorem persistAll_conflicts (conflicts : List Conflict) (tables : Tables) :
    (conflicts.foldl (Tables.persistConflict rt) tables).conflicts =
      conflicts.foldl (fun rows conflict => rows.set conflict.storedId (conflictRow rt conflict))
        tables.conflicts := by
  induction conflicts generalizing tables with
  | nil => rfl
  | cons conflict rest ih =>
      rw [List.foldl_cons, List.foldl_cons, ih]
      rfl

theorem persistConflicts_congr {other : Tables} (same : other.conflicts = tables.conflicts)
    (service : WorldStateService) :
    (other.persistConflicts rt service tenantId).conflicts =
      (tables.persistConflicts rt service tenantId).conflicts := by
  unfold Tables.persistConflicts
  rw [persistAll_conflicts, persistAll_conflicts, same]

theorem logObservation_conflicts (tables : Tables) (key : Text × Text) :
    (tables.logObservation key).conflicts = tables.conflicts := by
  unfold Tables.logObservation
  split
  · rfl
  · rfl

theorem persist_conflicts (tables : Tables) (state : OrderState) (commit : CommitRecord) :
    (tables.persist rt state commit).conflicts = tables.conflicts := by
  unfold Tables.persist
  split
  · rfl
  · rfl

/-- Persisting writes every conflict of the tenant, and no other row. -/
theorem persistConflicts_get? {service : WorldStateService} (filed : Filed service)
    (id : Text × Text) :
    (tables.persistConflicts rt service tenantId).conflicts.get? id =
      match service.conflictsById.get? id with
      | none => tables.conflicts.get? id
      | some conflict =>
          if id.1 = tenantId then some (conflictRow rt conflict) else tables.conflicts.get? id := by
  unfold Tables.persistConflicts
  rw [persistAll_conflicts]
  have distinct : ((service.conflictsById.values.filter (fun conflict =>
      decide (conflict.tenantId = tenantId))).map Conflict.storedId).Nodup := by
    apply List.Nodup.sublist (List.filter_sublist.map _)
    rw [Dict.map_values_of_named _ _ filed.named]
    exact service.conflictsById.distinct
  rcases Dict.get?_foldl_set Conflict.storedId (conflictRow rt) _ distinct
    tables.conflicts with ⟨inside, outside⟩
  have untouched : (forall conflict, service.conflictsById.get? id = some conflict ->
      id.1 ≠ tenantId) -> id ∉ (service.conflictsById.values.filter (fun conflict =>
        decide (conflict.tenantId = tenantId))).map Conflict.storedId := by
    intro foreign member
    rcases List.mem_map.mp member with ⟨conflict, listed, same⟩
    rcases List.mem_filter.mp listed with ⟨held, owner⟩
    rcases (Dict.mem_values_iff _ _).mp held with ⟨key, stored⟩
    have named := filed.named key conflict stored
    rw [← named, same] at stored
    apply foreign conflict stored
    rw [← same]
    exact of_decide_eq_true owner
  cases stored : service.conflictsById.get? id with
  | none =>
      refine outside id (untouched ?_)
      intro conflict found
      rw [stored] at found
      cases found
  | some conflict =>
      have named := filed.named id conflict stored
      dsimp only
      by_cases owner : id.1 = tenantId
      · rw [if_pos owner]
        have found := inside conflict (List.mem_filter.mpr ⟨(Dict.mem_values_iff _ _).mpr ⟨id, stored⟩,
          decide_eq_true (by rw [← owner, ← named]; rfl)⟩)
        rwa [named] at found
      · rw [if_neg owner]
        exact outside id (untouched (fun _ _ => owner))

/-- A row after persisting was written for a conflict of the service, or was there before. -/
theorem persistConflicts_source {service : WorldStateService} (filed : Filed service)
    {id : Text × Text} {row : ConflictRow}
    (stored : (tables.persistConflicts rt service tenantId).conflicts.get? id = some row) :
    (Exists fun conflict : Conflict => service.conflictsById.get? id = some conflict ∧
        row = conflictRow rt conflict) ∨
      tables.conflicts.get? id = some row := by
  rw [persistConflicts_get? filed] at stored
  cases held : service.conflictsById.get? id with
  | none =>
      rw [held] at stored
      exact Or.inr stored
  | some conflict =>
      rw [held] at stored
      dsimp only at stored
      split at stored
      · cases stored
        exact Or.inl ⟨conflict, rfl, rfl⟩
      · exact Or.inr stored

theorem persistConflicts_keyed {service : WorldStateService} (filed : Filed service)
    (keyed : Keyed tables) : Keyed (tables.persistConflicts rt service tenantId) := by
  intro id row stored
  rcases persistConflicts_source filed stored with ⟨conflict, held, rfl⟩ | earlier
  · exact filed.named id conflict held
  · exact keyed id row earlier

theorem persistConflicts_registered {service : WorldStateService} (filed : Filed service)
    (known : Registered registry service) (registered : RegisteredRows registry tables) :
    RegisteredRows registry (tables.persistConflicts rt service tenantId) := by
  intro id row stored
  rcases persistConflicts_source filed stored with ⟨conflict, held, rfl⟩ | earlier
  · exact known id conflict held
  · exact registered id row earlier

/-! ## One conflict -/

theorem persistConflict_keyed (keyed : Keyed tables) (conflict : Conflict) :
    Keyed (tables.persistConflict rt conflict) := by
  intro id row stored
  change (tables.conflicts.set conflict.storedId (conflictRow rt conflict)).get? id = some row at stored
  rw [Dict.get?_set] at stored
  split at stored
  · cases stored
    exact Eq.symm ‹_›
  · exact keyed id row stored

theorem persistConflict_registered {conflict : Conflict} (registered : RegisteredRows registry tables)
    (known : conflict.key = registry conflict.storedId) :
    RegisteredRows registry (tables.persistConflict rt conflict) := by
  intro id row stored
  change (tables.conflicts.set conflict.storedId (conflictRow rt conflict)).get? id = some row at stored
  rw [Dict.get?_set] at stored
  split at stored
  · rename_i same
    cases stored
    rw [same]
    exact known
  · exact registered id row stored

/-- Persisting one conflict touches the row under its identifier only. -/
theorem persistConflict_other (conflict : Conflict) {id : Text × Text}
    (other : id ≠ conflict.storedId) :
    (tables.persistConflict rt conflict).conflicts.get? id = tables.conflicts.get? id := by
  change (tables.conflicts.set conflict.storedId (conflictRow rt conflict)).get? id = _
  rw [Dict.get?_set, if_neg other]

/-! ## An open row -/

/-- A row is stored under an identifier, open, and about an attribute. There may be others
about the same attribute. -/
def OpenUnder (tables : Tables) (id : Text × Text) (key : Text × Text × Text × Text) : Prop :=
  Exists fun row : ConflictRow => tables.conflicts.get? id = some row ∧ row.conflict.key = key ∧
    row.conflict.status = "open"

theorem HoldsOpen.openUnder {conflict : Conflict} (held : HoldsOpen rt tables conflict) :
    OpenUnder tables conflict.storedId conflict.key := by
  rcases held with ⟨row, stored, about, waits, _⟩
  exact ⟨row, stored, about, waits⟩

theorem OpenUnder.congr {other : Tables} {id : Text × Text} {key : Text × Text × Text × Text}
    (waits : OpenUnder tables id key)
    (same : other.conflicts.get? id = tables.conflicts.get? id) : OpenUnder other id key := by
  unfold OpenUnder
  rw [same]
  exact waits

/-- Persisting a service that has hydrated the tenant's rows keeps each open row open, whatever
the service has added to its conflict in between. -/
theorem OpenUnder.persisted {conflicts : List Conflict} {base after : WorldStateService}
    {draws : Draws} {place count : Nat} {id : Text × Text} {key : Text × Text × Text × Text}
    (waits : OpenUnder tables id key) (keyed : Keyed tables)
    (listed : Listed rt tables tenantId conflicts)
    (grows : Extends tenantId draws place count
      (conflicts.foldl WorldStateService.hydrateConflict base) after)
    (filed : Filed after) : OpenUnder (tables.persistConflicts rt after tenantId) id key := by
  rcases waits with ⟨row, stored, about, status⟩
  by_cases owner : id.1 = tenantId
  · have tenant : row.conflict.tenantId = tenantId :=
      (congrArg Prod.fst (keyed id row stored)).trans owner
    rcases listed.hydrated base stored tenant keyed with ⟨hydrated, held, about', status'⟩
    rcases grows.kept id hydrated held with ⟨later, held', about'', status''⟩
    refine ⟨conflictRow rt later, ?_, about''.trans (about'.trans about),
      status''.trans (status'.trans status)⟩
    rw [persistConflicts_get? filed, held']
    exact if_pos owner
  · refine ⟨row, ?_, about, status⟩
    rw [persistConflicts_get? filed]
    cases after.conflictsById.get? id with
    | none => exact stored
    | some conflict => exact (if_neg owner).trans stored

end Rows

end WorldState
end RealityLayer
