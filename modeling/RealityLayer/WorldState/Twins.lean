import RealityLayer.Foundation.Matching
import RealityLayer.WorldState.Rows

namespace RealityLayer
namespace WorldState

open Foundation Python RealityGit WorldStateService

/-!
# One reading under two draws

The identifiers and times that a call draws for its conflicts are all that two calls with
the same reading may leave different.  `Paired` pairs the identifiers, `Twins` says that two
services hold the same conflicts under paired identifiers, and the loop over the reading
keeps them twins.  The rows that they persist therefore show the same open conflicts, in
the same order.
-/

/-- A conflict without what its call drew for it. Two processes draw different identifiers
and times for the same dispute. -/
def Conflict.bare (conflict : Conflict) : Conflict :=
  { conflict with conflictId := "", detectedAt := .utc 0 }

/-- Conflicts that are bare alike agree in all that their rows show. -/
theorem Conflict.bare_eq {conflict conflict' : Conflict} (bare : conflict.bare = conflict'.bare) :
    conflict.key = conflict'.key ∧ conflict.candidates = conflict'.candidates ∧
      conflict.status = conflict'.status := by
  unfold Conflict.bare at bare
  simp only [Conflict.mk.injEq, true_and] at bare
  unfold Conflict.key
  simp only [bare, and_self]

/-- The identifier is one that two calls draw at the same place, or neither draws it.
Conflicts that were there before keep their identifiers in both services. -/
inductive Paired (tenantId : Text) (draws draws' : Draws) (count : Nat) : Text × Text -> Text × Text -> Prop
  | kept (id : Text × Text) (old : id.1 = tenantId -> forall place, place < count ->
      id.2 ≠ newConflictId draws place ∧ id.2 ≠ newConflictId draws' place) :
      Paired tenantId draws draws' count id id
  | drawn (place : Nat) (inside : place < count) :
      Paired tenantId draws draws' count (tenantId, newConflictId draws place)
        (tenantId, newConflictId draws' place)

/-- A call draws different identifiers for its places. -/
def DrawsApart (draws : Draws) (count : Nat) : Prop :=
  forall first second, first < count -> second < count ->
    newConflictId draws first = newConflictId draws second -> first = second

/-- Two conflicts are stored under paired identifiers and tell the same. Their times may
differ as their identifiers do. -/
structure TwinConflict (tenantId : Text) (draws draws' : Draws) (count : Nat) (id : Text × Text)
    (conflict : Conflict) (id' : Text × Text) (conflict' : Conflict) : Prop where
  paired : Paired tenantId draws draws' count id id'
  named : conflict.storedId = id
  named' : conflict'.storedId = id'
  bare : conflict.bare = conflict'.bare

/-- One attribute is indexed under paired identifiers. -/
def TwinIndex (tenantId : Text) (draws draws' : Draws) (count : Nat) (key : Text × Text × Text × Text)
    (conflictId : Text) (key' : Text × Text × Text × Text) (conflictId' : Text) : Prop :=
  key = key' ∧ Paired tenantId draws draws' count (key.1, conflictId) (key'.1, conflictId')

/-- Two services hold the same conflicts under paired identifiers, and their indexes of open
conflicts agree in the same way. -/
structure Twins (tenantId : Text) (draws draws' : Draws) (count : Nat)
    (first second : WorldStateService) : Prop where
  stored : Dict.Matches (TwinConflict tenantId draws draws' count) first.conflictsById
    second.conflictsById
  indexed : Dict.Matches (TwinIndex tenantId draws draws' count) first.openConflicts
    second.openConflicts

section Pairing

variable {tenantId : Text} {draws draws' : Draws} {count : Nat}

theorem Paired.biunique (apart : DrawsApart draws count) (apart' : DrawsApart draws' count) :
    Biunique (Paired tenantId draws draws' count) where
  right := by
    intro key first second left right
    cases left with
    | kept _ old =>
        cases right with
        | kept _ _ => rfl
        | drawn place inside => exact absurd rfl (old rfl place inside).1
    | drawn place inside =>
        generalize drew : newConflictId draws place = conflictId at right
        cases right with
        | kept _ old => exact absurd drew.symm (old rfl place inside).1
        | drawn other inside' =>
            rw [apart place other inside inside' drew]
  left := by
    intro first second key left right
    cases left with
    | kept _ old =>
        cases right with
        | kept _ _ => rfl
        | drawn place inside => exact absurd rfl (old rfl place inside).2
    | drawn place inside =>
        generalize drew : newConflictId draws' place = conflictId at right
        cases right with
        | kept _ old => exact absurd drew.symm (old rfl place inside).2
        | drawn other inside' =>
            rw [apart' place other inside inside' drew]

theorem Paired.tenant {id id' : Text × Text} (paired : Paired tenantId draws draws' count id id') :
    id.1 = id'.1 := by
  cases paired with
  | kept _ _ => rfl
  | drawn _ _ => rfl

theorem FreshIds.apart {service : WorldStateService} (fresh : FreshIds service tenantId draws 0 count) :
    DrawsApart draws count := by
  intro first second inside inside' same
  apply fresh.distinct first second inside inside'
  rw [Nat.zero_add, Nat.zero_add]
  exact same

/-- An identifier that a service holds is drawn by neither of two fresh calls. -/
theorem Paired.held {service : WorldStateService} {id : Text × Text} {conflict : Conflict}
    (fresh : FreshIds service tenantId draws 0 count) (fresh' : FreshIds service tenantId draws' 0 count)
    (stored : service.conflictsById.get? id = some conflict) :
    Paired tenantId draws draws' count id id := by
  refine .kept id (fun owner place inside => ⟨fun same => ?_, fun same => ?_⟩)
  · have absent := fresh.new place inside
    rw [Nat.zero_add, ← owner, ← same, stored] at absent
    cases absent
  · have absent := fresh'.new place inside
    rw [Nat.zero_add, ← owner, ← same, stored] at absent
    cases absent

/-- A service is its own twin. -/
theorem Twins.self {service : WorldStateService} (filed : Filed service)
    (fresh : FreshIds service tenantId draws 0 count)
    (fresh' : FreshIds service tenantId draws' 0 count) :
    Twins tenantId draws draws' count service service where
  stored := by
    apply Dict.matches_of_keys rfl
    intro id conflict conflict' found found'
    cases found.symm.trans found'
    have named := filed.named id conflict found
    exact ⟨.held fresh fresh' found, named, named, rfl⟩
  indexed := by
    apply Dict.matches_of_keys rfl
    intro key conflictId conflictId' found found'
    cases found.symm.trans found'
    rcases filed.indexed key conflictId found with ⟨conflict, stored, _⟩
    exact ⟨rfl, .held fresh fresh' stored⟩

end Pairing

/-! ## The loop over a reading -/

section Loop

variable {tenantId entityType entityId name : Text} {draws draws' : Draws} {count place : Nat}
variable {first second : WorldStateService}

/-- Twins have no open conflict about an attribute, or twin conflicts. -/
theorem Twins.openConflict? (twins : Twins tenantId draws draws' count first second)
    (apart : DrawsApart draws count) (apart' : DrawsApart draws' count)
    (owner entityType entityId name : Text) :
    first.openConflict? owner entityType entityId name = none ∧
        second.openConflict? owner entityType entityId name = none ∨
      Exists fun conflict => Exists fun conflict' =>
        first.openConflict? owner entityType entityId name = some conflict ∧
        second.openConflict? owner entityType entityId name = some conflict' ∧
        TwinConflict tenantId draws draws' count conflict.storedId conflict conflict'.storedId conflict' := by
  unfold WorldStateService.openConflict?
  have indexed := twins.indexed.get? (fun _ _ _ _ related => related.1) (biunique_eq _)
    (rfl : (owner, entityType, entityId, name) = (owner, entityType, entityId, name))
  rcases indexed with ⟨absent, absent'⟩ | ⟨conflictId, conflictId', found, found', _, paired⟩
  · rw [absent, absent']
    exact Or.inl ⟨rfl, rfl⟩
  · rw [found, found', Option.bind_some, Option.bind_some]
    rcases twins.stored.get? (fun _ _ _ _ related => related.paired) (Paired.biunique apart apart') paired
      with ⟨absent, absent'⟩ | ⟨conflict, conflict', stored, stored', twin⟩
    · exact Or.inl ⟨absent, absent'⟩
    · refine Or.inr ⟨conflict, conflict', stored, stored', ?_⟩
      rw [twin.named, twin.named']
      exact twin

/-- Storing twin conflicts keeps services twins. -/
theorem Twins.store (twins : Twins tenantId draws draws' count first second)
    (apart : DrawsApart draws count) (apart' : DrawsApart draws' count) {conflict conflict' : Conflict}
    (twin : TwinConflict tenantId draws draws' count conflict.storedId conflict conflict'.storedId
      conflict') :
    Twins tenantId draws draws' count (first.storeConflict conflict) (second.storeConflict conflict') where
  stored := twins.stored.set (fun _ _ _ _ related => related.paired) (Paired.biunique apart apart') twin
  indexed := twins.indexed

theorem lists_bare {conflict conflict' : Conflict} {incoming incoming' : StateAttribute}
    (bare : conflict.bare = conflict'.bare) (connector : incoming.connector = incoming'.connector)
    (value : incoming.value = incoming'.value) : conflict.lists incoming = conflict'.lists incoming' := by
  unfold Conflict.lists
  rw [(Conflict.bare_eq bare).2.1, connector, value]

/-- Recording one dispute keeps services twins. -/
theorem Twins.recordConflict (twins : Twins tenantId draws draws' count first second)
    (apart : DrawsApart draws count) (apart' : DrawsApart draws' count) (inside : place < count)
    (entityType entityId name : Text) (existing : StateAttribute) {incoming incoming' : StateAttribute}
    (alike : candidateOf incoming = candidateOf incoming') :
    Twins tenantId draws draws' count
      (first.recordConflict draws place tenantId entityType entityId name existing incoming)
      (second.recordConflict draws' place tenantId entityType entityId name existing incoming') := by
  have value : incoming.value = incoming'.value := congrArg ConflictCandidate.value alike
  have connector : incoming.connector = incoming'.connector := congrArg ConflictCandidate.connector alike
  rcases twins.openConflict? apart apart' tenantId entityType entityId name with
    ⟨absent, absent'⟩ | ⟨conflict, conflict', found, found', twin⟩
  · rw [recordConflict_absent absent, recordConflict_absent absent']
    dsimp only
    have opened : TwinConflict tenantId draws draws' count
        (openedConflict draws place tenantId entityType entityId name existing incoming).storedId
        (openedConflict draws place tenantId entityType entityId name existing incoming)
        (openedConflict draws' place tenantId entityType entityId name existing incoming').storedId
        (openedConflict draws' place tenantId entityType entityId name existing incoming') := by
      refine ⟨.drawn place inside, rfl, rfl, ?_⟩
      unfold Conflict.bare openedConflict
      dsimp only
      rw [alike]
    exact ⟨(twins.store apart apart' opened).stored,
      twins.indexed.set (fun _ _ _ _ related => related.1) (biunique_eq _) ⟨rfl, .drawn place inside⟩⟩
  · have same := lists_bare twin.bare connector value
    cases listed : conflict.lists incoming with
    | true =>
        rw [recordConflict_listed found listed, recordConflict_listed found' (same.symm.trans listed)]
        exact twins
    | false =>
        rw [recordConflict_unlisted found listed, recordConflict_unlisted found' (same.symm.trans listed)]
        refine twins.store apart apart' ⟨twin.paired, rfl, rfl, ?_⟩
        have bare := twin.bare
        unfold Conflict.bare at bare
        simp only [Conflict.mk.injEq] at bare
        unfold Conflict.bare Conflict.extended
        simp only [bare, alike]

/-- Recording the disputes of a reading keeps services twins, whatever its labels. The labels
of the held values decide what is disputed, and these are the same. -/
theorem Twins.recordConflicts (twins : Twins tenantId draws draws' count first second)
    (apart : DrawsApart draws count) (apart' : DrawsApart draws' count) (observation : Observation)
    (held : Dict Text StateAttribute) (label label' : Text) (entityType entityId : Text)
    (entries : List (Text × Json)) (inside : place + entries.length ≤ count) :
    Twins tenantId draws draws' count
      (recordConflicts draws tenantId entityType entityId held place (entries.map (fun entry =>
        (entry.1, projectedAttribute observation label entry.1 entry.2))) first)
      (recordConflicts draws' tenantId entityType entityId held place (entries.map (fun entry =>
        (entry.1, projectedAttribute observation label' entry.1 entry.2))) second) := by
  induction entries generalizing place first second with
  | nil => exact twins
  | cons entry rest ih =>
      rw [List.length_cons] at inside
      rw [List.map_cons, List.map_cons, WorldStateService.recordConflicts,
        WorldStateService.recordConflicts]
      have now := disputed?_projected held observation label entry
      rw [← disputed?_projected held observation label' entry] at now
      cases left : disputed? held (entry.1, projectedAttribute observation label entry.1 entry.2) with
      | none =>
          rw [left] at now
          rw [Option.not_isSome_iff_eq_none.mp (Bool.eq_false_iff.mp now.symm)]
          exact ih twins (by omega)
      | some existing =>
          have right : disputed? held (entry.1, projectedAttribute observation label' entry.1 entry.2) =
              some existing := left
          rw [right]
          exact ih (twins.recordConflict apart apart' (by omega) entityType entityId entry.1 existing rfl)
            (by omega)

end Loop

/-! ## The rows -/

/-- What an open conflict's row says about it. Its identifier and its time are left out. -/
def ConflictRow.account (row : ConflictRow) : (Text × Text × Text × Text) × List Json :=
  (row.conflict.key, row.candidates)

def ConflictRow.isOpen (row : ConflictRow) : Bool := decide (row.conflict.status = ("open" : Text))

/-- The open conflicts of a table with their candidates. -/
def Tables.openAccounts (tables : Tables) : List ((Text × Text × Text × Text) × List Json) :=
  (tables.conflicts.values.filter ConflictRow.isOpen).map ConflictRow.account

/-- Two rows are stored under paired identifiers and show the same conflict. -/
def TwinRow (tenantId : Text) (draws draws' : Draws) (count : Nat) (id : Text × Text) (row : ConflictRow)
    (id' : Text × Text) (row' : ConflictRow) : Prop :=
  Paired tenantId draws draws' count id id' ∧ row.conflict.status = row'.conflict.status ∧
    row.account = row'.account

section Persisting

variable {rt : Runtime} {tenantId : Text} {draws draws' : Draws} {count : Nat}
variable {first second : WorldStateService} {tables : Tables}

/-- Matching tables show the same open conflicts. -/
theorem openAccounts_congr {tables tables' : Tables}
    (matched : Dict.Matches (TwinRow tenantId draws draws' count) tables.conflicts tables'.conflicts) :
    tables.openAccounts = tables'.openAccounts := by
  unfold Tables.openAccounts
  have rows : List.Forall₂ (fun row row' : ConflictRow => row.conflict.status = row'.conflict.status ∧
      row.account = row'.account) tables.conflicts.values tables'.conflicts.values :=
    matched.values.imp (fun row row' related => by
      rcases related with ⟨_, _, _, same⟩
      exact same)
  have selected := List.rel_filter (p := ConflictRow.isOpen) (q := ConflictRow.isOpen)
    (fun row row' related => by
      unfold ConflictRow.isOpen
      dsimp only
      rw [related.1]) rows
  exact (map_eq_iff_forall₂ selected).mpr (selected.imp (fun row row' related => ⟨related, related.2⟩))

theorem TwinConflict.row {id id' : Text × Text} {conflict conflict' : Conflict}
    (twin : TwinConflict tenantId draws draws' count id conflict id' conflict') :
    TwinRow tenantId draws draws' count conflict.storedId (conflictRow rt conflict) conflict'.storedId
      (conflictRow rt conflict') := by
  rcases Conflict.bare_eq twin.bare with ⟨key, candidates, status⟩
  refine ⟨?_, status, ?_⟩
  · rw [twin.named, twin.named']
    exact twin.paired
  · unfold ConflictRow.account conflictRow
    dsimp only
    rw [key, candidates]

/-- Twins persist matching rows. -/
theorem Twins.persistConflicts (twins : Twins tenantId draws draws' count first second)
    (apart : DrawsApart draws count) (apart' : DrawsApart draws' count) {tables tables' : Tables}
    (matched : Dict.Matches (TwinRow tenantId draws draws' count) tables.conflicts tables'.conflicts) :
    Dict.Matches (TwinRow tenantId draws draws' count)
      (tables.persistConflicts rt first tenantId).conflicts
      (tables'.persistConflicts rt second tenantId).conflicts := by
  unfold Tables.persistConflicts
  rw [persistAll_conflicts, persistAll_conflicts]
  apply matched.foldl_set (fun _ _ _ _ related => related.1) (Paired.biunique apart apart')
  have values : List.Forall₂ (fun conflict conflict' : Conflict =>
      Exists fun id => Exists fun id' => TwinConflict tenantId draws draws' count id conflict id' conflict')
      first.conflictsById.values second.conflictsById.values := twins.stored.values
  have selected := List.rel_filter (p := fun conflict : Conflict => decide (conflict.tenantId = tenantId))
    (q := fun conflict : Conflict => decide (conflict.tenantId = tenantId))
    (by
      rintro conflict conflict' ⟨_, _, twin⟩
      have tenant : conflict.tenantId = conflict'.tenantId :=
        congrArg Prod.fst (Conflict.bare_eq twin.bare).1
      dsimp only
      rw [tenant]) values
  refine selected.imp (fun conflict conflict' related => ?_)
  rcases related with ⟨_, _, twin⟩
  exact twin.row

/-- Rows that no fresh call draws match themselves. -/
theorem rows_match (fresh : forall place, place < count ->
      tables.conflicts.get? (tenantId, newConflictId draws place) = none)
    (fresh' : forall place, place < count ->
      tables.conflicts.get? (tenantId, newConflictId draws' place) = none) :
    Dict.Matches (TwinRow tenantId draws draws' count) tables.conflicts tables.conflicts := by
  apply Dict.matches_of_keys rfl
  intro id row row' found found'
  cases found.symm.trans found'
  refine ⟨.kept id (fun owner place inside => ⟨fun same => ?_, fun same => ?_⟩), rfl, rfl⟩
  · have absent := fresh place inside
    rw [← owner, ← same, found] at absent
    cases absent
  · have absent := fresh' place inside
    rw [← owner, ← same, found] at absent
    cases absent

end Persisting

end WorldState
end RealityLayer
