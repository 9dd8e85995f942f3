import RealityLayer.WorldState.Compiling
import RealityLayer.WorldState.Persistence

namespace RealityLayer
namespace WorldState

open Foundation Python RealityGit WorldStateService

/-!
# The two maps of conflicts

A service finds a conflict under its identifier, and the open ones also by the
attribute they are about.  `Filed` says that the maps agree: an indexed conflict is
stored, open, and about the attribute it is indexed under.  Two things could break
that: a new conflict under an identifier already in use, and a hydrated conflict
whose identifier the process knows for another attribute.  `Registered` excludes the
second, by a registry of the attribute that each identifier stands for.

`Files` is everything that one attribute of a reading can do to the open conflict of
its name, and `recordConflicts_files` finds it for each attribute of the reading.
-/

/-- The attribute a conflict is about. -/
def Conflict.key (conflict : Conflict) : Text × Text × Text × Text :=
  (conflict.tenantId, conflict.entityType, conflict.entityId, conflict.attributeName)

/-- What a conflict is stored under. -/
def Conflict.storedId (conflict : Conflict) : Text × Text :=
  (conflict.tenantId, conflict.conflictId)

/-- The attribute that each identifier stands for. -/
abbrev Registry := Text × Text -> Text × Text × Text × Text

structure Filed (service : WorldStateService) : Prop where
  named : forall id conflict, service.conflictsById.get? id = some conflict -> conflict.storedId = id
  indexed : forall key conflictId, service.openConflicts.get? key = some conflictId ->
    Exists fun conflict : Conflict => service.conflictsById.get? (key.1, conflictId) = some conflict ∧
      conflict.key = key ∧ conflict.status = "open"

/-- The stored conflicts are about the attributes of a registry. -/
def Registered (registry : Registry) (service : WorldStateService) : Prop :=
  forall id conflict, service.conflictsById.get? id = some conflict -> conflict.key = registry id

theorem Filed.fresh : Filed .fresh where
  named := by
    intro id conflict stored
    cases stored
  indexed := by
    intro key conflictId stored
    cases stored

/-- Two services hold the same conflicts, and the same index of the open ones. Nothing is
said of states and commits. -/
structure SameConflicts (first second : WorldStateService) : Prop where
  openConflicts : first.openConflicts = second.openConflicts
  conflictsById : first.conflictsById = second.conflictsById

section Maps

variable {service other : WorldStateService} {registry : Registry} {conflict : Conflict}

theorem SameConflicts.refl (service : WorldStateService) : SameConflicts service service := ⟨rfl, rfl⟩

theorem Filed.congr (filed : Filed service) (same : SameConflicts service other) : Filed other where
  named := same.conflictsById ▸ filed.named
  indexed := same.conflictsById ▸ same.openConflicts ▸ filed.indexed

theorem Registered.congr (registered : Registered registry service)
    (same : SameConflicts service other) : Registered registry other := by
  unfold Registered
  rw [← same.conflictsById]
  exact registered

theorem openConflict?_congr (same : SameConflicts service other) (tenantId entityType entityId
    name : Text) : service.openConflict? tenantId entityType entityId name =
      other.openConflict? tenantId entityType entityId name := by
  unfold openConflict?
  rw [same.openConflicts, same.conflictsById]

/-- The open conflict of an attribute is stored, open and about that attribute. -/
theorem Filed.openConflict (filed : Filed service) {tenantId entityType entityId name : Text}
    (found : service.openConflict? tenantId entityType entityId name = some conflict) :
    service.openConflicts.get? (tenantId, entityType, entityId, name) = some conflict.conflictId ∧
      service.conflictsById.get? conflict.storedId = some conflict ∧
      conflict.key = (tenantId, entityType, entityId, name) ∧ conflict.status = "open" := by
  unfold openConflict? at found
  rcases Option.bind_eq_some_iff.mp found with ⟨conflictId, indexed, stored⟩
  rcases filed.indexed _ _ indexed with ⟨held, stored', about, waits⟩
  rw [stored] at stored'
  cases stored'
  have named := filed.named _ _ stored
  rcases Prod.mk.inj named with ⟨_, rfl⟩
  exact ⟨indexed, named ▸ stored, about, waits⟩

/-- Hydrating changes no conflict. -/
theorem hydrate_sameConflicts (service : WorldStateService) (state : OrderState)
    (parentCommitId parentHash : Option Text) :
    SameConflicts service (service.hydrate state parentCommitId parentHash) := by
  unfold hydrate
  dsimp only
  split
  · exact ⟨rfl, rfl⟩
  · exact ⟨rfl, rfl⟩

theorem hydrateFrom_sameConflicts (service : WorldStateService) (tables : Tables) (tenantId : Text)
    (existing : Option OrderState) :
    SameConflicts service (service.hydrateFrom tables tenantId existing) := by
  cases existing with
  | none => exact .refl service
  | some state => exact hydrate_sameConflicts _ _ _ _

theorem Filed.named_store (filed : Filed service) (conflict : Conflict) {id : Text × Text}
    {other : Conflict} (found : (service.storeConflict conflict).conflictsById.get? id = some other) :
    other.storedId = id := by
  change (service.conflictsById.set conflict.storedId conflict).get? id = some other at found
  rw [Dict.get?_set] at found
  split at found
  · cases found
    exact Eq.symm ‹_›
  · exact filed.named id other found

/-- Storing a conflict again, open and about the same attribute, keeps the maps in step. -/
theorem Filed.storeOpen (filed : Filed service) {held : Conflict}
    (stored : service.conflictsById.get? conflict.storedId = some held)
    (about : conflict.key = held.key) (waits : conflict.status = "open") :
    Filed (service.storeConflict conflict) where
  named := fun _ _ found => filed.named_store conflict found
  indexed := by
    intro key conflictId indexed
    rcases filed.indexed key conflictId indexed with ⟨other, found, about', waits'⟩
    change Exists fun other : Conflict =>
      (service.conflictsById.set conflict.storedId conflict).get? (key.1, conflictId) = some other ∧ _
    rw [Dict.get?_set]
    by_cases same : (key.1, conflictId) = conflict.storedId
    · rw [if_pos same]
      rw [same, stored] at found
      cases found
      exact ⟨conflict, rfl, about.trans about', waits⟩
    · rw [if_neg same]
      exact ⟨other, found, about', waits'⟩

/-- Storing and indexing an open conflict keeps the maps in step when its identifier is
indexed under no other attribute. -/
theorem Filed.fileOpen (filed : Filed service) (waits : conflict.status = "open")
    (only : forall key, service.openConflicts.get? key = some conflict.conflictId ->
      key.1 = conflict.tenantId -> key = conflict.key) :
    Filed { service.storeConflict conflict with
      openConflicts := service.openConflicts.set conflict.key conflict.conflictId } where
  named := fun _ _ found => filed.named_store conflict found
  indexed := by
    intro key conflictId indexed
    change (service.openConflicts.set conflict.key conflict.conflictId).get? key = some conflictId at indexed
    change Exists fun other : Conflict =>
      (service.conflictsById.set conflict.storedId conflict).get? (key.1, conflictId) = some other ∧ _
    rw [Dict.get?_set] at indexed ⊢
    by_cases own : key = conflict.key
    · rw [if_pos own] at indexed
      cases indexed
      rw [if_pos (show (key.1, conflict.conflictId) = conflict.storedId by rw [own]; rfl)]
      exact ⟨conflict, rfl, own.symm, waits⟩
    · rw [if_neg own] at indexed
      rw [if_neg]
      · exact filed.indexed key conflictId indexed
      · intro same
        rcases Prod.mk.inj same with ⟨tenant, named⟩
        exact own (only key (named ▸ indexed) tenant)

/-- Storing a conflict and clearing its attribute keeps the maps in step when its identifier
is indexed under no other attribute. -/
theorem Filed.fileClosed (filed : Filed service)
    (only : forall key, service.openConflicts.get? key = some conflict.conflictId ->
      key.1 = conflict.tenantId -> key = conflict.key) :
    Filed { service.storeConflict conflict with
      openConflicts := service.openConflicts.erase conflict.key } where
  named := fun _ _ found => filed.named_store conflict found
  indexed := by
    intro key conflictId indexed
    change (service.openConflicts.erase conflict.key).get? key = some conflictId at indexed
    change Exists fun other : Conflict =>
      (service.conflictsById.set conflict.storedId conflict).get? (key.1, conflictId) = some other ∧ _
    rw [Dict.get?_erase] at indexed
    rw [Dict.get?_set]
    by_cases own : key = conflict.key
    · rw [if_pos own] at indexed
      cases indexed
    · rw [if_neg own] at indexed
      rw [if_neg]
      · exact filed.indexed key conflictId indexed
      · intro same
        rcases Prod.mk.inj same with ⟨tenant, named⟩
        exact own (only key (named ▸ indexed) tenant)

/-- A conflict that the registry knows is indexed under its own attribute only. -/
theorem Filed.only (filed : Filed service) (registered : Registered registry service)
    (known : conflict.key = registry conflict.storedId) (key : Text × Text × Text × Text)
    (indexed : service.openConflicts.get? key = some conflict.conflictId)
    (tenant : key.1 = conflict.tenantId) : key = conflict.key := by
  rcases filed.indexed key _ indexed with ⟨held, stored, about, _⟩
  rw [← about, registered _ _ stored, known]
  exact congrArg registry (Prod.ext tenant rfl)

theorem Registered.store (registered : Registered registry service)
    (known : conflict.key = registry conflict.storedId) :
    Registered registry (service.storeConflict conflict) := by
  intro id other found
  change (service.conflictsById.set conflict.storedId conflict).get? id = some other at found
  rw [Dict.get?_set] at found
  split at found
  · rename_i same
    cases found
    rw [same]
    exact known
  · exact registered id other found

/-! ## Hydrating conflicts -/

theorem Filed.hydrateConflict (filed : Filed service) (registered : Registered registry service)
    (known : conflict.key = registry conflict.storedId) : Filed (service.hydrateConflict conflict) := by
  unfold WorldStateService.hydrateConflict
  dsimp only
  split
  · exact filed.fileOpen ‹_› (filed.only registered known)
  · exact filed.fileClosed (filed.only registered known)

theorem hydrateConflict_conflictsById (service : WorldStateService) (conflict : Conflict) :
    (service.hydrateConflict conflict).conflictsById =
      service.conflictsById.set conflict.storedId conflict := by
  unfold WorldStateService.hydrateConflict
  dsimp only
  split
  · rfl
  · rfl

theorem hydrateConflict_registered (registered : Registered registry service)
    (known : conflict.key = registry conflict.storedId) :
    Registered registry (service.hydrateConflict conflict) := by
  have stored := registered.store known
  unfold Registered at stored ⊢
  rw [hydrateConflict_conflictsById]
  exact stored

/-- Hydrating a list of conflicts that the registry knows. -/
theorem hydrateAll_filed {conflicts : List Conflict} (filed : Filed service)
    (registered : Registered registry service)
    (known : forall conflict, conflict ∈ conflicts -> conflict.key = registry conflict.storedId) :
    Filed (conflicts.foldl WorldStateService.hydrateConflict service) ∧
      Registered registry (conflicts.foldl WorldStateService.hydrateConflict service) := by
  induction conflicts generalizing service with
  | nil => exact ⟨filed, registered⟩
  | cons conflict rest ih =>
      have first := known conflict List.mem_cons_self
      exact ih (filed.hydrateConflict registered first) (hydrateConflict_registered registered first)
        (fun other member => known other (List.mem_cons_of_mem _ member))

end Maps

/-! ## Recording one conflict -/

/-- The conflict lists a candidate of the connector with an equal value. A disputed value is
then not listed a second time. -/
def Conflict.lists (conflict : Conflict) (incoming : StateAttribute) : Bool :=
  conflict.candidates.any (fun candidate =>
    decide (candidate.connector = incoming.connector) && candidate.value.pyEq incoming.value)

def Conflict.extended (conflict : Conflict) (incoming : StateAttribute) : Conflict :=
  { conflict with candidates := conflict.candidates ++ [candidateOf incoming] }

theorem extended_ne (conflict : Conflict) (incoming : StateAttribute) :
    some conflict ≠ some (conflict.extended incoming) := by
  intro same
  have longer := congrArg (fun conflict : Conflict => conflict.candidates.length) (Option.some.inj same)
  unfold Conflict.extended at longer
  dsimp only at longer
  rw [List.length_append, List.length_singleton] at longer
  omega

/-- The conflict that is opened for an attribute without one. The held value is its first
candidate, and the reading's is the second. -/
def openedConflict (draws : Draws) (place : Nat) (tenantId entityType entityId name : Text)
    (existing incoming : StateAttribute) : Conflict where
  conflictId := newConflictId draws place
  tenantId := tenantId
  entityType := entityType
  entityId := entityId
  attributeName := name
  candidates := [candidateOf existing, candidateOf incoming]
  detectedAt := .utc (draws.clock (place + 1))

section Recording

variable {service : WorldStateService} {conflict : Conflict} {draws : Draws} {place : Nat}
variable {tenantId entityType entityId name : Text} {existing incoming : StateAttribute}

theorem recordConflict_listed
    (found : service.openConflict? tenantId entityType entityId name = some conflict)
    (listed : conflict.lists incoming = true) :
    service.recordConflict draws place tenantId entityType entityId name existing incoming =
      service := by
  unfold recordConflict
  rw [found]
  exact if_pos listed

theorem recordConflict_unlisted
    (found : service.openConflict? tenantId entityType entityId name = some conflict)
    (unlisted : conflict.lists incoming = false) :
    service.recordConflict draws place tenantId entityType entityId name existing incoming =
      service.storeConflict (conflict.extended incoming) := by
  unfold recordConflict
  rw [found]
  exact if_neg (Bool.eq_false_iff.mp unlisted)

theorem recordConflict_absent
    (absent : service.openConflict? tenantId entityType entityId name = none) :
    let opened := openedConflict draws place tenantId entityType entityId name existing incoming
    service.recordConflict draws place tenantId entityType entityId name existing incoming =
      { service.storeConflict opened with
        openConflicts := service.openConflicts.set opened.key opened.conflictId } := by
  unfold recordConflict
  rw [absent]
  rfl

/-- Extending an open conflict changes what is found under its own name. -/
theorem openConflict?_extended (incoming : StateAttribute) (filed : Filed service)
    (found : service.openConflict? tenantId entityType entityId name = some conflict) (other : Text) :
    (service.storeConflict (conflict.extended incoming)).openConflict? tenantId entityType entityId
        other =
      if other = name then some (conflict.extended incoming)
      else service.openConflict? tenantId entityType entityId other := by
  rcases filed.openConflict found with ⟨indexed, stored, about, _⟩
  have tenant : conflict.tenantId = tenantId := congrArg Prod.fst about
  unfold openConflict?
  change (service.openConflicts.get? (tenantId, entityType, entityId, other)).bind (fun conflictId =>
    (service.conflictsById.set conflict.storedId (conflict.extended incoming)).get?
      (tenantId, conflictId)) = _
  by_cases same : other = name
  · rw [if_pos same, same, indexed, Option.bind_some, Dict.get?_set,
      if_pos (show (tenantId, conflict.conflictId) = conflict.storedId by rw [← tenant]; rfl)]
  · rw [if_neg same]
    cases index : service.openConflicts.get? (tenantId, entityType, entityId, other) with
    | none => rfl
    | some conflictId =>
        rw [Option.bind_some, Option.bind_some, Dict.get?_set, if_neg]
        intro taken
        rcases filed.indexed _ _ index with ⟨held, stored', about', _⟩
        rw [taken, stored] at stored'
        cases stored'
        rw [about] at about'
        cases about'
        exact same rfl

/-- Opening a conflict under a new identifier changes what is found under its name. -/
theorem openConflict?_opened (entityType entityId name : Text) (existing incoming : StateAttribute)
    (filed : Filed service)
    (fresh : service.conflictsById.get? (tenantId, newConflictId draws place) = none) (other : Text) :
    let opened := openedConflict draws place tenantId entityType entityId name existing incoming
    WorldStateService.openConflict? { service.storeConflict opened with
        openConflicts := service.openConflicts.set opened.key opened.conflictId }
          tenantId entityType entityId other =
      if other = name then some opened
      else service.openConflict? tenantId entityType entityId other := by
  dsimp only
  unfold openConflict?
  generalize opening : openedConflict draws place tenantId entityType entityId name existing incoming =
    opened
  have about : opened.key = (tenantId, entityType, entityId, name) := by rw [← opening]; rfl
  have named : opened.storedId = (tenantId, newConflictId draws place) := by rw [← opening]; rfl
  have drawn : opened.conflictId = newConflictId draws place := by rw [← opening]; rfl
  change ((service.openConflicts.set opened.key opened.conflictId).get?
      (tenantId, entityType, entityId, other)).bind (fun conflictId =>
    (service.conflictsById.set opened.storedId opened).get? (tenantId, conflictId)) = _
  rw [about, Dict.get?_set]
  by_cases same : other = name
  · rw [if_pos same, if_pos (by rw [same]), Option.bind_some, Dict.get?_set, if_pos (by rw [named, drawn])]
  · rw [if_neg same, if_neg (by
      intro equal
      cases equal
      exact same rfl)]
    cases index : service.openConflicts.get? (tenantId, entityType, entityId, other) with
    | none => rfl
    | some conflictId =>
        rw [Option.bind_some, Option.bind_some, Dict.get?_set, if_neg]
        intro taken
        rcases filed.indexed _ _ index with ⟨held, stored, _⟩
        rw [taken, named, fresh] at stored
        cases stored

/-- Recording one dispute leaves a stored conflict as it is, or adds a candidate to the open
conflict of the name. -/
theorem recordConflict_stored_under (tenantId entityType entityId name : Text)
    (existing incoming : StateAttribute) {id : Text × Text} (filed : Filed service)
    (new : service.conflictsById.get? (tenantId, newConflictId draws place) = none)
    (stored : service.conflictsById.get? id = some conflict) :
    let after := service.recordConflict draws place tenantId entityType entityId name existing incoming
    after.conflictsById.get? id = some conflict ∨
      service.openConflict? tenantId entityType entityId name = some conflict ∧
        conflict.lists incoming = false ∧
        after.conflictsById.get? id = some (conflict.extended incoming) := by
  dsimp only
  cases found : service.openConflict? tenantId entityType entityId name with
  | none =>
      rw [recordConflict_absent found]
      refine Or.inl ?_
      change (service.conflictsById.set (tenantId, newConflictId draws place) _).get? id = some conflict
      rw [Dict.get?_set, if_neg, stored]
      intro same
      rw [same, new] at stored
      cases stored
  | some other =>
      cases listed : other.lists incoming with
      | true =>
          rw [recordConflict_listed found listed]
          exact Or.inl stored
      | false =>
          rw [recordConflict_unlisted found listed]
          change (service.conflictsById.set other.storedId (other.extended incoming)).get? id = _ ∨ _ ∧ _ ∧
            (service.conflictsById.set other.storedId (other.extended incoming)).get? id = _
          rw [Dict.get?_set]
          by_cases same : id = other.storedId
          · rw [if_pos same]
            rw [same, (filed.openConflict found).2.1] at stored
            cases stored
            exact Or.inr ⟨rfl, listed, rfl⟩
          · rw [if_neg same]
            exact Or.inl stored

end Recording

/-! ## Recording the conflicts of a reading -/

/-- An identifier that is drawn for one of some places. -/
def Drawn (draws : Draws) (place count : Nat) (conflictId : Text) : Prop :=
  Exists fun offset : Nat => offset < count ∧ conflictId = newConflictId draws (place + offset)

/-- The identifiers for some places are new to a service, and all different. One reading may
open a conflict for each of its attributes, and each takes the next place. -/
structure FreshIds (service : WorldStateService) (tenantId : Text) (draws : Draws)
    (place count : Nat) : Prop where
  new : forall offset, offset < count ->
    service.conflictsById.get? (tenantId, newConflictId draws (place + offset)) = none
  distinct : forall first second, first < count -> second < count ->
    newConflictId draws (place + first) = newConflictId draws (place + second) -> first = second

/-- One service's conflicts go on in another, and what the other adds is drawn. Candidates
may be added to a conflict, so only its key and its status are kept. -/
structure Extends (tenantId : Text) (draws : Draws) (place count : Nat)
    (before after : WorldStateService) : Prop where
  kept : forall id conflict, before.conflictsById.get? id = some conflict ->
    Exists fun later : Conflict => after.conflictsById.get? id = some later ∧
      later.key = conflict.key ∧ later.status = conflict.status
  added : forall id later, after.conflictsById.get? id = some later ->
    (before.conflictsById.get? id).isSome = true ∨ id.1 = tenantId ∧ Drawn draws place count id.2

/-- Two registries differ at most on drawn identifiers. A call files nothing under the others. -/
def AgreeBut (tenantId : Text) (draws : Draws) (place count : Nat) (registry later : Registry) : Prop :=
  forall id, later id = registry id ∨ id.1 = tenantId ∧ Drawn draws place count id.2

/-- A registry that also knows the conflicts of a service. -/
def following (registry : Registry) (service : WorldStateService) : Registry :=
  fun id => ((service.conflictsById.get? id).map Conflict.key).getD (registry id)

/-- What an attribute of a reading does to the open conflict of its name. A value that the
conflict lists already is not added a second time. -/
inductive Files (previous : Dict Text StateAttribute) (entry : Text × StateAttribute) (draws : Draws)
    (place count : Nat) (before : Option Conflict) : Option Conflict -> Prop
  | undisputed (quiet : disputed? previous entry = none) : Files previous entry draws place count before before
  | listed (existing : StateAttribute) (conflict : Conflict)
      (disputed : disputed? previous entry = some existing) (stored : before = some conflict)
      (listed : conflict.lists entry.2 = true) : Files previous entry draws place count before before
  | extended (existing : StateAttribute) (conflict : Conflict)
      (disputed : disputed? previous entry = some existing) (stored : before = some conflict)
      (unlisted : conflict.lists entry.2 = false) :
      Files previous entry draws place count before (some (conflict.extended entry.2))
  | opened (existing : StateAttribute) (conflict : Conflict)
      (disputed : disputed? previous entry = some existing) (absent : before = none)
      (drawn : Drawn draws place count conflict.conflictId) :
      Files previous entry draws place count before (some conflict)

section Places

variable {service after later : WorldStateService} {draws : Draws} {place count : Nat}
variable {tenantId entityType entityId name : Text}

theorem Drawn.next {conflictId : Text} (drawn : Drawn draws (place + 1) count conflictId) :
    Drawn draws place (count + 1) conflictId := by
  rcases drawn with ⟨offset, inside, same⟩
  refine ⟨offset + 1, by omega, ?_⟩
  rw [same, Nat.add_assoc, Nat.add_comm 1 offset]

theorem FreshIds.first (fresh : FreshIds service tenantId draws place (count + 1)) :
    service.conflictsById.get? (tenantId, newConflictId draws place) = none :=
  fresh.new 0 (Nat.succ_pos count)

theorem FreshIds.next (fresh : FreshIds service tenantId draws place (count + 1))
    (grows : Extends tenantId draws place 1 service after) :
    FreshIds after tenantId draws (place + 1) count where
  new := by
    intro offset inside
    have shift : place + 1 + offset = place + (offset + 1) := by omega
    rw [shift]
    cases found : after.conflictsById.get? (tenantId, newConflictId draws (place + (offset + 1))) with
    | none => rfl
    | some conflict =>
        rcases grows.added _ _ found with earlier | ⟨_, first, small, same⟩
        · rw [fresh.new (offset + 1) (by omega)] at earlier
          cases earlier
        · have equal := fresh.distinct (offset + 1) first (by omega) (by omega) same
          omega
  distinct := by
    intro first second inside inside' same
    have shift : forall offset, place + 1 + offset = place + (offset + 1) := by
      intro offset
      omega
    rw [shift, shift] at same
    have equal := fresh.distinct (first + 1) (second + 1) (by omega) (by omega) same
    omega

theorem Extends.refl (service : WorldStateService) :
    Extends tenantId draws place count service service where
  kept := fun _ conflict stored => ⟨conflict, stored, rfl, rfl⟩
  added := by
    intro id conflict stored
    rw [stored]
    exact Or.inl rfl

theorem Extends.next (first : Extends tenantId draws place 1 service after)
    (rest : Extends tenantId draws (place + 1) count after later) :
    Extends tenantId draws place (count + 1) service later where
  kept := by
    intro id conflict stored
    rcases first.kept id conflict stored with ⟨middle, stored', about, status⟩
    rcases rest.kept id middle stored' with ⟨last, stored'', about', status'⟩
    exact ⟨last, stored'', about'.trans about, status'.trans status⟩
  added := by
    intro id conflict stored
    rcases rest.added id conflict stored with earlier | ⟨tenant, drawn⟩
    · rcases Option.isSome_iff_exists.mp earlier with ⟨middle, stored'⟩
      rcases first.added id middle stored' with earliest | ⟨tenant, offset, inside, same⟩
      · exact Or.inl earliest
      · exact Or.inr ⟨tenant, offset, by omega, same⟩
    · exact Or.inr ⟨tenant, drawn.next⟩

theorem following_registered (registry : Registry) (service : WorldStateService) :
    Registered (following registry service) service := by
  intro id conflict stored
  unfold following
  rw [stored]
  rfl

/-- What a service's extension adds to its registry is drawn. -/
theorem following_agrees {registry : Registry} (registered : Registered registry service)
    (grows : Extends tenantId draws place count service after) :
    AgreeBut tenantId draws place count registry (following registry after) := by
  intro id
  unfold following
  cases stored : after.conflictsById.get? id with
  | none => exact Or.inl rfl
  | some later =>
      rcases grows.added id later stored with earlier | drawn
      · rcases Option.isSome_iff_exists.mp earlier with ⟨conflict, held⟩
        rcases grows.kept id conflict held with ⟨later', stored', about, _⟩
        rw [stored] at stored'
        cases stored'
        exact Or.inl (about.trans (registered id conflict held))
      · exact Or.inr drawn

/-- Agreeing registries register the same services where no drawn identifier is held. -/
theorem Registered.agree {registry later : Registry} (registered : Registered registry service)
    (agree : AgreeBut tenantId draws place count registry later)
    (fresh : FreshIds service tenantId draws place count) : Registered later service := by
  intro id conflict stored
  rcases agree id with same | ⟨tenant, offset, inside, drawn⟩
  · exact (registered id conflict stored).trans same.symm
  · have absent := fresh.new offset inside
    rw [← tenant, ← drawn, stored] at absent
    cases absent

theorem Files.next {previous : Dict Text StateAttribute} {entry : Text × StateAttribute}
    {before now : Option Conflict} (files : Files previous entry draws (place + 1) count before now) :
    Files previous entry draws place (count + 1) before now := by
  cases files with
  | undisputed quiet => exact .undisputed quiet
  | listed existing conflict disputed stored listed => exact .listed existing conflict disputed stored listed
  | extended existing conflict disputed stored unlisted =>
      exact .extended existing conflict disputed stored unlisted
  | opened existing conflict disputed absent drawn =>
      exact .opened existing conflict disputed absent drawn.next

/-- An identifier drawn for the first place is drawn for one of them. -/
theorem Files.widen {previous : Dict Text StateAttribute} {entry : Text × StateAttribute}
    {before now : Option Conflict} (files : Files previous entry draws place 1 before now) :
    Files previous entry draws place (count + 1) before now := by
  cases files with
  | undisputed quiet => exact .undisputed quiet
  | listed existing conflict disputed stored listed => exact .listed existing conflict disputed stored listed
  | extended existing conflict disputed stored unlisted =>
      exact .extended existing conflict disputed stored unlisted
  | opened existing conflict disputed absent drawn =>
      rcases drawn with ⟨offset, inside, same⟩
      exact .opened existing conflict disputed absent ⟨offset, by omega, same⟩

end Places

section Filing

variable {service : WorldStateService} {draws : Draws} {place : Nat}
variable {tenantId entityType entityId : Text} {previous : Dict Text StateAttribute}

/-- Storing a conflict extends a service when the conflict was held about the same attribute
with the same status, or its identifier is drawn. -/
theorem extends_store {conflict : Conflict} {after : WorldStateService}
    (stored : after.conflictsById = service.conflictsById.set conflict.storedId conflict)
    (held : (Exists fun earlier : Conflict =>
        service.conflictsById.get? conflict.storedId = some earlier ∧
          conflict.key = earlier.key ∧ conflict.status = earlier.status) ∨
      service.conflictsById.get? conflict.storedId = none ∧ conflict.tenantId = tenantId ∧
        conflict.conflictId = newConflictId draws place) :
    Extends tenantId draws place 1 service after where
  kept := by
    intro id other found
    rw [stored, Dict.get?_set]
    by_cases same : id = conflict.storedId
    · rw [if_pos same]
      rw [same] at found
      rcases held with ⟨earlier, found', about, status⟩ | ⟨absent, _⟩
      · rw [found'] at found
        cases found
        exact ⟨conflict, rfl, about, status⟩
      · rw [absent] at found
        cases found
    · rw [if_neg same]
      exact ⟨other, found, rfl, rfl⟩
  added := by
    intro id later found
    rw [stored, Dict.get?_set] at found
    by_cases same : id = conflict.storedId
    · rcases held with ⟨earlier, found', _⟩ | ⟨_, tenant, drawn⟩
      · rw [same, found']
        exact Or.inl rfl
      · rw [same]
        exact Or.inr ⟨tenant, 0, Nat.one_pos, drawn⟩
    · rw [if_neg same] at found
      rw [found]
      exact Or.inl rfl

/-- Recording a conflict keeps the maps in step and changes what is found under its name.
Nothing else is found differently. -/
theorem recordConflict_files (filed : Filed service)
    (new : service.conflictsById.get? (tenantId, newConflictId draws place) = none)
    {entry : Text × StateAttribute} {existing : StateAttribute}
    (disputed : disputed? previous entry = some existing) :
    let after := service.recordConflict draws place tenantId entityType entityId entry.1 existing entry.2
    Filed after ∧ Extends tenantId draws place 1 service after ∧
      Files previous entry draws place 1
        (service.openConflict? tenantId entityType entityId entry.1)
        (after.openConflict? tenantId entityType entityId entry.1) ∧
      forall other, other ≠ entry.1 -> after.openConflict? tenantId entityType entityId other =
        service.openConflict? tenantId entityType entityId other := by
  dsimp only
  cases found : service.openConflict? tenantId entityType entityId entry.1 with
  | none =>
      rw [recordConflict_absent found]
      have looked := openConflict?_opened entityType entityId entry.1 existing entry.2 filed new
      dsimp only at looked ⊢
      refine ⟨filed.fileOpen rfl ?_, extends_store rfl (Or.inr ⟨new, rfl, rfl⟩), ?_, ?_⟩
      · intro key indexed tenant
        rcases filed.indexed key _ indexed with ⟨held, stored, _⟩
        rw [tenant] at stored
        cases new.symm.trans stored
      · rw [looked, if_pos rfl]
        exact .opened existing _ disputed rfl ⟨0, Nat.one_pos, rfl⟩
      · intro other different
        rw [looked, if_neg different]
  | some conflict =>
      cases listed : conflict.lists entry.2 with
      | true =>
          rw [recordConflict_listed found listed, found]
          exact ⟨filed, .refl service, .listed existing conflict disputed rfl listed, fun _ _ => rfl⟩
      | false =>
          rcases filed.openConflict found with ⟨indexed, stored, about, waits⟩
          rw [recordConflict_unlisted found listed]
          have looked := openConflict?_extended entry.2 filed found
          refine ⟨filed.storeOpen stored rfl waits, extends_store rfl (Or.inl ⟨conflict, stored, rfl, rfl⟩),
            ?_, ?_⟩
          · rw [looked, if_pos rfl]
            exact .extended existing conflict disputed rfl listed
          · intro other different
            rw [looked, if_neg different]

/-- The loop over a reading: the maps stay in step, and each attribute does what it can do to
the open conflict of its name. -/
theorem recordConflicts_files (entityType entityId : Text) (previous : Dict Text StateAttribute)
    (entries : List (Text × StateAttribute)) (filed : Filed service)
    (fresh : FreshIds service tenantId draws place entries.length)
    (distinct : (entries.map Prod.fst).Nodup) :
    let after := recordConflicts draws tenantId entityType entityId previous place entries service
    Filed after ∧ Extends tenantId draws place entries.length service after ∧
      (forall entry, entry ∈ entries -> Files previous entry draws place entries.length
        (service.openConflict? tenantId entityType entityId entry.1)
        (after.openConflict? tenantId entityType entityId entry.1)) ∧
      forall other, other ∉ entries.map Prod.fst ->
        after.openConflict? tenantId entityType entityId other =
          service.openConflict? tenantId entityType entityId other := by
  induction entries generalizing service place with
  | nil =>
      refine ⟨filed, .refl service, ?_, fun _ _ => rfl⟩
      intro entry member
      cases member
  | cons entry rest ih =>
      rcases List.nodup_cons.mp distinct with ⟨absent, distinct⟩
      have first : Exists fun middle : WorldStateService =>
          recordConflicts draws tenantId entityType entityId previous place (entry :: rest) service =
            recordConflicts draws tenantId entityType entityId previous (place + 1) rest middle ∧
          Filed middle ∧ Extends tenantId draws place 1 service middle ∧
          Files previous entry draws place 1
            (service.openConflict? tenantId entityType entityId entry.1)
            (middle.openConflict? tenantId entityType entityId entry.1) ∧
          forall other, other ≠ entry.1 -> middle.openConflict? tenantId entityType entityId other =
            service.openConflict? tenantId entityType entityId other := by
        cases disputed : disputed? previous entry with
        | none =>
            refine ⟨service, ?_, filed, .refl service, .undisputed disputed, fun _ _ => rfl⟩
            rw [recordConflicts, disputed]
        | some existing =>
            refine ⟨_, ?_, recordConflict_files filed fresh.first disputed⟩
            rw [recordConflicts, disputed]
      rcases first with ⟨middle, unrolled, filed', grows, files, others⟩
      dsimp only
      rw [unrolled]
      rcases ih filed' (fresh.next grows) distinct with ⟨filed'', grows', files', others'⟩
      refine ⟨filed'', grows.next grows', ?_, ?_⟩
      · intro other member
        rcases List.mem_cons.mp member with rfl | later
        · rw [others' _ absent]
          exact files.widen
        · have different : other.1 ≠ entry.1 := by
            intro same
            exact absent (same ▸ List.mem_map_of_mem later)
          have inside := files' other later
          rw [others _ different] at inside
          exact inside.next
      · intro other outside
        rw [List.map_cons, List.mem_cons, not_or] at outside
        rw [others' other outside.2, others other outside.1]

end Filing

/-! ## The calls -/

section Ingest

variable (rt : Runtime) (service : WorldStateService) (draws : Draws) (tenantId : Text)
variable (observation : Observation) (cause assuranceLevel : Text)

/-- The attribute that a reading asks to compile, up to its label. -/
def readAttribute (observation : Observation) (entry : Text × Json) : Text × StateAttribute :=
  (entry.1, projectedAttribute observation "" entry.1 entry.2)

/-- `ingest` records the conflicts of the projected reading, unless it knows the observation
or raises. -/
theorem ingest_conflicts :
    (SameConflicts service (service.ingest rt draws tenantId observation cause assuranceLevel).state ∧
      (service.observations.contains (tenantId, observation.observationId) = true ∨
        Exists fun error : PyError =>
          (service.ingest rt draws tenantId observation cause assuranceLevel).result = .error error)) ∨
      Exists fun label : Text => SameConflicts
        (service.merged draws tenantId observation
          (service.states.get? (tenantId, observation.objectType, observation.objectId))
          (projectedReading observation label))
        (service.ingest rt draws tenantId observation cause assuranceLevel).state := by
  have way := ingest_ingestion rt service draws tenantId observation cause assuranceLevel
  generalize service.states.get? (tenantId, observation.objectType, observation.objectId) = previous
    at way ⊢
  generalize service.ingest rt draws tenantId observation cause assuranceLevel = outcome at way ⊢
  cases way with
  | repeated _ _ known => exact Or.inl ⟨.refl service, Or.inl known⟩
  | stateless _ known => exact Or.inl ⟨.refl service, Or.inl known⟩
  | unprojected error => exact Or.inl ⟨⟨rfl, rfl⟩, Or.inr ⟨error, rfl⟩⟩
  | unchanged incoming state stored new projected =>
      rcases project_ok projected with ⟨label, rfl⟩
      exact Or.inr ⟨label, .refl _⟩
  | undumped incoming new projected =>
      rcases project_ok projected with ⟨label, rfl⟩
      exact Or.inr ⟨label, .refl _⟩
  | refused incoming error new projected =>
      rcases project_ok projected with ⟨label, rfl⟩
      exact Or.inr ⟨label, .refl _⟩
  | committed incoming commit new projected =>
      rcases project_ok projected with ⟨label, rfl⟩
      exact Or.inr ⟨label, rfl, rfl⟩

theorem projectedReading_length (label : Text) :
    (projectedReading observation label).entries.length = observation.payload.entries.length :=
  List.length_map _

end Ingest

section Calls

variable {service after other : WorldStateService} {draws : Draws} {tenantId : Text}
variable {place count : Nat} {rt : Runtime} {observation : Observation} {cause assuranceLevel : Text}

theorem Extends.congr (grows : Extends tenantId draws place count service after)
    (same : SameConflicts after other) : Extends tenantId draws place count service other where
  kept := by
    rw [← same.conflictsById]
    exact grows.kept
  added := by
    rw [← same.conflictsById]
    exact grows.added

/-- Ingesting keeps the maps in step, whether it returns or raises. Conflicts are recorded
before the commit is made. -/
theorem ingest_filed (filed : Filed service)
    (fresh : FreshIds service tenantId draws 0 observation.payload.entries.length) :
    Filed (service.ingest rt draws tenantId observation cause assuranceLevel).state ∧
      Extends tenantId draws 0 observation.payload.entries.length service
        (service.ingest rt draws tenantId observation cause assuranceLevel).state := by
  rcases ingest_conflicts rt service draws tenantId observation cause assuranceLevel with
    ⟨same, _⟩ | ⟨label, same⟩
  · exact ⟨filed.congr same, Extends.congr (.refl service) same⟩
  · have seen : SameConflicts service (service.seen tenantId observation) := ⟨rfl, rfl⟩
    obtain ⟨filed', grows, _⟩ := recordConflicts_files observation.objectType observation.objectId
      (heldAttributes (service.states.get? (tenantId, observation.objectType, observation.objectId)))
      (projectedReading observation label).entries (filed.congr seen)
      (by rw [projectedReading_length]; exact ⟨fresh.new, fresh.distinct⟩)
      (projectedReading observation label).distinct
    rw [projectedReading_length] at grows
    exact ⟨filed'.congr same, Extends.congr ⟨grows.kept, grows.added⟩ same⟩

/-- The label of a reading plays no part in what it does to a conflict. -/
theorem Files.unlabelled {previous : Dict Text StateAttribute} {label : Text} {entry : Text × Json}
    {before now : Option Conflict}
    (files : Files previous (entry.1, projectedAttribute observation label entry.1 entry.2) draws place
      count before now) :
    Files previous (readAttribute observation entry) draws place count before now := by
  cases files with
  | undisputed quiet => exact .undisputed quiet
  | listed existing conflict disputed stored listed => exact .listed existing conflict disputed stored listed
  | extended existing conflict disputed stored unlisted =>
      exact .extended existing conflict disputed stored unlisted
  | opened existing conflict disputed absent drawn =>
      exact .opened existing conflict disputed absent drawn

/-- What a new reading that is ingested does to the open conflicts of its object. -/
theorem ingest_files (filed : Filed service)
    (fresh : FreshIds service tenantId draws 0 observation.payload.entries.length)
    (new : service.observations.contains (tenantId, observation.observationId) = false)
    {state : OrderState}
    (returned : (service.ingest rt draws tenantId observation cause assuranceLevel).result = .ok state) :
    let after := (service.ingest rt draws tenantId observation cause assuranceLevel).state
    let held := heldAttributes
      (service.states.get? (tenantId, observation.objectType, observation.objectId))
    (forall entry, entry ∈ observation.payload.entries ->
      Files held (readAttribute observation entry) draws 0 observation.payload.entries.length
        (service.openConflict? tenantId observation.objectType observation.objectId entry.1)
        (after.openConflict? tenantId observation.objectType observation.objectId entry.1)) ∧
      forall name, name ∉ observation.payload.keys ->
        after.openConflict? tenantId observation.objectType observation.objectId name =
          service.openConflict? tenantId observation.objectType observation.objectId name := by
  dsimp only
  rcases ingest_conflicts rt service draws tenantId observation cause assuranceLevel with
    ⟨_, known | ⟨error, raised⟩⟩ | ⟨label, same⟩
  · rw [new] at known
    cases known
  · rw [raised] at returned
    cases returned
  · have seen : SameConflicts service (service.seen tenantId observation) := ⟨rfl, rfl⟩
    obtain ⟨_, _, files, others⟩ := recordConflicts_files observation.objectType observation.objectId
      (heldAttributes (service.states.get? (tenantId, observation.objectType, observation.objectId)))
      (projectedReading observation label).entries (filed.congr seen)
      (by rw [projectedReading_length]; exact ⟨fresh.new, fresh.distinct⟩)
      (projectedReading observation label).distinct
    rw [projectedReading_length] at files
    constructor
    · intro entry member
      rw [← openConflict?_congr same, openConflict?_congr seen]
      exact (files _ (List.mem_map_of_mem member)).unlabelled
    · intro name outside
      rw [← openConflict?_congr same, openConflict?_congr seen]
      apply others name
      rw [← Dict.keys, projectedReading, Dict.keys_mapValues]
      exact outside

/-- Closing a conflict that the service holds. -/
theorem closeConflict_filed {registry : Registry} {conflict : Conflict} (filed : Filed service)
    (registered : Registered registry service)
    (stored : service.conflictsById.get? (tenantId, conflict.conflictId) = some conflict)
    (resolvedValue : Json) (resolvedBy reason : Text) (now : Timestamp) :
    let outcome := service.closeConflict tenantId conflict resolvedValue resolvedBy reason now
    Filed outcome.state ∧ Registered registry outcome.state ∧
      forall resolved, outcome.result = .ok resolved ->
        resolved.storedId = conflict.storedId ∧ resolved.key = conflict.key := by
  have owner : conflict.tenantId = tenantId := congrArg Prod.fst (filed.named _ _ stored)
  have known : conflict.key = registry conflict.storedId := by
    rw [registered _ _ stored, ← owner]
    rfl
  subst owner
  have closed := filed.only registered known
  refine ⟨?_, registered.store known, ?_⟩
  · exact Filed.fileClosed filed closed
  · intro resolved returned
    cases returned
    exact ⟨rfl, rfl⟩

/-- Resolving keeps the maps in step, and answers with the conflict that was asked for. -/
theorem resolveConflict_filed {registry : Registry} (rt : Runtime) (draws : Draws)
    (tenantId conflictId : Text) (resolvedValue : Json) (resolvedBy reason : Text)
    (filed : Filed service) (registered : Registered registry service) :
    let outcome := service.resolveConflict rt draws tenantId conflictId resolvedValue resolvedBy reason
    Filed outcome.state ∧ Registered registry outcome.state ∧
      forall resolved, outcome.result = .ok resolved ->
        resolved.storedId = (tenantId, conflictId) ∧ resolved.key = registry (tenantId, conflictId) := by
  dsimp only
  have way := resolveConflict_resolution rt service draws tenantId conflictId resolvedValue resolvedBy
    reason
  have asked : forall conflict, service.getConflict tenantId conflictId = .ok conflict ->
      service.conflictsById.get? (tenantId, conflict.conflictId) = some conflict ∧
        conflict.storedId = (tenantId, conflictId) ∧ conflict.key = registry (tenantId, conflictId) := by
    intro conflict found
    have stored := getConflict_ok found
    have named := filed.named _ _ stored
    have same : conflict.conflictId = conflictId := congrArg Prod.snd named
    exact ⟨same.symm ▸ stored, named, registered _ _ stored⟩
  generalize service.resolveConflict rt draws tenantId conflictId resolvedValue resolvedBy reason =
    outcome at way ⊢
  cases way with
  | unknown error => exact ⟨filed, registered, fun resolved returned => by cases returned⟩
  | settled conflict found =>
      refine ⟨filed, registered, ?_⟩
      intro resolved returned
      cases returned
      exact (asked conflict found).2
  | stateless conflict found =>
      rcases asked conflict found with ⟨stored, named, about⟩
      rcases closeConflict_filed filed registered stored resolvedValue
        resolvedBy reason (.utc (draws.clock 0)) with ⟨filed', registered', same⟩
      refine ⟨filed', registered', ?_⟩
      intro resolved returned
      rcases same resolved returned with ⟨named', about'⟩
      exact ⟨named'.trans named, about'.trans about⟩
  | undumped conflict state =>
      exact ⟨filed, registered, fun resolved returned => by cases returned⟩
  | refused conflict state error =>
      exact ⟨filed, registered, fun resolved returned => by cases returned⟩
  | committed conflict state commit found =>
      rcases asked conflict found with ⟨stored, named, about⟩
      have moved : SameConflicts service ((service.record commit).setState
        (tenantId, conflict.entityType, conflict.entityId)
        (resolvedState tenantId state conflict resolvedValue draws commit.commitId)) := ⟨rfl, rfl⟩
      rcases closeConflict_filed (filed.congr moved)
        (registered.congr moved) stored resolvedValue resolvedBy reason (.utc (draws.clock 0)) with
          ⟨filed', registered', same⟩
      refine ⟨filed', registered', ?_⟩
      intro resolved returned
      rcases same resolved returned with ⟨named', about'⟩
      exact ⟨named'.trans named, about'.trans about⟩

end Calls

end WorldState
end RealityLayer
