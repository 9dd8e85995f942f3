import RealityLayer.WorldState.Clocks
import RealityLayer.WorldState.Filing
import RealityLayer.WorldState.Reads

namespace RealityLayer
namespace WorldState

open Foundation Python RealityGit WorldStateService

/-!
# The index of open conflicts

`Filed` says that what the index names is an open conflict.  The other direction is
`Covered`: an open conflict is what the index names for its attribute.  Together they
make the two maps agree, and the gate, which asks the index only, gives the same answer
as the list of open conflicts.

Ingesting and resolving keep both directions.  Hydrating the record of a closed conflict
clears the slot of its attribute without asking whose slot it is, so it keeps them exactly
when no open conflict is about that attribute.
-/

/-- Every open conflict is the one that the index names for its attribute. The index may
still name a resolved one. -/
def Covered (service : WorldStateService) : Prop :=
  forall id conflict, service.conflictsById.get? id = some conflict -> conflict.status = "open" ->
    service.openConflicts.get? conflict.key = some conflict.conflictId

/-- A conflict is open or resolved, and was detected at a time with an offset. A record that
is hydrated may be anything else, so a run that hydrates asks for this. -/
structure Conflict.Plain (conflict : Conflict) : Prop where
  status : conflict.status = "open" ∨ conflict.status = "resolved"
  aware : conflict.detectedAt.offset.isSome = true

/-- What holds of the stored conflicts whether or not the maps agree. The index of open
conflicts is a second map, and its agreement with this one is what can be lost. -/
structure Stored (service : WorldStateService) : Prop where
  named : forall id conflict, service.conflictsById.get? id = some conflict -> conflict.storedId = id
  plain : forall id conflict, service.conflictsById.get? id = some conflict -> conflict.Plain

/-- The open index and the map by identifier agree, at most one conflict is open about an
attribute, and the gate of an entity answers as its list of open conflicts does. -/
structure IndexesAgree (service : WorldStateService) : Prop where
  indexed : forall key conflictId, service.openConflicts.get? key = some conflictId <->
    Exists fun conflict : Conflict => service.conflictsById.get? (key.1, conflictId) = some conflict ∧
      conflict.key = key ∧ conflict.status = "open"
  unique : forall id id' conflict conflict', service.conflictsById.get? id = some conflict ->
    service.conflictsById.get? id' = some conflict' -> conflict.status = "open" ->
    conflict'.status = "open" -> conflict.key = conflict'.key -> id = id'
  gate : forall tenantId entityType entityId,
    service.hasOpenConflicts tenantId entityType entityId = true <->
      Exists fun conflicts : List Conflict =>
        service.listConflicts tenantId (some "open") = .ok conflicts ∧
          Exists fun conflict : Conflict => conflict ∈ conflicts ∧
            conflict.entityType = entityType ∧ conflict.entityId = entityId

section Agreement

variable {service other : WorldStateService} {conflict : Conflict}

/-- Conflicts of one tenant and one identifier are stored under one key. -/
theorem storedId_of_key {first second : Conflict} (about : first.key = second.key)
    (named : first.conflictId = second.conflictId) : first.storedId = second.storedId := by
  have tenant : first.tenantId = second.tenantId := congrArg Prod.fst about
  exact Prod.ext tenant named

theorem Covered.congr (covered : Covered service) (same : SameConflicts service other) :
    Covered other := by
  unfold Covered
  rw [← same.conflictsById, ← same.openConflicts]
  exact covered

theorem Stored.congr (stored : Stored service) (same : service.conflictsById = other.conflictsById) :
    Stored other where
  named := same ▸ stored.named
  plain := same ▸ stored.plain

theorem Stored.store (stored : Stored service) (plain : conflict.Plain) :
    Stored (service.storeConflict conflict) where
  named := by
    intro id other found
    change (service.conflictsById.set conflict.storedId conflict).get? id = some other at found
    rw [Dict.get?_set] at found
    split at found
    · cases found
      exact Eq.symm ‹_›
    · exact stored.named id other found
  plain := by
    intro id other found
    change (service.conflictsById.set conflict.storedId conflict).get? id = some other at found
    rw [Dict.get?_set] at found
    split at found
    · cases found
      exact plain
    · exact stored.plain id other found

/-- The conflicts listed as open are the open ones of the tenant. -/
theorem Stored.listed (stored : Stored service) (tenantId : Text) :
    Exists fun conflicts : List Conflict =>
      service.listConflicts tenantId (some "open") = .ok conflicts ∧
        forall conflict, conflict ∈ conflicts <->
          (Exists fun conflictId =>
            service.conflictsById.get? (tenantId, conflictId) = some conflict) ∧
            conflict.status = "open" := by
  have aware : forall conflict, conflict ∈ service.conflictsOf tenantId (some "open") ->
      conflict.detectedAt.offset.isSome = true := by
    intro conflict member
    rcases (mem_conflictsOf _ _ _ _).mp member with ⟨⟨conflictId, found⟩, _⟩
    exact (stored.plain _ _ found).aware
  rcases sortedByDetection_aware aware with ⟨conflicts, sorted, perm⟩
  refine ⟨conflicts, sorted, ?_⟩
  intro conflict
  rw [perm.mem_iff, mem_conflictsOf, Conflict.hasStatus, Option.all_some, decide_eq_true_iff]

/-- The two directions make the maps agree. -/
theorem IndexesAgree.of_covered (stored : Stored service) (filed : Filed service)
    (covered : Covered service) : IndexesAgree service where
  indexed := by
    intro key conflictId
    constructor
    · exact filed.indexed key conflictId
    · rintro ⟨conflict, found, rfl, waits⟩
      have named := congrArg Prod.snd (stored.named _ _ found)
      rw [covered _ _ found waits]
      exact congrArg some named
  unique := by
    intro id id' conflict conflict' found found' waits waits' about
    have index := covered _ _ found waits
    rw [about, covered _ _ found' waits'] at index
    rw [← stored.named _ _ found, ← stored.named _ _ found']
    exact storedId_of_key about (Option.some.inj index).symm
  gate := by
    intro tenantId entityType entityId
    rcases stored.listed tenantId with ⟨conflicts, listed, members⟩
    rw [hasOpenConflicts_iff]
    constructor
    · rintro ⟨name, conflictId, index⟩
      rcases filed.indexed _ _ index with ⟨conflict, found, about, waits⟩
      refine ⟨conflicts, listed, conflict, (members conflict).mpr ⟨⟨conflictId, found⟩, waits⟩, ?_, ?_⟩
      · exact congrArg (fun key => key.2.1) about
      · exact congrArg (fun key => key.2.2.1) about
    · rintro ⟨others, listed', conflict, member, rfl, rfl⟩
      rw [listed] at listed'
      cases listed'
      rcases (members conflict).mp member with ⟨⟨conflictId, found⟩, waits⟩
      have owner : conflict.tenantId = tenantId := congrArg Prod.fst (stored.named _ _ found)
      subst owner
      exact ⟨conflict.attributeName, _, covered _ _ found waits⟩

theorem IndexesAgree.covered (agree : IndexesAgree service) (stored : Stored service) :
    Covered service := by
  intro id conflict found waits
  rw [agree.indexed]
  refine ⟨conflict, ?_, rfl, waits⟩
  rw [← stored.named _ _ found] at found
  exact found

theorem IndexesAgree.filed (agree : IndexesAgree service) (stored : Stored service) :
    Filed service where
  named := stored.named
  indexed := fun key conflictId => (agree.indexed key conflictId).mp

end Agreement

/-! ## Ingesting -/

section Recording

variable {service : WorldStateService} {draws : Draws} {place : Nat}
variable {tenantId entityType entityId name : Text} {existing incoming : StateAttribute}

theorem openedConflict_plain (draws : Draws) (place : Nat) (tenantId entityType entityId name : Text)
    (existing incoming : StateAttribute) :
    (openedConflict draws place tenantId entityType entityId name existing incoming).Plain :=
  ⟨Or.inl rfl, rfl⟩

theorem recordConflict_stored (stored : Stored service) :
    Stored (service.recordConflict draws place tenantId entityType entityId name existing incoming) := by
  cases found : service.openConflict? tenantId entityType entityId name with
  | none =>
      rw [recordConflict_absent found]
      exact (stored.store (openedConflict_plain _ _ _ _ _ _ _ _)).congr rfl
  | some conflict =>
      rcases Option.bind_eq_some_iff.mp found with ⟨conflictId, _, held⟩
      have plain := stored.plain _ _ held
      cases listed : conflict.lists incoming with
      | true =>
          rw [recordConflict_listed found listed]
          exact stored
      | false =>
          rw [recordConflict_unlisted found listed]
          exact stored.store ⟨plain.status, plain.aware⟩

theorem recordConflicts_stored (previous : Dict Text StateAttribute)
    (entries : List (Text × StateAttribute)) (stored : Stored service) :
    Stored (recordConflicts draws tenantId entityType entityId previous place entries service) := by
  induction entries generalizing service place with
  | nil => exact stored
  | cons entry rest ih =>
      rw [recordConflicts]
      cases disputed? previous entry with
      | none => exact ih stored
      | some existing => exact ih (recordConflict_stored stored)

/-- An attribute without an open conflict is indexed by none, when every open one is indexed. -/
theorem Covered.vacant (covered : Covered service) (named : forall id conflict,
      service.conflictsById.get? id = some conflict -> conflict.storedId = id)
    (absent : service.openConflict? tenantId entityType entityId name = none) {id : Text × Text}
    {conflict : Conflict} (found : service.conflictsById.get? id = some conflict)
    (waits : conflict.status = "open") :
    conflict.key ≠ (tenantId, entityType, entityId, name) := by
  intro about
  have index := covered id conflict found waits
  have owner : conflict.tenantId = tenantId := congrArg Prod.fst about
  rw [about] at index
  rw [← named id conflict found, Conflict.storedId, owner] at found
  rw [openConflict?, index, Option.bind_some, found] at absent
  cases absent

theorem recordConflict_covered (filed : Filed service) (covered : Covered service) :
    Covered (service.recordConflict draws place tenantId entityType entityId name existing incoming) := by
  cases found : service.openConflict? tenantId entityType entityId name with
  | none =>
      rw [recordConflict_absent found]
      intro id other stored waits
      change (service.conflictsById.set (tenantId, newConflictId draws place) _).get? id = some other
        at stored
      change (service.openConflicts.set (tenantId, entityType, entityId, name)
        (newConflictId draws place)).get? other.key = some other.conflictId
      rw [Dict.get?_set] at stored ⊢
      split at stored
      · cases stored
        exact if_pos rfl
      · rw [if_neg (covered.vacant filed.named found stored waits)]
        exact covered id other stored waits
  | some conflict =>
      rcases filed.openConflict found with ⟨indexed, held, about, waits⟩
      cases listed : conflict.lists incoming with
      | true =>
          rw [recordConflict_listed found listed]
          exact covered
      | false =>
          rw [recordConflict_unlisted found listed]
          intro id other stored waits'
          change (service.conflictsById.set conflict.storedId _).get? id = some other at stored
          change service.openConflicts.get? other.key = some other.conflictId
          rw [Dict.get?_set] at stored
          split at stored
          · cases stored
            exact covered conflict.storedId conflict held waits
          · exact covered id other stored waits'

/-- The loop over a reading keeps what each of its steps keeps. -/
theorem recordConflicts_keeps {property : WorldStateService -> Prop} {previous : Dict Text StateAttribute}
    (entries : List (Text × StateAttribute))
    (step : forall service place entry existing, entry ∈ entries -> Filed service ->
      service.conflictsById.get? (tenantId, newConflictId draws place) = none ->
      disputed? previous entry = some existing -> property service ->
      property (service.recordConflict draws place tenantId entityType entityId entry.1 existing entry.2))
    (filed : Filed service) (fresh : FreshIds service tenantId draws place entries.length)
    (held : property service) :
    property (recordConflicts draws tenantId entityType entityId previous place entries service) := by
  induction entries generalizing service place with
  | nil => exact held
  | cons entry rest ih =>
      have later := fun service place other existing member =>
        step service place other existing (List.mem_cons_of_mem entry member)
      rw [recordConflicts]
      cases disputed : disputed? previous entry with
      | none => exact ih later filed (fresh.next (.refl service)) held
      | some existing =>
          have files := @recordConflict_files service draws place tenantId entityType entityId previous
            filed fresh.first entry existing disputed
          rcases files with ⟨filed', grows, _⟩
          apply ih later filed' (fresh.next grows)
          exact step service place entry existing List.mem_cons_self filed fresh.first disputed held

end Recording

/-! ## One request -/

/-- A call, or hydrating the record of a conflict. Hydration is the only way in for a record
that the service did not make itself. -/
inductive IndexCall where
  | call (call : WorldCall)
  | hydrateConflict (conflict : Conflict)

/-- The conflict identifiers that a call may draw are new and different. One is drawn for
each disputed attribute. -/
def WorldCall.FreshConflicts (service : WorldStateService) : WorldCall -> Prop
  | .ingest draws tenantId observation _ _ =>
      FreshIds service tenantId draws 0 observation.payload.entries.length
  | .resolveConflict _ _ _ _ _ _ => True

/-- A call draws new identifiers; a record to hydrate is the current one of its conflict. An
outdated record would open a resolved conflict again. -/
def IndexCall.Admitted (service : WorldStateService) : IndexCall -> Prop
  | .call request => request.FreshConflicts service
  | .hydrateConflict conflict => service.conflictsById.get? conflict.storedId = some conflict

def IndexCall.perform (rt : Runtime) (service : WorldStateService) : IndexCall -> WorldStateService
  | .call request => service.perform rt request
  | .hydrateConflict conflict => service.hydrateConflict conflict

/-- A record that is hydrated is open, or no open conflict is about its attribute. Hydrating
a resolved record empties the place of the attribute. -/
def IndexCall.Spares (service : WorldStateService) : IndexCall -> Prop
  | .call _ => True
  | .hydrateConflict conflict => conflict.status = "open" ∨
      forall id other, service.conflictsById.get? id = some other -> other.status = "open" ->
        other.key ≠ conflict.key

/-- The service under requests, from an empty one. -/
def indexSystem (rt : Runtime) : System WorldStateService IndexCall where
  start := fun service => service = .fresh
  admits := fun service call => call.Admitted service
  next := fun service call => call.perform rt service

section Requests

variable {rt : Runtime} {service : WorldStateService}

theorem ingest_stored {draws : Draws} {tenantId : Text} {observation : Observation}
    {cause assuranceLevel : Text} (stored : Stored service) :
    Stored (service.ingest rt draws tenantId observation cause assuranceLevel).state := by
  rcases ingest_conflicts rt service draws tenantId observation cause assuranceLevel with
    ⟨same, _⟩ | ⟨label, same⟩
  · exact stored.congr same.conflictsById
  · have seen : Stored (service.seen tenantId observation) := stored.congr rfl
    exact Stored.congr (recordConflicts_stored _ _ seen) same.conflictsById

theorem ingest_covered {draws : Draws} {tenantId : Text} {observation : Observation}
    {cause assuranceLevel : Text} (filed : Filed service) (covered : Covered service)
    (fresh : FreshIds service tenantId draws 0 observation.payload.entries.length) :
    Covered (service.ingest rt draws tenantId observation cause assuranceLevel).state := by
  rcases ingest_conflicts rt service draws tenantId observation cause assuranceLevel with
    ⟨same, _⟩ | ⟨label, same⟩
  · exact covered.congr same
  · have seen : SameConflicts service (service.seen tenantId observation) := ⟨rfl, rfl⟩
    refine Covered.congr ?_ same
    refine recordConflicts_keeps _ (fun _ _ _ _ _ filed _ _ covered =>
      recordConflict_covered filed covered) (filed.congr seen) ?_ (covered.congr seen)
    rw [projectedReading_length]
    exact ⟨fresh.new, fresh.distinct⟩

/-- Closing the open conflict that a service holds. -/
theorem closeConflict_indexes {tenantId : Text} {conflict : Conflict} (stored : Stored service)
    (found : service.conflictsById.get? (tenantId, conflict.conflictId) = some conflict)
    (unresolved : conflict.status ≠ ("resolved" : Text)) (resolvedValue : Json)
    (resolvedBy reason : Text) (now : Timestamp) :
    let after := (service.closeConflict tenantId conflict resolvedValue resolvedBy reason now).state
    Stored after ∧ (Filed service -> Covered service -> Filed after ∧ Covered after) := by
  have owner : conflict.tenantId = tenantId := congrArg Prod.fst (stored.named _ _ found)
  have plain := stored.plain _ _ found
  have waits := plain.status.resolve_right unresolved
  subst owner
  have closed : (conflict.closed resolvedValue resolvedBy reason now).Plain := ⟨Or.inr rfl, plain.aware⟩
  refine ⟨(stored.store closed).congr rfl, ?_⟩
  intro filed covered
  constructor
  · apply Filed.fileClosed filed
    intro key indexed tenant
    rcases filed.indexed key _ indexed with ⟨held, found', about, _⟩
    rw [tenant, found] at found'
    cases found'
    exact about.symm
  · intro id other found' waits'
    change (service.conflictsById.set conflict.storedId _).get? id = some other at found'
    change (service.openConflicts.erase conflict.key).get? other.key = some other.conflictId
    rw [Dict.get?_set] at found'
    split at found'
    · cases found'
      cases waits'
    · rename_i different
      have index := covered id other found' waits'
      rw [Dict.get?_erase, if_neg]
      · exact index
      · intro about
        rw [about, covered _ _ found waits] at index
        have named := stored.named _ _ found'
        refine different (named.symm.trans ?_)
        exact storedId_of_key about (Option.some.inj index).symm

/-- Resolving keeps both directions. -/
theorem resolveConflict_indexes {draws : Draws} {tenantId conflictId : Text} {resolvedValue : Json}
    {resolvedBy reason : Text} (stored : Stored service) :
    let after := (service.resolveConflict rt draws tenantId conflictId resolvedValue resolvedBy
      reason).state
    Stored after ∧ (Filed service -> Covered service -> Filed after ∧ Covered after) := by
  dsimp only
  have way := resolveConflict_resolution rt service draws tenantId conflictId resolvedValue resolvedBy
    reason
  have held : forall conflict, service.getConflict tenantId conflictId = .ok conflict ->
      service.conflictsById.get? (tenantId, conflict.conflictId) = some conflict := by
    intro conflict found
    have stored' := getConflict_ok found
    have same : conflict.conflictId = conflictId := congrArg Prod.snd (stored.named _ _ stored')
    exact same.symm ▸ stored'
  generalize service.resolveConflict rt draws tenantId conflictId resolvedValue resolvedBy reason =
    outcome at way ⊢
  cases way with
  | unknown error absent => exact ⟨stored, And.intro⟩
  | settled conflict found resolved => exact ⟨stored, And.intro⟩
  | stateless conflict found unresolved absent =>
      exact closeConflict_indexes stored (held conflict found) unresolved _ _ _ _
  | undumped conflict state found unresolved stored' undumpable => exact ⟨stored, And.intro⟩
  | refused conflict state error found unresolved stored' failed => exact ⟨stored, And.intro⟩
  | committed conflict state commit found unresolved stored' continues answers =>
      have moved : SameConflicts service ((service.record commit).setState
        (tenantId, conflict.entityType, conflict.entityId)
        (resolvedState tenantId state conflict resolvedValue draws commit.commitId)) := ⟨rfl, rfl⟩
      rcases closeConflict_indexes (stored.congr moved.conflictsById)
        (held conflict found) unresolved resolvedValue resolvedBy reason (.utc (draws.clock 0)) with
          ⟨stored'', keeps⟩
      exact ⟨stored'', fun filed covered => keeps (filed.congr moved) (covered.congr moved)⟩

/-- Hydrating a conflict's current record stores what was stored. -/
theorem hydrateConflict_current {conflict : Conflict}
    (current : service.conflictsById.get? conflict.storedId = some conflict) (id : Text × Text) :
    (service.hydrateConflict conflict).conflictsById.get? id = service.conflictsById.get? id := by
  rw [hydrateConflict_conflictsById, Dict.get?_set]
  split
  · rename_i same
    rw [same, current]
  · rfl

/-- Hydrating a conflict's current record changes its own slot at most. -/
theorem hydrateConflict_openConflicts (service : WorldStateService) (conflict : Conflict)
    (key : Text × Text × Text × Text) :
    (service.hydrateConflict conflict).openConflicts.get? key =
      if key = conflict.key then
        if conflict.status = "open" then some conflict.conflictId else none
      else service.openConflicts.get? key := by
  unfold WorldStateService.hydrateConflict
  dsimp only
  split
  · exact Dict.get?_set _ _ _ _
  · exact Dict.get?_erase _ _ _

/-- In maps that agree, hydrating a current record keeps them exactly when it spares the open
conflicts. -/
theorem hydrateConflict_agree_iff {conflict : Conflict} (stored : Stored service)
    (agree : IndexesAgree service)
    (current : service.conflictsById.get? conflict.storedId = some conflict) :
    IndexesAgree (service.hydrateConflict conflict) <->
      (IndexCall.hydrateConflict conflict).Spares service := by
  have filed := agree.filed stored
  have covered := agree.covered stored
  have kept := hydrateConflict_current current
  have slots := hydrateConflict_openConflicts service conflict
  have stored' : Stored (service.hydrateConflict conflict) :=
    ⟨fun id other found => stored.named id other (kept id ▸ found),
      fun id other found => stored.plain id other (kept id ▸ found)⟩
  constructor
  · intro after
    by_cases waits : conflict.status = "open"
    · exact Or.inl waits
    · refine Or.inr ?_
      intro id other found waits' about
      have index := after.covered stored' id other ((kept id).trans found) waits'
      rw [about, slots, if_pos rfl, if_neg waits] at index
      cases index
  · intro spares
    -- the lookups of both maps are the same as before
    have same : forall key, (service.hydrateConflict conflict).openConflicts.get? key =
        service.openConflicts.get? key := by
      intro key
      rw [slots]
      by_cases own : key = conflict.key
      · subst own
        rw [if_pos rfl]
        by_cases waits : conflict.status = "open"
        · rw [if_pos waits, covered _ _ current waits]
        · rw [if_neg waits]
          cases index : service.openConflicts.get? conflict.key with
          | none => rfl
          | some conflictId =>
              rcases filed.indexed _ _ index with ⟨other, found, about, waits'⟩
              exact absurd about (spares.resolve_left waits _ other found waits')
      · exact if_neg own
    refine .of_covered stored' ⟨stored'.named, ?_⟩ ?_
    · intro key conflictId index
      rw [kept]
      exact filed.indexed key conflictId (same key ▸ index)
    · intro id other found waits
      rw [same]
      exact covered id other (kept id ▸ found) waits

variable (rt) in
/-- One request keeps the maps in agreement exactly when it spares the open conflicts. -/
theorem request_agree_iff {request : IndexCall} (stored : Stored service)
    (admitted : request.Admitted service) :
    Stored (request.perform rt service) ∧ (IndexesAgree service ->
      (IndexesAgree (request.perform rt service) <-> request.Spares service)) := by
  cases request with
  | call call =>
      have keeps : Stored (service.perform rt call) ∧ (Filed service -> Covered service ->
          Filed (service.perform rt call) ∧ Covered (service.perform rt call)) := by
        cases call with
        | ingest draws tenantId observation cause assuranceLevel =>
            refine ⟨ingest_stored stored, fun filed covered => ⟨?_, ?_⟩⟩
            · exact (ingest_filed filed admitted).1
            · exact ingest_covered filed covered admitted
        | resolveConflict draws tenantId conflictId resolvedValue resolvedBy reason =>
            exact resolveConflict_indexes stored
      refine ⟨keeps.1, fun agree => iff_of_true ?_ True.intro⟩
      rcases keeps.2 (agree.filed stored) (agree.covered stored) with ⟨filed, covered⟩
      exact .of_covered keeps.1 filed covered
  | hydrateConflict conflict =>
      refine ⟨⟨?_, ?_⟩, fun agree => hydrateConflict_agree_iff stored agree admitted⟩
      · exact fun id other found => stored.named id other (hydrateConflict_current admitted id ▸ found)
      · exact fun id other found => stored.plain id other (hydrateConflict_current admitted id ▸ found)

end Requests

/-! ## Runs -/

instance (service : WorldStateService) (tenantId : Text) (draws : Draws) (place count : Nat) :
    Decidable (FreshIds service tenantId draws place count) :=
  decidable_of_iff
    ((forall offset, offset < count ->
        service.conflictsById.get? (tenantId, newConflictId draws (place + offset)) = none) ∧
      forall first, first < count -> forall second, second < count ->
        newConflictId draws (place + first) = newConflictId draws (place + second) -> first = second)
    ⟨fun fresh => ⟨fresh.1, fun first second inside inside' => fresh.2 first inside second inside'⟩,
      fun fresh => ⟨fresh.new, fun first inside second inside' =>
        fresh.distinct first second inside inside'⟩⟩

instance (service : WorldStateService) : (request : IndexCall) -> Decidable (request.Admitted service)
  | .call (.ingest draws tenantId observation _ _) =>
      inferInstanceAs (Decidable
        (FreshIds service tenantId draws 0 observation.payload.entries.length))
  | .call (.resolveConflict _ _ _ _ _ _) => isTrue True.intro
  | .hydrateConflict _ => inferInstanceAs (Decidable (_ = _))

instance (rt : Runtime) (service : WorldStateService) (request : IndexCall) :
    Decidable ((indexSystem rt).admits service request) :=
  inferInstanceAs (Decidable (request.Admitted service))

instance (service : WorldStateService) : (request : IndexCall) -> Decidable (request.Spares service)
  | .call _ => isTrue True.intro
  | .hydrateConflict conflict =>
      decidable_of_iff (conflict.status = "open" ∨
          forall other, other ∈ service.conflictsById.values -> other.status = "open" ->
            other.key ≠ conflict.key)
        (or_congr Iff.rfl ⟨fun spares id other stored =>
            spares other ((Dict.mem_values_iff _ _).mpr ⟨id, stored⟩),
          fun spares other member => by
            rcases (Dict.mem_values_iff _ _).mp member with ⟨id, stored⟩
            exact spares id other stored⟩)

theorem Stored.fresh : Stored .fresh where
  named := by
    intro id conflict stored
    cases stored
  plain := by
    intro id conflict stored
    cases stored

theorem Covered.fresh : Covered .fresh := by
  intro id conflict stored
  cases stored

/-- In every run, the maps agree at every point exactly when every record that is hydrated is
open or about an attribute without an open conflict. -/
theorem indexes_agree_iff {rt : Runtime} {history : List (Step WorldStateService IndexCall)}
    {service : WorldStateService} (run : (indexSystem rt).Run history service) :
    ((forall step, step ∈ history -> IndexesAgree step.before) ∧ IndexesAgree service) <->
      forall step, step ∈ history -> step.label.Spares step.before := by
  have sound : Stored service ∧ (((forall step, step ∈ history -> IndexesAgree step.before) ∧
      IndexesAgree service) <-> forall step, step ∈ history -> step.label.Spares step.before) := by
    apply System.Run.historyInvariant run
    · rintro _ rfl
      refine ⟨.fresh, iff_of_true ⟨?_, .of_covered .fresh .fresh .fresh⟩ ?_⟩
      · intro step member
        cases member
      · intro step member
        cases member
    · intro history service request earlier ⟨stored, agree⟩ admitted
      rcases request_agree_iff rt stored admitted with ⟨stored', step⟩
      refine ⟨stored', ?_⟩
      simp only [List.forall_mem_append, List.forall_mem_singleton]
      constructor
      · rintro ⟨⟨before, now⟩, after⟩
        exact ⟨agree.mp ⟨before, now⟩, (step now).mp after⟩
      · rintro ⟨spared, last⟩
        rcases agree.mpr spared with ⟨before, now⟩
        exact ⟨⟨before, now⟩, (step now).mpr last⟩
  exact sound.2

/-! ## A second conflict about one attribute -/

/-- Two connectors disagree about an order, an operator settles it, and the first connector
disagrees with the operator. -/
def disputedTwice : List IndexCall :=
  [.call (sampleIngest 10 "demo" openReading), .call (sampleIngest 20 "demo" disagreeingReading),
    .call (.resolveConflict (.numbered 30) "demo" (newConflictId (.numbered 20) 0) (.str "open")
      "operator" "checked"),
    .call (sampleIngest 40 "demo" cancelledReading)]

def statusKey : Text × Text × Text × Text := ("demo", "order", "1001", "status")

/-- Hydrating each conflict of one status that the service holds then. They are taken in the
order of their detection. -/
def hydrating (status : Text) : List IndexCall :=
  (((indexSystem .plain).trace .fresh disputedTwice).2.conflictsOf "demo" (some status)).map
    .hydrateConflict

theorem indexes_agree_sample :
    Exists fun history : List (Step WorldStateService IndexCall) => Exists fun service =>
      history.length = 5 ∧ (forall step, step ∈ history -> IndexesAgree step.before) ∧
        IndexesAgree service := by
  have facts : (indexSystem .plain).AdmitsAll .fresh (disputedTwice ++ hydrating "open") ∧
      ((indexSystem .plain).trace .fresh (disputedTwice ++ hydrating "open")).1.length = 5 ∧
      forall step, step ∈ ((indexSystem .plain).trace .fresh (disputedTwice ++ hydrating "open")).1 ->
        step.label.Spares step.before := by decide +kernel
  rcases facts with ⟨admitted, five, spared⟩
  have run := System.run_trace (disputedTwice ++ hydrating "open") rfl admitted
  exact ⟨_, _, five, (indexes_agree_iff run).mpr spared⟩

/-- Hydrating the settled conflict clears the slot of the open one. -/
theorem open_slot_cleared :
    Exists fun history => Exists fun service : WorldStateService =>
      (indexSystem .plain).Run history service ∧
        service.hasOpenConflicts "demo" "order" "1001" = false ∧
        (service.conflictsOf "demo" (some "open")).map Conflict.key =
          [statusKey] ∧
        ¬ IndexesAgree service := by
  have facts : (indexSystem .plain).AdmitsAll .fresh (disputedTwice ++ hydrating "resolved") ∧
      ((indexSystem .plain).trace .fresh (disputedTwice ++ hydrating "resolved")).2.hasOpenConflicts
        "demo" "order" "1001" = false ∧
      (((indexSystem .plain).trace .fresh (disputedTwice ++ hydrating "resolved")).2.conflictsOf "demo"
        (some "open")).map Conflict.key = [statusKey] := by decide +kernel
  rcases facts with ⟨admitted, gate, listed⟩
  refine ⟨_, _, System.run_trace _ rfl admitted, gate, listed, ?_⟩
  intro agree
  rcases List.mem_map.mp (listed ▸ List.mem_singleton_self statusKey) with ⟨conflict, member, about⟩
  rcases (mem_conflictsOf _ _ _ _).mp member with ⟨⟨conflictId, stored⟩, status⟩
  have waits : conflict.status = "open" := of_decide_eq_true status
  have index := (agree.indexed statusKey conflictId).mpr ⟨conflict, stored, about, waits⟩
  have closed := (hasOpenConflicts_iff _ _ _ _).mpr ⟨_, _, index⟩
  cases gate.symm.trans closed

end WorldState
end RealityLayer
