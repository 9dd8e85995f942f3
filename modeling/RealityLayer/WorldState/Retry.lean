import RealityLayer.WorldState.Consistency

namespace RealityLayer
namespace WorldState

open Foundation Python RealityGit WorldStateService

/-!
# Retrying a request that was rolled back

A request whose session fails rolls the tables back, and the service keeps what it has
recorded by then.  The session does not flush by itself, so there are two moments.  The row
of the observation is flushed before the service is touched.  Everything else is flushed
after `ingest`, and a failure there leaves a service that knows the observation, next to
tables that do not.

The retry hydrates the old projection over the new state, and `ingest` takes the observation
for a repetition.  `RetrySafe` says when nothing is lost by that.  The log has the
observation already; or the entity has no projection, so that the state in memory survives;
or the reading changes nothing, and adds no candidate to a conflict that a row puts back.
-/

/-- Where the session of a request fails. The flush of the observation comes before the
process is touched, and the later ones come after. -/
inductive FailurePoint where
  /-- At the flush of the observation's row. -/
  | observation
  /-- At a flush after `ingest`, or at the commit. -/
  | later
deriving DecidableEq

/-- The store after a request whose session failed and was rolled back. The tables are as
they were, and the process is not. -/
def failedRequest (rt : Runtime) (store : Store) (draws : Draws) (tenantId : Text)
    (observation : Observation) : FailurePoint -> Store
  | .observation => store
  | .later => ⟨(ingestObservation rt store draws tenantId observation).state.service, store.tables⟩

/-- A disputed value is a new candidate of an open conflict that has a row. After a failure
the process has the candidate and the row does not. -/
def ExtendsRow (service : WorldStateService) (tables : Tables) (tenantId : Text)
    (observation : Observation) (held : Dict Text StateAttribute) : Prop :=
  Exists fun name : Text => Exists fun value : Json => Exists fun conflict : Conflict =>
    observation.payload.get? name = some value ∧
    disputesReading held observation (name, value) = true ∧
    service.openConflict? tenantId observation.objectType observation.objectId name = some conflict ∧
    (tables.conflicts.get? conflict.storedId).isSome = true ∧
    conflict.lists (projectedAttribute observation "" name value) = false

/-- A retry after a failed flush or commit loses nothing. The retry is answered from the
process, so it writes only what the process still offers. -/
def RetrySafe (rt : Runtime) (store : Store) (tenantId : Text) (observation : Observation) : Prop :=
  store.tables.Logged (tenantId, observation.observationId) ∨
  store.tables.projections.get? (tenantId, entityIdOf observation) = none ∨
  forall state conflicts, store.tables.loadState rt tenantId (entityIdOf observation) = .ok (some state) ->
    store.tables.listConflicts rt tenantId = .ok conflicts ->
      NothingNew state.attributes observation ∧
        ¬ ExtendsRow (store.hydrated tenantId (some state) conflicts) store.tables tenantId observation
          state.attributes

/-! ## What a reading does to a stored conflict -/

section Touching

variable {service : WorldStateService} {draws : Draws} {place : Nat} {tenantId entityType entityId : Text}
variable {previous : Dict Text StateAttribute} {id : Text × Text} {conflict : Conflict}
/-- A stored conflict stays as it is, or it is the open conflict of a disputed attribute and
gains a candidate. -/
theorem recordConflicts_touches (entityType entityId : Text) (previous : Dict Text StateAttribute)
    (entries : List (Text × StateAttribute)) (filed : Filed service)
    (fresh : FreshIds service tenantId draws place entries.length)
    (distinct : (entries.map Prod.fst).Nodup)
    (stored : service.conflictsById.get? id = some conflict) :
    let after := recordConflicts draws tenantId entityType entityId previous place entries service
    after.conflictsById.get? id = some conflict ∨
      Exists fun entry : Text × StateAttribute => entry ∈ entries ∧
        (disputed? previous entry).isSome = true ∧
        service.openConflict? tenantId entityType entityId entry.1 = some conflict ∧
        conflict.lists entry.2 = false ∧
        after.conflictsById.get? id = some (conflict.extended entry.2) := by
  induction entries generalizing service place conflict with
  | nil => exact Or.inl stored
  | cons entry rest ih =>
      rcases List.nodup_cons.mp distinct with ⟨absent, distinct⟩
      dsimp only at ih ⊢
      cases disputed : disputed? previous entry with
      | none =>
          rw [recordConflicts, disputed]
          rcases ih filed (fresh.next (.refl service)) distinct stored with same | ⟨other, member, touched⟩
          · exact Or.inl same
          · exact Or.inr ⟨other, List.mem_cons_of_mem entry member, touched⟩
      | some existing =>
          rcases @recordConflict_files service draws place tenantId entityType entityId previous filed
              fresh.first entry existing disputed with ⟨filed', grows, _, others⟩
          have later : forall other : Text × StateAttribute, other ∈ rest -> other.1 ≠ entry.1 := by
            intro other member same
            exact absent (same ▸ List.mem_map_of_mem member)
          rw [recordConflicts, disputed]
          dsimp only
          rcases recordConflict_stored_under tenantId entityType entityId entry.1 existing entry.2
            filed fresh.first stored with kept | ⟨found, unlisted, grown⟩
          · rcases ih filed' (fresh.next grows) distinct kept with same |
              ⟨other, member, disputed', found, touched⟩
            · exact Or.inl same
            · rw [others other.1 (later other member)] at found
              exact Or.inr ⟨other, List.mem_cons_of_mem entry member, disputed', found, touched⟩
          · rcases ih filed' (fresh.next grows) distinct grown with same |
              ⟨other, member, _, found', _⟩
            · refine Or.inr ⟨entry, List.mem_cons_self, ?_, found, unlisted, same⟩
              rw [disputed]
              rfl
            · -- Only its own name finds a conflict.
              have own : conflict.key = _ := (filed'.openConflict found').2.2.1
              have named : conflict.key = _ := (filed.openConflict found).2.2.1
              exact absurd (congrArg (fun key => key.2.2.2) (own.symm.trans named)) (later other member)

end Touching

/-! ## The retry -/

section Rerun

variable {rt : Runtime} {store : Store} {base after : WorldStateService} {draws again : Draws}
variable {tenantId : Text} {observation : Observation} {existing : Option OrderState}
variable {conflicts : List Conflict} {state : OrderState} {commit : CommitRecord}

/-- What a reading that was taken in did to a conflict that was held before. -/
theorem Taken.touches (taken : Taken rt base draws tenantId observation existing after state)
    (filed : Filed base) (fresh : FreshIds base tenantId draws 0 observation.payload.entries.length)
    {id : Text × Text} {conflict : Conflict} (stored : base.conflictsById.get? id = some conflict) :
    after.conflictsById.get? id = some conflict ∨
      Exists fun name : Text => Exists fun value : Json =>
        observation.payload.get? name = some value ∧
        disputesReading (heldAttributes existing) observation (name, value) = true ∧
        base.openConflict? tenantId observation.objectType observation.objectId name = some conflict ∧
        conflict.lists (projectedAttribute observation "" name value) = false ∧
        Exists fun incoming : StateAttribute =>
          after.conflictsById.get? id = some (conflict.extended incoming) := by
  rcases taken.conflicts with ⟨label, same⟩
  have seen : SameConflicts base (base.seen tenantId observation) := ⟨rfl, rfl⟩
  rcases recordConflicts_touches observation.objectType observation.objectId (heldAttributes existing)
    (projectedReading observation label).entries (filed.congr seen)
    (by rw [projectedReading_length]; exact ⟨fresh.new, fresh.distinct⟩)
    (projectedReading observation label).distinct stored with
    kept | ⟨entry, member, disputed, found, unlisted, grown⟩
  · exact Or.inl (same.conflictsById ▸ kept)
  · rcases List.mem_map.mp member with ⟨read, inside, rfl⟩
    refine Or.inr ⟨read.1, read.2, (Dict.mem_entries_iff _ _ _).mp inside, ?_, ?_, unlisted, _,
      same.conflictsById ▸ grown⟩
    · exact (disputed?_projected _ observation label read).symm.trans disputed
    · rw [openConflict?_congr seen]
      exact found

/-- A disputed value that its open conflict does not list becomes a candidate of it. -/
theorem Taken.adds (taken : Taken rt base draws tenantId observation existing after state)
    (filed : Filed base) (fresh : FreshIds base tenantId draws 0 observation.payload.entries.length)
    {name : Text} {value : Json} {conflict : Conflict}
    (read : observation.payload.get? name = some value)
    (disputed : disputesReading (heldAttributes existing) observation (name, value) = true)
    (found : base.openConflict? tenantId observation.objectType observation.objectId name = some conflict)
    (unlisted : conflict.lists (projectedAttribute observation "" name value) = false) :
    Exists fun incoming : StateAttribute =>
      after.conflictsById.get? conflict.storedId = some (conflict.extended incoming) := by
  rcases taken.conflicts with ⟨label, same⟩
  have seen : SameConflicts base (base.seen tenantId observation) := ⟨rfl, rfl⟩
  obtain ⟨filed', _, files, _⟩ := recordConflicts_files observation.objectType observation.objectId
    (heldAttributes existing) (projectedReading observation label).entries (filed.congr seen)
    (by rw [projectedReading_length]; exact ⟨fresh.new, fresh.distinct⟩)
    (projectedReading observation label).distinct
  have entry := files (name, projectedAttribute observation label name value)
    (List.mem_map_of_mem ((Dict.mem_entries_iff _ name value).mpr read))
  rw [← disputed?_projected _ observation label] at disputed
  rw [← openConflict?_congr seen, found] at entry
  generalize after' : WorldStateService.openConflict? _ _ _ _ _ = now at entry
  cases entry with
  | undisputed quiet =>
      rw [quiet] at disputed
      cases disputed
  | listed _ _ _ stored listed =>
      cases stored
      cases unlisted.symm.trans listed
  | extended _ _ _ stored =>
      cases stored
      exact ⟨_, same.conflictsById ▸ (filed'.openConflict after').2.1⟩
  | opened _ _ _ absent => cases absent

theorem Taken.contains (taken : Taken rt base draws tenantId observation existing after state) :
    after.observations.contains (tenantId, observation.observationId) = true := by
  rw [taken.records.1, Dict.contains, Dict.get?_set_self]
  rfl

/-- The retry answers what the service holds after the old projection is hydrated again, and
persists that. -/
theorem rerun_repeats (new : ¬ store.tables.Logged (tenantId, observation.observationId))
    (loaded : store.tables.loadState rt tenantId (entityIdOf observation) = .ok existing)
    (listed : store.tables.listConflicts rt tenantId = .ok conflicts)
    (taken : Taken rt base draws tenantId observation existing after state) {later : Store}
    {answer : OrderState}
    (retried : Served rt ⟨after, store.tables⟩ again tenantId observation later answer) :
    let rehydrated := Store.hydrated ⟨after, store.tables⟩ tenantId existing conflicts
    Exists fun commit : CommitRecord =>
      later.tables = store.tables.compiled rt tenantId observation rehydrated answer commit ∧
      rehydrated.states.get? (tenantId, observation.objectType, observation.objectId) = some answer ∧
      rehydrated.commits.get? (tenantId, answer.commitId) = some commit := by
  cases retried with
  | repeated _ _ _ known => exact absurd known new
  | compiled existing' conflicts' after' _ commit _ loaded' listed' ingested stored =>
      cases loaded.symm.trans loaded'
      cases listed.symm.trans listed'
      have known : (Store.hydrated ⟨after, store.tables⟩ tenantId existing
          conflicts).observations.contains (tenantId, observation.observationId) = true := by
        rw [hydrated_observations]
        exact taken.contains
      have way := ingest_ingestion rt (Store.hydrated ⟨after, store.tables⟩ tenantId existing conflicts)
        again tenantId observation "observation" "observed"
      rw [ingested] at way
      generalize held : Dict.get? _ (tenantId, observation.objectType, observation.objectId) = previous
        at way
      cases way with
      | repeated _ found =>
          subst found
          exact ⟨commit, rfl, held, stored⟩
      | unchanged _ _ _ new' => cases known.symm.trans new'
      | committed _ _ new' => cases known.symm.trans new'

/-- Where every listed conflict is held as it is listed, hydrating again changes none. -/
theorem rehydrated_conflicts (tables : Tables) (existing : Option OrderState)
    (kept : forall conflict, conflict ∈ conflicts ->
      after.conflictsById.get? conflict.storedId = some conflict) :
    (Store.hydrated ⟨after, tables⟩ tenantId existing conflicts).conflictsById = after.conflictsById := by
  rw [Store.hydrated, hydrateAll_conflictsById,
    ← (hydrateFrom_sameConflicts after tables tenantId existing).conflictsById]
  exact Dict.foldl_set_held kept

theorem compiled_congr {service other : WorldStateService} (same : service.conflictsById = other.conflictsById)
    (tables : Tables) (state : OrderState) (commit : CommitRecord) :
    tables.compiled rt tenantId observation service state commit =
      tables.compiled rt tenantId observation other state commit := by
  unfold Tables.compiled Tables.persistConflicts
  rw [same]

/-- Without a projection, the retry persists what the failed request had made. -/
theorem rerun_first (consistent : Consistent rt store)
    (fresh : FreshRequest store draws tenantId observation)
    (new : ¬ store.tables.Logged (tenantId, observation.observationId))
    (loaded : store.tables.loadState rt tenantId (entityIdOf observation) = .ok none)
    (listed : store.tables.listConflicts rt tenantId = .ok conflicts)
    (taken : Taken rt (store.hydrated tenantId none conflicts) draws tenantId observation none after state)
    (stored : after.commits.get? (tenantId, state.commitId) = some commit) {later : Store}
    {answer : OrderState}
    (retried : Served rt ⟨after, store.tables⟩ again tenantId observation later answer) :
    later.tables = store.tables.compiled rt tenantId observation after state commit := by
  rcases rerun_repeats new loaded listed taken retried with ⟨commit', rows, held, stored'⟩
  have same := hydrateConflicts_same conflicts after
  have answered : after.states.get? (tenantId, observation.objectType, observation.objectId) =
      some state := by
    cases taken with
    | committed label _ commit => exact Dict.get?_set_self _ _ _
  have kept : forall conflict, conflict ∈ conflicts ->
      after.conflictsById.get? conflict.storedId = some conflict := by
    intro conflict member
    rcases taken.touches (consistent.hydrated_filed listed) (fresh.hydrated consistent listed)
      ((consistent.listed listed).held member) with kept | ⟨name, value, _, disputed, _⟩
    · exact kept
    · cases disputed
  have states : (Store.hydrated ⟨after, store.tables⟩ tenantId none conflicts).states = after.states :=
    same.states
  have commits : (Store.hydrated ⟨after, store.tables⟩ tenantId none conflicts).commits = after.commits :=
    same.commits
  rw [states, answered] at held
  cases held
  rw [commits, stored] at stored'
  cases stored'
  rw [rows, compiled_congr (rehydrated_conflicts store.tables none kept)]

/-! ## The retry over a projection -/

/-- Hydrating a projection again finds the same commits. -/
theorem rehydrated_commits {held : OrderState}
    (same : after.commits = (store.hydrated tenantId (some held) conflicts).commits)
    (key : Text × Text) :
    (Store.hydrated ⟨after, store.tables⟩ tenantId (some held) conflicts).commits.get? key =
      after.commits.get? key := by
  have before : (store.hydrated tenantId (some held) conflicts).commits =
      (store.service.hydrateFrom store.tables tenantId (some held)).commits :=
    (hydrateConflicts_same conflicts _).commits
  rw [Store.hydrated, (hydrateConflicts_same conflicts _).commits]
  rw [before] at same
  unfold hydrateFrom at same ⊢
  rw [hydrate_commits] at same ⊢
  cases named : truthy? (some held.commitId) with
  | none => rfl
  | some commitId =>
      rw [named] at same
      cases hashed : truthy? (((some commitId).bind (store.tables.loadCommit tenantId)).map
          CommitRecord.hash) with
      | none => rfl
      | some hash =>
          rw [hashed] at same
          dsimp only at same ⊢
          rw [Dict.get?_set]
          split
          · rename_i here
            rw [same, here, Dict.get?_set_self]
          · rfl

/-- What is needed of a failed request over a projection, and of its retry. The retry draws
anew, so its identifiers differ from those of the failed attempt. -/
structure Rerun (rt : Runtime) (store : Store) (draws again : Draws) (tenantId : Text)
    (observation : Observation) (held : OrderState) (conflicts : List Conflict)
    (after : WorldStateService) (state : OrderState) (commit : CommitRecord) (later : Store)
    (answer : OrderState) : Prop where
  consistent : Consistent rt store
  fresh : FreshRequest store draws tenantId observation
  new : ¬ store.tables.Logged (tenantId, observation.observationId)
  loaded : store.tables.loadState rt tenantId (entityIdOf observation) = .ok (some held)
  listed : store.tables.listConflicts rt tenantId = .ok conflicts
  taken : Taken rt (store.hydrated tenantId (some held) conflicts) draws tenantId observation (some held)
    after state
  stored : after.commits.get? (tenantId, state.commitId) = some commit
  retried : Served rt ⟨after, store.tables⟩ again tenantId observation later answer

variable {held : OrderState} {later : Store} {answer : OrderState}

/-- The retry persists the old projection, with what the service says about its commit. -/
theorem Rerun.repeats (rerun : Rerun rt store draws again tenantId observation held conflicts after state
    commit later answer) :
    let rehydrated := Store.hydrated ⟨after, store.tables⟩ tenantId (some held) conflicts
    Exists fun commit : CommitRecord =>
      later.tables = store.tables.compiled rt tenantId observation rehydrated held commit ∧
      rehydrated.commits.get? (tenantId, held.commitId) = some commit := by
  rcases rerun_repeats rerun.new rerun.loaded rerun.listed
    rerun.taken rerun.retried with ⟨commit', rows, answered, stored'⟩
  have state := @hydrated_state rt ⟨after, store.tables⟩ tenantId observation conflicts held
    (rerun.consistent.typed observation tenantId) rerun.loaded
  cases state.symm.trans answered
  exact ⟨commit', rows, stored'⟩

/-- A reading that changes nothing leaves the state and the commits alone. -/
theorem Rerun.unchanged (rerun : Rerun rt store draws again tenantId observation held conflicts after
    state commit later answer) (quiet : NothingNew held.attributes observation) :
    state = held ∧ after.commits = (store.hydrated tenantId (some held) conflicts).commits := by
  have distinct := rerun.consistent.distinct _ _ held rerun.loaded
  have taken := rerun.taken
  cases taken with
  | unchanged label state =>
      exact ⟨rfl, (merged_same (store.hydrated tenantId (some state) conflicts) draws tenantId observation
        (some state) (projectedReading observation label)).commits⟩
  | committed label _ made changes =>
      have same := (ingestChanges_nil_iff rt (some held) distinct label).mpr quiet
      exact (changes.elim nofun (fun changed => changed same)).elim

/-- The retry leaves the version as it was. -/
theorem Rerun.version (rerun : Rerun rt store draws again tenantId observation held conflicts after state
    commit later answer) :
    (later.tables.projections.get? (tenantId, entityIdOf observation)).map StateProjection.stateVersion =
      some held.stateVersion := by
  rcases rerun.repeats with ⟨commit', rows, _⟩
  rcases loadState_some rerun.loaded with ⟨row, found, tenant, entity, _, version⟩
  rw [rows, compiled_projections]
  unfold Tables.persist
  split
  · rw [(logObservation_frame _ _).2, found, Option.map_some, version]
  · dsimp only
    rw [tenant, entity, Dict.get?_set_self]
    rfl

/-- A reading that changed something advances the version of its entity. -/
theorem Taken.version {base : WorldStateService}
    (taken : Taken rt base draws tenantId observation (some held) after state)
    (fresh : FreshRequest store draws tenantId observation) (distinct : KeyedAttributes held.attributes)
    (stored : after.commits.get? (tenantId, state.commitId) = some commit)
    (changing : ¬ NothingNew held.attributes observation) :
    ((store.tables.compiled rt tenantId observation after state commit).projections.get?
      (tenantId, entityIdOf observation)).map StateProjection.stateVersion =
        some (held.stateVersion + 1) := by
  cases taken with
  | unchanged label state same =>
      exact absurd ((ingestChanges_nil_iff rt (some state) distinct label).mp same) changing
  | committed label _ made _ answers =>
      cases committed_found answers stored
      have log := (logObservation_frame store.tables (tenantId, observation.observationId)).1
      rw [compiled_projections, persist_unused _ (answers.commitId ▸ log ▸ fresh.commit)]
      change (Dict.get? (Dict.set _ (tenantId, entityIdOf observation) _) _).map _ = _
      rw [Dict.get?_set_self]
      rfl

/-- Where the reading changes something, the retry loses the change. The process knows the
observation, and answers it from the projection it has just hydrated. -/
theorem Rerun.loses_change (rerun : Rerun rt store draws again tenantId observation held conflicts after
    state commit later answer) (changing : ¬ NothingNew held.attributes observation) :
    ¬ SameRows later.tables (store.tables.compiled rt tenantId observation after state commit) := by
  intro same
  have projected := congrArg (Option.map Prod.fst) (same.projections (tenantId, entityIdOf observation))
  rw [Option.map_map, Option.map_map] at projected
  have versions : some held.stateVersion = some (held.stateVersion + 1) :=
    rerun.version.symm.trans (projected.trans (rerun.taken.version rerun.fresh
      (rerun.consistent.distinct _ _ held rerun.loaded) rerun.stored changing))
  have advanced := Option.some.inj versions
  omega

/-- Where the reading changes nothing, and each listed conflict stays as it was listed, the retry
persists what the failed request would have. -/
theorem Rerun.keeps (rerun : Rerun rt store draws again tenantId observation held conflicts after state
    commit later answer) (quiet : NothingNew held.attributes observation)
    (kept : forall conflict, conflict ∈ conflicts ->
      after.conflictsById.get? conflict.storedId = some conflict) :
    later.tables = store.tables.compiled rt tenantId observation after state commit := by
  rcases rerun.repeats with ⟨commit', rows, stored'⟩
  rcases rerun.unchanged quiet with ⟨answered, commits⟩
  rw [rehydrated_commits commits, ← answered, rerun.stored] at stored'
  cases stored'
  rw [rows, compiled_congr (rehydrated_conflicts store.tables (some held) kept), answered]

/-- What the failed request did to a listed conflict. -/
theorem Rerun.touches (rerun : Rerun rt store draws again tenantId observation held conflicts after state
    commit later answer) {conflict : Conflict} (member : conflict ∈ conflicts) :
    after.conflictsById.get? conflict.storedId = some conflict ∨
      ExtendsRow (store.hydrated tenantId (some held) conflicts) store.tables tenantId observation
          held.attributes ∧
        Exists fun incoming : StateAttribute =>
          after.conflictsById.get? conflict.storedId = some (conflict.extended incoming) := by
  have listed := rerun.consistent.listed rerun.listed
  rcases rerun.taken.touches (rerun.consistent.hydrated_filed rerun.listed)
    (rerun.fresh.hydrated rerun.consistent rerun.listed) (listed.held member) with
    kept | ⟨name, value, read, disputed, found, unlisted, incoming, grown⟩
  · exact Or.inl kept
  · rcases listed.rows conflict member with ⟨row, stored, _⟩
    refine Or.inr ⟨⟨name, value, conflict, read, disputed, found, ?_, unlisted⟩, incoming, grown⟩
    rw [stored]
    rfl

/-! ## The rows of conflicts that are put back -/

/-- The second row shows the same conflict, with at least as many candidates. A failed
request may leave candidates in the process that the retry then writes. -/
structure GrownRow (id : Text × Text) (row : ConflictRow) (id' : Text × Text) (row' : ConflictRow) :
    Prop where
  key : id = id'
  named : row.conflict.storedId = id
  named' : row'.conflict.storedId = id'
  status : row.conflict.status = row'.conflict.status
  candidates : row.candidates.length ≤ row'.candidates.length

theorem GrownRow.refl {id : Text × Text} {row : ConflictRow} (named : row.conflict.storedId = id) :
    GrownRow id row id row :=
  ⟨rfl, named, named, rfl, le_rfl⟩

/-- Persisting one conflict more often listed than another. -/
theorem persistConflicts_grown {service other : WorldStateService} {tables tables' : Tables}
    (stored : Dict.Matches (fun id conflict id' conflict' =>
      GrownRow id (conflictRow rt conflict) id' (conflictRow rt conflict')) service.conflictsById
        other.conflictsById)
    (matched : Dict.Matches GrownRow tables.conflicts tables'.conflicts) :
    Dict.Matches GrownRow (tables.persistConflicts rt service tenantId).conflicts
      (tables'.persistConflicts rt other tenantId).conflicts := by
  unfold Tables.persistConflicts
  rw [persistAll_conflicts, persistAll_conflicts]
  apply matched.foldl_set (fun _ _ _ _ related => related.key) (biunique_eq _)
  have values : List.Forall₂ (fun conflict conflict' : Conflict => Exists fun id => Exists fun id' =>
      GrownRow id (conflictRow rt conflict) id' (conflictRow rt conflict'))
      service.conflictsById.values other.conflictsById.values := stored.values
  have selected := List.rel_filter (p := fun conflict : Conflict => decide (conflict.tenantId = tenantId))
    (q := fun conflict : Conflict => decide (conflict.tenantId = tenantId))
    (by
      rintro conflict conflict' ⟨id, id', grown⟩
      have tenant : conflict.tenantId = conflict'.tenantId :=
        congrArg Prod.fst (grown.named.trans (grown.key.trans grown.named'.symm))
      dsimp only
      rw [tenant]) values
  refine selected.imp (fun conflict conflict' related => ?_)
  rcases related with ⟨id, id', grown⟩
  exact ⟨grown.named.trans (grown.key.trans grown.named'.symm), rfl, rfl, grown.status, grown.candidates⟩

/-- Among rows that show the same open conflicts, none has grown. -/
theorem grown_same {tables tables' : Tables} (matched : Dict.Matches GrownRow tables.conflicts tables'.conflicts)
    (same : tables.openAccounts.Perm tables'.openAccounts) (keyed : Keyed tables) {id : Text × Text}
    {row' : ConflictRow} (found : tables'.conflicts.get? id = some row')
    (named : row'.conflict.storedId = id) (waits : row'.isOpen = true) :
    Exists fun row : ConflictRow => tables.conflicts.get? id = some row ∧
      row.candidates.length = row'.candidates.length := by
  have values : List.Forall₂ (fun row row' : ConflictRow =>
      Exists fun id => Exists fun id' => GrownRow id row id' row')
      tables.conflicts.values tables'.conflicts.values := matched.values
  have selected := List.rel_filter (p := ConflictRow.isOpen) (q := ConflictRow.isOpen)
    (by
      rintro row row' ⟨_, _, grown⟩
      unfold ConflictRow.isOpen
      dsimp only
      rw [grown.status]) values
  have sum : ((tables.conflicts.values.filter ConflictRow.isOpen).map (fun row =>
      row.candidates.length)).sum = ((tables'.conflicts.values.filter ConflictRow.isOpen).map (fun row =>
        row.candidates.length)).sum := by
    have sizes := (same.map (fun account => account.2.length)).sum_eq
    unfold Tables.openAccounts at sizes
    rw [List.map_map, List.map_map] at sizes
    exact sizes
  have equal := sizes_eq_of_sum_eq (selected.imp (fun row row' related => ⟨related, by
    rcases related with ⟨_, _, grown⟩
    exact grown.candidates⟩)) sum
  have member : row' ∈ tables'.conflicts.values.filter ConflictRow.isOpen :=
    List.mem_filter.mpr ⟨(Dict.mem_values_iff _ _).mpr ⟨id, found⟩, waits⟩
  rcases exists_left_of_forall₂ equal member with ⟨row, inside, ⟨_, _, grown⟩, size⟩
  rcases (Dict.mem_values_iff _ _).mp (List.mem_filter.mp inside).1 with ⟨key, stored⟩
  have here : key = id := (keyed key row stored).symm.trans
    (grown.named.trans (grown.key.trans (grown.named'.symm.trans named)))
  exact ⟨row, here ▸ stored, size⟩

theorem Rerun.filed (rerun : Rerun rt store draws again tenantId observation held conflicts after state
    commit later answer) :
    Filed after ∧ Filed (Store.hydrated ⟨after, store.tables⟩ tenantId (some held) conflicts) := by
  have fresh := @FreshRequest.hydrated rt store draws tenantId observation (some held) conflicts
    rerun.fresh rerun.consistent rerun.listed
  rcases rerun.taken.filed (rerun.consistent.hydrated_filed rerun.listed) fresh with ⟨filed, grows⟩
  rcases @Consistent.hydrated_known rt store tenantId (some held) conflicts
    rerun.consistent rerun.listed with ⟨registry, registered, rows⟩
  have agree := following_agrees registered grows
  have same := hydrateFrom_sameConflicts after store.tables tenantId (some held)
  exact ⟨filed, (hydrateAll_filed (filed.congr same) ((following_registered registry after).congr same)
    ((rerun.consistent.listed rerun.listed).known (rows.agree agree rerun.fresh.rows))).1⟩

/-- Hydrating again puts conflicts back that the failed request has added candidates to. -/
theorem Rerun.put_back (rerun : Rerun rt store draws again tenantId observation held conflicts after
    state commit later answer) :
    Dict.Matches (fun id conflict id' conflict' =>
        GrownRow id (conflictRow rt conflict) id' (conflictRow rt conflict'))
      (Store.hydrated ⟨after, store.tables⟩ tenantId (some held) conflicts).conflictsById
      after.conflictsById := by
  rcases rerun.filed with ⟨filed, filed'⟩
  have listed := rerun.consistent.listed rerun.listed
  have rehydrated : (Store.hydrated ⟨after, store.tables⟩ tenantId (some held) conflicts).conflictsById =
      conflicts.foldl (fun stored conflict => stored.set conflict.storedId conflict)
        after.conflictsById := by
    rw [Store.hydrated, hydrateAll_conflictsById,
      ← (hydrateFrom_sameConflicts after store.tables tenantId (some held)).conflictsById]
  apply Dict.matches_of_keys
  · rw [rehydrated]
    refine Dict.keys_foldl_set (fun conflict member => ?_)
    rcases rerun.touches member with kept | ⟨_, _, grown⟩
    · rw [kept]
      exact Option.some_ne_none _
    · rw [grown]
      exact Option.some_ne_none _
  · intro id conflict conflict' found found'
    have named := filed'.named id conflict found
    have named' := filed.named id conflict' found'
    rw [rehydrated] at found
    rcases Dict.get?_foldl_set Conflict.storedId (fun conflict => conflict) conflicts
      listed.distinct after.conflictsById with ⟨inside, outside⟩
    by_cases here : id ∈ conflicts.map Conflict.storedId
    · rcases List.mem_map.mp here with ⟨other, member, rfl⟩
      cases (inside other member).symm.trans found
      rcases rerun.touches member with kept | ⟨_, incoming, grown⟩
      · cases kept.symm.trans found'
        exact .refl rfl
      · cases grown.symm.trans found'
        refine ⟨rfl, rfl, rfl, rfl, ?_⟩
        unfold conflictRow Conflict.extended
        dsimp only
        rw [List.length_map, List.length_map, List.length_append]
        exact Nat.le_add_right _ _
    · rw [outside id here] at found
      cases found.symm.trans found'
      exact .refl named

/-- Where the reading adds a candidate to a conflict with a row, the retry loses it.
Hydrating puts the old row's conflict back. -/
theorem Rerun.loses_candidate (rerun : Rerun rt store draws again tenantId observation held conflicts
    after state commit later answer)
    (adds : ExtendsRow (store.hydrated tenantId (some held) conflicts) store.tables tenantId observation
      held.attributes) :
    ¬ SameRows later.tables (store.tables.compiled rt tenantId observation after state commit) := by
  intro same
  rcases adds with ⟨name, value, conflict, read, disputed, found, present, unlisted⟩
  rcases Option.isSome_iff_exists.mp present with ⟨row, stored⟩
  have listed := rerun.consistent.listed rerun.listed
  have base := @Consistent.hydrated_filed rt store tenantId (some held) conflicts rerun.consistent
    rerun.listed
  rcases base.openConflict found with ⟨_, here, about, waits⟩
  have owner : conflict.tenantId = tenantId := congrArg Prod.fst about
  have keyed := rerun.consistent.keyed
  -- The conflict is the one that its row was read as.
  have member : conflict ∈ conflicts := by
    have tenant := (congrArg Prod.fst (keyed _ row stored)).trans owner
    rcases listed.all _ row stored tenant with ⟨other, member, readRow⟩
    have id := (toConflict_ok readRow).1.trans (keyed _ row stored)
    have held := @Listed.held rt store tenantId (some held) conflicts listed other member
    rw [id, here] at held
    cases held
    exact member
  rcases rerun.taken.adds base
    (rerun.fresh.hydrated rerun.consistent rerun.listed) read disputed found unlisted with
      ⟨incoming, grown⟩
  rcases rerun.repeats with ⟨commit', rows, _⟩
  rcases rerun.filed with ⟨filed, filed'⟩
  have before : forall state commit, ((store.tables.logObservation (tenantId,
      observation.observationId)).persist rt state commit).conflicts = store.tables.conflicts :=
    fun state commit => (persist_conflicts _ _ _).trans (logObservation_conflicts _ _)
  have matched : Dict.Matches GrownRow later.tables.conflicts
      (store.tables.compiled rt tenantId observation after state commit).conflicts := by
    rw [rows]
    apply persistConflicts_grown rerun.put_back
    rw [before, before]
    refine Dict.matches_of_keys rfl (fun id row row' found found' => ?_)
    cases found.symm.trans found'
    exact .refl (keyed id row found)
  have keyed' : Keyed later.tables := by
    rw [rows]
    exact persistConflicts_keyed filed' (keyed.congr (before held commit'))
  have written : (store.tables.compiled rt tenantId observation after state commit).conflicts.get?
      conflict.storedId = some (conflictRow rt (conflict.extended incoming)) := by
    unfold Tables.compiled
    rw [persistConflicts_get? filed, grown]
    exact if_pos owner
  have back : later.tables.conflicts.get? conflict.storedId = some (conflictRow rt conflict) := by
    rw [rows]
    unfold Tables.compiled
    rw [persistConflicts_get? filed', @Listed.held rt ⟨after, store.tables⟩ tenantId (some held) conflicts
      listed conflict member]
    exact if_pos owner
  rcases grown_same matched same.conflicts keyed' written rfl
    (decide_eq_true waits) with ⟨row', found', size⟩
  cases back.symm.trans found'
  unfold conflictRow Conflict.extended at size
  dsimp only at size
  rw [List.length_map, List.length_map, List.length_append] at size
  exact absurd size (by simp)

/-- Over a projection, the retry leaves the rows of the failed request exactly when the reading
changes nothing and adds no candidate to a conflict with a row. -/
theorem Rerun.same_iff (rerun : Rerun rt store draws again tenantId observation held conflicts after
    state commit later answer) :
    SameRows later.tables (store.tables.compiled rt tenantId observation after state commit) <->
      NothingNew held.attributes observation ∧
        ¬ ExtendsRow (store.hydrated tenantId (some held) conflicts) store.tables tenantId observation
          held.attributes := by
  constructor
  · intro same
    refine ⟨?_, fun adds => rerun.loses_candidate adds same⟩
    by_contra changing
    exact rerun.loses_change changing same
  · rintro ⟨quiet, spares⟩
    rw [rerun.keeps quiet (fun conflict member => ?_)]
    · exact .refl _
    · rcases rerun.touches member with kept | ⟨adds, _⟩
      · exact kept
      · exact absurd adds spares

/-- After a later failure, the retry leaves the rows of the failed request exactly when it is
safe. Before `ingest` nothing is lost, as the process has not changed yet. -/
theorem later_same_iff (consistent : Consistent rt store)
    (fresh : FreshRequest store draws tenantId observation) {failed later : Store}
    {state answer : OrderState}
    (reached : Served rt store draws tenantId observation failed state)
    (retried : Served rt ⟨failed.service, store.tables⟩ again tenantId observation later answer) :
    SameRows later.tables failed.tables <-> RetrySafe rt store tenantId observation := by
  cases reached with
  | repeated _ _ _ known _ same =>
      refine iff_of_true ?_ (Or.inl known)
      cases retried with
      | repeated _ _ _ _ _ same' =>
          rw [same, same']
          exact .refl _
      | compiled _ _ _ _ _ new => exact absurd known new
  | compiled existing conflicts after state commit new loaded listed ingested stored =>
      have taken := ingest_taken (consistent.unseen new) ingested
      rw [consistent.held loaded] at taken
      cases existing with
      | none =>
          refine iff_of_true ?_ (Or.inr (Or.inl (loadState_none.mp loaded)))
          rw [rerun_first consistent fresh new loaded listed taken stored retried]
          exact .refl _
      | some held =>
          have rerun : Rerun rt store draws again tenantId observation held conflicts after state commit
              later answer := ⟨consistent, fresh, new, loaded, listed, taken, stored, retried⟩
          rw [rerun.same_iff]
          constructor
          · intro quiet
            refine Or.inr (Or.inr (fun state others loaded' listed' => ?_))
            cases loaded.symm.trans loaded'
            cases listed.symm.trans listed'
            exact quiet
          · rintro (known | absent | quiet)
            · exact absurd known new
            · cases loaded.symm.trans (loadState_none.mpr absent)
            · exact quiet held conflicts loaded listed

end Rerun

/-! ## Retried requests -/

/-- A request that fails, is rolled back and is retried leaves the rows of one request that succeeds,
exactly when the failure was at the flush of the observation's row or the retry is safe. -/
theorem retry_effective_iff {rt : Runtime} {store single retried : Store} {once first again : Draws}
    {tenantId : Text} {observation : Observation} {state state' : OrderState}
    (consistent : Consistent rt store) (freshOnce : FreshRequest store once tenantId observation)
    (freshFirst : FreshRequest store first tenantId observation)
    (freshAgain : FreshRequest store again tenantId observation) (failure : FailurePoint)
    (succeeds : ingestObservation rt store once tenantId observation = .returns single state)
    (reached : failure = .later -> Exists fun failed : Store => Exists fun state : OrderState =>
      ingestObservation rt store first tenantId observation = .returns failed state)
    (succeeded : ingestObservation rt (failedRequest rt store first tenantId observation failure) again
      tenantId observation = .returns retried state') :
    SameRows retried.tables single.tables <->
      failure = .observation ∨ RetrySafe rt store tenantId observation := by
  have served := served_of_returns succeeds
  cases failure with
  | observation =>
      exact iff_of_true (served_same consistent freshAgain freshOnce (served_of_returns succeeded) served)
        (Or.inl rfl)
  | later =>
      rcases reached rfl with ⟨failed, answer, returned⟩
      have first' := served_of_returns returned
      have same := served_same consistent freshFirst freshOnce first' served
      rw [failedRequest, returned] at succeeded
      have safe := later_same_iff consistent freshFirst first' (served_of_returns succeeded)
      constructor
      · exact fun equal => Or.inr (safe.mp (equal.trans same.symm))
      · rintro (early | quiet)
        · cases early
        · exact (safe.mpr quiet).trans same

/-! ## An order that is cancelled -/

/-- What the retry of a request leaves. The request failed once before, at the given point. -/
def retriedAfter (store : Store) (observation : Observation) (failure : FailurePoint) : Store :=
  (ingestObservation .plain (failedRequest .plain store (.numbered 20) "demo" observation failure)
    (.numbered 30) "demo" observation).state

/-- What one request leaves that succeeds at once. -/
def servedAfter (store : Store) (observation : Observation) : Store :=
  (ingestObservation .plain store (.numbered 10) "demo" observation).state

/-- The one request, the failed one up to its failure and the retry succeed, all with fresh
draws. Nothing else happens between them. -/
def Attempted (store : Store) (observation : Observation) : Prop :=
  (FreshRequest store (.numbered 10) "demo" observation ∧
    FreshRequest store (.numbered 20) "demo" observation ∧
    FreshRequest store (.numbered 30) "demo" observation) ∧
  (ingestObservation .plain store (.numbered 10) "demo" observation).result.toBool = true ∧
  (ingestObservation .plain store (.numbered 20) "demo" observation).result.toBool = true ∧
  (ingestObservation .plain (failedRequest .plain store (.numbered 20) "demo" observation .later)
    (.numbered 30) "demo" observation).result.toBool = true

instance (store : Store) (observation : Observation) : Decidable (Attempted store observation) :=
  inferInstanceAs (Decidable ((_ ∧ _ ∧ _) ∧ _ ∧ _ ∧ _))

/-- The first reading of an order is retried without a loss. -/
theorem retry_effective_sample :
    SameRows (retriedAfter .fresh openReading .later).tables (servedAfter .fresh openReading).tables := by
  have attempted : Attempted .fresh openReading := by decide +kernel
  rcases attempted with ⟨⟨freshOnce, freshFirst, freshAgain⟩, succeeds, reached, succeeded⟩
  rcases returns_of_toBool succeeds with ⟨_, returned⟩
  rcases returns_of_toBool reached with ⟨answer, failed⟩
  rcases returns_of_toBool succeeded with ⟨_, retried⟩
  have effective := retry_effective_iff (.fresh .plain) freshOnce freshFirst freshAgain .later returned
    (fun _ => ⟨_, answer, failed⟩) retried
  unfold retriedAfter servedAfter
  exact effective.mpr (Or.inr (Or.inr (Or.inl (Dict.get?_empty _))))

/-- The order was read once, as open. -/
def observedRequests : List Request := [.observe (.numbered 1) openReading]

/-- It is read again as cancelled, and the commit of that request fails.  The retry answers the open
order, while one request would have cancelled it. -/
theorem retry_loses_cancellation :
    Exists fun store : Store => Consistent .plain store ∧ Attempted store cancelledReading ∧
      (retriedAfter store cancelledReading .later).tables.commitLog.length = 1 ∧
      (servedAfter store cancelledReading).tables.commitLog.length = 2 ∧
      ¬ SameRows (retriedAfter store cancelledReading .later).tables
        (servedAfter store cancelledReading).tables := by
  have facts : (consistentSystem .plain "demo").AdmitsAll .fresh observedRequests ∧
      Attempted ((consistentSystem .plain "demo").trace .fresh observedRequests).2 cancelledReading ∧
      (retriedAfter ((consistentSystem .plain "demo").trace .fresh observedRequests).2 cancelledReading
        .later).tables.commitLog.length = 1 ∧
      (servedAfter ((consistentSystem .plain "demo").trace .fresh observedRequests).2
        cancelledReading).tables.commitLog.length = 2 := by
    decide +kernel
  rcases facts with ⟨admitted, attempted, one, two⟩
  refine ⟨_, .of_run (System.run_trace observedRequests rfl admitted), attempted, one, two, ?_⟩
  intro same
  have lengths := congrArg List.length same.commits
  rw [List.length_map, List.length_map, one, two] at lengths
  cases lengths

end WorldState
end RealityLayer
