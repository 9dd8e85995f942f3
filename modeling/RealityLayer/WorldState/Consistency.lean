import RealityLayer.WorldState.ConflictIndex
import RealityLayer.WorldState.Loading

namespace RealityLayer
namespace WorldState

open Foundation Python RealityGit WorldStateService

/-!
# Consistent stores stay consistent

A process starts with an empty service next to whatever the tables hold, and each request
that succeeds keeps the two consistent.  What a projection loads is what was dumped into it,
so the values of a loaded state have distinct keys as soon as the readings have.
-/

/-! ## Loading a projection -/

section Loading

variable {rt : Runtime} {tables : Tables} {tenantId entityId : Text} {state : OrderState}

/-- A state that was dumped into a row loads with its values. -/
theorem keyed_of_dump {attributes : Dict Text StateAttribute} (distinct : KeyedAttributes attributes)
    (loaded : tables.loadState rt tenantId entityId = .ok (some state))
    {row : StateProjection} (found : tables.projections.get? (tenantId, entityId) = some row)
    (dumped : row.attributes = dumpAttributes rt attributes) : KeyedAttributes state.attributes := by
  rcases loadState_attributes loaded with ⟨row', found', read⟩
  cases found.symm.trans found'
  intro name attr stored
  rcases read name attr stored with ⟨data, entry, validated⟩
  rw [dumped, dumpAttributes, Dict.get?_mapValues] at entry
  rcases Option.map_eq_some_iff.mp entry with ⟨original, held, rfl⟩
  rw [modelValidate_dump_value validated, keyed_jsonMode]
  exact distinct name original held

end Loading

/-! ## A request that succeeds -/

/-- An object's identifier tells its type and its own identifier. -/
theorem entityIdOf_inj {first second : Observation} (same : entityIdOf first = entityIdOf second) :
    first.objectType = second.objectType ∧ first.objectId = second.objectId := by
  have ids : first.objectId = second.objectId :=
    (hydrated_key first).2.symm.trans ((congrArg Text.afterColon same).trans (hydrated_key second).2)
  refine ⟨?_, ids⟩
  unfold entityIdOf at same
  rw [ids] at same
  exact Text.append_left_injective _ (Text.append_left_injective _ same)

section Keeping

variable {rt : Runtime} {store : Store} {draws : Draws} {tenantId : Text} {observation : Observation}
variable {base after : WorldStateService} {existing : Option OrderState} {state : OrderState}
variable {conflicts : List Conflict}

/-- The answered state is the observed object's. Its type is capitalised by the projection,
so it is not the observation's own text. -/
structure AboutObject (tenantId : Text) (observation : Observation) (state : OrderState) : Prop where
  tenantId : state.tenantId = tenantId
  entityId : state.entityId = entityIdOf observation
  entityType : state.entityType = capitalize observation.objectType

theorem Consistent.about (consistent : Consistent rt store)
    (loaded : store.tables.loadState rt tenantId (entityIdOf observation) = .ok (some state)) :
    AboutObject tenantId observation state := by
  rcases loadState_some loaded with ⟨row, found, tenant, entity, type, _⟩
  exact ⟨tenant, entity, type.trans (consistent.typed observation tenantId row found)⟩

theorem Taken.about (taken : Taken rt base draws tenantId observation existing after state)
    (held : forall state, existing = some state -> AboutObject tenantId observation state) :
    AboutObject tenantId observation state := by
  cases taken with
  | unchanged label state => exact held state rfl
  | committed label _ commit => exact ⟨rfl, rfl, rfl⟩

theorem Taken.distinct (taken : Taken rt base draws tenantId observation existing after state)
    (held : KeyedAttributes (heldAttributes existing)) (payload : KeyedPayload observation) :
    KeyedAttributes state.attributes := by
  cases taken with
  | unchanged label state => exact held
  | committed label _ commit =>
      exact compiledAttributes_all held payload

/-- What a service has seen and holds after a reading was taken in. -/
theorem Taken.records (taken : Taken rt base draws tenantId observation existing after state) :
    after.observations = base.observations.set (tenantId, observation.observationId) observation ∧
      forall key other, after.states.get? key = some other ->
        base.states.get? key = some other ∨
          key = (tenantId, observation.objectType, observation.objectId) := by
  cases taken with
  | unchanged label state =>
      have same := merged_same base draws tenantId observation (some state)
        (projectedReading observation label)
      exact ⟨same.observations, fun key other stored => Or.inl (same.states ▸ stored)⟩
  | committed label _ commit =>
      have same := merged_same base draws tenantId observation existing
        (projectedReading observation label)
      refine ⟨same.observations, fun key other stored => ?_⟩
      change (Dict.set (WorldStateService.states (base.merged draws tenantId observation existing
        (projectedReading observation label))) _ _).get? key = some other at stored
      rw [Dict.get?_set, same.states] at stored
      split at stored
      · exact Or.inr ‹_›
      · exact Or.inl stored

/-- A reading that was taken in keeps the maps in step. -/
theorem Taken.filed (taken : Taken rt base draws tenantId observation existing after state)
    (filed : Filed base) (fresh : FreshIds base tenantId draws 0 observation.payload.entries.length) :
    Filed after ∧ Extends tenantId draws 0 observation.payload.entries.length base after := by
  rcases taken.conflicts with ⟨label, same⟩
  have seen : SameConflicts base (base.seen tenantId observation) := ⟨rfl, rfl⟩
  obtain ⟨filed', grows, _⟩ := recordConflicts_files observation.objectType observation.objectId
    (heldAttributes existing) (projectedReading observation label).entries (filed.congr seen)
    (by rw [projectedReading_length]; exact ⟨fresh.new, fresh.distinct⟩)
    (projectedReading observation label).distinct
  rw [projectedReading_length] at grows
  exact ⟨filed'.congr same, Extends.congr ⟨grows.kept, grows.added⟩ same⟩

/-! ### Hydrating -/

/-- Hydrating what a request has loaded keeps a store consistent. -/
theorem Consistent.hydrateFrom (consistent : Consistent rt store)
    (loaded : store.tables.loadState rt tenantId (entityIdOf observation) = .ok existing) :
    Consistent rt ⟨store.service.hydrateFrom store.tables tenantId existing, store.tables⟩ := by
  cases existing with
  | none => exact consistent
  | some held =>
      have same := hydrateFrom_sameConflicts store.service store.tables tenantId (some held)
      rcases consistent.registered with ⟨registry, registered, rows⟩
      rcases loadState_some loaded with ⟨row, found, _⟩
      refine ⟨?_, ?_, consistent.filed.congr same, consistent.keyed,
        ⟨registry, registered.congr same, rows⟩, consistent.typed, consistent.distinct⟩
      · intro id seen
        exact consistent.observed id ((hydrate_observations _ _ _ _ : _ = _) ▸ seen)
      · intro owner objectType objectId state stored
        have about := consistent.about loaded
        have key := hydrated_key observation
        dsimp only at stored
        rw [WorldStateService.hydrateFrom, hydrate_states, about.tenantId, about.entityType,
          about.entityId, key.1, key.2, Dict.get?_set] at stored
        split at stored
        · rename_i here
          cases here
          exact (congrArg Option.isSome found).trans rfl
        · exact consistent.projected owner objectType objectId state stored

/-- Hydrating the listed conflicts keeps a store consistent. -/
theorem Consistent.hydrateAll (consistent : Consistent rt store)
    (listed : store.tables.listConflicts rt tenantId = .ok conflicts) :
    Consistent rt ⟨conflicts.foldl WorldStateService.hydrateConflict store.service, store.tables⟩ := by
  have same := hydrateConflicts_same conflicts store.service
  rcases consistent.registered with ⟨registry, registered, rows⟩
  rcases hydrateAll_filed consistent.filed registered
    ((consistent.listed listed).known rows) with ⟨filed, known⟩
  refine ⟨?_, ?_, filed, consistent.keyed, ⟨registry, known, rows⟩, consistent.typed, consistent.distinct⟩
  · exact fun id seen => consistent.observed id (same.observations ▸ seen)
  · exact fun owner objectType objectId state stored =>
      consistent.projected owner objectType objectId state (same.states ▸ stored)

/-! ### Taking in a new observation -/

theorem compiled_projections (tables : Tables) (service : WorldStateService) (state : OrderState)
    (commit : CommitRecord) :
    (tables.compiled rt tenantId observation service state commit).projections =
      ((tables.logObservation (tenantId, observation.observationId)).persist rt state commit).projections :=
  (persistConflicts_frame rt _ _ _).2

theorem compiled_logged (tables : Tables) (service : WorldStateService) (state : OrderState)
    (commit : CommitRecord) {id : Text × Text}
    (inside : tables.Logged id ∨ id = (tenantId, observation.observationId)) :
    (tables.compiled rt tenantId observation service state commit).Logged id := by
  unfold Tables.Logged Tables.compiled
  rw [persistConflicts_log, persist_log]
  unfold Tables.logObservation
  split
  · exact inside.elim (fun old => old) (fun same => same ▸ ‹_›)
  · exact List.mem_append.mpr (inside.imp (fun old => old) (fun same => List.mem_singleton.mpr same))

/-- Persisting keeps the projections, or writes the one of the observed object. -/
theorem compiled_projection (tables : Tables) (service : WorldStateService)
    (about : AboutObject tenantId observation state) (commit : CommitRecord) :
    (tables.compiled rt tenantId observation service state commit).projections = tables.projections ∨
      (tables.compiled rt tenantId observation service state commit).projections =
        tables.projections.set (tenantId, entityIdOf observation) {
          entityType := state.entityType
          attributes := dumpAttributes rt state.attributes
          producingCommitId := some state.commitId
          stateVersion := state.stateVersion } := by
  rw [compiled_projections]
  unfold Tables.persist
  split
  · exact Or.inl (logObservation_frame _ _).2
  · refine Or.inr ?_
    dsimp only
    rw [about.tenantId, about.entityId, (logObservation_frame _ _).2]

theorem loadState_at {tables other : Tables} {tenantId entityId : Text}
    (same : other.projections.get? (tenantId, entityId) = tables.projections.get? (tenantId, entityId)) :
    other.loadState rt tenantId entityId = tables.loadState rt tenantId entityId := by
  unfold Tables.loadState
  rw [same]

/-- Where a reading was taken in, its object has a projection. -/
theorem Taken.placed (taken : Taken rt base draws tenantId observation existing after state)
    {tables : Tables} {commit : CommitRecord}
    (unused : newCommitId draws ∉ tables.commitLog.map CommitRecord.commitId)
    (loaded : tables.loadState rt tenantId (entityIdOf observation) = .ok existing)
    (stored : after.commits.get? (tenantId, state.commitId) = some commit) :
    ((tables.compiled rt tenantId observation after state commit).projections.get?
      (tenantId, entityIdOf observation)).isSome = true := by
  have frame := logObservation_frame tables (tenantId, observation.observationId)
  rw [compiled_projections]
  cases taken with
  | unchanged label held =>
      rcases loadState_some loaded with ⟨row, found, tenant, entity, _⟩
      unfold Tables.persist
      split
      · rw [frame.2, found]
        rfl
      · dsimp only
        rw [tenant, entity, Dict.get?_set_self]
        rfl
  | committed label _ made _ answers =>
      cases committed_found answers stored
      rw [persist_unused _ (answers.commitId ▸ frame.1 ▸ unused)]
      change ((Dict.set _ (tenantId, entityIdOf observation) _).get? _).isSome = true
      rw [Dict.get?_set_self]
      rfl

/-- Persisting loses no projection. -/
theorem compiled_kept (about : AboutObject tenantId observation state) (commit : CommitRecord)
    {id : Text × Text} (before : (store.tables.projections.get? id).isSome = true) :
    ((store.tables.compiled rt tenantId observation after state commit).projections.get? id).isSome =
      true := by
  rcases @compiled_projection rt tenantId observation state store.tables after about commit with
    same | set
  · rw [same]
    exact before
  · rw [set, Dict.get?_set]
    split
    · rfl
    · exact before

/-- The projection that is written has the type of the observed object. -/
theorem Consistent.compiled_typed (consistent : Consistent rt ⟨base, store.tables⟩)
    (about : AboutObject tenantId observation state) (commit : CommitRecord) {other : Observation}
    {owner : Text} {row : StateProjection}
    (found : (store.tables.compiled rt tenantId observation after state commit).projections.get?
      (owner, entityIdOf other) = some row) : row.entityType = capitalize other.objectType := by
  rcases @compiled_projection rt tenantId observation state store.tables after about commit with
    same | set
  · rw [same] at found
    exact consistent.typed other owner row found
  · rw [set, Dict.get?_set] at found
    split at found
    · rename_i here
      cases found
      rw [about.entityType, (entityIdOf_inj (congrArg Prod.snd here)).1]
    · exact consistent.typed other owner row found

/-- The projection that is written holds what was held, and what the payload brings. -/
theorem Consistent.compiled_distinct (consistent : Consistent rt ⟨base, store.tables⟩)
    (about : AboutObject tenantId observation state) (commit : CommitRecord)
    (distinct : KeyedAttributes state.attributes) {owner entityId : Text} {other : OrderState}
    (loaded : (store.tables.compiled rt tenantId observation after state commit).loadState rt owner
      entityId = .ok (some other)) : KeyedAttributes other.attributes := by
  have before := consistent.distinct owner entityId other
  rcases @compiled_projection rt tenantId observation state store.tables after about commit with
    same | set
  · rw [loadState_congr same] at loaded
    exact before loaded
  · by_cases here : (owner, entityId) = (tenantId, entityIdOf observation)
    · obtain ⟨row, found, dumped⟩ : Exists fun row : StateProjection =>
          (store.tables.compiled rt tenantId observation after state commit).projections.get?
            (owner, entityId) = some row ∧ row.attributes = dumpAttributes rt state.attributes := by
        rw [set, here, Dict.get?_set_self]
        exact ⟨_, rfl, rfl⟩
      exact keyed_of_dump distinct loaded found dumped
    · rw [@loadState_at rt store.tables _ owner entityId (by rw [set, Dict.get?_set, if_neg here])]
        at loaded
      exact before loaded

/-- A reading that was taken in and persisted keeps a store consistent. -/
theorem Consistent.taken (consistent : Consistent rt ⟨base, store.tables⟩)
    (fresh : FreshRequest ⟨base, store.tables⟩ draws tenantId observation)
    (payload : KeyedPayload observation) {commit : CommitRecord}
    (loaded : store.tables.loadState rt tenantId (entityIdOf observation) = .ok existing)
    (taken : Taken rt base draws tenantId observation existing after state)
    (stored : after.commits.get? (tenantId, state.commitId) = some commit) :
    Consistent rt ⟨after, store.tables.compiled rt tenantId observation after state commit⟩ := by
  rcases taken.records with ⟨seen, states⟩
  rcases taken.filed consistent.filed fresh.conflicts with ⟨filed, grows⟩
  rcases consistent.registered with ⟨registry, registered, rows⟩
  have about := taken.about (fun held same => consistent.about (same ▸ loaded))
  have held : KeyedAttributes (heldAttributes existing) := by
    cases existing with
    | none => exact nofun
    | some state => exact consistent.distinct _ _ state loaded
  have kept : forall state commit, ((store.tables.logObservation (tenantId,
      observation.observationId)).persist rt state commit).conflicts = store.tables.conflicts :=
    fun state commit => (persist_conflicts _ _ _).trans (logObservation_conflicts _ _)
  constructor
  case observed =>
    intro id known
    apply compiled_logged store.tables after state commit
    rw [seen, Dict.contains, Dict.get?_set] at known
    split at known
    · exact Or.inr ‹_›
    · exact Or.inl (consistent.observed id known)
  case projected =>
    intro owner objectType objectId other held
    rcases states _ other held with earlier | here
    · exact compiled_kept about commit (consistent.projected owner objectType objectId other earlier)
    · cases here
      exact taken.placed fresh.commit loaded stored
  case filed => exact filed
  case keyed => exact persistConflicts_keyed filed (consistent.keyed.congr (kept state commit))
  case registered =>
    have agree := following_agrees registered grows
    exact ⟨_, following_registered registry after, persistConflicts_registered filed
      (following_registered registry after) ((rows.agree agree fresh.rows).congr (kept state commit))⟩
  case typed => exact fun _ _ _ found => consistent.compiled_typed about commit found
  case distinct =>
    exact fun _ _ _ loaded' => consistent.compiled_distinct about commit (taken.distinct held payload)
      loaded'

/-- A request that succeeds keeps a store consistent, when its observation is new or its object has a
projection. -/
theorem Consistent.served (consistent : Consistent rt store)
    (fresh : FreshRequest store draws tenantId observation) (payload : KeyedPayload observation)
    (placed : store.tables.Logged (tenantId, observation.observationId) ->
      store.tables.projections.get? (tenantId, entityIdOf observation) ≠ none) {later : Store}
    (served : Served rt store draws tenantId observation later state) : Consistent rt later := by
  cases served with
  | repeated existing _ _ known loaded same hydrated =>
      cases existing with
      | none => exact absurd (loadState_none.mp loaded) (placed known)
      | some held =>
          have kept := consistent.hydrateFrom loaded
          rw [← hydrated held rfl, ← same] at kept
          exact kept
  | compiled existing conflicts after _ commit new loaded listed ingested stored =>
      have hydrated : Consistent rt ⟨store.hydrated tenantId existing conflicts, store.tables⟩ :=
        (consistent.hydrateFrom loaded).hydrateAll listed
      have taken := ingest_taken (consistent.unseen new) ingested
      rw [consistent.held loaded] at taken
      exact hydrated.taken ⟨fresh.commit, fresh.hydrated consistent listed, fresh.rows⟩ payload loaded
        taken stored

end Keeping

/-! ## Runs -/

/-- A process starts consistent with any tables that are consistent with some process. -/
theorem Consistent.restart {rt : Runtime} {store : Store} (consistent : Consistent rt store) :
    Consistent rt ⟨.fresh, store.tables⟩ where
  observed := nofun
  projected := nofun
  filed := .fresh
  keyed := consistent.keyed
  registered := by
    rcases consistent.registered with ⟨registry, _, rows⟩
    exact ⟨registry, nofun, rows⟩
  typed := consistent.typed
  distinct := consistent.distinct

theorem Consistent.fresh (rt : Runtime) : Consistent rt .fresh where
  observed := nofun
  projected := nofun
  filed := .fresh
  keyed := nofun
  registered := ⟨fun id => (id.1, "", "", ""), nofun, nofun⟩
  typed := nofun
  distinct := nofun

/-- A request draws fresh identifiers, and has a new observation or is about an object that has a
projection. -/
def Store.Regular (tenantId : Text) (store : Store) : Request -> Prop
  | .observe draws observation => FreshRequest store draws tenantId observation ∧
      KeyedPayload observation ∧ (store.tables.Logged (tenantId, observation.observationId) ->
        store.tables.projections.get? (tenantId, entityIdOf observation) ≠ none)
  | .restart => True

instance (observation : Observation) : Decidable (KeyedPayload observation) :=
  decidable_of_iff (forall entry, entry ∈ observation.payload.entries -> keyed entry.2 = true) (by
    constructor
    · exact fun all name value read => all (name, value) ((Dict.mem_entries_iff _ _ _).mpr read)
    · exact fun all entry member => all entry.1 entry.2 ((Dict.mem_entries_iff _ _ _).mp member))

instance (store : Store) (draws : Draws) (tenantId : Text) (observation : Observation) :
    Decidable (FreshRequest store draws tenantId observation) :=
  decidable_of_iff (newCommitId draws ∉ store.tables.commitLog.map CommitRecord.commitId ∧
      FreshIds store.service tenantId draws 0 observation.payload.entries.length ∧
      forall place, place < observation.payload.entries.length ->
        (store.tables.conflicts.get? (tenantId, newConflictId draws place)).isNone = true)
    ⟨fun fresh => ⟨fresh.1, fresh.2.1, fun place inside => Option.isNone_iff_eq_none.mp
        (fresh.2.2 place inside)⟩,
      fun fresh => ⟨fresh.commit, fresh.conflicts, fun place inside => Option.isNone_iff_eq_none.mpr
        (fresh.rows place inside)⟩⟩

instance (tenantId : Text) (store : Store) : (request : Request) ->
    Decidable (store.Regular tenantId request)
  | .observe _ observation =>
      decidable_of_iff (_ ∧ KeyedPayload observation ∧
          (store.tables.Logged (tenantId, observation.observationId) ->
            (store.tables.projections.get? (tenantId, entityIdOf observation)).isSome = true))
        (and_congr_right (fun _ => and_congr_right (fun _ => imp_congr_right (fun _ =>
          Option.ne_none_iff_isSome.symm))))
  | .restart => isTrue trivial

/-- Regular requests that succeed, and restarts. -/
def consistentSystem (rt : Runtime) (tenantId : Text) : System Store Request :=
  (persistedSystem rt tenantId).restrict (Store.Regular tenantId)

instance (rt : Runtime) (tenantId : Text) (store : Store) (request : Request) :
    Decidable ((consistentSystem rt tenantId).admits store request) :=
  inferInstanceAs (Decidable (_ ∧ _))

/-- Every store that such a run reaches is consistent. -/
theorem Consistent.of_run {rt : Runtime} {tenantId : Text} {history : List (Step Store Request)}
    {store : Store} (run : (consistentSystem rt tenantId).Run history store) : Consistent rt store := by
  apply System.Run.invariant run
  · rintro state rfl
    exact .fresh rt
  · intro state request consistent admitted
    cases request with
    | restart => exact consistent.restart
    | observe draws observation =>
        rcases admitted with ⟨⟨succeeds, _⟩, fresh, payload, placed⟩
        rcases returns_of_toBool succeeds with ⟨answer, returned⟩
        exact consistent.served fresh payload placed (served_of_returns returned)

end WorldState
end RealityLayer
