import RealityLayer.WorldState.Loading
import RealityLayer.WorldState.Records
import RealityLayer.WorldState.Resolving
import RealityLayer.WorldState.Rewriting

namespace RealityLayer
namespace WorldState

open Foundation Python RealityGit WorldStateService

/-!
# One query, two answers

`list_entities` looks through the states that a service holds, and `list_states`
through the rows that `persist` wrote.  Both apply the filters for a value, a
label and a confidence with the same code.  The type of an entity is compared
twice over: the service lowers the asked type and compares it with its own keys,
and the database compares the asked type with a column that holds a capital.

The other difference is the round trip through JSON, where a NaN and an infinity
turn into null.
-/

/-! ## Confidences -/

/-- Every candidate's confidence is one that validation accepts. -/
def BoundedCandidates (service : WorldStateService) : Prop :=
  forall id conflict, service.conflictsById.get? id = some conflict ->
    forall candidate, candidate ∈ conflict.candidates -> candidate.confidence.inUnit = true

def BoundedAttributes (attributes : Dict Text StateAttribute) : Prop :=
  forall name attr, attributes.get? name = some attr -> attr.confidence.inUnit = true

/-- Every confidence of a service is one that validation accepts. Confidences come from a
fixed table or from a candidate, so no caller chooses them. -/
structure Bounded (service : WorldStateService) : Prop where
  attributes : forall key state, service.states.get? key = some state ->
    BoundedAttributes state.attributes
  candidates : BoundedCandidates service

section Confidences

variable {rt : Runtime} {service : WorldStateService} {draws : Draws} {place : Nat}
variable {tenantId entityType entityId name : Text} {existing incoming : StateAttribute}

theorem projectedConfidence_inUnit (name : Text) : (projectedConfidence name).inUnit = true := by
  unfold projectedConfidence
  split
  · decide
  · decide

theorem resolved_inUnit {conflict : Conflict}
    (known : forall candidate, candidate ∈ conflict.candidates -> candidate.confidence.inUnit = true)
    (resolvedValue : Json) (now : Timestamp) :
    (resolvedAttribute conflict resolvedValue now).confidence.inUnit = true := by
  have default : (highestConfidence []).inUnit = true := by decide
  refine @highestConfidence_keeps (fun confidence => confidence.inUnit = true) _ default ?_
  intro confidence member
  rcases List.mem_map.mp member with ⟨candidate, inside, rfl⟩
  exact known candidate (List.mem_filter.mp inside).1

/-- Confidences come from projections and from resolutions. -/
def boundedReadings : Requirements := .ofReadings (fun _ confidence _ => confidence.inUnit = true)

theorem Bounded.of_met (met : boundedReadings.MetBy service) : Bounded service :=
  ⟨met.states, met.conflicts⟩

theorem boundedReadings_perform (met : boundedReadings.MetBy service) (call : WorldCall) :
    boundedReadings.MetBy (service.perform rt call) := by
  cases call with
  | ingest draws tenantId observation cause assuranceLevel =>
      refine (met.ingest (Requirements.ofReadings_ingestible rt met cause assuranceLevel ?_)).1
      exact fun _ _ name _ _ => projectedConfidence_inUnit name
  | resolveConflict draws tenantId conflictId resolvedValue resolvedBy reason =>
      refine (met.resolveConflict (Requirements.ofReadings_resolvable rt service draws tenantId conflictId
        resolvedBy reason ?_)).1
      exact fun conflict known => resolved_inUnit known resolvedValue _

/-- States under their own keys, with acceptable confidences. It is what a listing of states
needs in order to read its rows back. -/
structure Queryable (service : WorldStateService) : Prop where
  bounded : Bounded service
  placed : forall key state, service.states.get? key = some state -> Placed key state

theorem Queryable.of_run {history : List (Step WorldStateService WorldCall)}
    (run : (worldSystem rt).Run history service) : Queryable service := by
  refine ⟨.of_met ?_, (Remembered.of_run run).genuine.placed⟩
  apply System.Run.invariant run
  · rintro _ rfl
    exact .fresh boundedReadings
  · intro service call met _
    exact boundedReadings_perform met call

end Confidences

/-! ## The stored states -/

/-- One row, as `list_states` decodes it. A row that cannot be decoded raises, and ends the
whole query. -/
def StateProjection.decoded (rt : Runtime) (id : Text × Text) (row : StateProjection) :
    Except PyError OrderState :=
  (Tables.readValues (StateAttribute.modelValidate rt) row.attributes.entries).map (fun attributes => {
    tenantId := id.1
    entityId := id.2
    entityType := row.entityType
    stateVersion := row.stateVersion
    attributes := Dict.ofList attributes
    commitId := row.producingCommitId.getD "" })

/-- `list_states`. The database compares the type with its column, and so distinguishes upper
and lower case. -/
def Tables.listStates (rt : Runtime) (tables : Tables) (tenantId : Text)
    (entityType state freshness : Option Text) (minConfidence : Option PyFloat) :
    Except PyError (List OrderState) :=
  let rows := (tables.projections.entries.filter (fun entry =>
    decide (entry.1.1 = tenantId) &&
      entityType.all (fun entityType => decide (entry.2.entityType = entityType)))).insertionSort
        (fun first second => first.1.2.le second.1.2 = true)
  (rows.mapM (fun entry : (Text × Text) × StateProjection => entry.2.decoded rt entry.1)).map
    (List.filter (fun entity => matchesFilters rt entity state freshness minConfidence))

/-- The state with its values in JSON mode. This is the state that comes back from the tables. -/
def OrderState.inJson (state : OrderState) : OrderState :=
  { state with attributes := state.attributes.mapValues (fun _ attr =>
      { attr with value := attr.value.jsonMode }) }

/-- No value has a NaN or an infinity in it. Such a number would come back as null. -/
def OrderState.Finite (state : OrderState) : Prop :=
  forall name attr, state.attributes.get? name = some attr -> attr.value.finite = true

/-- The times of a service survive being written and parsed. -/
def TimesReread (rt : Runtime) (service : WorldStateService) : Prop :=
  forall key state name attr, service.states.get? key = some state ->
    state.attributes.get? name = some attr ->
    rt.parseIsoformat (rt.isoformat attr.observedAt) = some attr.observedAt

/-- The projections are those that `persist` writes of the held states, and no others. A
process that is behind the database does not have this, and its listings differ for that
reason. -/
structure Mirrored (rt : Runtime) (service : WorldStateService) (tables : Tables) : Prop where
  rows : forall key state, service.states.get? key = some state ->
    tables.projections.get? (state.tenantId, state.entityId) = some (projectionOf rt state)
  states : forall id row, tables.projections.get? id = some row ->
    Exists fun key : Text × Text × Text => Exists fun state : OrderState =>
      service.states.get? key = some state ∧ id = (state.tenantId, state.entityId)

/-- Tables with the projections of a service. -/
def mirroring (rt : Runtime) (service : WorldStateService) : Tables :=
  { Tables.empty with
    projections := Dict.ofList (service.states.values.map (fun state =>
      ((state.tenantId, state.entityId), projectionOf rt state))) }

section Stored

variable {rt : Runtime} {service : WorldStateService} {tables : Tables}

theorem OrderState.inJson_eq_iff (state : OrderState) : state.inJson = state <-> state.Finite := by
  constructor
  · intro same name attr held
    have found := congrArg (fun state : OrderState => state.attributes.get? name) same
    unfold OrderState.inJson at found
    dsimp only at found
    rw [Dict.get?_mapValues, held] at found
    have value := congrArg StateAttribute.value (Option.some.inj found)
    rw [← value]
    exact finite_jsonMode attr.value
  · intro finite
    have same : state.inJson.attributes = state.attributes := by
      refine Dict.ext ((List.map_congr_left ?_).trans (List.map_id _))
      intro entry member
      have held := (Dict.mem_entries_iff _ entry.1 entry.2).mp member
      exact Prod.ext rfl (congrArg (fun value => { entry.2 with value })
        (Json.jsonMode_of_finite _ (finite entry.1 entry.2 held)))
    exact congrArg (fun attributes => { state with attributes }) same

theorem reread_inJson {state : OrderState} (bounded : BoundedAttributes state.attributes)
    (times : forall name attr, state.attributes.get? name = some attr ->
      rt.parseIsoformat (rt.isoformat attr.observedAt) = some attr.observedAt) :
    Reread rt state state.inJson := by
  refine ⟨rfl, rfl, rfl, rfl, rfl, ?_⟩
  refine List.forall₂_map_right_iff.mpr (List.forall₂_same.mpr ?_)
  intro entry member
  have held : state.attributes.get? entry.1 = some entry.2 := (Dict.mem_entries_iff _ _ _).mp member
  refine ⟨rfl, ?_⟩
  unfold StateAttribute.reread
  rw [if_pos (bounded entry.1 entry.2 held), times entry.1 entry.2 held]
  rfl

theorem decoded_projection {state other : OrderState} (same : Reread rt state other) :
    (projectionOf rt state).decoded rt (state.tenantId, state.entityId) = .ok other := by
  unfold StateProjection.decoded
  rw [same.readValues]
  rcases same.only with ⟨attributes, rfl⟩
  exact congrArg (fun attributes => Except.ok { state with attributes }) (Dict.ofList_entries attributes)

/-- Two states with one tenant and one identifier are filed under one key. -/
theorem Placed.sole {key key' : Text × Text × Text} {state state' : OrderState}
    (placed : Placed key state) (placed' : Placed key' state') (tenant : state.tenantId = state'.tenantId)
    (named : state.entityId = state'.entityId) : key = key' := by
  have owner : key.1 = key'.1 := placed.tenantId.symm.trans (tenant.trans placed'.tenantId)
  have ids : key.2.2 = key'.2.2 :=
    placed.entityId.symm.trans ((congrArg Text.afterColon named).trans placed'.entityId)
  have types : key.2.1 = key'.2.1 := by
    have whole := placed.called.symm.trans (named.trans placed'.called)
    rw [ids] at whole
    exact Text.append_left_injective _ (Text.append_left_injective _ whole)
  exact Prod.ext owner (Prod.ext types ids)

theorem mirroring_mirrored (queryable : Queryable service) :
    Mirrored rt service (mirroring rt service) := by
  have distinct : ((service.states.values.map (fun state =>
      ((state.tenantId, state.entityId), projectionOf rt state))).map Prod.fst).Nodup := by
    rw [List.map_map]
    unfold Dict.values
    rw [List.map_map]
    apply List.Nodup.map_on
    · intro entry member entry' member' same
      have placed := queryable.placed _ _ ((Dict.mem_entries_iff _ _ _).mp member)
      have placed' := queryable.placed _ _ ((Dict.mem_entries_iff _ _ _).mp member')
      rcases Prod.mk.inj same with ⟨tenant, named⟩
      have key := placed.sole placed' tenant named
      apply Prod.ext key
      have held := (Dict.mem_entries_iff _ _ _).mp member
      rw [key] at held
      exact Option.some.inj (held.symm.trans ((Dict.mem_entries_iff _ _ _).mp member'))
    · exact List.Nodup.of_map Prod.fst service.states.distinct
  have stored : forall id row, (mirroring rt service).projections.get? id = some row <->
      Exists fun state : OrderState => state ∈ service.states.values ∧
        ((state.tenantId, state.entityId), projectionOf rt state) = (id, row) := by
    intro id row
    rw [← Dict.mem_entries_iff, mirroring, Dict.entries_ofList _ distinct, List.mem_map]
  refine ⟨?_, ?_⟩
  · intro key state held
    exact (stored _ _).mpr ⟨state, (Dict.mem_values_iff _ _).mpr ⟨key, held⟩, rfl⟩
  · intro id row found
    rcases (stored id row).mp found with ⟨state, member, same⟩
    rcases (Dict.mem_values_iff _ _).mp member with ⟨key, held⟩
    exact ⟨key, state, held, (congrArg Prod.fst same).symm⟩

end Stored

/-! ## Both answers -/

section Queries

variable {rt : Runtime} {service : WorldStateService} {tables : Tables} {tenantId : Text}
variable {entityType state freshness : Option Text} {minConfidence : Option PyFloat}

theorem mem_listEntities (entity : OrderState) :
    entity ∈ service.listEntities rt tenantId entityType state freshness minConfidence <->
      Exists fun key : Text × Text × Text => service.states.get? key = some entity ∧ key.1 = tenantId ∧
        (forall asked, entityType = some asked -> key.2.1 = asked.lower) ∧
        matchesFilters rt entity state freshness minConfidence = true := by
  unfold listEntities
  rw [List.mem_insertionSort, List.mem_map]
  constructor
  · rintro ⟨entry, member, rfl⟩
    rcases List.mem_filter.mp member with ⟨inside, selected⟩
    simp only [Bool.and_eq_true, decide_eq_true_eq, Option.all_eq_true] at selected
    rcases selected with ⟨⟨owner, typed⟩, matched⟩
    exact ⟨entry.1, (Dict.mem_entries_iff _ _ _).mp inside, owner, typed, matched⟩
  · rintro ⟨key, held, owner, typed, matched⟩
    refine ⟨(key, entity), List.mem_filter.mpr ⟨(Dict.mem_entries_iff _ _ _).mpr held, ?_⟩, rfl⟩
    simp only [Bool.and_eq_true, decide_eq_true_eq, Option.all_eq_true]
    exact ⟨⟨owner, typed⟩, matched⟩

/-- The rows can all be read, and `list_states` answers with those that the filters take. One
row that cannot be read would end the whole query. -/
theorem mem_listStates (queryable : Queryable service) (times : TimesReread rt service)
    (mirrored : Mirrored rt service tables) :
    Exists fun states : List OrderState =>
      tables.listStates rt tenantId entityType state freshness minConfidence = .ok states ∧
      forall entity, entity ∈ states <->
        Exists fun key : Text × Text × Text => Exists fun held : OrderState =>
          service.states.get? key = some held ∧ held.tenantId = tenantId ∧
          (forall asked, entityType = some asked -> held.entityType = asked) ∧
          matchesFilters rt held.inJson state freshness minConfidence = true ∧ entity = held.inJson := by
  have source : forall id row, tables.projections.get? id = some row ->
      Exists fun key : Text × Text × Text => Exists fun held : OrderState =>
        service.states.get? key = some held ∧ id = (held.tenantId, held.entityId) ∧
          row = projectionOf rt held ∧ row.decoded rt id = .ok held.inJson := by
    intro id row found
    rcases mirrored.states id row found with ⟨key, held, stored, rfl⟩
    cases found.symm.trans (mirrored.rows key held stored)
    exact ⟨key, held, stored, rfl, rfl, decoded_projection
      (reread_inJson (queryable.bounded.attributes key held stored) (fun name attr bound =>
        times key held name attr stored bound))⟩
  unfold Tables.listStates
  dsimp only
  generalize sorted : (tables.projections.entries.filter (fun entry =>
    decide (entry.1.1 = tenantId) &&
      entityType.all (fun entityType => decide (entry.2.entityType = entityType)))).insertionSort
        (fun first second => first.1.2.le second.1.2 = true) = rows
  have inside : forall entry, entry ∈ rows <-> tables.projections.get? entry.1 = some entry.2 ∧
      entry.1.1 = tenantId ∧ forall asked, entityType = some asked -> entry.2.entityType = asked := by
    intro entry
    rw [← sorted, List.mem_insertionSort, List.mem_filter, ← Dict.mem_entries_iff]
    simp only [Bool.and_eq_true, decide_eq_true_eq, Option.all_eq_true]
  have readable : forall entry, entry ∈ rows -> Exists fun entity : OrderState =>
      entry.2.decoded rt entry.1 = .ok entity := by
    intro entry member
    rcases source entry.1 entry.2 ((inside entry).mp member).1 with ⟨_, held, _, _, _, decoded⟩
    exact ⟨held.inJson, decoded⟩
  rcases mapM_ok rows readable with ⟨results, mapped⟩
  have related := forall₂_of_mapM mapped
  rw [mapped]
  refine ⟨_, rfl, fun entity => ?_⟩
  rw [List.mem_filter]
  constructor
  · rintro ⟨member, matched⟩
    rcases exists_left_of_forall₂ related member with ⟨entry, listed, decoded⟩
    rcases (inside entry).mp listed with ⟨found, owner, typed⟩
    rcases source entry.1 entry.2 found with ⟨key, held, stored, id, row, decoded'⟩
    cases decoded.symm.trans decoded'
    refine ⟨key, held, stored, ?_, ?_, matched, rfl⟩
    · rw [id] at owner
      exact owner
    · rw [row] at typed
      exact typed
  · rintro ⟨key, held, stored, owner, typed, matched, rfl⟩
    refine ⟨?_, matched⟩
    have listed : ((held.tenantId, held.entityId), projectionOf rt held) ∈ rows :=
      (inside _).mpr ⟨mirrored.rows key held stored, owner, typed⟩
    rcases exists_right_of_forall₂ related listed with ⟨result, member, decoded⟩
    have same : Reread rt held held.inJson :=
      reread_inJson (queryable.bounded.attributes key held stored) (fun name attr bound =>
        times key held name attr stored bound)
    cases decoded.symm.trans (decoded_projection same)
    exact member

/-- The query asks for the state by the stored name of its type if it asks for the state, and a
state that it asks for by that name has no NaN and no infinity. -/
structure QueriedAlike (rt : Runtime) (entityType state freshness : Option Text)
    (minConfidence : Option PyFloat) (held : OrderState) : Prop where
  spelled : matchesFilters rt held state freshness minConfidence = true ->
    forall asked, entityType = some asked -> held.entityType = asked
  finite : (forall asked, entityType = some asked -> held.entityType = asked) ->
    matchesFilters rt held state freshness minConfidence = true ∨
      matchesFilters rt held.inJson state freshness minConfidence = true -> held.Finite

/-- The two queries answer with the same states exactly when each state of the asked type is
queried alike. -/
theorem list_states_agrees_iff {history : List (Step WorldStateService WorldCall)}
    (run : (worldSystem rt).Run history service) (times : TimesReread rt service)
    (mirrored : Mirrored rt service tables) (tenantId : Text) (entityType state freshness : Option Text)
    (minConfidence : Option PyFloat) :
    (Exists fun states : List OrderState =>
      tables.listStates rt tenantId entityType state freshness minConfidence = .ok states ∧
        forall entity, entity ∈ states <->
          entity ∈ service.listEntities rt tenantId entityType state freshness minConfidence) <->
      forall key held, service.states.get? key = some held -> key.1 = tenantId ->
        (forall asked, entityType = some asked -> key.2.1 = asked.lower) ->
        QueriedAlike rt entityType state freshness minConfidence held := by
  have queryable := Queryable.of_run run
  rcases @mem_listStates rt service tables tenantId entityType state freshness
    minConfidence queryable times mirrored with ⟨states, listed, members⟩
  -- A held state is told by its tenant, its type and its identifier, and JSON keeps all three.
  have sole : forall key held key' held', service.states.get? key = some held ->
      service.states.get? key' = some held' -> held.inJson = held' -> key = key' ∧ held = held' := by
    intro key held key' held' stored stored' same
    have keys : key = key' := by
      rw [← (queryable.placed key held stored).key, ← (queryable.placed key' held' stored').key, ← same]
      rfl
    subst keys
    exact ⟨rfl, Option.some.inj (stored.symm.trans stored')⟩
  constructor
  · rintro ⟨states', listed', agree⟩ key held stored owner lowered
    cases listed.symm.trans listed'
    have placed := queryable.placed key held stored
    refine ⟨?_, ?_⟩
    · intro matched
      have member := (agree held).mpr ((mem_listEntities held).mpr ⟨key, stored, owner, lowered, matched⟩)
      rcases (members held).mp member with ⟨key', held', stored', _, spelled, _, same⟩
      rcases sole key' held' key held stored' stored same.symm with ⟨_, rfl⟩
      exact spelled
    · intro spelled selected
      apply (held.inJson_eq_iff).mp
      rcases selected with matched | matched
      · have member := (agree held).mpr
          ((mem_listEntities held).mpr ⟨key, stored, owner, lowered, matched⟩)
        rcases (members held).mp member with ⟨key', held', stored', _, _, _, same⟩
        rcases sole key' held' key held stored' stored same.symm with ⟨_, rfl⟩
        exact same.symm
      · have member := (agree held.inJson).mp ((members held.inJson).mpr
          ⟨key, held, stored, placed.tenantId.trans owner, spelled, matched, rfl⟩)
        rcases (mem_listEntities held.inJson).mp member with ⟨key', stored', _⟩
        exact (sole key held key' held.inJson stored stored' rfl).2.symm
  · intro alike
    refine ⟨states, listed, fun entity => ?_⟩
    rw [members, mem_listEntities]
    constructor
    · rintro ⟨key, held, stored, owner, spelled, matched, rfl⟩
      have placed := queryable.placed key held stored
      have owner' : key.1 = tenantId := placed.tenantId.symm.trans owner
      have lowered : forall asked, entityType = some asked -> key.2.1 = asked.lower :=
        fun asked same => placed.entityType.symm.trans (congrArg Text.lower (spelled asked same))
      have finite := (alike key held stored owner' lowered).finite spelled (Or.inr matched)
      rw [held.inJson_eq_iff.mpr finite] at matched ⊢
      exact ⟨key, stored, owner', lowered, matched⟩
    · rintro ⟨key, stored, owner, lowered, matched⟩
      have placed := queryable.placed key entity stored
      have same := alike key entity stored owner lowered
      have spelled := same.spelled matched
      have json := entity.inJson_eq_iff.mpr (same.finite spelled (Or.inl matched))
      refine ⟨key, entity, stored, placed.tenantId.trans owner, spelled, ?_, json.symm⟩
      rw [json]
      exact matched

end Queries

/-! ## Asking for the orders -/

def queriedService : WorldStateService :=
  ((worldSystem .plain).trace .fresh [sampleIngest 10 "demo" openReading]).2

theorem queriedService_run :
    (worldSystem .plain).Run ((worldSystem .plain).trace .fresh [sampleIngest 10 "demo" openReading]).1
      queriedService := by
  have admitted : (worldSystem .plain).AdmitsAll .fresh [sampleIngest 10 "demo" openReading] := by
    decide +kernel
  exact System.run_trace _ rfl admitted

/-- Asked for by the stored name of their type, the orders are the same. -/
theorem list_states_agrees_sample :
    Exists fun states : List OrderState =>
      (mirroring .plain queriedService).listStates .plain "demo" (some "Order") (some "open") none none =
        .ok states ∧
      forall entity, entity ∈ states <->
        entity ∈ queriedService.listEntities .plain "demo" (some "Order") (some "open") none none := by
  have facts : queriedService.states.entries.all (fun entry =>
      decide (entry.2.entityType = ("Order" : Text)) && entry.2.attributes.entries.all (fun bound =>
        bound.2.value.finite && decide (Runtime.plain.parseIsoformat
          (Runtime.plain.isoformat bound.2.observedAt) = some bound.2.observedAt))) = true := by
    decide +kernel
  have known : forall key held, queriedService.states.get? key = some held ->
      held.entityType = "Order" ∧ forall name attr, held.attributes.get? name = some attr ->
        attr.value.finite = true ∧ Runtime.plain.parseIsoformat
          (Runtime.plain.isoformat attr.observedAt) = some attr.observedAt := by
    intro key held stored
    have fact := List.all_eq_true.mp facts _ ((Dict.mem_entries_iff _ _ _).mpr stored)
    rw [Bool.and_eq_true, decide_eq_true_eq] at fact
    refine ⟨fact.1, fun name attr bound => ?_⟩
    have fact := List.all_eq_true.mp fact.2 _ ((Dict.mem_entries_iff _ _ _).mpr bound)
    rw [Bool.and_eq_true, decide_eq_true_eq] at fact
    exact fact
  have times : TimesReread .plain queriedService :=
    fun key held name attr stored bound => ((known key held stored).2 name attr bound).2
  refine (list_states_agrees_iff queriedService_run times
    (mirroring_mirrored (Queryable.of_run queriedService_run)) _ _ _ _ _).mpr ?_
  intro key held stored owner lowered
  refine ⟨fun _ asked same => ?_, fun _ _ name attr bound => ((known key held stored).2 name attr bound).1⟩
  rw [← Option.some.inj same]
  exact (known key held stored).1

/-- Asked for as the tests ask for it, the service finds the order and the database does not.
The column holds the capitalized name. -/
theorem stored_orders_not_found :
    Exists fun history => (worldSystem .plain).Run history queriedService ∧
      Mirrored .plain queriedService (mirroring .plain queriedService) ∧
      (queriedService.listEntities .plain "demo" (some "order") none none none).length = 1 ∧
      (mirroring .plain queriedService).listStates .plain "demo" (some "order") none none none =
        .ok [] := by
  have facts : (queriedService.listEntities .plain "demo" (some "order") none none none).length = 1 ∧
      (mirroring .plain queriedService).listStates .plain "demo" (some "order") none none none =
        .ok [] := by
    decide +kernel
  exact ⟨_, queriedService_run, mirroring_mirrored (Queryable.of_run queriedService_run), facts⟩

end WorldState
end RealityLayer
