import RealityLayer.WorldState.Served

namespace RealityLayer
namespace WorldState

open Foundation Python RealityGit WorldStateService

/-!
# Reading a projection back

`persist` writes the dump of every attribute of a state, and `load_state`
validates each dump again.  The state that comes back differs from the one that
was written in two places: its values are in JSON mode, where a NaN and an
infinity are null, and its times are the texts of the old ones, read again.
-/

/-! ## One attribute -/

/-- What the dump of an attribute validates to. There may be nothing, if the time is not read
back. -/
def StateAttribute.reread (rt : Runtime) (attr : StateAttribute) : Option StateAttribute :=
  if attr.confidence.inUnit then
    (rt.parseIsoformat (rt.isoformat attr.observedAt)).map (fun observedAt =>
      { attr with value := attr.value.jsonMode, observedAt })
  else none

section Attributes

variable {rt : Runtime}

theorem modelValidate_dump (attr : StateAttribute) :
    StateAttribute.modelValidate rt (attr.dump rt) =
      match attr.reread rt with
      | some other => .ok other
      | none => .error (.validation "StateAttribute") := by
  unfold StateAttribute.modelValidate StateAttribute.dump StateAttribute.reread
  cases bounded : attr.confidence.inUnit with
  | false =>
      simp [Actions.readOr, Dict.lookup, Json.entries?, Json.float?, Json.text?, guard, bounded]
  | true =>
      cases parsed : rt.parseIsoformat (rt.isoformat attr.observedAt) with
      | none =>
          simp [Actions.readOr, Dict.lookup, Json.entries?, Json.float?, Json.text?, guard, parsed]
      | some time =>
          simp [Actions.readOr, Dict.lookup, Json.entries?, Json.float?, Json.text?, guard, bounded,
            parsed]

theorem modelValidate_dump_ok {attr other : StateAttribute} :
    StateAttribute.modelValidate rt (attr.dump rt) = .ok other <-> attr.reread rt = some other := by
  rw [modelValidate_dump]
  cases attr.reread rt with
  | none => exact ⟨nofun, nofun⟩
  | some found => exact ⟨fun same => congrArg some (Except.ok.inj same),
      fun same => congrArg Except.ok (Option.some.inj same)⟩

/-- Only the value and the time are different afterwards. -/
theorem StateAttribute.reread_some {attr other : StateAttribute} (same : attr.reread rt = some other) :
    attr.confidence.inUnit = true ∧ Exists fun observedAt : Timestamp =>
      rt.parseIsoformat (rt.isoformat attr.observedAt) = some observedAt ∧
        other = { attr with value := attr.value.jsonMode, observedAt } := by
  unfold StateAttribute.reread at same
  split at same
  · rename_i bounded
    rcases Option.map_eq_some_iff.mp same with ⟨observedAt, parsed, rfl⟩
    exact ⟨bounded, observedAt, parsed, rfl⟩
  · cases same

end Attributes

/-! ## A whole state -/

/-- The second state is the first, after a round trip through its projection. Values come
back as their dumps, and times as what is read from their texts. -/
structure Reread (rt : Runtime) (state other : OrderState) : Prop where
  tenantId : other.tenantId = state.tenantId
  entityId : other.entityId = state.entityId
  entityType : other.entityType = state.entityType
  stateVersion : other.stateVersion = state.stateVersion
  commitId : other.commitId = state.commitId
  attributes : Dict.Matches (fun name attr name' attr' => name = name' ∧ attr.reread rt = some attr')
    state.attributes other.attributes

/-- The projection that `persist` writes. The state is taken as it is, also when a later
process has held another one. -/
def projectionOf (rt : Runtime) (state : OrderState) : StateProjection where
  entityType := state.entityType
  attributes := dumpAttributes rt state.attributes
  producingCommitId := some state.commitId
  stateVersion := state.stateVersion

section Loading

variable {rt : Runtime} {tables : Tables} {tenantId entityId : Text} {state : OrderState}

theorem readValues_ok {A : Type} {reader : Json -> Except PyError A} {entries : List (Text × Json)}
    {results : List (Text × A)} (read : Tables.readValues reader entries = .ok results) :
    List.Forall₂ (fun entry result => entry.1 = result.1 ∧ reader entry.2 = .ok result.2) entries
      results := by
  induction entries generalizing results with
  | nil =>
      cases read
      exact .nil
  | cons entry rest ih =>
      rw [Tables.readValues] at read
      cases first : reader entry.2 with
      | error error =>
          rw [first] at read
          cases read
      | ok value =>
          rw [first] at read
          dsimp only at read
          cases later : Tables.readValues reader rest with
          | error error =>
              rw [later] at read
              cases read
          | ok values =>
              rw [later] at read
              cases read
              exact .cons ⟨rfl, first⟩ (ih later)

theorem readValues_of_forall₂ {A : Type} {reader : Json -> Except PyError A}
    {entries : List (Text × Json)} {results : List (Text × A)}
    (related : List.Forall₂ (fun entry result => entry.1 = result.1 ∧ reader entry.2 = .ok result.2)
      entries results) : Tables.readValues reader entries = .ok results := by
  induction related with
  | nil => rfl
  | cons first rest ih =>
      rw [Tables.readValues, first.2]
      dsimp only
      rw [ih, first.1]
      rfl

/-- The loaded attributes are the entries of the row, read one by one. -/
theorem loadState_matches (loaded : tables.loadState rt tenantId entityId = .ok (some state)) :
    Exists fun row : StateProjection => tables.projections.get? (tenantId, entityId) = some row ∧
      state.commitId = row.producingCommitId.getD "" ∧
      Dict.Matches (fun name data name' attr => name = name' ∧
        StateAttribute.modelValidate rt data = .ok attr) row.attributes state.attributes := by
  rcases loadState_read loaded with ⟨row, attributes, found, read, rfl⟩
  have pairs := readValues_ok read
  have names : row.attributes.entries.map Prod.fst = attributes.map Prod.fst :=
    (map_eq_iff_forall₂ pairs).mpr (pairs.imp (fun _ _ both => ⟨both, both.1⟩))
  have distinct : (attributes.map Prod.fst).Nodup := names ▸ row.attributes.distinct
  refine ⟨row, found, rfl, ?_⟩
  unfold Dict.Matches
  rw [Dict.entries_ofList _ distinct]
  exact pairs

/-- Each loaded attribute was read from the row's entry of its name. -/
theorem loadState_attributes (loaded : tables.loadState rt tenantId entityId = .ok (some state)) :
    Exists fun row : StateProjection => tables.projections.get? (tenantId, entityId) = some row ∧
      forall name attr, state.attributes.get? name = some attr ->
        Exists fun data : Json => row.attributes.get? name = some data ∧
          StateAttribute.modelValidate rt data = .ok attr := by
  rcases loadState_matches loaded with ⟨row, found, _, matched⟩
  refine ⟨row, found, fun name attr stored => ?_⟩
  rcases matched.get? (fun _ _ _ _ both => both.1) (biunique_eq Text) (rfl : name = name) with
    ⟨_, absent⟩ | ⟨data, other, entry, stored', _, validated⟩
  · rw [absent] at stored
    cases stored
  · rw [stored'] at stored
    cases stored
    exact ⟨data, entry, validated⟩

theorem modelValidate_dump_value {attr read : StateAttribute}
    (validated : StateAttribute.modelValidate rt (attr.dump rt) = .ok read) :
    read.value = attr.value.jsonMode := by
  rcases StateAttribute.reread_some (modelValidate_dump_ok.mp validated) with ⟨_, _, _, rfl⟩
  rfl

/-- Loading the projection of a state. -/
theorem loadState_projection {other : OrderState}
    (found : tables.projections.get? (state.tenantId, state.entityId) = some (projectionOf rt state))
    (loaded : tables.loadState rt state.tenantId state.entityId = .ok (some other)) :
    Reread rt state other := by
  rcases loadState_matches loaded with ⟨row, found', commitId, matched⟩
  rcases loadState_some loaded with ⟨row', found'', tenantId, entityId, entityType, stateVersion⟩
  cases found.symm.trans found'
  cases found.symm.trans found''
  refine ⟨tenantId, entityId, entityType, stateVersion, commitId, ?_⟩
  have pairs := List.forall₂_map_left_iff.mp matched
  exact pairs.imp (fun _ _ both => ⟨both.1, modelValidate_dump_ok.mp both.2⟩)

theorem Reread.readValues {other : OrderState} (same : Reread rt state other) :
    Tables.readValues (StateAttribute.modelValidate rt) (projectionOf rt state).attributes.entries =
      .ok other.attributes.entries := by
  refine readValues_of_forall₂ (List.forall₂_map_left_iff.mpr ?_)
  exact same.attributes.imp (fun _ _ both => ⟨both.1, modelValidate_dump_ok.mpr both.2⟩)

/-- Apart from its attributes, a state is read back as it was. -/
theorem Reread.only {other : OrderState} (same : Reread rt state other) :
    Exists fun attributes : Dict Text StateAttribute => other = { state with attributes } := by
  refine ⟨other.attributes, ?_⟩
  rw [← same.tenantId, ← same.entityId, ← same.entityType, ← same.stateVersion, ← same.commitId]

/-- A projection that can be read back is loaded. -/
theorem Reread.loadState {other : OrderState} (same : Reread rt state other)
    (found : tables.projections.get? (state.tenantId, state.entityId) = some (projectionOf rt state)) :
    tables.loadState rt state.tenantId state.entityId = .ok (some other) := by
  unfold Tables.loadState
  rw [found]
  dsimp only
  rw [same.readValues]
  dsimp only
  rw [Dict.ofList_entries]
  rcases same.only with ⟨attributes, rfl⟩
  rfl

theorem Reread.get? {other : OrderState} (same : Reread rt state other) (name : Text) :
    state.attributes.get? name = none ∧ other.attributes.get? name = none ∨
      Exists fun attr : StateAttribute => Exists fun attr' : StateAttribute =>
        state.attributes.get? name = some attr ∧ other.attributes.get? name = some attr' ∧
          attr.reread rt = some attr' := by
  rcases same.attributes.get? (fun _ _ _ _ both => both.1) (biunique_eq Text) (rfl : name = name) with
    absent | ⟨attr, attr', held, held', _, read⟩
  · exact Or.inl absent
  · exact Or.inr ⟨attr, attr', held, held', read⟩

end Loading

end WorldState
end RealityLayer
