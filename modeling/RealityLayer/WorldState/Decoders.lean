import RealityLayer.WorldState.Cursor
import RealityLayer.WorldState.Loading

namespace RealityLayer
namespace WorldState

open Foundation Python RealityGit WorldStateService

/-!
# Two decoders of one projection

The API and the worker read an entity back with `load_state`.  The command
`reality observe --persist` rebuilds it by hand from the same row, and leaves out
who reported each attribute.  An attribute without a connector is never held
against another source, so the merge rule runs differently for such a state.

The two decoders lead to the same values, the same version and the same conflicts
exactly when the reading says nothing that the state as `load_state` reads it
would dispute.
-/

/-! ## What a process writes -/

/-- Everything a process holds can be written to the tables, dumped and hashed again. It
holds of what came from projections as well as of what was ingested. -/
structure Kept (rt : Runtime) (service : WorldStateService) : Prop where
  placed : forall key state, service.states.get? key = some state -> Placed key state
  persisted : forall key state, service.states.get? key = some state -> Persisted rt state
  hashes : forall id commit, service.commits.get? id = some commit ->
    commit.hash.encodable = true ∧ commit.hash ≠ ""

section Keeping

variable {rt : Runtime} {service : WorldStateService}

theorem WorldCall.commitId_encodable (call : WorldCall) : call.commitId.encodable = true := by
  cases call with
  | ingest draws tenantId observation cause assuranceLevel => exact newCommitId_encodable draws
  | resolveConflict draws tenantId conflictId resolvedValue resolvedBy reason =>
      exact newCommitId_encodable draws

theorem Kept.perform (plain : PlainTexts rt) (kept : Kept rt service) (call : WorldCall) :
    Kept rt (service.perform rt call) := by
  have placed : forall key state, (service.perform rt call).states.get? key = some state ->
      Placed key state := by
    rcases @perform_files rt service kept.placed call with
      ⟨states, _⟩ | ⟨key, state, commit, placed, _, states, _⟩
    · rw [states]
      exact kept.placed
    · intro other found stored
      rw [states, Dict.get?_set] at stored
      split at stored
      · rename_i same
        cases stored
        exact same ▸ placed
      · exact kept.placed other found stored
  rcases perform_entity rt service call with ⟨entry, effect, moved⟩
  refine ⟨placed, ?_, ?_⟩
  · intro key state stored
    have here := placed key state stored
    cases moved with
    | quiet _ states =>
        rw [states] at stored
        exact kept.persisted key state stored
    | advanced commit next _ advances states =>
        rw [states, Dict.get?_set] at stored
        split at stored
        · rename_i same
          cases stored
          cases effect with
          | committed _ _ continues named commits heads =>
              refine ⟨?_, ?_, ?_, ?_⟩
              · rw [here.key, same]
                exact FitState.of_advanced plain advances continues.genuine
              · rw [here.entityType, here.entityId]
                exact here.called
              · rw [advances.commitId, named]
                exact call.commitId_encodable
              · rw [advances.commitId, named]
                exact call.commitId_nonempty
        · exact kept.persisted key state stored
  · intro id commit stored
    cases effect with
    | quiet _ commits heads =>
        rw [commits] at stored
        exact kept.hashes id commit stored
    | committed new _ continues named commits heads =>
        rw [commits, record, Dict.get?_set] at stored
        split at stored
        · cases stored
          exact ⟨sealed_hash_encodable plain.digests continues.genuine,
            sealed_hash_nonempty continues.genuine⟩
        · exact kept.hashes id commit stored

theorem Kept.hydrate (kept : Kept rt service) {state : OrderState} (persisted : Persisted rt state)
    (parentCommitId : Option Text) {parentHash : Option Text}
    (hash : parentHash.all Text.encodable = true) :
    Kept rt (service.hydrate state parentCommitId parentHash) where
  placed := by
    intro key other stored
    rw [hydrate_states, Dict.get?_set] at stored
    split at stored
    · rename_i same
      cases stored
      rw [same]
      exact ⟨rfl, rfl, rfl, persisted.called⟩
    · exact kept.placed key other stored
  persisted := by
    intro key other stored
    rw [hydrate_states, Dict.get?_set] at stored
    split at stored
    · cases stored
      exact persisted
    · exact kept.persisted key other stored
  hashes := by
    intro id commit stored
    rcases hydrate_commit stored with before | ⟨commitId, brought, given, rfl⟩
    · exact kept.hashes id commit before
    · rcases Option.filter_eq_some_iff.mp given with ⟨same, nonempty⟩
      rw [same] at hash
      exact ⟨hash, of_decide_eq_true nonempty⟩

theorem Kept.of_run (plain : PlainTexts rt) {history : List (Step WorldStateService ServiceCall)}
    (run : (serviceSystem rt).Run history service) : Kept rt service := by
  apply System.Run.invariant run
  · rintro _ rfl
    exact ⟨nofun, nofun, nofun⟩
  · intro service request kept admitted
    cases request with
    | call call => exact kept.perform plain call
    | hydrate state commitHash =>
        cases commitHash with
        | none => exact @Kept.hydrate rt service kept state admitted.1 none none rfl
        | some hash => exact kept.hydrate admitted.1 (some state.commitId) admitted.2

end Keeping

/-! ## The projection of an entity -/

/-- The tables have the state's projection and its commit, as `persist` wrote them. Other
rows may be there, and the row of the entity may be older than what a process holds. -/
structure Projected (rt : Runtime) (tables : Tables) (state : OrderState) (commit : CommitRecord) :
    Prop where
  row : tables.projections.get? (state.tenantId, state.entityId) = some (projectionOf rt state)
  logged : tables.loadCommit state.tenantId state.commitId = some commit

section Projecting

variable {rt : Runtime} {tables : Tables} {state other : OrderState} {commit : CommitRecord}

theorem persist_projected (owner : commit.tenantId = state.tenantId)
    (named : commit.commitId = state.commitId)
    (new : tables.loadCommit commit.tenantId commit.commitId = none) :
    Projected rt (tables.persist rt state commit) state commit := by
  unfold Tables.persist
  rw [new]
  refine ⟨Dict.get?_set_self _ _ _, ?_⟩
  unfold Tables.loadCommit at new ⊢
  rw [← owner, ← named]
  dsimp only
  rw [List.find?_append, new, List.find?_singleton, if_pos (decide_eq_true ⟨rfl, rfl⟩)]
  rfl

/-- Persisting another entity touches neither. -/
theorem Projected.persist (projected : Projected rt tables state commit) {next : CommitRecord}
    (different : (other.tenantId, other.entityId) ≠ (state.tenantId, state.entityId)) :
    Projected rt (tables.persist rt other next) state commit := by
  unfold Tables.persist
  cases known : tables.loadCommit next.tenantId next.commitId with
  | some stored => exact projected
  | none =>
      refine ⟨?_, ?_⟩
      · rw [Dict.get?_set_of_ne _ _ different.symm]
        exact projected.row
      · have logged := projected.logged
        unfold Tables.loadCommit at logged ⊢
        rw [List.find?_append, logged]
        rfl

/-- A state that is read back can be hashed again. -/
theorem Persisted.reread (persisted : Persisted rt state) (same : Reread rt state other) :
    Persisted rt other where
  fit := by
    rcases persisted.fit with ⟨tenant, entityType, entityId, attributes⟩
    rw [same.tenantId, same.entityType, same.entityId]
    refine ⟨tenant, entityType, entityId, ?_⟩
    intro name attr found
    rcases same.get? name with ⟨_, absent⟩ | ⟨original, attr', held, held', read⟩
    · rw [absent] at found
      cases found
    · rw [held'] at found
      cases found
      rcases StateAttribute.reread_some read with ⟨_, _, _, rfl⟩
      rcases attributes name original held with ⟨named, value, fit⟩
      refine ⟨named, ?_, ⟨fit.confidence, fit.freshness, fit.sources, fit.connector⟩⟩
      dsimp only
      rw [recordable_jsonMode]
      exact value
  called := by
    rw [same.entityId, same.entityType]
    exact persisted.called
  commitId := by
    rw [same.commitId]
    exact persisted.commitId
  named := by
    rw [same.commitId]
    exact persisted.named

end Projecting

/-! ## Rebuilding a state by hand -/

/-- One attribute of `reality observe`: five of its entries, looked up by name.  What is not an
object has no `get`. -/
def observedAttribute (rt : Runtime) (data : Json) : Except PyError StateAttribute :=
  match data.entries? with
  | none => .error (.typeError "object has no attribute 'get'")
  | some entries =>
      match Dict.lookup ("observed_at" : Text) entries,
          Dict.lookup ("freshness" : Text) entries,
          Dict.lookup ("source_observation_ids" : Text) entries with
      | none, _, _ => .error (.keyError "observed_at")
      | _, none, _ => .error (.keyError "freshness")
      | _, _, none => .error (.keyError "source_observation_ids")
      | some observedAt, some freshness, some sourceObservationIds =>
          StateAttribute.modelValidate rt (.dict [
            ("value", (Dict.lookup ("value" : Text) entries).getD .null),
            ("confidence", (Dict.lookup ("confidence" : Text) entries).getD (.float ⟨0⟩)),
            ("observed_at", observedAt),
            ("freshness", freshness),
            ("source_observation_ids", sourceObservationIds)])

/-- `reality observe --persist` for a new observation, from its own decoder on. That decoder
reads no connector, so every value comes back without a source. -/
def observe (rt : Runtime) (tables : Tables) (draws : Draws) (tenantId : Text)
    (observation : Observation) : Outcome PyError WorldStateService OrderState :=
  match tables.projections.get? (tenantId, entityIdOf observation) with
  | none => WorldStateService.fresh.ingest rt draws tenantId observation "observation" "observed"
  | some row =>
      match Tables.readValues (observedAttribute rt) row.attributes.entries with
      | .error error => .raises .fresh error
      | .ok attributes =>
          let hydrated : OrderState := {
            tenantId
            entityId := entityIdOf observation
            entityType := row.entityType
            stateVersion := row.stateVersion
            attributes := Dict.ofList attributes
            commitId := row.producingCommitId.getD "" }
          let previous := (truthy? row.producingCommitId).bind (tables.loadCommit tenantId)
          (WorldStateService.fresh.hydrate hydrated row.producingCommitId
            (previous.map CommitRecord.hash)).ingest rt draws tenantId observation "observation"
              "observed"

/-- The same part of `POST /v1/observations`, in a process that holds nothing else. Its
decoder keeps the connectors. -/
def ingestLoaded (rt : Runtime) (tables : Tables) (draws : Draws) (tenantId : Text)
    (observation : Observation) : Outcome PyError WorldStateService OrderState :=
  match tables.loadState rt tenantId (entityIdOf observation) with
  | .error error => .raises .fresh error
  | .ok existing =>
      (WorldStateService.fresh.hydrateFrom tables tenantId existing).ingest rt draws tenantId observation
        "observation" "observed"

/-- Nobody reported the attribute. A value without a connector is never disputed. -/
def StateAttribute.unsourced (attr : StateAttribute) : StateAttribute := { attr with connector := none }

def OrderState.unsourced (state : OrderState) : OrderState :=
  { state with attributes := state.attributes.mapValues (fun _ attr => attr.unsourced) }

section Decoding

variable {rt : Runtime} {tables : Tables} {state : OrderState} {commit : CommitRecord}
variable {draws : Draws} {observation : Observation}

theorem observedAttribute_dump (attr : StateAttribute) :
    observedAttribute rt (attr.dump rt) =
      (StateAttribute.modelValidate rt (attr.dump rt)).map StateAttribute.unsourced := by
  rw [modelValidate_dump]
  unfold observedAttribute StateAttribute.modelValidate StateAttribute.dump StateAttribute.reread
  cases bounded : attr.confidence.inUnit with
  | false =>
      simp [Actions.readOr, Dict.lookup, Json.entries?, Json.float?, Json.text?, guard, bounded,
        Except.map]
  | true =>
      cases parsed : rt.parseIsoformat (rt.isoformat attr.observedAt) with
      | none =>
          simp [Actions.readOr, Dict.lookup, Json.entries?, Json.float?, Json.text?, guard, parsed,
            Except.map]
      | some time =>
          simp [Actions.readOr, Dict.lookup, Json.entries?, Json.float?, Json.text?, guard, bounded,
            parsed, Except.map, StateAttribute.unsourced]

theorem readValues_observed (attributes : List (Text × StateAttribute)) :
    Tables.readValues (observedAttribute rt)
        (attributes.map (fun entry => (entry.1, entry.2.dump rt))) =
      (Tables.readValues (StateAttribute.modelValidate rt)
        (attributes.map (fun entry => (entry.1, entry.2.dump rt)))).map
          (List.map (fun entry => (entry.1, entry.2.unsourced))) := by
  induction attributes with
  | nil => rfl
  | cons entry rest ih =>
      rw [List.map_cons, Tables.readValues, Tables.readValues, observedAttribute_dump]
      cases StateAttribute.modelValidate rt (entry.2.dump rt) with
      | error error => rfl
      | ok attr =>
          change Except.map _ (Tables.readValues (observedAttribute rt) _) = _
          rw [ih]
          cases Tables.readValues (StateAttribute.modelValidate rt)
              (rest.map (fun entry => (entry.1, entry.2.dump rt))) with
          | error error => rfl
          | ok values => rfl

/-- `load_state` of a projection, as a decoder. -/
theorem loadState_row (row : tables.projections.get? (state.tenantId, state.entityId) =
    some (projectionOf rt state)) :
    tables.loadState rt state.tenantId state.entityId =
      (Tables.readValues (StateAttribute.modelValidate rt)
        (state.attributes.entries.map (fun entry => (entry.1, entry.2.dump rt)))).map
          (fun attributes => some { state with attributes := Dict.ofList attributes }) := by
  unfold Tables.loadState
  rw [row]
  dsimp only [projectionOf, dumpAttributes, Dict.mapValues]
  cases Tables.readValues (StateAttribute.modelValidate rt)
      (state.attributes.entries.map (fun entry => (entry.1, entry.2.dump rt))) with
  | error error => rfl
  | ok attributes => rfl

/-- Both requests hydrate with the state's commit, and they raise together. -/
theorem observe_projected (projected : Projected rt tables state commit) (named : state.commitId ≠ "")
    (about : entityIdOf observation = state.entityId) :
    (Exists fun error : PyError =>
      tables.loadState rt state.tenantId state.entityId = .error error ∧
        observe rt tables draws state.tenantId observation = .raises .fresh error ∧
        ingestLoaded rt tables draws state.tenantId observation = .raises .fresh error) ∨
    Exists fun other : OrderState =>
      tables.loadState rt state.tenantId state.entityId = .ok (some other) ∧
      observe rt tables draws state.tenantId observation =
        (WorldStateService.fresh.hydrate other.unsourced (some state.commitId)
          (some commit.hash)).ingest rt draws state.tenantId observation "observation" "observed" ∧
      ingestLoaded rt tables draws state.tenantId observation =
        (WorldStateService.fresh.hydrate other (some state.commitId) (some commit.hash)).ingest rt draws
          state.tenantId observation "observation" "observed" := by
  have decoded := loadState_row projected.row
  unfold observe ingestLoaded
  rw [about, decoded, projected.row]
  dsimp only [projectionOf, dumpAttributes, Dict.mapValues]
  rw [readValues_observed]
  cases Tables.readValues (StateAttribute.modelValidate rt)
      (state.attributes.entries.map (fun entry => (entry.1, entry.2.dump rt))) with
  | error error => exact Or.inl ⟨error, rfl, rfl, rfl⟩
  | ok attributes =>
      refine Or.inr ⟨{ state with attributes := Dict.ofList attributes }, rfl, ?_, ?_⟩
      · change (WorldStateService.fresh.hydrate _ (some state.commitId)
          (((truthy? (some state.commitId)).bind (tables.loadCommit state.tenantId)).map
            CommitRecord.hash)).ingest rt draws state.tenantId observation "observation" "observed" = _
        rw [truthy?_some named, Option.bind_some, projected.logged, Dict.ofList_map]
        rfl
      · change (WorldStateService.fresh.hydrate _ (some state.commitId)
          (((truthy? (some state.commitId)).bind (tables.loadCommit state.tenantId)).map
            CommitRecord.hash)).ingest rt draws state.tenantId observation "observation" "observed" = _
        rw [truthy?_some named, Option.bind_some, projected.logged]
        rfl

end Decoding

/-! ## One reading, two states -/

def valuesOf (attributes : Dict Text StateAttribute) : Dict Text Json :=
  attributes.mapValues (fun _ attr => attr.value)

/-- No held attribute is held back against the reading. The two decoders make no difference then. -/
def Undisputed (previous : Option OrderState) (observation : Observation) : Prop :=
  forall name value, observation.payload.get? name = some value ->
    disputesReading (heldAttributes previous) observation (name, value) = false

section Ingesting

variable (rt : Runtime) (service : WorldStateService) (draws : Draws) (tenantId : Text)
variable (observation : Observation) (cause assuranceLevel : Text)

/-- A reading is not answered with the held state: its attributes cannot be dumped, or a
commit is asked for. -/
def moves (rt : Runtime) (previous : Option OrderState) (incoming : Dict Text StateAttribute) : Bool :=
  !dumpsChange rt previous (compiledAttributes previous incoming) ||
    (previous.isNone || !(ingestChanges rt previous incoming).isEmpty)

/-- A reading that can be projected, by whether it moves the entity and can be compiled. A
reading that moves nothing is answered with the held state, even when a commit of it would be
refused. -/
inductive Settled (previous : Option OrderState) (incoming : Dict Text StateAttribute) :
    Bool -> Bool -> Outcome PyError WorldStateService OrderState -> Prop
  | unchanged (hashed : Bool) (state : OrderState) (stored : previous = some state) :
      Settled previous incoming false hashed
        (.returns (service.merged draws tenantId observation previous incoming) state)
  | refused (error : PyError) : Settled previous incoming true false
      (.raises (service.merged draws tenantId observation previous incoming) error)
  | committed (commit : CommitRecord) : Settled previous incoming true true
      (.returns (((service.merged draws tenantId observation previous incoming).record commit).setState
          (tenantId, observation.objectType, observation.objectId)
          (compiledState tenantId observation previous incoming commit.commitId))
        (compiledState tenantId observation previous incoming commit.commitId))

variable {service draws tenantId observation}

theorem Linkable.settled (linkable : Linkable service)
    (new : service.observations.contains (tenantId, observation.observationId) = false)
    {incoming : Dict Text StateAttribute} (projected : project draws observation = .ok incoming)
    {previous : Option OrderState}
    (stored : service.states.get? (tenantId, observation.objectType, observation.objectId) =
      previous) :
    Settled service draws tenantId observation previous incoming
      (moves rt previous incoming)
      (compilable rt tenantId observation cause assuranceLevel previous incoming)
      (service.ingest rt draws tenantId observation cause assuranceLevel) := by
  have base := linkable.merged draws tenantId observation previous incoming
  have way := ingest_ingestion rt service draws tenantId observation cause assuranceLevel
  rw [stored] at way
  have asked : previous = none ∨ ingestChanges rt previous incoming ≠ [] ->
      moves rt previous incoming = true := by
    unfold moves
    rintro (absent | changed)
    · rw [absent, Option.isNone_none, Bool.true_or, Bool.or_true]
    · rw [Bool.eq_false_iff.mpr (fun empty => changed (List.isEmpty_iff.mp empty)), Bool.not_false,
        Bool.or_true, Bool.or_true]
  generalize service.ingest rt draws tenantId observation cause assuranceLevel = outcome at way ⊢
  cases way with
  | repeated state _ known => exact absurd (new.symm.trans known) Bool.false_ne_true
  | stateless _ known => exact absurd (new.symm.trans known) Bool.false_ne_true
  | unprojected error _ failed => cases projected.symm.trans failed
  | unchanged incoming' state found _ projected' same dumped =>
      cases projected.symm.trans projected'
      have quiet : moves rt previous incoming = false := by
        unfold moves
        rw [dumped, same, found]
        rfl
      rw [quiet]
      exact .unchanged _ state found
  | undumped incoming' _ projected' undumpable =>
      cases projected.symm.trans projected'
      have asked : moves rt previous incoming = true := by
        unfold moves
        rw [undumpable, Bool.not_false, Bool.true_or]
      rw [asked, compilable_of_undumped undumpable]
      exact .refused dumpRefusal
  | refused incoming' error _ projected' changes failed dumped =>
      cases projected.symm.trans projected'
      rw [asked changes, compilable_of_dumped dumped, ← base.createCommit rt draws, failed]
      exact .refused error
  | committed incoming' commit _ projected' changes continues answers dumped =>
      cases projected.symm.trans projected'
      rw [asked changes, compilable_of_dumped dumped, base.answered continues answers]
      exact .committed commit

end Ingesting

section Undisputing

variable {rt : Runtime} {draws : Draws} {tenantId entityType entityId : Text} {label : Text}
variable {observation : Observation} {previous previous' : Option OrderState}

theorem Undisputed.entry (undisputed : Undisputed previous observation) (label : Text)
    {entry : Text × StateAttribute} (member : entry ∈ (projectedReading observation label).entries) :
    disputed? (heldAttributes previous) entry = none := by
  rcases List.mem_map.mp member with ⟨original, inside, rfl⟩
  have free := disputed?_projected (heldAttributes previous) observation label original
  rw [undisputed original.1 original.2 ((Dict.mem_entries_iff _ _ _).mp inside)] at free
  exact Option.isNone_iff_eq_none.mp (Option.isSome_eq_false_iff.mp free)

theorem mergeAttributes_values {held held' : Dict Text StateAttribute}
    (entries : List (Text × StateAttribute))
    (free : forall entry, entry ∈ entries -> disputed? held entry = none ∧ disputed? held' entry = none)
    {merged merged' : Dict Text StateAttribute} (same : valuesOf merged = valuesOf merged') :
    valuesOf (mergeAttributes held entries merged) = valuesOf (mergeAttributes held' entries merged') := by
  induction entries generalizing merged merged' with
  | nil => exact same
  | cons entry rest ih =>
      rcases free entry List.mem_cons_self with ⟨free', free''⟩
      rw [mergeAttributes, mergeAttributes, free', free'']
      apply ih (fun entry member => free entry (List.mem_cons_of_mem _ member))
      unfold valuesOf at same ⊢
      rw [Dict.mapValues_set, Dict.mapValues_set, same]

theorem recordConflicts_quiet {held : Dict Text StateAttribute} (place : Nat)
    (entries : List (Text × StateAttribute))
    (free : forall entry, entry ∈ entries -> disputed? held entry = none) (service : WorldStateService) :
    recordConflicts draws tenantId entityType entityId held place entries service = service := by
  induction entries generalizing place with
  | nil => rfl
  | cons entry rest ih =>
      rw [recordConflicts, free entry List.mem_cons_self]
      exact ih (place + 1) (fun entry member => free entry (List.mem_cons_of_mem _ member))

theorem Undisputed.merged (undisputed : Undisputed previous observation) (service : WorldStateService)
    (label : Text) :
    service.merged draws tenantId observation previous (projectedReading observation label) =
      service.seen tenantId observation :=
  recordConflicts_quiet 0 _ (fun _ member => undisputed.entry label member) _

theorem compiled_values (undisputed : Undisputed previous observation)
    (undisputed' : Undisputed previous' observation)
    (same : valuesOf (heldAttributes previous) = valuesOf (heldAttributes previous')) (label : Text) :
    valuesOf (compiledAttributes previous (projectedReading observation label)) =
      valuesOf (compiledAttributes previous' (projectedReading observation label)) :=
  mergeAttributes_values _
    (fun _ member => ⟨undisputed.entry label member, undisputed'.entry label member⟩) same

theorem dumpedValues_values (attributes : Dict Text StateAttribute) :
    dumpedValues (dumpAttributes rt attributes) =
      (valuesOf attributes).mapValues (fun _ value => value.jsonMode) := by
  rw [dumpedValues, dumpAttributes, valuesOf, Dict.mapValues_mapValues, Dict.mapValues_mapValues]
  rfl

theorem ingestChanges_values (undisputed : Undisputed previous observation)
    (undisputed' : Undisputed previous' observation)
    (same : valuesOf (heldAttributes previous) = valuesOf (heldAttributes previous')) (label : Text) :
    ingestChanges rt previous (projectedReading observation label) =
      ingestChanges rt previous' (projectedReading observation label) := by
  unfold ingestChanges
  rw [attributesFor_held, attributesFor_held]
  apply changedNames_congr
  · rw [dumpedValues_values, dumpedValues_values, same]
  · rw [dumpedValues_values, dumpedValues_values, compiled_values undisputed undisputed' same label]

theorem dumpsAll_of_values {first second : Dict Text StateAttribute}
    (same : valuesOf first = valuesOf second) : dumpsAll rt first = dumpsAll rt second := by
  have alike := congrArg (fun values => values.mapValues (fun _ value => rt.dumps value)) same
  dsimp only [valuesOf] at alike
  rw [Dict.mapValues_mapValues, Dict.mapValues_mapValues] at alike
  rw [dumpsAll_values, dumpsAll_values, alike]

/-- Whether the new attributes can be hashed is decided by the reading. -/
theorem hashableAttributes_compiled (undisputed : Undisputed previous observation)
    (undisputed' : Undisputed previous' observation)
    (held : HashableAttributes rt (heldAttributes previous'))
    (all : HashableAttributes rt (compiledAttributes previous (projectedReading observation label))) :
    HashableAttributes rt (compiledAttributes previous' (projectedReading observation label)) := by
  intro name attr found
  rw [get?_compiledAttributes] at found
  cases read : observation.payload.get? name with
  | none =>
      rw [read] at found
      exact held name attr found
  | some value =>
      rw [read] at found
      dsimp only at found
      rw [undisputed' name value read, if_neg Bool.false_ne_true] at found
      cases found
      apply all name _
      rw [get?_compiledAttributes, read]
      dsimp only
      rw [undisputed name value read, if_neg Bool.false_ne_true]

/-- Neither the held connectors nor the rest of the held state decide whether a reading that
is not held back can be compiled. -/
theorem compilable_values (plain : PlainTexts rt) (undisputed : Undisputed previous observation)
    (undisputed' : Undisputed previous' observation)
    (same : valuesOf (heldAttributes previous) = valuesOf (heldAttributes previous'))
    (held : HashableAttributes rt (heldAttributes previous))
    (held' : HashableAttributes rt (heldAttributes previous')) (cause assuranceLevel label : Text) :
    compilable rt tenantId observation cause assuranceLevel previous
        (projectedReading observation label) =
      compilable rt tenantId observation cause assuranceLevel previous'
        (projectedReading observation label) := by
  have changes := @ingestChanges_values rt observation previous previous' undisputed undisputed' same label
  have before := (recordedEntries_iff plain _).mpr held
  have before' := (recordedEntries_iff plain _).mpr held'
  have dumps := @dumpsAll_of_values rt _ _ (compiled_values undisputed undisputed' same label)
  unfold compilable dumpsChange
  change (dumpsAll rt (heldAttributes previous) && _ && _) = (dumpsAll rt (heldAttributes previous') && _ && _)
  rw [before.1, before'.1, ← dumps, Bool.true_and]
  cases dumped : dumpsAll rt (compiledAttributes previous (projectedReading observation label)) with
  | false => rw [Bool.false_and, Bool.false_and]
  | true =>
      have after : hashableEntries rt (dumpAttributes rt
            (compiledAttributes previous (projectedReading observation label))).entries =
          hashableEntries rt (dumpAttributes rt
            (compiledAttributes previous' (projectedReading observation label))).entries := by
        have recorded := recordedEntries_iff plain
          (compiledAttributes previous (projectedReading observation label))
        have recorded' := recordedEntries_iff plain
          (compiledAttributes previous' (projectedReading observation label))
        rw [dumped, eq_self_iff_true, true_and] at recorded
        rw [← dumps, dumped, eq_self_iff_true, true_and] at recorded'
        rw [Bool.eq_iff_iff, recorded, recorded']
        exact ⟨hashableAttributes_compiled undisputed undisputed' held',
          hashableAttributes_compiled undisputed' undisputed held⟩
      unfold CommitRequest.hashable ingestRequest
      dsimp only
      rw [attributesFor_held, attributesFor_held, before.2, before'.2, after, changes]

end Undisputing

/-! ## The same outcome -/

/-- The version and the values of a state. Sources and labels are left out of the comparison. -/
def OrderState.account (state : OrderState) : Int × Dict Text Json :=
  (state.stateVersion, valuesOf state.attributes)

/-- Both calls raise, or they answer with one version and the same values; and they leave the same
conflicts. -/
structure SameIngestion (first second : Outcome PyError WorldStateService OrderState) : Prop where
  answer : first.result.toOption.map OrderState.account = second.result.toOption.map OrderState.account
  conflicts : SameConflicts first.state second.state

section Comparing

variable {rt : Runtime} {service service' : WorldStateService} {draws : Draws} {tenantId : Text}
variable {observation : Observation} {previous previous' : Option OrderState}

theorem Settled.same {label : Text} {asked hashed : Bool}
    {first second : Outcome PyError WorldStateService OrderState}
    (settled : Settled service draws tenantId observation previous (projectedReading observation label)
      asked hashed first)
    (settled' : Settled service' draws tenantId observation previous'
      (projectedReading observation label) asked hashed second)
    (undisputed : Undisputed previous observation) (undisputed' : Undisputed previous' observation)
    (accounts : previous.map OrderState.account = previous'.map OrderState.account)
    (values : valuesOf (heldAttributes previous) = valuesOf (heldAttributes previous'))
    (conflicts : SameConflicts service service') : SameIngestion first second := by
  have versions : (previous.map (fun state => state.stateVersion + 1)).getD 1 =
      (previous'.map (fun state => state.stateVersion + 1)).getD 1 := by
    have same := congrArg (Option.map (fun account : Int × Dict Text Json => account.1 + 1)) accounts
    rw [Option.map_map, Option.map_map] at same
    exact congrArg (fun version => version.getD 1) same
  have seen : SameConflicts (service.seen tenantId observation) (service'.seen tenantId observation) :=
    ⟨conflicts.openConflicts, conflicts.conflictsById⟩
  have free := @Undisputed.merged draws tenantId observation previous undisputed service label
  have free' := @Undisputed.merged draws tenantId observation previous' undisputed' service' label
  cases settled with
  | unchanged hashed state stored =>
      cases settled' with
      | unchanged hashed state' stored' =>
          rw [stored, stored'] at accounts
          rw [free, free']
          exact ⟨accounts, seen⟩
  | refused error =>
      cases settled' with
      | refused error' =>
          rw [free, free']
          exact ⟨rfl, seen⟩
  | committed commit =>
      cases settled' with
      | committed commit' =>
          rw [free, free']
          refine ⟨congrArg some (Prod.ext versions ?_), ⟨seen.openConflicts, seen.conflictsById⟩⟩
          exact compiled_values undisputed undisputed' values label

/-- A dispute is recorded somewhere. -/
theorem recordConflict_records (service : WorldStateService) (draws : Draws) (place : Nat)
    (tenantId entityType entityId name : Text) (existing incoming : StateAttribute) :
    Exists fun id : Text × Text => ((service.recordConflict draws place tenantId entityType entityId name
      existing incoming).conflictsById.get? id).isSome = true := by
  cases found : service.openConflict? tenantId entityType entityId name with
  | none =>
      rw [recordConflict_absent found]
      exact ⟨_, Option.isSome_of_eq_some (Dict.get?_set_self service.conflictsById _ _)⟩
  | some conflict =>
      cases listed : conflict.lists incoming with
      | true =>
          rw [recordConflict_listed found listed]
          rcases Option.bind_eq_some_iff.mp found with ⟨conflictId, _, stored⟩
          exact ⟨_, Option.isSome_of_eq_some stored⟩
      | false =>
          rw [recordConflict_unlisted found listed]
          exact ⟨_, Option.isSome_of_eq_some (Dict.get?_set_self service.conflictsById _ _)⟩

theorem recordConflicts_records {entityType entityId : Text} {held : Dict Text StateAttribute}
    (place : Nat) (entries : List (Text × StateAttribute))
    (recorded : (Exists fun id : Text × Text => (service.conflictsById.get? id).isSome = true) ∨
      Exists fun entry : Text × StateAttribute => entry ∈ entries ∧
        (disputed? held entry).isSome = true) :
    Exists fun id : Text × Text => ((recordConflicts draws tenantId entityType entityId held place entries
      service).conflictsById.get? id).isSome = true := by
  induction entries generalizing service place with
  | nil =>
      rcases recorded with stored | ⟨entry, member, _⟩
      · exact stored
      · cases member
  | cons entry rest ih =>
      rw [recordConflicts]
      apply ih (place + 1)
      cases disputed : disputed? held entry with
      | some existing => exact Or.inl (recordConflict_records _ _ _ _ _ _ _ _ _)
      | none =>
          rcases recorded with stored | ⟨other, member, waits⟩
          · exact Or.inl stored
          · rcases List.mem_cons.mp member with rfl | later
            · rw [disputed] at waits
              cases waits
            · exact Or.inr ⟨other, later, waits⟩

/-- What an ingestion of a reading leaves of the conflicts. -/
theorem Settled.conflicts {incoming : Dict Text StateAttribute} {asked hashed : Bool}
    {outcome : Outcome PyError WorldStateService OrderState}
    (settled : Settled service draws tenantId observation previous incoming asked hashed outcome) :
    outcome.state.conflictsById =
      (service.merged draws tenantId observation previous incoming).conflictsById := by
  cases settled with
  | unchanged hashed state stored => rfl
  | refused error => rfl
  | committed commit => rfl

/-- Without connectors nothing is held back. -/
theorem undisputed_unsourced (state : OrderState) (observation : Observation) :
    Undisputed (some state.unsourced) observation := by
  intro name value read
  unfold disputesReading
  change ((state.unsourced.attributes).get? name).any _ = false
  unfold OrderState.unsourced
  rw [Dict.get?_mapValues]
  cases state.attributes.get? name with
  | none => rfl
  | some attr =>
      rw [Option.map_some, Option.any_some]
      unfold disputes StateAttribute.unsourced
      rw [Option.isSome_none, Bool.and_false, Bool.false_and]

theorem Persisted.unsourced {state : OrderState} (persisted : Persisted rt state) :
    Persisted rt state.unsourced where
  fit := by
    rcases persisted.fit with ⟨tenant, entityType, entityId, attributes⟩
    refine ⟨tenant, entityType, entityId, ?_⟩
    intro name attr found
    change (state.attributes.mapValues (fun _ attr => attr.unsourced)).get? name = some attr at found
    rw [Dict.get?_mapValues, Option.map_eq_some_iff] at found
    rcases found with ⟨original, held, rfl⟩
    rcases attributes name original held with ⟨named, value, fit⟩
    exact ⟨named, value, ⟨fit.confidence, fit.freshness, fit.sources, rfl⟩⟩
  called := persisted.called
  commitId := persisted.commitId
  named := persisted.named

/-- A process that was restarted with a state and its commit. -/
theorem Persisted.restarted (plain : PlainTexts rt) {state : OrderState} (persisted : Persisted rt state)
    {hash : Text} (encodable : hash.encodable = true) (nonempty : hash ≠ "") :
    Anchors rt (WorldStateService.fresh.hydrate state (some state.commitId) (some hash)) := by
  have admitted : (ServiceCall.hydrate state (some (some hash))).Admitted rt .fresh :=
    ⟨persisted, encodable⟩
  refine ((Anchors.fresh rt).step_iff plain admitted).2 (Or.inl ?_)
  change (truthy? (some hash)).isSome = true
  rw [truthy?_some nonempty]
  rfl

/-- An observation of a persisted entity finds it under its own type and identifier. -/
theorem Persisted.about {state : OrderState} (persisted : Persisted rt state)
    (about : entityIdOf observation = state.entityId) :
    observation.objectType = state.entityType.lower ∧
      observation.objectId = state.entityId.afterColon := by
  have named : observation.objectId = state.entityId.afterColon :=
    (hydrated_key observation).2.symm.trans (congrArg Text.afterColon about)
  refine ⟨?_, named⟩
  have whole := about.trans persisted.called
  unfold entityIdOf at whole
  rw [named] at whole
  exact Text.append_left_injective _ (Text.append_left_injective _ whole)

/-- Two processes without conflicts hold one entity with the same values, and the first holds
nothing back.  They agree on a reading exactly when the second holds nothing back either. -/
theorem ingest_agrees_iff (plain : PlainTexts rt) (ready : Ready rt service) (ready' : Ready rt service')
    (new : service.observations.contains (tenantId, observation.observationId) = false)
    (new' : service'.observations.contains (tenantId, observation.observationId) = false)
    (held : service.states.get? (tenantId, observation.objectType, observation.objectId) = previous)
    (held' : service'.states.get? (tenantId, observation.objectType, observation.objectId) = previous')
    (accounts : previous.map OrderState.account = previous'.map OrderState.account)
    (values : valuesOf (heldAttributes previous) = valuesOf (heldAttributes previous'))
    (conflicts : SameConflicts service service') (nothing : service.conflictsById = Dict.empty)
    (free : Undisputed previous observation) (cause assuranceLevel : Text) :
    SameIngestion (service.ingest rt draws tenantId observation cause assuranceLevel)
        (service'.ingest rt draws tenantId observation cause assuranceLevel) <->
      observation.observedAt.instant? = none ∨ Undisputed previous' observation := by
  cases aware : observation.observedAt.instant? with
  | none =>
      refine iff_of_true ?_ (Or.inl rfl)
      rw [ingest_naive_raises new aware, ingest_naive_raises new' aware]
      exact ⟨rfl, ⟨conflicts.openConflicts, conflicts.conflictsById⟩⟩
  | some observed =>
      have projects := project_eq draws aware
      have settled := ready.linkable.settled rt cause assuranceLevel new projects held
      have settled' := ready'.linkable.settled rt cause assuranceLevel new' projects held'
      constructor
      · intro same
        refine Or.inr (fun name value read => ?_)
        by_contra disputed
        have recorded := @recordConflicts_records (service'.seen tenantId observation) draws tenantId
          observation.objectType observation.objectId (heldAttributes previous') 0
          (projectedReading observation (freshnessLabel draws observed)).entries
          (Or.inr ⟨_, List.mem_map_of_mem ((Dict.mem_entries_iff _ _ _).mpr read), by
            rw [disputed?_projected _ observation _ (name, value)]
            exact Bool.eq_true_of_not_eq_false disputed⟩)
        rcases recorded with ⟨id, stored⟩
        have empty : (service'.merged draws tenantId observation previous'
            (projectedReading observation (freshnessLabel draws observed))).conflictsById = Dict.empty := by
          rw [← settled'.conflicts, ← same.conflicts.conflictsById, settled.conflicts, free.merged]
          exact nothing
        change ((service'.merged draws tenantId observation previous'
          (projectedReading observation (freshnessLabel draws observed))).conflictsById.get? id).isSome =
            true at stored
        rw [empty] at stored
        cases stored
      · rintro (naive | undisputed)
        · cases naive
        · have fit : HashableAttributes rt (heldAttributes previous) := held ▸ ready.held _
          have fit' : HashableAttributes rt (heldAttributes previous') := held' ▸ ready'.held _
          have asked := @ingestChanges_values rt observation previous previous' free undisputed values
            (freshnessLabel draws observed)
          have hashed := @compilable_values rt tenantId observation previous previous' plain free
            undisputed values fit fit' cause assuranceLevel (freshnessLabel draws observed)
          have dumps : dumpsChange rt previous (compiledAttributes previous
                (projectedReading observation (freshnessLabel draws observed))) =
              dumpsChange rt previous' (compiledAttributes previous'
                (projectedReading observation (freshnessLabel draws observed))) :=
            congrArg₂ Bool.and (dumpsAll_of_values values)
              (dumpsAll_of_values (compiled_values free undisputed values _))
          have none : previous.isNone = previous'.isNone := by
            have same := congrArg Option.isNone accounts
            rw [Option.isNone_map, Option.isNone_map] at same
            exact same
          have moved : moves rt previous (projectedReading observation (freshnessLabel draws observed)) =
              moves rt previous' (projectedReading observation (freshnessLabel draws observed)) := by
            unfold moves
            rw [dumps, asked, none]
          rw [moved, hashed] at settled
          exact settled.same settled' free undisputed accounts values conflicts

/-- Ingesting into a restarted process, without the connectors and with them. -/
theorem restarted_agrees_iff (plain : PlainTexts rt) {state : OrderState} (persisted : Persisted rt state)
    {hash : Text} (encodable : hash.encodable = true) (nonempty : hash ≠ "") (draws : Draws)
    (about : (state.tenantId, observation.objectType, observation.objectId) =
      (state.tenantId, state.entityType.lower, state.entityId.afterColon)) :
    SameIngestion
        ((WorldStateService.fresh.hydrate state.unsourced (some state.commitId) (some hash)).ingest rt
          draws state.tenantId observation "observation" "observed")
        ((WorldStateService.fresh.hydrate state (some state.commitId) (some hash)).ingest rt draws
          state.tenantId observation "observation" "observed") <->
      observation.observedAt.instant? = none ∨ Undisputed (some state) observation := by
  have values : valuesOf state.unsourced.attributes = valuesOf state.attributes := by
    unfold OrderState.unsourced valuesOf
    rw [Dict.mapValues_mapValues]
    rfl
  rcases hydrate_sameConflicts .fresh state.unsourced (some state.commitId) (some hash) with
      ⟨opens, stored⟩
  rcases hydrate_sameConflicts .fresh state (some state.commitId) (some hash) with ⟨opens', stored'⟩
  refine @ingest_agrees_iff rt _ _ draws state.tenantId observation (some state.unsourced) (some state) plain
    (persisted.unsourced.restarted plain encodable nonempty).ready
    (persisted.restarted plain encodable nonempty).ready ?_ ?_ ?_ ?_ ?_ values
    ⟨opens.symm.trans opens', stored.symm.trans stored'⟩ stored.symm
    (undisputed_unsourced state observation) _ _
  · rw [hydrate_observations]
    rfl
  · rw [hydrate_observations]
    rfl
  · rw [about, hydrate_states]
    exact Dict.get?_set_self _ _ _
  · rw [about, hydrate_states]
    exact Dict.get?_set_self _ _ _
  · exact congrArg (fun values => some (state.stateVersion, values)) values

/-- Observing an entity from the command line and through the API, when its projection is the one
that `persist` wrote. -/
theorem observe_agrees_iff (plain : PlainTexts rt) {history : List (Step WorldStateService ServiceCall)}
    (run : (serviceSystem rt).Run history service) {key : Text × Text × Text} {state : OrderState}
    (held : service.states.get? key = some state) {commit : CommitRecord}
    (stored : service.commits.get? (state.tenantId, state.commitId) = some commit) {tables : Tables}
    (projected : Projected rt tables state commit) (draws : Draws)
    (about : entityIdOf observation = state.entityId) :
    SameIngestion (observe rt tables draws state.tenantId observation)
        (ingestLoaded rt tables draws state.tenantId observation) <->
      observation.observedAt.instant? = none ∨
        forall other, Reread rt state other -> Undisputed (some other) observation := by
  have kept := Kept.of_run plain run
  have persisted := kept.persisted key state held
  rcases kept.hashes _ commit stored with ⟨encodable, nonempty⟩
  rcases @observe_projected rt tables state commit draws observation projected persisted.named about with
    ⟨error, unread, raised, raised'⟩ | ⟨other, loaded, observed, ingested⟩
  · refine iff_of_true ?_ (Or.inr (fun other same => ?_))
    · rw [raised, raised']
      exact ⟨rfl, .refl _⟩
    · cases unread.symm.trans (same.loadState projected.row)
  · have same := loadState_projection projected.row loaded
    have sole : (forall other, Reread rt state other -> Undisputed (some other) observation) <->
        Undisputed (some other) observation := by
      constructor
      · exact fun all => all other same
      · intro free other' same'
        have equal := (same'.loadState projected.row).symm.trans loaded
        rw [Option.some.inj (Except.ok.inj equal)]
        exact free
    rw [sole, observed, ingested, ← same.tenantId, ← same.commitId]
    refine @restarted_agrees_iff rt observation plain other (persisted.reread same) commit.hash encodable
      nonempty draws ?_
    rcases (persisted.reread same).about (about.trans same.entityId.symm) with ⟨typed, named⟩
    rw [typed, named]

end Comparing

/-! ## Two readings of a persisted order -/

def observedOnce : List ServiceCall := [.call (sampleIngest 10 "demo" openReading)]

/-- A process that has ingested one reading of an order. -/
def observingService : WorldStateService := ((serviceSystem .plain).trace .fresh observedOnce).2

theorem observingService_run :
    (serviceSystem .plain).Run ((serviceSystem .plain).trace .fresh observedOnce).1 observingService := by
  have facts : WorldStateService.fresh.DrawsFresh (sampleIngest 10 "demo" openReading) ∧
      (sampleIngest 10 "demo" openReading).FreshConflicts .fresh := by
    decide +kernel
  exact System.run_trace observedOnce rfl ⟨facts, trivial⟩

/-- The tables of that process. -/
def observingTables (state : OrderState) (commit : CommitRecord) : Tables :=
  Tables.empty.persist .plain state commit

/-- The connector that reported the order reports it again. -/
theorem observe_agrees_sample :
    Exists fun state : OrderState => Exists fun commit : CommitRecord =>
      observingService.states.get? ("demo", "order", "1001") = some state ∧
        observingService.commits.get? ("demo", state.commitId) = some commit ∧
        SameIngestion
          (observe .plain (observingTables state commit) (.numbered 20) "demo" cancelledReading)
          (ingestLoaded .plain (observingTables state commit) (.numbered 20) "demo" cancelledReading) := by
  have facts : (observingService.states.get? ("demo", "order", "1001")).any (fun state =>
      decide (state.tenantId = ("demo" : Text) ∧ entityIdOf cancelledReading = state.entityId) &&
        state.attributes.values.all (fun attr => decide (attr.connector = some ("shopify" : Text))) &&
        (observingService.commits.get? ("demo", state.commitId)).any (fun commit =>
          decide (commit.tenantId = ("demo" : Text) ∧ commit.commitId = state.commitId))) = true := by
    decide +kernel
  rcases (Option.any_eq_true _ _).mp facts with ⟨state, held, facts⟩
  rw [Bool.and_eq_true, Bool.and_eq_true, decide_eq_true_eq, List.all_eq_true] at facts
  rcases facts with ⟨⟨⟨tenant, about⟩, reported⟩, facts⟩
  rcases (Option.any_eq_true _ _).mp facts with ⟨commit, stored, facts⟩
  rcases of_decide_eq_true facts with ⟨owner, named⟩
  refine ⟨state, commit, held, stored, ?_⟩
  have projected := @persist_projected .plain Tables.empty state commit (owner.trans tenant.symm) named rfl
  rw [← tenant] at stored ⊢
  refine (observe_agrees_iff plain_plainTexts observingService_run held stored projected (.numbered 20)
    about).mpr (Or.inr ?_)
  intro other same name value read
  unfold disputesReading
  change (other.attributes.get? name).any _ = false
  rcases same.get? name with ⟨_, absent⟩ | ⟨attr, attr', held, held', read⟩
  · rw [absent]
    rfl
  · rcases StateAttribute.reread_some read with ⟨_, _, _, rfl⟩
    have connector := of_decide_eq_true (reported attr ((Dict.mem_values_iff _ _).mpr ⟨name, held⟩))
    rw [held', Option.any_some]
    unfold disputes
    dsimp only
    rw [connector]
    exact Bool.and_eq_false_iff.mpr (Or.inr (decide_eq_false (fun different => different rfl)))

/-- The back office has reported the order through the API. -/
def postedOnce : List ServiceCall := [.call (sampleIngest 10 "demo" disagreeingReading)]

def postedService : WorldStateService := ((serviceSystem .plain).trace .fresh postedOnce).2

theorem postedService_run :
    (serviceSystem .plain).Run ((serviceSystem .plain).trace .fresh postedOnce).1 postedService := by
  have facts : WorldStateService.fresh.DrawsFresh (sampleIngest 10 "demo" disagreeingReading) ∧
      (sampleIngest 10 "demo" disagreeingReading).FreshConflicts .fresh := by
    decide +kernel
  exact System.run_trace postedOnce rfl ⟨facts, trivial⟩

/-- The back office has reported an order as cancelled, and the command line reads it open from
Shopify: it takes the status over, where the API holds it back as a conflict. -/
theorem observe_overwrites :
    Exists fun history => Exists fun state : OrderState => Exists fun commit : CommitRecord =>
      (serviceSystem .plain).Run history postedService ∧
        postedService.states.get? ("demo", "order", "1001") = some state ∧
        postedService.commits.get? ("demo", state.commitId) = some commit ∧
        let observed := observe .plain (observingTables state commit) (.numbered 20) "demo" openReading
        let ingested := ingestLoaded .plain (observingTables state commit) (.numbered 20) "demo"
          openReading
        observed.result.toOption.bind (fun state => state.value? "status") = some (.str "open") ∧
          observed.state.conflictsById.entries.length = 0 ∧
          ingested.result.toOption.bind (fun state => state.value? "status") =
            some (.str "cancelled") ∧
          ingested.state.conflictsById.entries.length = 1 := by
  have facts : (postedService.states.get? ("demo", "order", "1001")).any (fun state =>
      (postedService.commits.get? ("demo", state.commitId)).any (fun commit =>
        let observed := observe .plain (observingTables state commit) (.numbered 20) "demo" openReading
        let ingested := ingestLoaded .plain (observingTables state commit) (.numbered 20) "demo"
          openReading
        decide (observed.result.toOption.bind (fun state => state.value? "status") =
            some (.str "open") ∧
          observed.state.conflictsById.entries.length = 0 ∧
          ingested.result.toOption.bind (fun state => state.value? "status") =
            some (.str "cancelled") ∧
          ingested.state.conflictsById.entries.length = 1))) = true := by
    decide +kernel
  rcases (Option.any_eq_true _ _).mp facts with ⟨state, held, facts⟩
  rcases (Option.any_eq_true _ _).mp facts with ⟨commit, stored, facts⟩
  exact ⟨_, state, commit, postedService_run, held, stored, of_decide_eq_true facts⟩

end WorldState
end RealityLayer
