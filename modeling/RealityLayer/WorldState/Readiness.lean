import RealityLayer.WorldState.Provenance
import RealityLayer.WorldState.Renaming

namespace RealityLayer
namespace WorldState

open Foundation Python RealityGit WorldStateService

/-!
# What a service is ready to commit

A commit is refused when its contents cannot be dumped or cannot be hashed.  Everything
a service already holds was dumped and hashed once, so the only part of a later commit
that can be refused is the part that is new.  `Ready` keeps this fact beside the two maps
of the conflicts: every held state can be hashed again, and so can everything a
resolution takes from a conflict.

The candidates of a conflict are part of the same invariant: there are at least
two, and no two of them agree in both their connector and their value.
-/

/-- The texts that the interpreter writes itself are valid Unicode: hexadecimal digests,
times and floats. It is documented behaviour of the standard library, and not of this code. -/
structure PlainTexts (rt : Runtime) : Prop where
  digests : DigestsEncodable rt
  times : forall time, (rt.isoformat time).encodable = true
  floats : forall number, (rt.floatRepr number).encodable = true

theorem plain_plainTexts : PlainTexts .plain where
  digests := plain_digestsEncodable
  times := fun time => @dumps_scalar .plain (.int time.wall)
  floats := fun _ => Text.encodable_ofString _

/-! ## Attributes -/

/-- What an attribute carries beside its value can be hashed. Its freshness label, its
connector and its sources come from an accepted observation. -/
structure StateAttribute.Fit (attr : StateAttribute) : Prop where
  confidence : attr.confidence.finite = true
  freshness : attr.freshness.encodable = true
  sources : attr.sourceObservationIds.all Text.encodable = true
  connector : attr.connector.all Text.encodable = true

/-- A value can be dumped, and `hash_json` accepts the dump.  Neither follows from the other:
hashing has no limit on the depth, and a dump keeps texts that are not valid Unicode. -/
def recordable (rt : Runtime) (value : Json) : Bool :=
  rt.dumps value && hashable rt value.jsonMode

/-- The attributes of a map can be dumped, and hashed under their names. -/
def HashableAttributes (rt : Runtime) (attributes : Dict Text StateAttribute) : Prop :=
  forall name attr, attributes.get? name = some attr ->
    name.encodable = true ∧ recordable rt attr.value = true ∧ attr.Fit

section Attributes

variable {rt : Runtime}

theorem dumpHashable_iff (plain : PlainTexts rt) (name : Text) (attr : StateAttribute) :
    dumpHashable rt name attr = true <->
      name.encodable = true ∧ hashable rt attr.value.jsonMode = true ∧ attr.Fit := by
  unfold dumpHashable StateAttribute.dump RealityGit.hashable
  simp only [Json.finite, Json.finiteEntries, encodableJson, encodableEntries, encodableItems_str,
    encodableJson_ofText?, Json.finiteList_map_str, Json.finite_ofText?, finite_jsonMode, plain.times, plain.floats,
    Text.encodable_ofString, Bool.true_and, Bool.and_true, Bool.and_eq_true]
  constructor
  · rintro ⟨confidence, named, value, freshness, sources, connector⟩
    exact ⟨named, value, confidence, freshness, sources, connector⟩
  · rintro ⟨named, value, fit⟩
    exact ⟨fit.confidence, named, value, fit.freshness, fit.sources, fit.connector⟩

theorem recordable_iff {value : Json} :
    recordable rt value = true <-> rt.dumps value = true ∧ hashable rt value.jsonMode = true :=
  Bool.and_eq_true_iff

theorem recordable_text (text : Text) : recordable rt (.str text) = text.encodable := by
  unfold recordable
  rw [rt.dumps_scalar _ rfl, Bool.true_and]
  exact Bool.true_and _

/-- A value that was written down can be written down again. -/
theorem recordable_jsonMode (value : Json) : recordable rt value.jsonMode = recordable rt value := by
  unfold recordable
  rw [rt.dumps_jsonMode, Json.jsonMode_of_finite _ (finite_jsonMode value)]

theorem recordedEntries_iff (plain : PlainTexts rt) (attributes : Dict Text StateAttribute) :
    dumpsAll rt attributes = true ∧ hashableEntries rt (dumpAttributes rt attributes).entries = true <->
      HashableAttributes rt attributes := by
  rw [dumpsAll_iff, hashableEntries_dump, List.all_eq_true]
  constructor
  · rintro ⟨dumped, all⟩ name attr held
    have mapped : (attributes.mapValues (dumpHashable rt)).get? name =
        some (dumpHashable rt name attr) := by
      rw [Dict.get?_mapValues, held]
      rfl
    rcases (dumpHashable_iff plain name attr).mp
      (all _ ((Dict.mem_entries_iff _ _ _).mpr mapped)) with ⟨named, hashed, fit⟩
    exact ⟨named, recordable_iff.mpr ⟨dumped name attr held, hashed⟩, fit⟩
  · intro all
    refine ⟨fun name attr held => (recordable_iff.mp (all name attr held).2.1).1, ?_⟩
    intro entry member
    have found := (Dict.mem_entries_iff _ entry.1 entry.2).mp member
    rw [Dict.get?_mapValues, Option.map_eq_some_iff] at found
    rcases found with ⟨attr, held, same⟩
    rcases all entry.1 attr held with ⟨named, value, fit⟩
    rw [← same]
    exact (dumpHashable_iff plain entry.1 attr).mpr ⟨named, (recordable_iff.mp value).2, fit⟩

/-- Held and compiled attributes that can be recorded do not stop the dumps. -/
theorem dumpsChange_of_recorded {previous : Option OrderState}
    {attributes : Dict Text StateAttribute}
    (held : HashableAttributes rt (heldAttributes previous)) (next : HashableAttributes rt attributes) :
    dumpsChange rt previous attributes = true :=
  Bool.and_eq_true_iff.mpr ⟨dumpsAll_iff.mpr fun name attr stored =>
      (recordable_iff.mp (held name attr stored).2.1).1,
    dumpsAll_iff.mpr fun name attr stored => (recordable_iff.mp (next name attr stored).2.1).1⟩

/-- The changed names are names of one of the two dumps. -/
theorem changedNames_encodable {before after : Dict Text StateAttribute}
    (left : HashableAttributes rt before) (right : HashableAttributes rt after) :
    hashableEntries rt (semanticDiff (changedNames (dumpAttributes rt before)
      (dumpAttributes rt after))).entries = true := by
  have known : forall attributes, HashableAttributes rt attributes -> forall name,
      name ∈ (dumpAttributes rt attributes).keys -> name.encodable = true := by
    intro attributes all name member
    have bound : (dumpAttributes rt attributes).get? name ≠ none :=
      fun absent => (Dict.get?_eq_none_iff _ _).mp absent member
    unfold dumpAttributes at bound
    rw [Dict.get?_mapValues] at bound
    cases held : attributes.get? name with
    | none => exact absurd (by rw [held]; rfl) bound
    | some attr => exact (all name attr held).1
  have names : (changedNames (dumpAttributes rt before) (dumpAttributes rt after)).all
      Text.encodable = true := by
    rw [List.all_eq_true]
    intro name member
    have differs := (mem_changedNames _ _ name).mp member
    by_cases inside : name ∈ (dumpAttributes rt before).keys
    · exact known before left name inside
    by_cases inside' : name ∈ (dumpAttributes rt after).keys
    · exact known after right name inside'
    unfold Differs at differs
    rw [attributeValue_absent inside, attributeValue_absent inside'] at differs
    cases differs
  generalize changedNames (dumpAttributes rt before) (dumpAttributes rt after) = changed at names ⊢
  change hashableEntries rt [(("attributes_changed" : Text), Json.list (changed.map .str))] = true
  unfold hashableEntries
  simp only [Json.finiteEntries, Json.finite, Json.finiteList_map_str, encodableEntries, encodableJson,
    encodableItems_str, names, Text.encodable_ofString, Bool.and_self]

theorem Observation.encodable (observation : Observation) :
    observation.objectType.encodable = true ∧ observation.objectId.encodable = true := by
  have valid := observation.valid
  unfold ObservationFields.accepted at valid
  simp only [Bool.and_eq_true, Bool.or_eq_true, decide_eq_true_eq] at valid
  refine ⟨?_, valid.2.1.1⟩
  rcases valid.1.2 with same | same
  · rw [same]
    exact Text.encodable_ofString _
  · rw [same]
    exact Text.encodable_ofString _

/-- A reading can be compiled when what is held can be recorded and what follows it can be,
under a tenant and a cause that are valid Unicode. -/
theorem compilable_of_recorded (plain : PlainTexts rt) {tenantId cause assuranceLevel : Text}
    {observation : Observation} {previous : Option OrderState} {incoming : Dict Text StateAttribute}
    (owner : tenantId.encodable = true) (caused : cause.encodable = true)
    (held : HashableAttributes rt (heldAttributes previous))
    (next : HashableAttributes rt (compiledAttributes previous incoming)) :
    compilable rt tenantId observation cause assuranceLevel previous incoming = true := by
  rcases observation.encodable with ⟨typed, named⟩
  rw [compilable_of_dumped (dumpsChange_of_recorded held next)]
  unfold CommitRequest.hashable ingestRequest ingestChanges
  dsimp only
  rw [attributesFor_held]
  simp only [Bool.and_eq_true]
  refine ⟨⟨⟨⟨⟨⟨⟨owner, typed⟩, named⟩, caused⟩, ?_⟩, ((recordedEntries_iff plain _).mpr held).2⟩,
    ((recordedEntries_iff plain _).mpr next).2⟩, changedNames_encodable held next⟩
  rw [List.all_cons, observationId_encodable, List.all_nil, Bool.and_self]

end Attributes

/-! ## Conflicts -/

/-- `_record_conflict` takes the second for the first. The weights and the times may differ. -/
def ConflictCandidate.agrees (first second : ConflictCandidate) : Bool :=
  decide (first.connector = second.connector) && first.value.pyEq second.value

def Conflict.entityKey (conflict : Conflict) : Text × Text × Text :=
  (conflict.tenantId, conflict.entityType, conflict.entityId)

/-- What a resolution copies from a candidate can be hashed. The candidate's value is not
copied, because the operator gives the value. -/
structure ConflictCandidate.Fit (candidate : ConflictCandidate) : Prop where
  confidence : candidate.confidence.finite = true
  source : candidate.observationId.all Text.encodable = true

/-- A conflict between different candidates, all of which can be hashed but for their values.
A disputed value was kept out of the state, and was neither dumped nor hashed. -/
structure Conflict.Fit (conflict : Conflict) : Prop where
  named : conflict.conflictId.encodable = true
  about : conflict.attributeName.encodable = true
  candidates : forall candidate, candidate ∈ conflict.candidates -> candidate.Fit
  several : 2 ≤ conflict.candidates.length
  apart : conflict.candidates.Pairwise (fun first second => first.agrees second = false)

section Conflicts

variable {conflict : Conflict} {existing incoming : StateAttribute}

theorem StateAttribute.Fit.candidate {attr : StateAttribute} (fit : attr.Fit) :
    (candidateOf attr).Fit := by
  refine ⟨fit.confidence, ?_⟩
  change attr.sourceObservationIds.getLast?.all Text.encodable = true
  cases last : attr.sourceObservationIds.getLast? with
  | none => rfl
  | some observationId =>
      exact List.all_eq_true.mp fit.sources observationId (List.mem_of_getLast? last)

theorem openedConflict_fit {draws : Draws} {place : Nat} {tenantId entityType entityId name : Text}
    (named : name.encodable = true) (held : (candidateOf existing).Fit)
    (read : (candidateOf incoming).Fit)
    (disputed : disputes existing incoming = true) :
    (openedConflict draws place tenantId entityType entityId name existing incoming).Fit where
  named := by
    change (newConflictId draws place).encodable = true
    unfold newConflictId
    rw [Text.encodable_append, Text.encodable_ofString, Draws.hex16_encodable, Bool.and_self]
  about := named
  candidates := by
    intro candidate member
    rcases List.mem_cons.mp member with rfl | later
    · exact held
    · rw [List.mem_singleton.mp later]
      exact read
  several := Nat.le_refl 2
  apart := by
    refine List.pairwise_cons.mpr ⟨?_, List.pairwise_singleton _ _⟩
    intro other member
    rw [List.mem_singleton.mp member]
    unfold disputes at disputed
    rw [Bool.and_eq_true, decide_eq_true_eq] at disputed
    change (decide (existing.connector = incoming.connector) && existing.value.pyEq incoming.value) = false
    rw [decide_eq_false disputed.2, Bool.false_and]

theorem Conflict.Fit.extended (fit : conflict.Fit) (read : (candidateOf incoming).Fit)
    (unlisted : conflict.lists incoming = false) : (conflict.extended incoming).Fit where
  named := fit.named
  about := fit.about
  candidates := by
    intro candidate member
    rcases List.mem_append.mp member with before | last
    · exact fit.candidates candidate before
    · rw [List.mem_singleton.mp last]
      exact read
  several := by
    change 2 ≤ (conflict.candidates ++ [candidateOf incoming]).length
    rw [List.length_append]
    exact Nat.le_add_right_of_le fit.several
  apart := by
    refine List.pairwise_append.mpr ⟨fit.apart, List.pairwise_singleton _ _, ?_⟩
    intro first member second last
    rw [List.mem_singleton.mp last]
    unfold Conflict.lists at unlisted
    exact Bool.eq_false_iff.mpr (List.any_eq_false.mp unlisted first member)

theorem Conflict.Fit.closed (fit : conflict.Fit) (resolvedValue : Json) (resolvedBy reason : Text)
    (now : Timestamp) : (conflict.closed resolvedValue resolvedBy reason now).Fit :=
  ⟨fit.named, fit.about, fit.candidates, fit.several, fit.apart⟩

end Conflicts

/-! ## Ready services -/

/-- A held state can be dumped and hashed again, under its own key. It was recorded once,
when its commit was made. -/
structure FitState (rt : Runtime) (key : Text × Text × Text) (state : OrderState) : Prop where
  tenant : key.1.encodable = true
  entityType : key.2.1.encodable = true
  entityId : key.2.2.encodable = true
  attributes : HashableAttributes rt state.attributes

/-- Every conflict is fit, and about an entity that is held in `world`. -/
def FitConflicts (world service : WorldStateService) : Prop :=
  forall id conflict, service.conflictsById.get? id = some conflict ->
    conflict.Fit ∧ (world.states.get? conflict.entityKey).isSome = true

structure Ready (rt : Runtime) (service : WorldStateService) : Prop where
  stored : Stored service
  filed : Filed service
  covered : Covered service
  linkable : Linkable service
  states : forall key state, service.states.get? key = some state -> FitState rt key state
  conflicts : FitConflicts service service

/-- Recording one conflict. -/
theorem FitConflicts.recorded {world service : WorldStateService} {draws : Draws} {place : Nat}
    {tenantId entityType entityId name : Text} {existing incoming : StateAttribute}
    (fit : FitConflicts world service) (filed : Filed service) (named : name.encodable = true)
    (placed : (world.states.get? (tenantId, entityType, entityId)).isSome = true)
    (held : (candidateOf existing).Fit) (read : (candidateOf incoming).Fit)
    (disputed : disputes existing incoming = true) :
    FitConflicts world
      (service.recordConflict draws place tenantId entityType entityId name existing incoming) := by
  cases found : service.openConflict? tenantId entityType entityId name with
  | none =>
      rw [recordConflict_absent found]
      intro id conflict stored
      change (service.conflictsById.set _ (openedConflict draws place tenantId entityType entityId name
        existing incoming)).get? id = some conflict at stored
      rw [Dict.get?_set] at stored
      split at stored
      · cases stored
        exact ⟨openedConflict_fit named held read disputed, placed⟩
      · exact fit id conflict stored
  | some conflict =>
      cases listed : conflict.lists incoming with
      | true =>
          rw [recordConflict_listed found listed]
          exact fit
      | false =>
          rw [recordConflict_unlisted found listed]
          intro id other stored
          change (service.conflictsById.set _ (conflict.extended incoming)).get? id = some other at stored
          rw [Dict.get?_set] at stored
          split at stored
          · cases stored
            rcases fit _ conflict (filed.openConflict found).2.1 with ⟨sound, held'⟩
            exact ⟨sound.extended read listed, held'⟩
          · exact fit id other stored

section Steps

variable {rt : Runtime} {service : WorldStateService}

theorem Ready.fresh (rt : Runtime) : Ready rt .fresh where
  stored := .fresh
  filed := .fresh
  covered := .fresh
  linkable := .fresh
  states := nofun
  conflicts := nofun

/-- What a commit led to was dumped for it, and hashed with it. -/
theorem FitState.of_advanced (plain : PlainTexts rt) {previous : Option OrderState}
    {commit : CommitRecord} {state : OrderState} (advances : Advances rt previous commit state)
    (genuine : SealedCommit rt commit) : FitState rt commit.entityKey state := by
  have accepted := ((hashJson_ok_iff _ _).mp genuine).1
  unfold RealityGit.hashable commitBody at accepted
  simp only [Json.finite, Json.finiteEntries, encodableJson, encodableEntries, Bool.and_eq_true]
    at accepted
  rcases accepted with ⟨finite, texts⟩
  refine ⟨texts.2.1.2, texts.2.2.2.1.2, texts.2.2.2.2.1.2, ?_⟩
  apply (recordedEntries_iff plain _).mp
  refine ⟨advances.dumped, ?_⟩
  rw [← advances.after]
  unfold hashableEntries
  rw [Bool.and_eq_true]
  exact ⟨finite.2.2.2.2.2.2.2.2.1, texts.2.2.2.2.2.2.2.2.1.2⟩

theorem FitConflicts.grows {world after : WorldStateService} (fit : FitConflicts world service)
    (grows : OnlyGrows world after) : FitConflicts after service := by
  intro id conflict found
  rcases fit id conflict found with ⟨conflict, placed⟩
  rcases Option.isSome_iff_exists.mp placed with ⟨state, held⟩
  rcases grows _ state held with ⟨later, held', _⟩
  exact ⟨conflict, by rw [held']; rfl⟩

theorem FitConflicts.congr {world after : WorldStateService} (fit : FitConflicts world service)
    (same : SameConflicts service after) : FitConflicts world after := by
  unfold FitConflicts
  rw [← same.conflictsById]
  exact fit

variable (rt) in
theorem FitConflicts.ingest (ready : Ready rt service) {draws : Draws} {tenantId : Text}
    {observation : Observation} (cause assuranceLevel : Text)
    (fresh : FreshIds service tenantId draws 0 observation.payload.entries.length) :
    FitConflicts service
      (service.ingest rt draws tenantId observation cause assuranceLevel).state := by
  refine ingest_keeps (FitConflicts service) ready.filed fresh ?_ ?_ ready.conflicts
  · intro first second same fit
    exact fit.congr same
  · intro current place name value label existing filed absent read held disputed fit
    rcases heldAttributes_stored held with ⟨state, stored, held⟩
    rcases (ready.states _ state stored).attributes name existing held with ⟨named, _, sound⟩
    refine FitConflicts.recorded fit filed named (by rw [stored]; rfl) sound.candidate ?_ disputed
    refine ⟨?_, observationId_encodable observation⟩
    change (projectedConfidence name).finite = true
    unfold projectedConfidence
    split
    · decide
    · decide

/-- Closing a conflict that is stored leaves all conflicts fit. -/
theorem FitConflicts.closed {world : WorldStateService} {tenantId : Text} {conflict : Conflict}
    (fit : FitConflicts world service)
    (found : service.conflictsById.get? (tenantId, conflict.conflictId) = some conflict)
    (resolvedValue : Json) (resolvedBy reason : Text) (now : Timestamp) :
    FitConflicts world
      (service.closeConflict tenantId conflict resolvedValue resolvedBy reason now).state := by
  intro id other stored
  change (service.conflictsById.set _ (conflict.closed resolvedValue resolvedBy reason now)).get? id =
    some other at stored
  rw [Dict.get?_set] at stored
  split at stored
  · cases stored
    rcases fit _ conflict found with ⟨sound, placed⟩
    exact ⟨sound.closed resolvedValue resolvedBy reason now, placed⟩
  · exact fit id other stored

theorem FitConflicts.resolveConflict (ready : Ready rt service) (draws : Draws)
    (tenantId conflictId : Text) (resolvedValue : Json) (resolvedBy reason : Text) :
    FitConflicts service (service.resolveConflict rt draws tenantId conflictId resolvedValue resolvedBy
      reason).state := by
  have way := resolveConflict_resolution rt service draws tenantId conflictId resolvedValue resolvedBy
    reason
  have held : forall conflict, service.getConflict tenantId conflictId = .ok conflict ->
      service.conflictsById.get? (tenantId, conflict.conflictId) = some conflict := by
    intro conflict found
    have stored := getConflict_ok found
    have same : conflict.conflictId = conflictId := congrArg Prod.snd (ready.stored.named _ _ stored)
    exact same.symm ▸ stored
  generalize service.resolveConflict rt draws tenantId conflictId resolvedValue resolvedBy reason =
    outcome at way ⊢
  cases way with
  | unknown error absent => exact ready.conflicts
  | settled conflict found resolved => exact ready.conflicts
  | undumped conflict state found unresolved stored undumpable => exact ready.conflicts
  | refused conflict state error found unresolved stored failed => exact ready.conflicts
  | stateless conflict found unresolved absent =>
      exact FitConflicts.closed ready.conflicts (held conflict found) _ _ _ _
  | committed conflict state commit found unresolved stored continues answers =>
      have moved : FitConflicts service ((service.record commit).setState
        (tenantId, conflict.entityType, conflict.entityId)
        (resolvedState tenantId state conflict resolvedValue draws commit.commitId)) := ready.conflicts
      exact moved.closed (held conflict found) _ _ _ _

theorem Ready.states_after (plain : PlainTexts rt) (ready : Ready rt service) {call : WorldCall}
    {entry : Option CommitRecord}
    (effect : CommitEffect rt service call.commitId entry (service.perform rt call))
    (placed : EntityEffect rt service entry (service.perform rt call)) :
    forall key state, (service.perform rt call).states.get? key = some state -> FitState rt key state := by
  cases placed with
  | quiet after states =>
      rw [states]
      exact ready.states
  | advanced commit state after advances states =>
      intro key other found
      rw [states, Dict.get?_set] at found
      split at found
      · rename_i same
        cases found
        rw [same]
        cases effect with
        | committed _ _ continues => exact FitState.of_advanced plain advances continues.genuine
      · exact ready.states key other found

/-- A call leaves a ready service ready. The state it advances was dumped and hashed for its
commit, so it can be again. -/
theorem Ready.perform (plain : PlainTexts rt) (ready : Ready rt service) {call : WorldCall}
    (fresh : call.FreshConflicts service) : Ready rt (service.perform rt call) := by
  rcases perform_entity rt service call with ⟨entry, effect, placed⟩
  have states := ready.states_after plain effect placed
  have linkable : Linkable (service.perform rt call) := by
    have labels : forall key state, (service.perform rt call).states.get? key = some state ->
        Labelled state.attributes :=
      fun key state found name attr held => ((states key state found).attributes name attr held).2.2.freshness
    cases call with
    | ingest draws tenantId observation cause assuranceLevel =>
        exact Linkable.step ready.linkable plain.digests effect labels
    | resolveConflict draws tenantId conflictId resolvedValue resolvedBy reason =>
        exact Linkable.step ready.linkable plain.digests effect labels
  have grows := placed.onlyGrows
  cases call with
  | ingest draws tenantId observation cause assuranceLevel =>
      exact ⟨ingest_stored ready.stored, (ingest_filed ready.filed fresh).1,
        ingest_covered ready.filed ready.covered fresh, linkable, states,
        (FitConflicts.ingest rt ready cause assuranceLevel fresh).grows grows⟩
  | resolveConflict draws tenantId conflictId resolvedValue resolvedBy reason =>
      rcases @resolveConflict_indexes rt service draws tenantId conflictId
        resolvedValue resolvedBy reason ready.stored with ⟨stored, keeps⟩
      rcases keeps ready.filed ready.covered with ⟨filed, covered⟩
      exact ⟨stored, filed, covered, linkable, states,
        (FitConflicts.resolveConflict ready draws tenantId conflictId resolvedValue resolvedBy
          reason).grows grows⟩

end Steps

end WorldState
end RealityLayer
