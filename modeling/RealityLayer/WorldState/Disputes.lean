import RealityLayer.WorldState.Failure
import RealityLayer.WorldState.Resolving

namespace RealityLayer
namespace WorldState

open Foundation Python RealityGit WorldStateService

/-!
# The conflict rule

A new reading is merged attribute by attribute.  An attribute is blocked when its
held value is labelled fresh, came from another connector and differs; then the
held attribute stays as it is and the open conflict of that attribute lists the
reading.  Every other attribute of the reading takes effect.

Whether the reading takes effect is decided for the entity as a whole: when no
attribute's dump changes, the held state stays, values and all.  A dump has no
NaN and no infinity, so a held NaN outlasts a reading that says `null`.
-/

/-! ## Readings that can be committed -/

/-- The values of the payload can be dumped, and the payload can be hashed as it is.  A value
that nests too deep for the dump may still be hashed. -/
def RecordablePayload (rt : Runtime) (observation : Observation) : Prop :=
  observation.payload.values.all rt.dumps = true ∧
    hashable rt (.dict observation.payload.entries) = true

theorem finiteEntries_eq_all (entries : List (Text × Json)) :
    Json.finiteEntries entries = entries.all (fun entry => entry.2.finite) := by
  induction entries with
  | nil => rfl
  | cons entry rest ih => rw [Json.finiteEntries, List.all_cons, ih]

section Reading

variable {rt : Runtime} {service : WorldStateService} {draws : Draws} {tenantId : Text}
variable {observation : Observation} {cause assuranceLevel : Text}

theorem RecordablePayload.value (payload : RecordablePayload rt observation) {name : Text} {value : Json}
    (read : observation.payload.get? name = some value) :
    name.encodable = true ∧ value.finite = true ∧ encodableJson rt value = true ∧
      rt.dumps value = true := by
  unfold RecordablePayload RealityGit.hashable at payload
  rw [Json.finite, encodableJson, Bool.and_eq_true] at payload
  rcases payload with ⟨dumped, finite, texts⟩
  have member := (Dict.mem_entries_iff _ _ _).mpr read
  rw [encodableEntries_eq_all, List.all_eq_true] at texts
  rw [finiteEntries_eq_all, List.all_eq_true] at finite
  have encodable := texts _ member
  rw [Bool.and_eq_true] at encodable
  exact ⟨encodable.1, finite _ member, encodable.2,
    List.all_eq_true.mp dumped value ((Dict.mem_values_iff _ _).mpr ⟨name, read⟩)⟩

theorem projectedAttribute_fit (observation : Observation) {label : Text}
    (labelled : label.encodable = true) (name : Text) (value : Json) :
    (projectedAttribute observation label name value).Fit where
  confidence := by
    change (projectedConfidence name).finite = true
    unfold projectedConfidence
    split
    · decide
    · decide
  freshness := labelled
  sources := by
    change [observation.observationId].all Text.encodable = true
    rw [List.all_cons, observationId_encodable, List.all_nil, Bool.and_self]
  connector := by
    have valid := observation.valid
    unfold ObservationFields.accepted at valid
    simp only [Bool.and_eq_true] at valid
    exact valid.1.1.2.1.1

/-- What a reading leads to can be recorded when the reading can. -/
theorem compiledAttributes_hashable {previous : Option OrderState}
    (held : HashableAttributes rt (heldAttributes previous)) (payload : RecordablePayload rt observation)
    {label : Text} (labelled : label.encodable = true) :
    HashableAttributes rt (compiledAttributes previous (projectedReading observation label)) := by
  apply compiledAttributes_all held
  intro name value read
  rcases payload.value read with ⟨named, finite, encodable, dumped⟩
  refine ⟨named, recordable_iff.mpr ⟨dumped, ?_⟩, projectedAttribute_fit observation labelled name value⟩
  change hashable rt value.jsonMode = true
  rw [Json.jsonMode_of_finite value finite]
  unfold RealityGit.hashable
  rw [finite, encodable, Bool.and_self]

theorem Ready.held (ready : Ready rt service) (key : Text × Text × Text) :
    HashableAttributes rt (heldAttributes (service.states.get? key)) := by
  intro name attr held
  rcases heldAttributes_stored held with ⟨state, stored, held⟩
  exact (ready.states key state stored).attributes name attr held

theorem ready_compilable (plain : PlainTexts rt) (ready : Ready rt service)
    (owner : tenantId.encodable = true) (caused : cause.encodable = true)
    (payload : RecordablePayload rt observation) {label : Text} (labelled : label.encodable = true) :
    compilable rt tenantId observation cause assuranceLevel
      (service.states.get? (tenantId, observation.objectType, observation.objectId))
      (projectedReading observation label) = true := by
  have held := ready.held (tenantId, observation.objectType, observation.objectId)
  exact compilable_of_recorded plain owner caused held
    (compiledAttributes_hashable held payload labelled)

variable (rt service draws tenantId observation) in
/-- A reading that was taken in left the entity as it was, or moved it on. Which of the two
it is depends on the whole reading and not on one attribute. -/
inductive Merged (label : Text) : Outcome PyError WorldStateService OrderState -> Prop
  | unchanged (state : OrderState)
      (stored : service.states.get? (tenantId, observation.objectType, observation.objectId) = some state)
      (same : ingestChanges rt (some state) (projectedReading observation label) = [])
      (after : WorldStateService) (states : after.states = service.states) :
      Merged label (.returns after state)
  | advanced (state : OrderState)
      (attributes : state.attributes = compiledAttributes
        (service.states.get? (tenantId, observation.objectType, observation.objectId))
        (projectedReading observation label))
      (after : WorldStateService) (states : after.states =
        service.states.set (tenantId, observation.objectType, observation.objectId) state) :
      Merged label (.returns after state)

/-- A new reading with a timezone and a recordable payload is always taken in. -/
theorem Ready.merged (plain : PlainTexts rt) (ready : Ready rt service)
    (new : service.observations.contains (tenantId, observation.observationId) = false)
    {observed : Int} (aware : observation.observedAt.instant? = some observed)
    (owner : tenantId.encodable = true) (caused : cause.encodable = true)
    (payload : RecordablePayload rt observation) :
    Merged rt service tenantId observation (freshnessLabel draws observed)
      (service.ingest rt draws tenantId observation cause assuranceLevel) := by
  have projects := project_eq draws aware
  have accepted := @ready_compilable rt service tenantId observation cause assuranceLevel plain ready
    owner caused payload _ (freshnessLabel_encodable draws observed)
  have way := ingest_ingestion rt service draws tenantId observation cause assuranceLevel
  have base := ready.linkable.merged draws tenantId observation
    (service.states.get? (tenantId, observation.objectType, observation.objectId))
    (projectedReading observation (freshnessLabel draws observed))
  have kept := merged_same service draws tenantId observation
    (service.states.get? (tenantId, observation.objectType, observation.objectId))
    (projectedReading observation (freshnessLabel draws observed))
  generalize stored : service.states.get? (tenantId, observation.objectType, observation.objectId) =
    previous at way accepted base kept
  generalize service.ingest rt draws tenantId observation cause assuranceLevel = outcome at way ⊢
  cases way with
  | repeated state _ known => exact absurd (new.symm.trans known) Bool.false_ne_true
  | stateless _ known => exact absurd (new.symm.trans known) Bool.false_ne_true
  | unprojected error _ failed => cases projects.symm.trans failed
  | unchanged incoming state found _ projected same =>
      cases projects.symm.trans projected
      subst found
      exact .unchanged state stored same _ kept.states
  | undumped incoming _ projected undumpable =>
      cases projects.symm.trans projected
      rw [compilable_of_undumped undumpable] at accepted
      cases accepted
  | refused incoming error _ projected changes failed dumped =>
      cases projects.symm.trans projected
      rw [compilable_of_dumped dumped] at accepted
      have made := base.createCommit rt draws (ingestRequest rt tenantId observation cause
        assuranceLevel previous (projectedReading observation (freshnessLabel draws observed)))
      rw [failed, accepted] at made
      cases made
  | committed incoming commit _ projected changes continues answers =>
      cases projects.symm.trans projected
      refine .advanced _ (by rw [stored]; rfl) _ ?_
      simp only [setState, record, kept.states, seen]

/-- A reading that is new and answered was merged. -/
theorem ingest_merged
    (new : service.observations.contains (tenantId, observation.observationId) = false)
    {state : OrderState}
    (returned : (service.ingest rt draws tenantId observation cause assuranceLevel).result = .ok state) :
    Exists fun label : Text => Merged rt service tenantId observation label
      (service.ingest rt draws tenantId observation cause assuranceLevel) := by
  have way := ingest_ingestion rt service draws tenantId observation cause assuranceLevel
  have kept := fun incoming => merged_same service draws tenantId observation
    (service.states.get? (tenantId, observation.objectType, observation.objectId)) incoming
  generalize stored : service.states.get? (tenantId, observation.objectType, observation.objectId) =
    previous at way kept
  generalize service.ingest rt draws tenantId observation cause assuranceLevel = outcome at way returned ⊢
  cases way with
  | repeated state _ known => exact absurd (new.symm.trans known) Bool.false_ne_true
  | stateless _ known => exact absurd (new.symm.trans known) Bool.false_ne_true
  | unprojected error _ failed => cases returned
  | unchanged incoming state found _ projected same =>
      rcases project_ok projected with ⟨label, rfl⟩
      subst found
      exact ⟨label, .unchanged state stored same _ (kept _).states⟩
  | undumped incoming => cases returned
  | refused incoming error _ projected changes failed => cases returned
  | committed incoming commit _ projected changes continues answers =>
      rcases project_ok projected with ⟨label, rfl⟩
      refine ⟨label, .advanced _ (by rw [stored]; rfl) _ ?_⟩
      simp only [setState, record, (kept _).states, seen]

end Reading

/-! ## Listing what is held back -/

section Listing

variable {service : WorldStateService} {draws : Draws} {place : Nat}
variable {tenantId entityType entityId : Text} {previous : Dict Text StateAttribute}

/-- The conflict has a candidate for the attribute, or one that agrees with it. Agreement is
on the connector and the value only. -/
def Conflict.Names (conflict : Conflict) (incoming : StateAttribute) : Prop :=
  candidateOf incoming ∈ conflict.candidates ∨ conflict.lists incoming = true

theorem recordConflict_names {name : Text} (existing incoming : StateAttribute) (filed : Filed service)
    (new : service.conflictsById.get? (tenantId, newConflictId draws place) = none) :
    Exists fun conflict : Conflict =>
      (service.recordConflict draws place tenantId entityType entityId name existing
        incoming).openConflict? tenantId entityType entityId name = some conflict ∧
        conflict.Names incoming := by
  cases found : service.openConflict? tenantId entityType entityId name with
  | none =>
      rw [recordConflict_absent found]
      have looked := openConflict?_opened entityType entityId name existing incoming filed new name
      dsimp only at looked ⊢
      rw [if_pos rfl] at looked
      exact ⟨_, looked, Or.inl (List.mem_cons_of_mem _ List.mem_cons_self)⟩
  | some conflict =>
      cases listed : conflict.lists incoming with
      | true =>
          rw [recordConflict_listed found listed]
          exact ⟨conflict, found, Or.inr listed⟩
      | false =>
          rw [recordConflict_unlisted found listed]
          have looked := openConflict?_extended incoming filed found name
          rw [if_pos rfl] at looked
          exact ⟨_, looked, Or.inl (List.mem_append_right _ List.mem_cons_self)⟩

/-- Each held back attribute of the loop is named by the open conflict of its name. -/
theorem recordConflicts_names (entries : List (Text × StateAttribute)) (filed : Filed service)
    (fresh : FreshIds service tenantId draws place entries.length)
    (distinct : (entries.map Prod.fst).Nodup) {entry : Text × StateAttribute} (member : entry ∈ entries)
    (disputed : (disputed? previous entry).isSome = true) :
    Exists fun conflict : Conflict =>
      (recordConflicts draws tenantId entityType entityId previous place entries service).openConflict?
        tenantId entityType entityId entry.1 = some conflict ∧ conflict.Names entry.2 := by
  induction entries generalizing service place with
  | nil => cases member
  | cons first rest ih =>
      rcases List.nodup_cons.mp distinct with ⟨absent, distinct'⟩
      rcases List.mem_cons.mp member with rfl | later
      · rcases Option.isSome_iff_exists.mp disputed with ⟨existing, held⟩
        rcases @recordConflict_files service draws place tenantId entityType
          entityId previous filed fresh.first entry existing held with ⟨filed', grows, _, _⟩
        rcases @recordConflict_names service draws place tenantId entityType
          entityId entry.1 existing entry.2 filed fresh.first with ⟨conflict, found, names⟩
        rcases recordConflicts_files entityType entityId previous rest filed'
          (fresh.next grows) distinct' with ⟨_, _, _, others⟩
        rw [recordConflicts, held]
        refine ⟨conflict, ?_, names⟩
        exact (others entry.1 absent).trans found
      · cases held : disputed? previous first with
        | none =>
            rw [recordConflicts, held]
            exact ih filed (fresh.next (.refl service)) distinct' later
        | some existing =>
            rcases @recordConflict_files service draws place tenantId
              entityType entityId previous filed fresh.first first existing held with
                ⟨filed', grows, _, _⟩
            rw [recordConflicts, held]
            exact ih filed' (fresh.next grows) distinct' later

end Listing

/-! ## The rule -/

/-- The reading says something about the attribute that is held back. What is held stays as
it was, and a conflict is about both. -/
def Blocked (service : WorldStateService) (tenantId : Text) (observation : Observation) (name : Text)
    (value : Json) : Prop :=
  observation.payload.get? name = some value ∧
    disputesReading (heldAttributes
      (service.states.get? (tenantId, observation.objectType, observation.objectId))) observation
      (name, value) = true

/-- What one reading does, attribute by attribute. A blocked attribute stays and is listed in
a conflict, a free one takes the value, and nothing else in the service moves. -/
structure ConflictRule (service after : WorldStateService) (tenantId : Text) (observation : Observation) :
    Prop where
  blocked : forall name value, Blocked service tenantId observation name value ->
    (heldAttributes (after.states.get?
        (tenantId, observation.objectType, observation.objectId))).get? name =
      (heldAttributes (service.states.get?
        (tenantId, observation.objectType, observation.objectId))).get? name
  listed : forall name value, Blocked service tenantId observation name value ->
    Exists fun conflict : Conflict => Exists fun candidate : ConflictCandidate =>
      after.openConflict? tenantId observation.objectType observation.objectId name = some conflict ∧
        candidate ∈ conflict.candidates ∧ candidate.connector = some observation.connector ∧
        (candidate.value = value ∨ candidate.value.pyEq value = true)
  taken : forall name value, observation.payload.get? name = some value ->
    ¬ Blocked service tenantId observation name value ->
    ((heldAttributes (after.states.get?
        (tenantId, observation.objectType, observation.objectId))).get? name).map
          StateAttribute.value = some value ∨
      after.states = service.states ∧
        (dumpedValue (heldAttributes (service.states.get?
          (tenantId, observation.objectType, observation.objectId))) name).pyEq value = true
  absent : forall name, observation.payload.get? name = none ->
    (heldAttributes (after.states.get?
        (tenantId, observation.objectType, observation.objectId))).get? name =
      (heldAttributes (service.states.get?
        (tenantId, observation.objectType, observation.objectId))).get? name
  elsewhere : forall key, key ≠ (tenantId, observation.objectType, observation.objectId) ->
    after.states.get? key = service.states.get? key
  opened : forall id conflict, after.conflictsById.get? id = some conflict ->
    service.conflictsById.get? id = some conflict ∨
      Exists fun name : Text => Exists fun value : Json =>
        Blocked service tenantId observation name value ∧
          conflict.key = (tenantId, observation.objectType, observation.objectId, name)
  kept : forall id conflict, service.conflictsById.get? id = some conflict ->
    after.conflictsById.get? id = some conflict ∨
      Exists fun name : Text => Exists fun value : Json =>
        Blocked service tenantId observation name value ∧
          conflict.key = (tenantId, observation.objectType, observation.objectId, name)

section Rule

variable {rt : Runtime} {service after : WorldStateService} {draws : Draws} {tenantId : Text}
variable {observation : Observation} {cause assuranceLevel : Text}

/-- What is held back is named by an open conflict afterwards. -/
theorem ingest_names (filed : Filed service)
    (fresh : FreshIds service tenantId draws 0 observation.payload.entries.length)
    (new : service.observations.contains (tenantId, observation.observationId) = false)
    {state : OrderState}
    (returned : (service.ingest rt draws tenantId observation cause assuranceLevel).result = .ok state)
    {name : Text} {value : Json} (blocked : Blocked service tenantId observation name value) :
    Exists fun conflict : Conflict => Exists fun label : Text =>
      (service.ingest rt draws tenantId observation cause assuranceLevel).state.openConflict? tenantId
        observation.objectType observation.objectId name = some conflict ∧
        conflict.Names (projectedAttribute observation label name value) := by
  rcases ingest_conflicts rt service draws tenantId observation cause assuranceLevel with
    ⟨_, known | ⟨error, raised⟩⟩ | ⟨label, same⟩
  · rw [new] at known
    cases known
  · rw [raised] at returned
    cases returned
  · have seen : SameConflicts service (service.seen tenantId observation) := ⟨rfl, rfl⟩
    have member := List.mem_map_of_mem
      (f := fun entry => (entry.1, projectedAttribute observation label entry.1 entry.2))
      ((Dict.mem_entries_iff _ _ _).mpr blocked.1)
    obtain ⟨conflict, found, names⟩ := @recordConflicts_names (service.seen tenantId observation) draws 0
      tenantId observation.objectType observation.objectId
      (heldAttributes (service.states.get? (tenantId, observation.objectType, observation.objectId)))
      (projectedReading observation label).entries (filed.congr seen)
      (by rw [projectedReading_length]; exact ⟨fresh.new, fresh.distinct⟩)
      (projectedReading observation label).distinct _ member
      ((disputed?_projected _ observation label (name, value)).trans blocked.2)
    exact ⟨conflict, label, (openConflict?_congr same _ _ _ _).symm.trans found, names⟩

/-- A conflict that a reading adds or changes is about an attribute it holds back. -/
theorem ingest_opened (filed : Filed service)
    (fresh : FreshIds service tenantId draws 0 observation.payload.entries.length) {id : Text × Text}
    {conflict : Conflict}
    (found : (service.ingest rt draws tenantId observation cause
      assuranceLevel).state.conflictsById.get? id = some conflict) :
    service.conflictsById.get? id = some conflict ∨
      Exists fun name : Text => Exists fun value : Json =>
        Blocked service tenantId observation name value ∧
          conflict.key = (tenantId, observation.objectType, observation.objectId, name) := by
  refine @ingest_keeps rt service draws tenantId observation cause assuranceLevel
    (fun current => forall id conflict, current.conflictsById.get? id = some conflict ->
      service.conflictsById.get? id = some conflict ∨
        Exists fun name : Text => Exists fun value : Json =>
          Blocked service tenantId observation name value ∧
            conflict.key = (tenantId, observation.objectType, observation.objectId, name))
    filed fresh ?_ ?_ (fun id conflict stored => Or.inl stored) id conflict found
  · intro first second same all
    rw [← same.conflictsById]
    exact all
  · intro current place name value label existing filed' absent read held disputed all id conflict stored
    have blocked : Blocked service tenantId observation name value := by
      refine ⟨read, ?_⟩
      unfold disputesReading
      dsimp only
      rw [held]
      exact disputed
    cases open_ : current.openConflict? tenantId observation.objectType observation.objectId name with
    | none =>
        rw [recordConflict_absent open_] at stored
        change (current.conflictsById.set _ (openedConflict draws place tenantId observation.objectType
          observation.objectId name existing _)).get? id = some conflict at stored
        rw [Dict.get?_set] at stored
        split at stored
        · cases stored
          exact Or.inr ⟨name, value, blocked, rfl⟩
        · exact all id conflict stored
    | some other =>
        cases listed : other.lists (projectedAttribute observation label name value) with
        | true =>
            rw [recordConflict_listed open_ listed] at stored
            exact all id conflict stored
        | false =>
            rw [recordConflict_unlisted open_ listed] at stored
            change (current.conflictsById.set _ (other.extended _)).get? id = some conflict at stored
            rw [Dict.get?_set] at stored
            split at stored
            · cases stored
              exact Or.inr ⟨name, value, blocked, (filed'.openConflict open_).2.2.1⟩
            · exact all id conflict stored

/-- A conflict about anything else is kept as it is. -/
theorem ingest_keeps_conflict (filed : Filed service)
    (fresh : FreshIds service tenantId draws 0 observation.payload.entries.length) {id : Text × Text}
    {conflict : Conflict} (found : service.conflictsById.get? id = some conflict) :
    (service.ingest rt draws tenantId observation cause
        assuranceLevel).state.conflictsById.get? id = some conflict ∨
      Exists fun name : Text => Exists fun value : Json =>
        Blocked service tenantId observation name value ∧
          conflict.key = (tenantId, observation.objectType, observation.objectId, name) := by
  by_cases about : Exists fun name : Text => Exists fun value : Json =>
      Blocked service tenantId observation name value ∧
        conflict.key = (tenantId, observation.objectType, observation.objectId, name)
  · exact Or.inr about
  refine Or.inl (ingest_keeps (fun current => current.conflictsById.get? id = some conflict) filed fresh
    ?_ ?_ found)
  · intro first second same held
    rw [← same.conflictsById]
    exact held
  · intro current place name value label existing filed' absent read held disputed stored
    rcases recordConflict_stored_under tenantId observation.objectType observation.objectId name existing
      (projectedAttribute observation label name value) filed' absent stored with kept | ⟨own, _, _⟩
    · exact kept
    · refine absurd ⟨name, value, ⟨read, ?_⟩, (filed'.openConflict own).2.2.1⟩ about
      unfold disputesReading
      dsimp only
      rw [held]
      exact disputed

theorem Merged.value {label : Text} {outcome : Outcome PyError WorldStateService OrderState}
    (merged : Merged rt service tenantId observation label outcome) {name : Text} {value : Json}
    (read : observation.payload.get? name = some value)
    (free : ¬ Blocked service tenantId observation name value) :
    ((heldAttributes (outcome.state.states.get?
        (tenantId, observation.objectType, observation.objectId))).get? name).map
          StateAttribute.value = some value ∨
      outcome.state.states = service.states ∧
        (dumpedValue (heldAttributes (service.states.get?
          (tenantId, observation.objectType, observation.objectId))) name).pyEq value.jsonMode = true := by
  have undisputed : disputesReading (heldAttributes (service.states.get?
      (tenantId, observation.objectType, observation.objectId))) observation (name, value) ≠ true :=
    fun disputed => free ⟨read, disputed⟩
  cases merged with
  | unchanged state stored same after states =>
      refine Or.inr ⟨states, ?_⟩
      rw [stored] at undisputed ⊢
      exact (nothingNew_of_quiet rt (some state) label same name value read).resolve_left undisputed
  | advanced state attributes after states =>
      refine Or.inl ?_
      rw [Outcome.returns_state, states, Dict.get?_set_self]
      change (state.attributes.get? name).map StateAttribute.value = some value
      rw [attributes, get?_compiledAttributes, read]
      dsimp only
      rw [if_neg undisputed]
      rfl

/-- What the reading does not say, and what it says without effect, stays. -/
theorem Merged.keeps {label : Text} {outcome : Outcome PyError WorldStateService OrderState}
    (merged : Merged rt service tenantId observation label outcome) {name : Text}
    (silent : forall value, observation.payload.get? name = some value ->
      Blocked service tenantId observation name value) :
    (heldAttributes (outcome.state.states.get?
        (tenantId, observation.objectType, observation.objectId))).get? name =
      (heldAttributes (service.states.get?
        (tenantId, observation.objectType, observation.objectId))).get? name := by
  cases merged with
  | unchanged state stored same after states => rw [Outcome.returns_state, states]
  | advanced state attributes after states =>
      rw [Outcome.returns_state, states, Dict.get?_set_self]
      change state.attributes.get? name = _
      rw [attributes, get?_compiledAttributes]
      cases read : observation.payload.get? name with
      | none => rfl
      | some value =>
          dsimp only
          rw [(silent value read).2, if_pos rfl]

theorem Merged.elsewhere {label : Text} {outcome : Outcome PyError WorldStateService OrderState}
    (merged : Merged rt service tenantId observation label outcome) {key : Text × Text × Text}
    (other : key ≠ (tenantId, observation.objectType, observation.objectId)) :
    outcome.state.states.get? key = service.states.get? key := by
  cases merged with
  | unchanged state stored same after states => rw [Outcome.returns_state, states]
  | advanced state attributes after states =>
      rw [Outcome.returns_state, states, Dict.get?_set_of_ne _ _ other]

theorem Merged.returned {label : Text} {outcome : Outcome PyError WorldStateService OrderState}
    (merged : Merged rt service tenantId observation label outcome) :
    Exists fun state : OrderState => outcome.result = .ok state := by
  cases merged with
  | unchanged state stored same after states => exact ⟨state, rfl⟩
  | advanced state attributes after states => exact ⟨state, rfl⟩

/-- A new reading with a timezone and a hashable payload follows the conflict rule. -/
theorem Ready.conflictRule (plain : PlainTexts rt) (ready : Ready rt service)
    (fresh : FreshIds service tenantId draws 0 observation.payload.entries.length)
    (new : service.observations.contains (tenantId, observation.observationId) = false)
    (aware : observation.observedAt.instant?.isSome = true) (owner : tenantId.encodable = true)
    (caused : cause.encodable = true) (payload : RecordablePayload rt observation) :
    let outcome := service.ingest rt draws tenantId observation cause assuranceLevel
    (Exists fun state : OrderState => outcome.result = .ok state) ∧
      ConflictRule service outcome.state tenantId observation := by
  rcases Option.isSome_iff_exists.mp aware with ⟨observed, aware⟩
  have merged := @Ready.merged rt service draws tenantId observation cause assuranceLevel plain ready new
    observed aware owner caused payload
  rcases merged.returned with ⟨state, returned⟩
  refine ⟨⟨state, returned⟩, ?_⟩
  exact {
    blocked := by
      intro name value blocked
      refine merged.keeps (fun other read => ?_)
      cases blocked.1.symm.trans read
      exact blocked
    listed := by
      intro name value blocked
      rcases ingest_names ready.filed fresh new returned blocked with ⟨conflict, label, found, names⟩
      rcases names with last | listed
      · exact ⟨conflict, _, found, last, rfl, Or.inl rfl⟩
      · rcases List.any_eq_true.mp listed with ⟨candidate, member, agrees⟩
        rw [Bool.and_eq_true, decide_eq_true_eq] at agrees
        exact ⟨conflict, candidate, found, member, agrees.1, Or.inr agrees.2⟩
    taken := by
      intro name value read free
      have effect := merged.value read free
      rw [Json.jsonMode_of_finite value (payload.value read).2.1] at effect
      exact effect
    absent := by
      intro name absent
      refine merged.keeps (fun value read => ?_)
      rw [absent] at read
      cases read
    elsewhere := fun key other => merged.elsewhere other
    opened := fun id conflict found => ingest_opened ready.filed fresh found
    kept := fun id conflict found => ingest_keeps_conflict ready.filed fresh found }

end Rule

/-- In every reachable service new readings follow the conflict rule, and no open conflict
lists one candidate twice. -/
theorem conflict_rule (rt : Runtime) (plain : PlainTexts rt)
    {history : List (Step WorldStateService WorldCall)} {service : WorldStateService}
    (run : (drawnSystem rt).Run history service) :
    (forall draws tenantId observation cause assuranceLevel,
      FreshIds service tenantId draws 0 observation.payload.entries.length ->
      service.observations.contains (tenantId, observation.observationId) = false ->
      observation.observedAt.instant?.isSome = true -> tenantId.encodable = true ->
      cause.encodable = true -> RecordablePayload rt observation ->
      let outcome := service.ingest rt draws tenantId observation cause assuranceLevel
      (Exists fun state : OrderState => outcome.result = .ok state) ∧
        ConflictRule service outcome.state tenantId observation) ∧
    forall id conflict, service.conflictsById.get? id = some conflict -> conflict.status = "open" ->
      2 ≤ conflict.candidates.length ∧
        conflict.candidates.Pairwise (fun first second => first.agrees second = false) := by
  have ready := Ready.of_run plain run
  constructor
  · intro draws tenantId observation cause assuranceLevel fresh new aware owner caused payload
    exact ready.conflictRule plain fresh new aware owner caused payload
  · intro id conflict found _
    rcases ready.conflicts id conflict found with ⟨fit, _⟩
    exact ⟨fit.several, fit.apart⟩

/-! ## A reading in conflict, and three that the rule leaves out -/

instance (rt : Runtime) (observation : Observation) : Decidable (RecordablePayload rt observation) :=
  inferInstanceAs (Decidable (_ ∧ _))

instance (service : WorldStateService) (tenantId : Text) (observation : Observation) (name : Text)
    (value : Json) : Decidable (Blocked service tenantId observation name value) :=
  inferInstanceAs (Decidable (_ ∧ _))

theorem conflict_rule_sample :
    Exists fun service : WorldStateService =>
      Blocked service "demo" disagreeingReading "status" (.str "cancelled") ∧
        ConflictRule service
          (service.ingest .plain (.numbered 20) "demo" disagreeingReading "observation" "observed").state
          "demo" disagreeingReading := by
  have facts : let service := ((drawnSystem .plain).trace .fresh [sampleIngest 10 "demo" openReading]).2
      (drawnSystem .plain).AdmitsAll .fresh [sampleIngest 10 "demo" openReading] ∧
        Blocked service "demo" disagreeingReading "status" (.str "cancelled") ∧
        FreshIds service "demo" (.numbered 20) 0 disagreeingReading.payload.entries.length ∧
        service.observations.contains ("demo", disagreeingReading.observationId) = false ∧
        RecordablePayload .plain disagreeingReading := by
    decide +kernel
  rcases facts with ⟨admitted, blocked, fresh, new, payload⟩
  have rule := (conflict_rule .plain plain_plainTexts (System.run_trace _ rfl admitted)).1
    (.numbered 20) "demo" disagreeingReading "observation" "observed" fresh new rfl rfl rfl payload
  exact ⟨_, blocked, rule.2⟩

/-- The weight is not a number. -/
def unweighedReading : Observation where
  observationId := "obs_shopify_1001"
  connector := "shopify"
  objectType := "order"
  objectId := "1001"
  observedAt := .utc 0
  payload := Dict.ofList [("id", .str "1001"), ("weight", .float ⟨0x7ff8000000000000⟩)]
  valid := by decide +kernel

/-- The same connector, later: there is no weight. -/
def weightlessReading : Observation where
  observationId := "obs_shopify_1001_later"
  connector := "shopify"
  objectType := "order"
  objectId := "1001"
  observedAt := .utc 0
  payload := Dict.ofList [("weight", .null)]
  valid := by decide +kernel

/-- Nothing inside as many lists as `depth`. -/
def nestedNull : Nat -> Json
  | 0 => .null
  | depth + 1 => .list [nestedNull depth]

/-- A reading that hashes, but is nested deeper than it can be dumped. Nothing is held yet
that it could be held back against, so the call has to dump it and raises. -/
def deepReading : Observation where
  observationId := "obs_shopify_1001"
  connector := "shopify"
  objectType := "order"
  objectId := "1001"
  observedAt := .utc 0
  payload := Dict.ofList [("id", .str "1001"), ("notes", nestedNull 300)]
  valid := by decide +kernel

/-- A held NaN outlasts a `null`, and a reading without a timezone or one that is nested
too deep is not taken in at all, although each of them hashes. -/
theorem conflict_rule_exceptions :
    (Exists fun history => Exists fun service : WorldStateService =>
      let after := (service.ingest .plain (.numbered 2) "demo" weightlessReading "observation"
        "observed").state
      (drawnSystem .plain).Run history service ∧
        service.observations.contains ("demo", weightlessReading.observationId) = false ∧
        RecordablePayload .plain weightlessReading ∧
        ¬ Blocked service "demo" weightlessReading "weight" .null ∧
        ((((heldAttributes (after.states.get? ("demo", "order", "1001"))).get? "weight").map
          StateAttribute.value).getD .null).pyEq .null = false) ∧
    (RecordablePayload .plain naiveReading ∧ naiveReading.payload.get? "status" = some (.str "open") ∧
      ¬ Blocked .fresh "demo" naiveReading "status" (.str "open") ∧
      ((heldAttributes ((fresh.ingest .plain (.numbered 1) "demo" naiveReading "observation"
        "observed").state.states.get? ("demo", "order", "1001"))).get? "status") = none) ∧
    hashable .plain (.dict deepReading.payload.entries) = true ∧
      deepReading.observedAt.instant?.isSome = true ∧
      deepReading.payload.get? "id" = some (.str "1001") ∧
      ¬ Blocked .fresh "demo" deepReading "id" (.str "1001") ∧
      (fresh.ingest .plain (.numbered 1) "demo" deepReading "observation" "observed").result =
        .error dumpRefusal ∧
      ((heldAttributes ((fresh.ingest .plain (.numbered 1) "demo" deepReading "observation"
        "observed").state.states.get? ("demo", "order", "1001"))).get? "id") = none := by
  refine ⟨?_, ?_, ?_⟩
  · have facts : (drawnSystem .plain).AdmitsAll .fresh [sampleIngest 1 "demo" unweighedReading] ∧
        let service := ((drawnSystem .plain).trace .fresh [sampleIngest 1 "demo" unweighedReading]).2
        let after := (service.ingest .plain (.numbered 2) "demo" weightlessReading "observation"
          "observed").state
        service.observations.contains ("demo", weightlessReading.observationId) = false ∧
          RecordablePayload .plain weightlessReading ∧
          ¬ Blocked service "demo" weightlessReading "weight" .null ∧
          ((((heldAttributes (after.states.get? ("demo", "order", "1001"))).get? "weight").map
            StateAttribute.value).getD .null).pyEq .null = false := by
      decide +kernel
    exact ⟨_, _, System.run_trace _ rfl facts.1, facts.2⟩
  · decide +kernel
  · decide +kernel

end WorldState
end RealityLayer
