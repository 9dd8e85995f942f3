import RealityLayer.RealityGit.Equality
import RealityLayer.WorldState.Clocks
import RealityLayer.WorldState.Provenance

namespace RealityLayer
namespace WorldState

open Foundation Python RealityGit WorldStateService

/-!
# One reading under two identifiers

`ingest` looks at an observation's identifier first.  A known one is a repetition and
answers with the held state.  A new one is projected, merged and committed, and what that
does to the entity depends on the rest of the observation alone: `Learned` is the outcome,
indexed by a `Fate` that no identifier, clock or cause enters.

A repetition and a new reading therefore come to the same exactly when the reading is
`Redundant`: it changes nothing in a held state, or there is none and it cannot give one.
-/

/-- Two observations that may differ in their identifier only. It is how the worker's read
differs from the one of the API for the same payload. -/
structure SameReading (first second : Observation) : Prop where
  connector : first.connector = second.connector
  objectType : first.objectType = second.objectType
  objectId : first.objectId = second.objectId
  observedAt : first.observedAt = second.observedAt
  payload : first.payload = second.payload

theorem SameReading.symm {first second : Observation} (same : SameReading first second) :
    SameReading second first :=
  ⟨same.connector.symm, same.objectType.symm, same.objectId.symm, same.observedAt.symm,
    same.payload.symm⟩

/-- The value held under a name, as it is dumped; null when there is none. -/
def dumpedValue (held : Dict Text StateAttribute) (name : Text) : Json :=
  (((held.get? name).map StateAttribute.value).map Json.jsonMode).getD .null

/-- Each value that was read is the held one, or is held back by a dispute. An attribute that
the reading does not mention stays. -/
def NothingNew (held : Dict Text StateAttribute) (observation : Observation) : Prop :=
  forall name value, observation.payload.get? name = some value ->
    disputesReading held observation (name, value) = true ∨
      (dumpedValue held name).pyEq value.jsonMode = true

/-- The commit of a reading, without the words for its cause. The two paths compared here
name different causes. -/
def plainRequest (rt : Runtime) (tenantId : Text) (observation : Observation)
    (previous : Option OrderState) : CommitRequest :=
  ingestRequest rt tenantId observation "" "" previous (projectedReading observation "")

/-- The attributes around a reading can be dumped. -/
def dumpable (rt : Runtime) (observation : Observation) (previous : Option OrderState) : Bool :=
  dumpsChange rt previous (compiledAttributes previous (projectedReading observation ""))

/-- A first reading can be projected and dumped, and `hash_json` accepts what it contains. -/
def Readable (rt : Runtime) (tenantId : Text) (observation : Observation) : Prop :=
  observation.observedAt.instant?.isSome = true ∧ dumpable rt observation none = true ∧
    (plainRequest rt tenantId observation none).hashable rt = true

/-- The reading tells a service nothing about its object. It is known, or it says what is held. -/
def Redundant (rt : Runtime) (service : WorldStateService) (tenantId : Text) (observation : Observation) :
    Prop :=
  match service.states.get? (tenantId, observation.objectType, observation.objectId) with
  | none => ¬ Readable rt tenantId observation
  | some state => observation.observedAt.instant?.isSome = true ∧
      dumpable rt observation (some state) = true ∧ NothingNew state.attributes observation

/-- What becomes of a new reading. Which of the three it is does not depend on the
identifier, so a renamed reading has the same fate. -/
inductive Fate where
  | refused
  | unchanged
  | advanced
deriving DecidableEq

def fate (rt : Runtime) (tenantId : Text) (observation : Observation) (previous : Option OrderState) :
    Fate :=
  if observation.observedAt.instant? = none then .refused
  else if dumpable rt observation previous = false then .refused
  else if previous.isSome &&
      (ingestChanges rt previous (projectedReading observation "")).isEmpty then .unchanged
  else if (plainRequest rt tenantId observation previous).hashable rt then .advanced
  else .refused

/-- The value an entity has after a reading that was compiled. A disputed attribute keeps the
old one. -/
def learnedValue (previous : Option OrderState) (observation : Observation) (name : Text) :
    Option Json :=
  match observation.payload.get? name with
  | none => ((heldAttributes previous).get? name).map StateAttribute.value
  | some value =>
      if disputesReading (heldAttributes previous) observation (name, value)
      then ((heldAttributes previous).get? name).map StateAttribute.value
      else some value

/-- What a new reading answers, and what it does to the entity states. The observation is
recorded in every case, even in the refused one. -/
inductive Learned (service : WorldStateService) (tenantId : Text) (observation : Observation)
    (previous : Option OrderState) : Fate -> Outcome PyError WorldStateService OrderState -> Prop
  | refused (after : WorldStateService) (error : PyError) (states : after.states = service.states) :
      Learned service tenantId observation previous .refused (.raises after error)
  | unchanged (after : WorldStateService) (state : OrderState) (stored : previous = some state)
      (states : after.states = service.states) :
      Learned service tenantId observation previous .unchanged (.returns after state)
  | advanced (after : WorldStateService) (state : OrderState)
      (states : after.states = service.states.set
        (tenantId, observation.objectType, observation.objectId) state)
      (values : forall name, state.value? name = learnedValue previous observation name)
      (named : state.commitId.encodable = true) :
      Learned service tenantId observation previous .advanced (.returns after state)

/-! ## What the identifier does not decide -/

section Same

variable {first second : Observation} {held : Dict Text StateAttribute} {label label' : Text}
variable {previous : Option OrderState}

theorem SameReading.disputesReading (same : SameReading first second) (held : Dict Text StateAttribute)
    (entry : Text × Json) : disputesReading held first entry = disputesReading held second entry := by
  unfold WorldState.disputesReading disputes projectedAttribute
  dsimp only
  rw [same.connector]

/-- Merging two readings of one content gives attributes that look alike. -/
theorem SameReading.mergeAttributes {W : Type} (same : SameReading first second)
    (view : Text -> StateAttribute -> W) (alike : forall name value,
      view name (projectedAttribute first label name value) =
        view name (projectedAttribute second label' name value))
    (entries : List (Text × Json)) {merged merged' : Dict Text StateAttribute}
    (before : merged.mapValues view = merged'.mapValues view) :
    (mergeAttributes held (entries.map (fun entry =>
        (entry.1, projectedAttribute first label entry.1 entry.2))) merged).mapValues view =
      (mergeAttributes held (entries.map (fun entry =>
        (entry.1, projectedAttribute second label' entry.1 entry.2))) merged').mapValues view := by
  induction entries generalizing merged merged' with
  | nil => exact before
  | cons entry rest ih =>
      have now := same.disputesReading held entry
      rw [← disputed?_projected held first label, ← disputed?_projected held second label'] at now
      rw [List.map_cons, List.map_cons, WorldStateService.mergeAttributes,
        WorldStateService.mergeAttributes]
      cases left : disputed? held (entry.1, projectedAttribute first label entry.1 entry.2) with
      | some existing =>
          rw [left] at now
          rcases Option.isSome_iff_exists.mp now.symm with ⟨existing', right⟩
          rw [right]
          exact ih before
      | none =>
          rw [left] at now
          rw [Option.not_isSome_iff_eq_none.mp (Bool.eq_false_iff.mp now.symm)]
          apply ih
          rw [Dict.mapValues_set, Dict.mapValues_set, before, alike]

theorem SameReading.compiledAttributes {W : Type} (same : SameReading first second)
    (view : Text -> StateAttribute -> W) (alike : forall name value,
      view name (projectedAttribute first label name value) =
        view name (projectedAttribute second label' name value)) :
    (compiledAttributes previous (projectedReading first label)).mapValues view =
      (compiledAttributes previous (projectedReading second label')).mapValues view := by
  unfold WorldStateService.compiledAttributes projectedReading Dict.mapValues
  dsimp only
  rw [← same.payload]
  exact same.mergeAttributes view alike first.payload.entries rfl

theorem SameReading.ingestChanges (same : SameReading first second) (rt : Runtime)
    (previous : Option OrderState) (label label' : Text) :
    ingestChanges rt previous (projectedReading first label) =
      ingestChanges rt previous (projectedReading second label') := by
  unfold WorldState.ingestChanges
  apply changedNames_congr rfl
  rw [dumpedValues, dumpedValues, dumpAttributes, dumpAttributes, Dict.mapValues_mapValues,
    Dict.mapValues_mapValues]
  exact same.compiledAttributes _ (fun _ _ => rfl)

theorem SameReading.dumpsChange (same : SameReading first second) (rt : Runtime)
    (previous : Option OrderState) (label label' : Text) :
    dumpsChange rt previous (WorldStateService.compiledAttributes previous (projectedReading first label)) =
      dumpsChange rt previous
        (WorldStateService.compiledAttributes previous (projectedReading second label')) := by
  have alike := @SameReading.compiledAttributes _ _ label label' previous _ same
    (fun _ attr => rt.dumps attr.value) (fun _ _ => rfl)
  unfold WorldState.dumpsChange
  rw [dumpsAll_values, dumpsAll_values rt (WorldStateService.compiledAttributes _ (projectedReading first _)),
    alike, ← dumpsAll_values, ← dumpsAll_values]

/-! ## Hashing -/

theorem observationId_encodable (observation : Observation) :
    observation.observationId.encodable = true := by
  have valid := observation.valid
  simp only [ObservationFields.accepted, Bool.and_eq_true] at valid
  have pattern := valid.1.1.1
  unfold observationIdPattern at pattern
  rw [Bool.and_eq_true, Bool.and_eq_true] at pattern
  rcases pattern with ⟨⟨starts, _⟩, tokens⟩
  unfold Text.startsWith at starts
  rcases List.isPrefixOf_iff_prefix.mp starts with ⟨rest, split⟩
  unfold Text.encodable
  rw [← split] at tokens ⊢
  have front : (Text.ofString "obs_").codes.length = 4 := by decide
  rw [List.drop_append_of_le_length (le_of_eq front.symm), List.drop_of_length_le (le_of_eq front),
    List.nil_append, List.all_eq_true] at tokens
  rw [List.all_append, Bool.and_eq_true, List.all_eq_true, List.all_eq_true]
  refine ⟨by decide, fun code member => ?_⟩
  have token := tokens code member
  simp only [tokenCode, Bool.or_eq_true, Bool.and_eq_true, decide_eq_true_eq, beq_iff_eq] at token
  unfold Text.scalar
  rw [Bool.or_eq_true]
  exact Or.inl (decide_eq_true (by omega))

/-- What hashing asks of a dumped attribute map, name by name. -/
def dumpHashable (rt : Runtime) (name : Text) (attr : StateAttribute) : Bool :=
  (attr.dump rt).finite && (name.encodable && encodableJson rt (attr.dump rt))

theorem hashableEntries_dump (rt : Runtime) (attributes : Dict Text StateAttribute) :
    hashableEntries rt (dumpAttributes rt attributes).entries =
      (attributes.mapValues (dumpHashable rt)).entries.all Prod.snd := by
  unfold hashableEntries dumpAttributes Dict.mapValues dumpHashable
  dsimp only
  induction attributes.entries with
  | nil => rfl
  | cons entry rest ih =>
      simp only [List.map_cons, Json.finiteEntries, encodableEntries, List.all_cons]
      rw [← ih]
      ac_rfl

theorem SameReading.dumpHashable (same : SameReading first second) (rt : Runtime)
    (labelled : label.encodable = true) (labelled' : label'.encodable = true) (name : Text) (value : Json) :
    dumpHashable rt name (projectedAttribute first label name value) =
      dumpHashable rt name (projectedAttribute second label' name value) := by
  unfold WorldState.dumpHashable StateAttribute.dump projectedAttribute
  simp only [Json.finite, Json.finiteEntries, Json.finiteList, encodableJson, encodableEntries,
    encodableItems, List.map_cons, List.map_nil, observationId_encodable, labelled, labelled',
    same.connector, same.observedAt]

/-- Neither the identifier nor the label or the cause decides what can be hashed. -/
theorem SameReading.hashable (same : SameReading first second) (rt : Runtime) (tenantId : Text)
    {cause cause' level level' : Text} (labelled : label.encodable = true)
    (labelled' : label'.encodable = true) (caused : cause.encodable = true)
    (caused' : cause'.encodable = true) (previous : Option OrderState) :
    (ingestRequest rt tenantId first cause level previous (projectedReading first label)).hashable rt =
      (ingestRequest rt tenantId second cause' level' previous
        (projectedReading second label')).hashable rt := by
  unfold CommitRequest.hashable ingestRequest
  dsimp only
  rw [same.objectType, same.objectId, caused, caused', same.ingestChanges rt previous label label',
    hashableEntries_dump rt (WorldStateService.compiledAttributes _ _),
    hashableEntries_dump rt (WorldStateService.compiledAttributes _ _),
    same.compiledAttributes (WorldState.dumpHashable rt) (same.dumpHashable rt labelled labelled'),
    List.all_cons, List.all_cons, observationId_encodable, observationId_encodable]

theorem SameReading.fate (same : SameReading first second) (rt : Runtime) (tenantId : Text)
    (previous : Option OrderState) : fate rt tenantId first previous = fate rt tenantId second previous := by
  have blank : Text.encodable "" = true := rfl
  unfold WorldState.fate WorldState.dumpable plainRequest
  rw [same.observedAt, same.dumpsChange rt previous "" "", same.ingestChanges rt previous "" "",
    same.hashable rt tenantId blank blank blank blank previous]

theorem SameReading.learnedValue (same : SameReading first second) (previous : Option OrderState)
    (name : Text) : learnedValue previous first name = learnedValue previous second name := by
  unfold WorldState.learnedValue
  rw [same.payload]
  cases second.payload.get? name with
  | none => rfl
  | some value =>
      dsimp only
      rw [same.disputesReading]

/-- What a service learns under one identifier it learns under the other. -/
theorem SameReading.learned (same : SameReading first second) {service : WorldStateService}
    {tenantId : Text} {ending : Fate} {outcome : Outcome PyError WorldStateService OrderState}
    (learned : Learned service tenantId first previous ending outcome) :
    Learned service tenantId second previous ending outcome := by
  cases learned with
  | refused after error states => exact .refused after error states
  | unchanged after state stored states => exact .unchanged after state stored states
  | advanced after state states values named =>
      rw [same.objectType, same.objectId] at states
      exact .advanced after state states
        (fun name => (values name).trans (same.learnedValue previous name)) named

end Same

/-! ## The outcome of a new reading -/

section Learning

variable {rt : Runtime} {service : WorldStateService} {draws : Draws} {tenantId cause level : Text}
variable {observation : Observation}

theorem compiled_learned (previous : Option OrderState) (label name commitId : Text) :
    (compiledState tenantId observation previous (projectedReading observation label)
      commitId).value? name = learnedValue previous observation name := by
  unfold OrderState.value? compiledState learnedValue
  dsimp only
  rw [get?_compiledAttributes]
  cases observation.payload.get? name with
  | none => rfl
  | some value =>
      dsimp only
      split
      · rfl
      · rfl

theorem not_quiet {previous : Option OrderState} {names : List Text}
    (changed : previous = none ∨ names ≠ []) : (previous.isSome && names.isEmpty) = false := by
  rcases changed with absent | changed
  · rw [absent]
    rfl
  · rw [Bool.eq_false_iff.mpr (fun empty => changed (List.isEmpty_iff.mp empty)), Bool.and_false]

variable (rt) in
/-- A new reading meets its fate. -/
theorem ingest_learned (linkable : Linkable service) (draws : Draws) (level : Text)
    (caused : cause.encodable = true)
    (new : service.observations.contains (tenantId, observation.observationId) = false)
    {previous : Option OrderState}
    (stored : service.states.get? (tenantId, observation.objectType, observation.objectId) = previous) :
    Learned service tenantId observation previous (fate rt tenantId observation previous)
      (service.ingest rt draws tenantId observation cause level) := by
  have way := ingest_ingestion rt service draws tenantId observation cause level
  rw [stored] at way
  have whole : SameReading observation observation := ⟨rfl, rfl, rfl, rfl, rfl⟩
  have blank : Text.encodable "" = true := rfl
  unfold fate dumpable plainRequest
  cases aware : observation.observedAt.instant? with
  | none =>
      rw [if_pos rfl]
      rcases project_naive draws aware with ⟨error, failed⟩
      generalize service.ingest rt draws tenantId observation cause level = outcome at way ⊢
      cases way with
      | repeated state _ known => exact absurd (new.symm.trans known) Bool.false_ne_true
      | stateless _ known => exact absurd (new.symm.trans known) Bool.false_ne_true
      | unprojected error => exact .refused _ error rfl
      | unchanged incoming state _ _ projected => cases failed.symm.trans projected
      | undumped incoming _ projected => cases failed.symm.trans projected
      | refused incoming error _ projected => cases failed.symm.trans projected
      | committed incoming commit _ projected => cases failed.symm.trans projected
  | some observed =>
      rw [if_neg (Option.some_ne_none observed)]
      have labelled := freshnessLabel_encodable draws observed
      have projects := project_eq draws aware
      have base := linkable.merged draws tenantId observation previous
        (projectedReading observation (freshnessLabel draws observed))
      have kept := merged_same service draws tenantId observation previous
        (projectedReading observation (freshnessLabel draws observed))
      have changes := whole.ingestChanges rt previous (freshnessLabel draws observed) ""
      have hashes := @SameReading.hashable _ _ _ _ whole rt tenantId cause "" level "" labelled blank
        caused blank previous
      rw [← whole.dumpsChange rt previous (freshnessLabel draws observed) "", ← changes, ← hashes]
      generalize service.ingest rt draws tenantId observation cause level = outcome at way ⊢
      cases way with
      | repeated state _ known => exact absurd (new.symm.trans known) Bool.false_ne_true
      | stateless _ known => exact absurd (new.symm.trans known) Bool.false_ne_true
      | unprojected error _ failed => cases projects.symm.trans failed
      | unchanged incoming state found _ projected same dumped =>
          cases projects.symm.trans projected
          subst found
          rw [dumped, if_neg (by decide), same]
          exact .unchanged _ state rfl kept.states
      | undumped incoming _ projected undumpable =>
          cases projects.symm.trans projected
          rw [if_pos undumpable]
          exact .refused _ dumpRefusal kept.states
      | refused incoming error _ projected changed failed dumped =>
          cases projects.symm.trans projected
          have created := base.createCommit rt draws (ingestRequest rt tenantId observation cause
            level previous (projectedReading observation (freshnessLabel draws observed)))
          rw [failed] at created
          rw [dumped, if_neg (by decide), not_quiet changed, if_neg Bool.false_ne_true, ← created]
          exact .refused _ error kept.states
      | committed incoming commit _ projected changed continues answers dumped =>
          cases projects.symm.trans projected
          rw [dumped, if_neg (by decide), not_quiet changed, if_neg Bool.false_ne_true,
            base.answered continues answers, if_pos rfl]
          refine .advanced _ _ ?_ (fun name => compiled_learned previous _ name commit.commitId) ?_
          · simp only [setState, record, kept.states, seen]
          · rw [compiledState, answers.commitId]
            exact newCommitId_encodable draws

variable (rt service tenantId observation) in
/-- What a reading comes to, by whether its identifier was seen. A known identifier is
answered from the held state, whatever the reading would say. -/
inductive ReadAs : Bool -> Outcome PyError WorldStateService OrderState -> Prop
  | repeated (state : OrderState)
      (held : service.states.get? (tenantId, observation.objectType, observation.objectId) = some state) :
      ReadAs true (.returns service state)
  | stateless (error : PyError)
      (absent : service.states.get? (tenantId, observation.objectType, observation.objectId) = none) :
      ReadAs true (.raises service error)
  | learned (outcome : Outcome PyError WorldStateService OrderState)
      (learned : Learned service tenantId observation
        (service.states.get? (tenantId, observation.objectType, observation.objectId))
        (fate rt tenantId observation
          (service.states.get? (tenantId, observation.objectType, observation.objectId))) outcome) :
      ReadAs false outcome

/-- Under any identifier a reading is a repetition, or it is learned. -/
theorem SameReading.ingest {other : Observation} (same : SameReading other observation)
    (linkable : Linkable service) (draws : Draws) (level : Text) (caused : cause.encodable = true) :
    ReadAs rt service tenantId observation
      (service.observations.contains (tenantId, other.observationId))
      (service.ingest rt draws tenantId other cause level) := by
  have way := ingest_ingestion rt service draws tenantId other cause level
  have key : (tenantId, other.objectType, other.objectId) =
      (tenantId, observation.objectType, observation.objectId) := by
    rw [same.objectType, same.objectId]
  cases seen : service.observations.contains (tenantId, other.observationId) with
  | false =>
      have learned := same.learned (ingest_learned rt linkable draws level caused seen rfl)
      rw [key, same.fate] at learned
      exact .learned _ learned
  | true =>
      rw [key] at way
      generalize service.ingest rt draws tenantId other cause level = outcome at way ⊢
      cases way with
      | repeated state stored => exact .repeated state stored
      | stateless absent => exact .stateless _ absent
      | unprojected error new => exact absurd (seen.symm.trans new) (by decide)
      | unchanged incoming state stored new => exact absurd (seen.symm.trans new) (by decide)
      | undumped incoming new => exact absurd (seen.symm.trans new) (by decide)
      | refused incoming error new => exact absurd (seen.symm.trans new) (by decide)
      | committed incoming commit new => exact absurd (seen.symm.trans new) (by decide)

end Learning

/-! ## Redundant readings -/

/-- The objects in the values have distinct keys, as dictionaries have. The type of JSON
values does not say so by itself. -/
def KeyedAttributes (attributes : Dict Text StateAttribute) : Prop :=
  forall name attr, attributes.get? name = some attr -> keyed attr.value = true

def KeyedPayload (observation : Observation) : Prop :=
  forall name value, observation.payload.get? name = some value -> keyed value = true

section Redundancy

variable {rt : Runtime} {tenantId : Text} {observation : Observation}

theorem jsonMode_self {value : Json} (distinct : keyed value = true) :
    value.jsonMode.pyEq value.jsonMode = true :=
  pyEq_self value.jsonMode (finite_jsonMode value) ((keyed_jsonMode value).trans distinct)

theorem dumpedValue_self {held : Dict Text StateAttribute} (distinct : KeyedAttributes held)
    (name : Text) : (dumpedValue held name).pyEq (dumpedValue held name) = true := by
  unfold dumpedValue
  cases stored : held.get? name with
  | none => exact pyEq_self .null rfl rfl
  | some attr => exact jsonMode_self (distinct name attr stored)

/-- A reading that changes no dumped value has nothing new. -/
theorem nothingNew_of_quiet (rt : Runtime) (previous : Option OrderState) (label : Text)
    (quiet : ingestChanges rt previous (projectedReading observation label) = []) :
    NothingNew (heldAttributes previous) observation := by
  unfold ingestChanges at quiet
  rw [List.eq_nil_iff_forall_not_mem] at quiet
  simp only [mem_changedNames, Differs, attributesFor_held, attributeValue_dump,
    get?_compiledAttributes] at quiet
  intro name value read
  have same := quiet name
  rw [read] at same
  dsimp only at same
  cases disputed : disputesReading (heldAttributes previous) observation (name, value) with
  | true => exact Or.inl rfl
  | false =>
      rw [disputed, if_neg Bool.false_ne_true, Bool.not_eq_false] at same
      exact Or.inr same

/-- The diff is empty exactly when the reading has nothing new. -/
theorem ingestChanges_nil_iff (rt : Runtime) (previous : Option OrderState)
    (distinct : KeyedAttributes (heldAttributes previous)) (label : Text) :
    ingestChanges rt previous (projectedReading observation label) = [] <->
      NothingNew (heldAttributes previous) observation := by
  constructor
  · exact nothingNew_of_quiet rt previous label
  · intro nothing
    unfold ingestChanges
    rw [List.eq_nil_iff_forall_not_mem]
    simp only [mem_changedNames, Differs, attributesFor_held, attributeValue_dump,
      get?_compiledAttributes]
    intro name
    rw [Bool.not_eq_false]
    have self := dumpedValue_self distinct name
    cases read : observation.payload.get? name with
    | none => exact self
    | some value =>
        dsimp only
        cases disputed : disputesReading (heldAttributes previous) observation (name, value) with
        | true => exact self
        | false =>
            rw [if_neg Bool.false_ne_true]
            rcases nothing name value read with held | same
            · exact absurd (disputed.symm.trans held) Bool.false_ne_true
            · exact same

variable (rt tenantId observation) in
/-- Where no state is held, a redundant reading is refused. -/
theorem fate_refused_iff : fate rt tenantId observation none = .refused <->
    ¬ Readable rt tenantId observation := by
  unfold fate Readable
  cases observation.observedAt.instant? with
  | none => simp
  | some observed =>
      rw [if_neg (Option.some_ne_none observed), Option.isSome_none, Bool.false_and,
        if_neg Bool.false_ne_true]
      cases dumpable rt observation none with
      | false => simp
      | true =>
          cases (plainRequest rt tenantId observation none).hashable rt with
          | false => simp
          | true => simp

variable (rt tenantId observation) in
/-- Where a state is held, a redundant reading leaves it unchanged. Any other reading
advances it or raises. -/
theorem fate_unchanged_iff (state : OrderState) (distinct : KeyedAttributes state.attributes) :
    fate rt tenantId observation (some state) = .unchanged <->
      observation.observedAt.instant?.isSome = true ∧ dumpable rt observation (some state) = true ∧
        NothingNew state.attributes observation := by
  have empty : (ingestChanges rt (some state) (projectedReading observation "")).isEmpty = true <->
      NothingNew state.attributes observation :=
    List.isEmpty_iff.trans (ingestChanges_nil_iff rt (some state) distinct "")
  unfold fate
  rw [← empty]
  cases observation.observedAt.instant? with
  | none => simp
  | some observed =>
      rw [if_neg (Option.some_ne_none observed), Option.isSome_some, Bool.true_and]
      cases dumpable rt observation (some state) with
      | false => simp
      | true =>
          cases (ingestChanges rt (some state) (projectedReading observation "")).isEmpty with
          | true => simp
          | false =>
              cases (plainRequest rt tenantId observation (some state)).hashable rt with
              | false => simp
              | true => simp

theorem fate_advanced {state : OrderState}
    (met : fate rt tenantId observation (some state) = .advanced)
    (distinct : KeyedAttributes state.attributes) : ¬ NothingNew state.attributes observation := by
  intro nothing
  have aware : observation.observedAt.instant?.isSome = true := by
    cases time : observation.observedAt.instant? with
    | none =>
        unfold fate at met
        rw [if_pos time] at met
        cases met
    | some observed => rfl
  have dumped : dumpable rt observation (some state) = true := by
    by_contra undumpable
    unfold fate at met
    rw [if_pos (Bool.eq_false_of_not_eq_true undumpable)] at met
    split at met <;> cases met
  rw [(fate_unchanged_iff rt tenantId observation state distinct).mpr ⟨aware, dumped, nothing⟩] at met
  cases met

/-- A reading that advances an entity gives it another value. -/
theorem learnedValue_ne {state : OrderState} (payload : KeyedPayload observation)
    (new : ¬ NothingNew state.attributes observation) :
    Exists fun name : Text => learnedValue (some state) observation name ≠ state.value? name := by
  unfold NothingNew at new
  push Not at new
  rcases new with ⟨name, value, read, undisputed, differs⟩
  change disputesReading (heldAttributes (some state)) observation (name, value) ≠ true at undisputed
  refine ⟨name, fun same => ?_⟩
  unfold learnedValue at same
  rw [read] at same
  dsimp only at same
  rw [if_neg undisputed] at same
  unfold dumpedValue at differs
  unfold OrderState.value? at same
  rw [← same] at differs
  exact differs (jsonMode_self (payload name value read))

end Redundancy

/-! ## Runs -/

/-- A call brings values whose objects have distinct keys. -/
def WorldCall.Keyed : WorldCall -> Prop
  | .ingest _ _ observation _ _ => KeyedPayload observation
  | .resolveConflict _ _ _ resolvedValue _ _ => keyed resolvedValue = true

/-- World State under calls with fresh identifiers and keyed values. -/
def keyedSystem (rt : Runtime) : System WorldStateService WorldCall :=
  (worldSystem rt).restrict (fun _ call => call.Keyed)

/-- What the held states are good for: the next commit, and a comparison. Comparing needs
objects without repeated keys, as dictionaries are. -/
structure WellKept (service : WorldStateService) : Prop where
  linkable : Linkable service
  distinct : forall key state, service.states.get? key = some state -> KeyedAttributes state.attributes

theorem WellKept.fresh : WellKept .fresh where
  linkable := .fresh
  distinct := by
    intro key state stored
    cases stored

section Steps

variable {rt : Runtime} {service : WorldStateService}

theorem WellKept.held (kept : WellKept service) (key : Text × Text × Text) :
    KeyedAttributes (heldAttributes (service.states.get? key)) := by
  cases stored : service.states.get? key with
  | none =>
      intro name attr found
      cases found
  | some state => exact kept.distinct key state stored

theorem WellKept.ingest (kept : WellKept service) (digests : DigestsEncodable rt) (draws : Draws)
    (tenantId : Text) {observation : Observation} (payload : KeyedPayload observation)
    (cause assuranceLevel : Text) :
    WellKept (service.ingest rt draws tenantId observation cause assuranceLevel).state := by
  refine ⟨kept.linkable.ingest digests, ?_⟩
  rcases ingest_writes rt service draws tenantId observation cause assuranceLevel with
    ⟨same, _⟩ | ⟨label, commit, states, _⟩
  · rw [same]
    exact kept.distinct
  · intro key state stored
    rw [states, Dict.get?_set] at stored
    split at stored
    · cases stored
      exact compiledAttributes_all (kept.held _) payload
    · exact kept.distinct key state stored

theorem WellKept.resolveConflict (kept : WellKept service) (digests : DigestsEncodable rt) (draws : Draws)
    (tenantId conflictId : Text) {resolvedValue : Json} (value : keyed resolvedValue = true)
    (resolvedBy reason : Text) :
    WellKept (service.resolveConflict rt draws tenantId conflictId resolvedValue resolvedBy
      reason).state := by
  have resolution := resolveConflict_resolution rt service draws tenantId conflictId resolvedValue
    resolvedBy reason
  rcases resolveConflict_entity rt service draws tenantId conflictId resolvedValue
    resolvedBy reason with ⟨entry, effect, _⟩
  generalize service.resolveConflict rt draws tenantId conflictId resolvedValue resolvedBy reason =
    outcome at resolution effect ⊢
  have quiet : outcome.state.states = service.states -> WellKept outcome.state := by
    intro same
    refine ⟨kept.linkable.step digests effect ?_, ?_⟩
    · rw [same]
      exact kept.linkable.labels
    · rw [same]
      exact kept.distinct
  cases resolution with
  | unknown error absent => exact quiet rfl
  | settled conflict found resolved => exact quiet rfl
  | stateless conflict found unresolved absent => exact quiet rfl
  | undumped conflict state found unresolved stored undumpable => exact quiet rfl
  | refused conflict state error found unresolved stored failed => exact quiet rfl
  | committed conflict state commit found unresolved stored continues answers =>
      have placedAttr : forall name attr,
          (resolvedAttributes state conflict resolvedValue draws).get? name = some attr ->
            attr.freshness.encodable = true ∧ keyed attr.value = true := by
        intro name attr found
        rw [resolvedAttributes, Dict.get?_set] at found
        split at found
        · cases found
          exact ⟨Text.encodable_ofString "fresh", value⟩
        · exact ⟨kept.linkable.labels _ state stored name attr found,
            kept.distinct _ state stored name attr found⟩
      refine ⟨kept.linkable.step digests effect ?_, ?_⟩
      · intro key held placed
        change ((service.states.set _ _).get? key) = some held at placed
        rw [Dict.get?_set] at placed
        split at placed
        · cases placed
          exact fun name attr found => (placedAttr name attr found).1
        · exact kept.linkable.labels key held placed
      · intro key held placed
        change ((service.states.set _ _).get? key) = some held at placed
        rw [Dict.get?_set] at placed
        split at placed
        · cases placed
          exact fun name attr found => (placedAttr name attr found).2
        · exact kept.distinct key held placed

/-- Every reachable service keeps its states well. -/
theorem WellKept.of_run (digests : DigestsEncodable rt)
    {history : List (Step WorldStateService WorldCall)} (run : (keyedSystem rt).Run history service) :
    WellKept service := by
  apply System.Run.invariant run
  · rintro state rfl
    exact .fresh
  · intro state call kept admitted
    rcases admitted with ⟨_, values⟩
    cases call with
    | ingest draws tenantId observation cause assuranceLevel =>
        exact kept.ingest digests draws tenantId values cause assuranceLevel
    | resolveConflict draws tenantId conflictId resolvedValue resolvedBy reason =>
        exact kept.resolveConflict digests draws tenantId conflictId values resolvedBy reason

end Steps

end WorldState
end RealityLayer
