import RealityLayer.WorldState.ConflictIndex

namespace RealityLayer
namespace WorldState

open Foundation Python RealityGit WorldStateService

/-!
# Where every value comes from

An attribute of an entity state was put there by one call: the observation whose payload
carries it, or the resolution of a conflict about it.  `LastWritten` finds that call in the
history, and `Traced` is what then stands behind the attribute.

Most calls write nothing: they repeat an observation, raise, or find that nothing changes.
Merging keeps the attributes that a reading does not mention or may not overwrite, and a
resolution copies identifiers from candidates, which were themselves copied from attributes
and readings.  The invariant therefore follows attributes, candidates and commits together.
-/

/-- The service under calls whose new conflicts have new identifiers. -/
def conflictSystem (rt : Runtime) : System WorldStateService WorldCall where
  start := fun service => service = .fresh
  admits := fun service call => call.FreshConflicts service
  next := fun service call => service.perform rt call

/-- The call writes this attribute of the entity, if it writes the entity at all. A reading
assigns what it is not held back on. -/
def WorldCall.Assigns (service : WorldStateService) (key : Text × Text × Text) (name : Text) :
    WorldCall -> Prop
  | .ingest _ tenantId observation _ _ =>
      key = (tenantId, observation.objectType, observation.objectId) ∧
        Exists fun value : Json => observation.payload.get? name = some value ∧
          disputesReading (heldAttributes (service.states.get? key)) observation (name, value) = false
  | .resolveConflict _ tenantId conflictId _ _ _ =>
      Exists fun conflict : Conflict =>
        service.conflictsById.get? (tenantId, conflictId) = some conflict ∧
          conflict.key = (key.1, key.2.1, key.2.2, name)

/-- The step wrote the attribute: the entity has another state, and the call assigns it. A
reading that changes nothing writes none of its attributes, even where it agrees with them. -/
structure Wrote (key : Text × Text × Text) (name : Text) (step : Step WorldStateService WorldCall) :
    Prop where
  assigns : step.label.Assigns step.before key name
  stored : step.after.states.get? key ≠ step.before.states.get? key

/-- The attribute was last written by this call. None of the calls after it writes the
attribute. -/
def LastWritten (history : List (Step WorldStateService WorldCall)) (key : Text × Text × Text)
    (name : Text) (call : WorldCall) : Prop :=
  Exists fun front => Exists fun step => Exists fun back => history = front ++ step :: back ∧
    step.label = call ∧ Wrote key name step ∧ forall later, later ∈ back -> ¬ Wrote key name later

/-- Some call for the tenant recorded the observation. -/
def Ingested (history : List (Step WorldStateService WorldCall)) (tenantId : Text)
    (observation : Observation) : Prop :=
  Exists fun step => step ∈ history ∧
    (Exists fun draws => Exists fun cause => Exists fun assuranceLevel =>
      step.label = .ingest draws tenantId observation cause assuranceLevel) ∧
    step.before.observations.get? (tenantId, observation.observationId) = none ∧
    step.after.observations.get? (tenantId, observation.observationId) = some observation

/-- The identifier is that of an ingested observation of the entity. Which call ingested it
is not said. -/
def Sourced (history : List (Step WorldStateService WorldCall)) (key : Text × Text × Text)
    (observationId : Text) : Prop :=
  Exists fun observation => Ingested history key.1 observation ∧
    (key.1, observation.objectType, observation.objectId) = key ∧
    observation.observationId = observationId

/-- What stands behind an attribute, by the call that wrote it last. A resolution gives the
value of the operator and the sources of a candidate, and a reading gives its own. -/
inductive Traced (history : List (Step WorldStateService WorldCall)) (service : WorldStateService)
    (key : Text × Text × Text) (name : Text) (attr : StateAttribute) : WorldCall -> Prop
  | resolved (draws : Draws) (conflictId : Text) (resolvedValue : Json) (resolvedBy reason : Text)
      (conflict : Conflict) (found : service.conflictsById.get? (key.1, conflictId) = some conflict)
      (about : conflict.key = (key.1, key.2.1, key.2.2, name))
      (settled : conflict.status = "resolved") (value : conflict.resolvedValue = attr.value)
      (sources : forall observationId, observationId ∈ attr.sourceObservationIds ->
        Exists fun candidate : ConflictCandidate => candidate ∈ conflict.candidates ∧
          candidate.observationId = some observationId) :
      Traced history service key name attr
        (.resolveConflict draws key.1 conflictId resolvedValue resolvedBy reason)
  | observed (draws : Draws) (observation : Observation) (cause assuranceLevel : Text)
      (ingested : Ingested history key.1 observation)
      (about : (key.1, observation.objectType, observation.objectId) = key)
      (value : observation.payload.get? name = some attr.value)
      (sources : attr.sourceObservationIds = [observation.observationId])
      (connector : attr.connector = some observation.connector)
      (observedAt : attr.observedAt = observation.observedAt) :
      Traced history service key name attr (.ingest draws key.1 observation cause assuranceLevel)

/-- Every candidate with an identifier comes from an ingested observation of the entity. -/
def SourcedCandidates (history : List (Step WorldStateService WorldCall)) (service : WorldStateService) :
    Prop :=
  forall id conflict, service.conflictsById.get? id = some conflict ->
    forall candidate, candidate ∈ conflict.candidates -> forall observationId,
      candidate.observationId = some observationId ->
        Sourced history (conflict.tenantId, conflict.entityType, conflict.entityId) observationId

/-- Every identifier in a commit comes from an ingested observation of its entity. -/
def SourcedCommits (history : List (Step WorldStateService WorldCall)) (service : WorldStateService) :
    Prop :=
  forall id commit, service.commits.get? id = some commit -> forall observationId,
    observationId ∈ commit.observationIds -> Sourced history commit.entityKey observationId

/-- Every attribute has a last writer, and what then stands behind it. For a resolution these
are the candidates of the conflict. -/
def TracedAttributes (history : List (Step WorldStateService WorldCall)) (service : WorldStateService) :
    Prop :=
  forall key state name attr, service.states.get? key = some state ->
    state.attributes.get? name = some attr ->
      Exists fun call => LastWritten history key name call ∧ Traced history service key name attr call

/-- What holds of the service along a run. The attributes and the candidates both need
sources in the history, because a resolution copies the one from the other. -/
structure Traceable (history : List (Step WorldStateService WorldCall)) (service : WorldStateService) :
    Prop where
  stored : Stored service
  filed : Filed service
  covered : Covered service
  attributes : TracedAttributes history service
  candidates : SourcedCandidates history service
  commits : SourcedCommits history service

/-! ## Longer histories -/

section Later

variable {history : List (Step WorldStateService WorldCall)} {service : WorldStateService}
variable {key : Text × Text × Text} {name : Text} {step : Step WorldStateService WorldCall}

theorem Ingested.later {tenantId : Text} {observation : Observation}
    (ingested : Ingested history tenantId observation) (step : Step WorldStateService WorldCall) :
    Ingested (history ++ [step]) tenantId observation := by
  rcases ingested with ⟨earlier, member, call, new, recorded⟩
  exact ⟨earlier, List.mem_append_left _ member, call, new, recorded⟩

theorem Sourced.later {observationId : Text} (sourced : Sourced history key observationId)
    (step : Step WorldStateService WorldCall) : Sourced (history ++ [step]) key observationId := by
  rcases sourced with ⟨observation, ingested, about, named⟩
  exact ⟨observation, ingested.later step, about, named⟩

theorem LastWritten.now (wrote : Wrote key name step) :
    LastWritten (history ++ [step]) key name step.label := by
  refine ⟨history, step, [], rfl, rfl, wrote, ?_⟩
  intro later member
  cases member

theorem LastWritten.later {call : WorldCall} (written : LastWritten history key name call)
    (idle : ¬ Wrote key name step) : LastWritten (history ++ [step]) key name call := by
  rcases written with ⟨front, earlier, back, rfl, label, wrote, quiet⟩
  refine ⟨front, earlier, back ++ [step], ?_, label, wrote, ?_⟩
  · rw [List.append_assoc, List.cons_append]
  · intro later member
    rcases List.mem_append.mp member with before | last
    · exact quiet later before
    · rw [List.mem_singleton.mp last]
      exact idle

/-- A trace outlives a step that keeps the resolved conflicts. -/
theorem Traced.later {attr : StateAttribute} {call : WorldCall}
    (traced : Traced history service key name attr call)
    (kept : forall id conflict, service.conflictsById.get? id = some conflict ->
      conflict.status = "resolved" -> step.after.conflictsById.get? id = some conflict) :
    Traced (history ++ [step]) step.after key name attr call := by
  cases traced with
  | resolved draws conflictId resolvedValue resolvedBy reason conflict found about settled value
      sources =>
      exact .resolved draws conflictId resolvedValue resolvedBy reason conflict
        (kept _ conflict found settled) about settled value sources
  | observed draws observation cause assuranceLevel ingested about value sources connector observedAt =>
      exact .observed draws observation cause assuranceLevel (ingested.later step) about value sources
        connector observedAt

/-- The identifiers behind a traced attribute are those of observations of its entity. For a
resolution they come from the candidates. -/
theorem Traceable.sources (sound : Traceable history service) {state : OrderState}
    {attr : StateAttribute} (stored : service.states.get? key = some state)
    (held : state.attributes.get? name = some attr) {observationId : Text}
    (member : observationId ∈ attr.sourceObservationIds) : Sourced history key observationId := by
  rcases sound.attributes key state name attr stored held with ⟨call, _, traced⟩
  cases traced with
  | resolved draws conflictId resolvedValue resolvedBy reason conflict found about settled value
      sources =>
      rcases sources observationId member with ⟨candidate, inside, named⟩
      obtain ⟨tenant, entityType, entityId, _⟩ : conflict.tenantId = key.1 ∧
          conflict.entityType = key.2.1 ∧ conflict.entityId = key.2.2 ∧
          conflict.attributeName = name := by
        simpa [Conflict.key] using about
      have sourced := sound.candidates _ conflict found candidate inside observationId named
      rw [tenant, entityType, entityId] at sourced
      exact sourced
  | observed draws observation cause assuranceLevel ingested about value sources connector observedAt =>
      rw [sources] at member
      exact ⟨observation, ingested, about, (List.mem_singleton.mp member).symm⟩

/-- One step of the invariant.  An attribute is as it was or was written by the step, and a
commit was there or names observations of its entity. -/
theorem Traceable.extend (sound : Traceable history step.before)
    (indexes : Stored step.after ∧ Filed step.after ∧ Covered step.after)
    (kept : forall id conflict, step.before.conflictsById.get? id = some conflict ->
      conflict.status = "resolved" -> step.after.conflictsById.get? id = some conflict)
    (candidates : SourcedCandidates (history ++ [step]) step.after)
    (attributes : forall key state name attr, step.after.states.get? key = some state ->
      state.attributes.get? name = some attr ->
        (¬ Wrote key name step ∧ Exists fun earlier : OrderState =>
          step.before.states.get? key = some earlier ∧ earlier.attributes.get? name = some attr) ∨
        Wrote key name step ∧ Traced (history ++ [step]) step.after key name attr step.label)
    (commits : forall id commit, step.after.commits.get? id = some commit ->
      step.before.commits.get? id = some commit ∨ forall observationId,
        observationId ∈ commit.observationIds ->
          Sourced (history ++ [step]) commit.entityKey observationId) :
    Traceable (history ++ [step]) step.after where
  stored := indexes.1
  filed := indexes.2.1
  covered := indexes.2.2
  candidates := candidates
  attributes := by
    intro key state name attr stored held
    rcases attributes key state name attr stored held with ⟨idle, earlier, stored', held'⟩ |
      ⟨wrote, traced⟩
    · rcases sound.attributes key earlier name attr stored' held' with ⟨call, written, traced⟩
      exact ⟨call, written.later idle, traced.later kept⟩
    · exact ⟨step.label, .now wrote, traced⟩
  commits := by
    intro id commit stored observationId member
    rcases commits id commit stored with earlier | sourced
    · exact (sound.commits id commit earlier observationId member).later step
    · exact sourced observationId member

theorem SourcedCandidates.later (candidates : SourcedCandidates history service)
    (step : Step WorldStateService WorldCall) : SourcedCandidates (history ++ [step]) service :=
  fun id conflict found candidate member observationId named =>
    (candidates id conflict found candidate member observationId named).later step

/-- A step that leaves the service alone. -/
theorem Traceable.idle (sound : Traceable history step.before) (same : step.after = step.before) :
    Traceable (history ++ [step]) step.after := by
  apply sound.extend
  · rw [same]
    exact ⟨sound.stored, sound.filed, sound.covered⟩
  · intro id conflict found _
    rw [same]
    exact found
  · rw [same]
    exact sound.candidates.later step
  · intro key state name attr stored held
    rw [same] at stored
    refine Or.inl ⟨?_, state, stored, held⟩
    intro wrote
    exact wrote.stored (by rw [same])
  · intro id commit stored
    rw [same] at stored
    exact Or.inl stored

end Later

/-! ## Recording conflicts -/

section Recording

variable {history : List (Step WorldStateService WorldCall)} {service : WorldStateService}
variable {draws : Draws} {place : Nat} {tenantId entityType entityId name : Text}
variable {existing incoming : StateAttribute}

theorem recordConflict_candidates (filed : Filed service)
    (candidates : SourcedCandidates history service)
    (held : forall observationId, observationId ∈ existing.sourceObservationIds ->
      Sourced history (tenantId, entityType, entityId) observationId)
    (read : forall observationId, observationId ∈ incoming.sourceObservationIds ->
      Sourced history (tenantId, entityType, entityId) observationId) :
    SourcedCandidates history
      (service.recordConflict draws place tenantId entityType entityId name existing incoming) := by
  cases found : service.openConflict? tenantId entityType entityId name with
  | none =>
      rw [recordConflict_absent found]
      intro id conflict stored candidate member observationId named
      change (service.conflictsById.set _ _).get? id = some conflict at stored
      rw [Dict.get?_set] at stored
      split at stored
      · cases stored
        rcases List.mem_cons.mp member with rfl | last
        · exact held observationId (List.mem_of_getLast? named)
        · rw [List.mem_singleton.mp last] at named
          exact read observationId (List.mem_of_getLast? named)
      · exact candidates id conflict stored candidate member observationId named
  | some conflict =>
      rcases filed.openConflict found with ⟨_, stored, about, _⟩
      cases listed : conflict.lists incoming with
      | true =>
          rw [recordConflict_listed found listed]
          exact candidates
      | false =>
          rw [recordConflict_unlisted found listed]
          intro id other stored' candidate member observationId named
          change (service.conflictsById.set _ _).get? id = some other at stored'
          rw [Dict.get?_set] at stored'
          split at stored'
          · cases stored'
            rcases List.mem_append.mp member with earlier | last
            · exact candidates _ conflict stored candidate earlier observationId named
            · rw [List.mem_singleton.mp last] at named
              cases about
              exact read observationId (List.mem_of_getLast? named)
          · exact candidates id other stored' candidate member observationId named

/-- Recording a conflict leaves the resolved ones alone. -/
theorem recordConflict_resolved (filed : Filed service)
    (fresh : service.conflictsById.get? (tenantId, newConflictId draws place) = none)
    {id : Text × Text} {conflict : Conflict}
    (found : service.conflictsById.get? id = some conflict) (settled : conflict.status = "resolved") :
    (service.recordConflict draws place tenantId entityType entityId name existing
      incoming).conflictsById.get? id = some conflict := by
  cases slot : service.openConflict? tenantId entityType entityId name with
  | none =>
      rw [recordConflict_absent slot]
      refine (Dict.get?_set_of_ne _ _ ?_).trans found
      rintro rfl
      cases fresh.symm.trans found
  | some waiting =>
      rcases filed.openConflict slot with ⟨_, stored, _, waits⟩
      cases listed : waiting.lists incoming with
      | true =>
          rw [recordConflict_listed slot listed]
          exact found
      | false =>
          rw [recordConflict_unlisted slot listed]
          refine (Dict.get?_set_of_ne _ _ ?_).trans found
          rintro rfl
          cases stored.symm.trans found
          cases waits.symm.trans settled

end Recording

/-! ## Ingesting -/

section Ingest

variable {rt : Runtime} {service : WorldStateService} {draws : Draws} {tenantId : Text}
variable {observation : Observation} {cause assuranceLevel : Text}
variable {history : List (Step WorldStateService WorldCall)}

variable (rt draws cause assuranceLevel) in
/-- A new observation is recorded, whether the call returns or raises. -/
theorem ingest_records
    (new : service.observations.contains (tenantId, observation.observationId) = false) :
    (service.ingest rt draws tenantId observation cause assuranceLevel).state.observations =
      service.observations.set (tenantId, observation.observationId) observation := by
  have way := ingest_ingestion rt service draws tenantId observation cause assuranceLevel
  have records := fun previous incoming =>
    (merged_same service draws tenantId observation previous incoming).observations
  generalize service.states.get? (tenantId, observation.objectType, observation.objectId) = previous
    at way
  generalize service.ingest rt draws tenantId observation cause assuranceLevel = outcome at way ⊢
  cases way with
  | repeated state stored known => cases new.symm.trans known
  | stateless absent known => cases new.symm.trans known
  | unprojected error => rfl
  | unchanged incoming state stored => exact records _ incoming
  | undumped incoming => exact records _ incoming
  | refused incoming error => exact records _ incoming
  | committed incoming commit => exact records _ incoming

/-- What ingesting writes: nothing, or a commit about its object and the compiled state. -/
theorem ingest_writes (rt : Runtime) (service : WorldStateService) (draws : Draws) (tenantId : Text)
    (observation : Observation) (cause assuranceLevel : Text) :
    let after := (service.ingest rt draws tenantId observation cause assuranceLevel).state
    let key := (tenantId, observation.objectType, observation.objectId)
    (after.states = service.states ∧ after.commits = service.commits) ∨
      Exists fun label : Text => Exists fun commit : CommitRecord =>
        after.states = service.states.set key (compiledState tenantId observation
          (service.states.get? key) (projectedReading observation label) commit.commitId) ∧
        after.commits = service.commits.set (commit.tenantId, commit.commitId) commit ∧
        commit.entityKey = key ∧ commit.observationIds = [observation.observationId] := by
  dsimp only
  have way := ingest_ingestion rt service draws tenantId observation cause assuranceLevel
  generalize service.states.get? (tenantId, observation.objectType, observation.objectId) = previous
    at way ⊢
  have same := fun incoming => merged_same service draws tenantId observation previous incoming
  generalize service.ingest rt draws tenantId observation cause assuranceLevel = outcome at way ⊢
  cases way with
  | repeated state stored known => exact Or.inl ⟨rfl, rfl⟩
  | stateless absent known => exact Or.inl ⟨rfl, rfl⟩
  | unprojected error => exact Or.inl ⟨rfl, rfl⟩
  | unchanged incoming state stored => exact Or.inl ⟨(same incoming).states, (same incoming).commits⟩
  | undumped incoming => exact Or.inl ⟨(same incoming).states, (same incoming).commits⟩
  | refused incoming error => exact Or.inl ⟨(same incoming).states, (same incoming).commits⟩
  | committed incoming commit new projected changes continues answers =>
      rcases project_ok projected with ⟨label, rfl⟩
      have kept := same (projectedReading observation label)
      refine Or.inr ⟨label, commit, ?_, ?_, ?_, answers.observationIds⟩
      · simp only [Outcome.returns_state, setState, record, kept.states, seen]
      · simp only [Outcome.returns_state, setState, record, kept.commits, seen]
      · rw [CommitRecord.entityKey, answers.tenantId, answers.entityType, answers.entityId]
        rfl

/-- Ingesting keeps what each conflict recorded by its loop keeps. -/
theorem ingest_keeps (property : WorldStateService -> Prop) (filed : Filed service)
    (fresh : FreshIds service tenantId draws 0 observation.payload.entries.length)
    (congr : forall first second, SameConflicts first second -> property first -> property second)
    (step : forall current place name value label existing, Filed current ->
      current.conflictsById.get? (tenantId, newConflictId draws place) = none ->
      observation.payload.get? name = some value ->
      (heldAttributes (service.states.get?
        (tenantId, observation.objectType, observation.objectId))).get? name = some existing ->
      disputes existing (projectedAttribute observation label name value) = true ->
      property current ->
      property (current.recordConflict draws place tenantId observation.objectType observation.objectId
        name existing (projectedAttribute observation label name value)))
    (held : property service) :
    property (service.ingest rt draws tenantId observation cause assuranceLevel).state := by
  rcases ingest_conflicts rt service draws tenantId observation cause assuranceLevel with
    ⟨same, _⟩ | ⟨label, same⟩
  · exact congr _ _ same held
  · have seen : SameConflicts service (service.seen tenantId observation) := ⟨rfl, rfl⟩
    apply congr _ _ same
    refine recordConflicts_keeps _ ?_ (filed.congr seen) ?_ (congr _ _ seen held)
    · intro current place entry existing member filed' absent disputed held'
      rcases List.mem_map.mp member with ⟨⟨name, value⟩, inside, rfl⟩
      rcases Option.filter_eq_some_iff.mp disputed with ⟨known, differs⟩
      have read := (Dict.mem_entries_iff _ _ _).mp inside
      exact step current place name value label existing filed' absent read known differs held'
    · rw [projectedReading_length]
      exact ⟨fresh.new, fresh.distinct⟩

/-- Ingesting leaves the resolved conflicts alone. -/
theorem ingest_resolved (filed : Filed service)
    (fresh : FreshIds service tenantId draws 0 observation.payload.entries.length) {id : Text × Text}
    {conflict : Conflict} (found : service.conflictsById.get? id = some conflict)
    (settled : conflict.status = "resolved") :
    (service.ingest rt draws tenantId observation cause assuranceLevel).state.conflictsById.get? id =
      some conflict := by
  refine ingest_keeps (fun current => current.conflictsById.get? id = some conflict) filed fresh ?_ ?_
    found
  · intro first second same held
    rw [← same.conflictsById]
    exact held
  · intro current place name value label existing filed' absent _ _ _ held
    exact recordConflict_resolved filed' absent held settled

/-- A new reading writes exactly what it says, where no held attribute disputes it.
Everything else of the entity stays as it was traced. -/
theorem compiled_traced {label name commitId : Text} {attr : StateAttribute} {service' : WorldStateService}
    (ingested : Ingested history tenantId observation)
    (held : (compiledState tenantId observation
      (service.states.get? (tenantId, observation.objectType, observation.objectId))
      (projectedReading observation label) commitId).attributes.get? name = some attr) :
    let key := (tenantId, observation.objectType, observation.objectId)
    let call := WorldCall.ingest draws tenantId observation cause assuranceLevel
    (¬ call.Assigns service key name ∧
        (heldAttributes (service.states.get? key)).get? name = some attr) ∨
      call.Assigns service key name ∧ Traced history service' key name attr call := by
  dsimp only
  change (compiledAttributes _ _).get? name = some attr at held
  rw [get?_compiledAttributes] at held
  cases read : observation.payload.get? name with
  | none =>
      rw [read] at held
      refine Or.inl ⟨?_, held⟩
      rintro ⟨_, value, read', _⟩
      cases read.symm.trans read'
  | some value =>
      rw [read] at held
      dsimp only at held
      cases disputed : disputesReading (heldAttributes (service.states.get?
          (tenantId, observation.objectType, observation.objectId))) observation (name, value) with
      | true =>
          rw [disputed] at held
          refine Or.inl ⟨?_, held⟩
          rintro ⟨_, value', read', undisputed⟩
          cases read.symm.trans read'
          cases disputed.symm.trans undisputed
      | false =>
          rw [disputed] at held
          cases held
          exact Or.inr ⟨⟨rfl, value, read, disputed⟩,
            .observed draws observation cause assuranceLevel ingested rfl read rfl rfl rfl⟩

variable (rt draws cause assuranceLevel) in
/-- The candidates of all conflicts stay sourced when a sourced reading comes in. -/
theorem Traceable.ingest_candidates (sound : Traceable history service)
    (fresh : FreshIds service tenantId draws 0 observation.payload.entries.length)
    (step : Step WorldStateService WorldCall)
    (ingested : Ingested (history ++ [step]) tenantId observation) :
    SourcedCandidates (history ++ [step])
      (service.ingest rt draws tenantId observation cause assuranceLevel).state := by
  refine ingest_keeps (SourcedCandidates _) sound.filed fresh ?_ ?_ (sound.candidates.later step)
  · intro first second same candidates
    unfold SourcedCandidates
    rw [← same.conflictsById]
    exact candidates
  · intro current place name value label existing filed _ _ known _ candidates
    rcases heldAttributes_stored known with ⟨state, stored, held⟩
    apply recordConflict_candidates filed candidates
    · intro observationId member
      exact (sound.sources stored held member).later step
    · intro observationId member
      exact ⟨observation, ingested, rfl, (List.mem_singleton.mp member).symm⟩

/-- A compiled state has another version than the one it was compiled from. -/
theorem compiledState_ne (previous : Option OrderState) (incoming : Dict Text StateAttribute)
    (commitId : Text) : some (compiledState tenantId observation previous incoming commitId) ≠ previous := by
  intro same
  have version := congrArg (Option.map OrderState.stateVersion) same
  cases previous with
  | none => cases same
  | some state =>
      have equal : state.stateVersion + 1 = state.stateVersion := Option.some.inj version
      omega

theorem Traceable.ingest (sound : Traceable history service)
    (fresh : FreshIds service tenantId draws 0 observation.payload.entries.length) :
    let after := (service.ingest rt draws tenantId observation cause assuranceLevel).state
    Traceable (history ++
      [⟨service, .ingest draws tenantId observation cause assuranceLevel, after⟩]) after := by
  dsimp only
  by_cases known : service.observations.contains (tenantId, observation.observationId) = true
  · exact Traceable.idle sound (ingest_known known)
  have records := ingest_records rt draws cause assuranceLevel (Bool.eq_false_iff.mpr known)
  have writes := ingest_writes rt service draws tenantId observation cause assuranceLevel
  dsimp only at writes
  generalize outcome : service.ingest rt draws tenantId observation cause assuranceLevel = reached
    at records writes ⊢
  have ingested : Ingested (history ++
      [⟨service, .ingest draws tenantId observation cause assuranceLevel, reached.state⟩])
      tenantId observation := by
    refine ⟨_, List.mem_append_right _ (List.mem_singleton_self _), ⟨_, _, _, rfl⟩, ?_, ?_⟩
    · exact Option.not_isSome_iff_eq_none.mp known
    · exact records ▸ Dict.get?_set_self _ _ _
  refine Traceable.extend sound ⟨?_, ?_, ?_⟩ ?_ ?_ ?_ ?_
  · exact outcome ▸ ingest_stored sound.stored
  · exact outcome ▸ (ingest_filed sound.filed fresh).1
  · exact outcome ▸ ingest_covered sound.filed sound.covered fresh
  · intro id conflict found settled
    exact outcome ▸ ingest_resolved sound.filed fresh found settled
  · have candidates := sound.ingest_candidates rt draws cause assuranceLevel fresh _ ingested
    exact outcome ▸ candidates
  · intro key state name attr stored held
    rcases writes with ⟨same, _⟩ | ⟨label, created, states, _⟩
    · refine Or.inl ⟨fun wrote => wrote.stored ?_, state, same ▸ stored, held⟩
      exact congrArg (fun states => Dict.get? states key) same
    · rw [states, Dict.get?_set] at stored
      by_cases own : key = (tenantId, observation.objectType, observation.objectId)
      · subst own
        rw [if_pos rfl] at stored
        cases stored
        rcases compiled_traced ingested held with ⟨unassigned, earlier⟩ | ⟨assigned, traced⟩
        · exact Or.inl ⟨fun wrote => unassigned wrote.assigns, heldAttributes_stored earlier⟩
        · refine Or.inr ⟨⟨assigned, ?_⟩, traced⟩
          dsimp only
          rw [states, Dict.get?_set_self]
          exact compiledState_ne _ _ _
      · rw [if_neg own] at stored
        exact Or.inl ⟨fun wrote => own wrote.assigns.1, state, stored, held⟩
  · intro id commit stored
    rcases writes with ⟨_, same⟩ | ⟨label, created, _, commits, about, sources⟩
    · exact Or.inl (same ▸ stored)
    · rw [commits, Dict.get?_set] at stored
      split at stored
      · cases stored
        refine Or.inr ?_
        intro observationId member
        rw [sources] at member
        rw [about]
        exact ⟨observation, ingested, rfl, (List.mem_singleton.mp member).symm⟩
      · exact Or.inl stored

end Ingest

/-! ## Resolving -/

section Resolve

variable {rt : Runtime} {service : WorldStateService} {tenantId conflictId : Text}
variable {resolvedValue : Json} {resolvedBy reason : Text} {conflict : Conflict}
variable {history : List (Step WorldStateService WorldCall)}

/-- A resolution's identifiers are those of the conflict's candidates. -/
theorem resolvedAttribute_sources {now : Timestamp} {observationId : Text}
    (member : observationId ∈ (resolvedAttribute conflict resolvedValue now).sourceObservationIds) :
    Exists fun candidate : ConflictCandidate => candidate ∈ conflict.candidates ∧
      candidate.observationId = some observationId := by
  have named : forall candidates : List ConflictCandidate, observationId ∈ observationIdsOf candidates ->
      Exists fun candidate : ConflictCandidate => candidate ∈ candidates ∧
        candidate.observationId = some observationId := by
    intro candidates inside
    rcases List.mem_filterMap.mp inside with ⟨candidate, inside, name⟩
    exact ⟨candidate, inside, (Option.filter_eq_some_iff.mp name).1⟩
  unfold resolvedAttribute at member
  dsimp only at member
  split at member
  · exact named _ member
  · rcases named _ member with ⟨candidate, inside, name⟩
    exact ⟨candidate, (List.mem_filter.mp inside).1, name⟩

/-- Closing a conflict leaves the resolved ones alone. -/
theorem closeConflict_resolved {base : WorldStateService} {now : Timestamp} (stored : Stored service)
    (same : SameConflicts service base)
    (found : service.conflictsById.get? (tenantId, conflictId) = some conflict)
    (unresolved : conflict.status ≠ ("resolved" : Text)) {id : Text × Text} {other : Conflict}
    (found' : service.conflictsById.get? id = some other) (settled : other.status = "resolved") :
    (base.closeConflict tenantId conflict resolvedValue resolvedBy reason
      now).state.conflictsById.get? id = some other := by
  change (base.conflictsById.set conflict.storedId _).get? id = some other
  rw [Dict.get?_set_of_ne, ← same.conflictsById]
  · exact found'
  · rintro rfl
    rw [stored.named _ _ found, found] at found'
    cases found'
    exact unresolved settled

/-- Closing a conflict stores its closed record. -/
theorem closeConflict_closed {base : WorldStateService} {now : Timestamp}
    (same : SameConflicts service base) (named : conflict.storedId = (tenantId, conflictId)) :
    (base.closeConflict tenantId conflict resolvedValue resolvedBy reason
      now).state.conflictsById.get? (tenantId, conflictId) =
        some (conflict.closed resolvedValue resolvedBy reason now) := by
  change (base.conflictsById.set conflict.storedId _).get? (tenantId, conflictId) = _
  rw [named, ← same.conflictsById]
  exact Dict.get?_set_self _ _ _

/-- Closing a conflict keeps its candidates. -/
theorem closeConflict_candidates {base : WorldStateService} {now : Timestamp}
    (same : SameConflicts service base) (candidates : SourcedCandidates history service)
    (found : service.conflictsById.get? (tenantId, conflictId) = some conflict) :
    SourcedCandidates history (base.closeConflict tenantId conflict resolvedValue resolvedBy reason
      now).state := by
  intro id other found' candidate member observationId named
  change (base.conflictsById.set conflict.storedId _).get? id = some other at found'
  rw [Dict.get?_set, ← same.conflictsById] at found'
  split at found'
  · cases found'
    exact candidates _ conflict found candidate member observationId named
  · exact candidates id other found' candidate member observationId named

/-- A resolution writes the attribute of its conflict, and no other. It writes it even where
the value is the held one. -/
theorem resolved_traced {after : WorldStateService} {state : OrderState} {name : Text}
    {attr : StateAttribute} (draws : Draws)
    (held : service.conflictsById.get? (tenantId, conflictId) = some conflict)
    (owner : conflict.tenantId = tenantId)
    (closed : after.conflictsById.get? (tenantId, conflictId) =
      some (conflict.closed resolvedValue resolvedBy reason (.utc (draws.clock 0))))
    (present : (resolvedAttributes state conflict resolvedValue draws).get? name = some attr) :
    let key := (tenantId, conflict.entityType, conflict.entityId)
    let call := WorldCall.resolveConflict draws tenantId conflictId resolvedValue resolvedBy reason
    (¬ call.Assigns service key name ∧ state.attributes.get? name = some attr) ∨
      call.Assigns service key name ∧ Traced history after key name attr call := by
  dsimp only
  unfold resolvedAttributes at present
  rw [Dict.get?_set] at present
  by_cases about : name = conflict.attributeName
  · rw [if_pos about] at present
    cases present
    have same : conflict.key = (tenantId, conflict.entityType, conflict.entityId, name) := by
      rw [Conflict.key, owner, about]
    exact Or.inr ⟨⟨conflict, held, same⟩, .resolved draws conflictId resolvedValue resolvedBy reason _
      closed same rfl rfl (fun _ => resolvedAttribute_sources)⟩
  · rw [if_neg about] at present
    refine Or.inl ⟨?_, present⟩
    rintro ⟨other, held', key⟩
    cases held.symm.trans held'
    exact about (congrArg (fun key => key.2.2.2) key).symm

/-- What a resolution takes from the candidates was ingested. -/
theorem Traceable.resolved_sources (sound : Traceable history service)
    (held : service.conflictsById.get? (tenantId, conflictId) = some conflict)
    (owner : conflict.tenantId = tenantId) (now : Timestamp) (step : Step WorldStateService WorldCall)
    {observationId : Text}
    (member : observationId ∈ (resolvedAttribute conflict resolvedValue now).sourceObservationIds) :
    Sourced (history ++ [step]) (tenantId, conflict.entityType, conflict.entityId) observationId := by
  rcases resolvedAttribute_sources member with ⟨candidate, inside, name⟩
  have sourced := sound.candidates _ conflict held candidate inside observationId name
  rw [owner] at sourced
  exact sourced.later step

/-- A resolution writes the attribute of its conflict, since the entity has another version
afterwards.  The other attributes of the entity, and all other entities, are as they were. -/
theorem resolved_attributes {after : WorldStateService} {state held' : OrderState} {commitId name : Text}
    {key : Text × Text × Text} {attr : StateAttribute} (draws : Draws)
    (held : service.conflictsById.get? (tenantId, conflictId) = some conflict)
    (owner : conflict.tenantId = tenantId)
    (closed : after.conflictsById.get? (tenantId, conflictId) =
      some (conflict.closed resolvedValue resolvedBy reason (.utc (draws.clock 0))))
    (stored : service.states.get? (tenantId, conflict.entityType, conflict.entityId) = some state)
    (states : after.states = service.states.set (tenantId, conflict.entityType, conflict.entityId)
      (resolvedState tenantId state conflict resolvedValue draws commitId))
    (stored' : after.states.get? key = some held') (present : held'.attributes.get? name = some attr) :
    let call := WorldCall.resolveConflict draws tenantId conflictId resolvedValue resolvedBy reason
    (¬ Wrote key name ⟨service, call, after⟩ ∧ Exists fun earlier : OrderState =>
      service.states.get? key = some earlier ∧ earlier.attributes.get? name = some attr) ∨
    Wrote key name ⟨service, call, after⟩ ∧ Traced (history ++ [⟨service, call, after⟩]) after key name
      attr call := by
  dsimp only
  rw [states, Dict.get?_set] at stored'
  by_cases own : key = (tenantId, conflict.entityType, conflict.entityId)
  · subst own
    rw [if_pos rfl] at stored'
    cases stored'
    rcases resolved_traced draws held owner closed present with
      ⟨unassigned, earlier⟩ | ⟨assigned, traced⟩
    · exact Or.inl ⟨fun wrote => unassigned wrote.assigns, state, stored, earlier⟩
    · refine Or.inr ⟨⟨assigned, ?_⟩, traced⟩
      dsimp only
      rw [states, Dict.get?_set_self, stored]
      intro same
      have version := congrArg OrderState.stateVersion (Option.some.inj same)
      change state.stateVersion + 1 = state.stateVersion at version
      omega
  · rw [if_neg own] at stored'
    refine Or.inl ⟨?_, held', stored', present⟩
    rintro ⟨⟨other, found, about⟩, _⟩
    cases held.symm.trans found
    have entity : (conflict.tenantId, conflict.entityType, conflict.entityId) = key :=
      congrArg (fun about => (about.1, about.2.1, about.2.2.1)) about
    rw [owner] at entity
    exact own entity.symm

/-- A conflict about an entity without a state is closed, and writes nothing. -/
theorem Traceable.closed (sound : Traceable history service) (draws : Draws)
    (held : service.conflictsById.get? (tenantId, conflictId) = some conflict)
    (unresolved : conflict.status ≠ ("resolved" : Text)) :
    let after := (service.closeConflict tenantId conflict resolvedValue resolvedBy reason
      (.utc (draws.clock 0))).state
    Stored after ∧ Filed after ∧ Covered after ->
      Traceable (history ++ [⟨service, .resolveConflict draws tenantId conflictId resolvedValue
        resolvedBy reason, after⟩]) after := by
  intro after indexes
  apply Traceable.extend sound indexes
  · intro id other found settled
    exact closeConflict_resolved sound.stored (.refl service) held unresolved found settled
  · exact closeConflict_candidates (.refl service) (sound.candidates.later _) held
  · intro key state name attr stored present
    exact Or.inl ⟨fun wrote => wrote.stored rfl, state, stored, present⟩
  · intro id commit stored
    exact Or.inl stored

/-- A resolution that commits writes one attribute, and names in its commit what the value
rests on. -/
theorem Traceable.resolved (sound : Traceable history service) (draws : Draws) {state : OrderState}
    {commit : CommitRecord}
    (held : service.conflictsById.get? (tenantId, conflictId) = some conflict)
    (unresolved : conflict.status ≠ ("resolved" : Text))
    (stored : service.states.get? (tenantId, conflict.entityType, conflict.entityId) = some state)
    (answers : Answers (resolveRequest rt tenantId state conflict resolvedValue draws) draws commit) :
    let after := (((service.record commit).setState
      (tenantId, conflict.entityType, conflict.entityId)
      (resolvedState tenantId state conflict resolvedValue draws commit.commitId)).closeConflict
        tenantId conflict resolvedValue resolvedBy reason (.utc (draws.clock 0))).state
    Stored after ∧ Filed after ∧ Covered after ->
      Traceable (history ++ [⟨service, .resolveConflict draws tenantId conflictId resolvedValue
        resolvedBy reason, after⟩]) after := by
  intro after indexes
  have named := sound.stored.named _ _ held
  have owner : conflict.tenantId = tenantId := congrArg Prod.fst named
  have moved : SameConflicts service ((service.record commit).setState
    (tenantId, conflict.entityType, conflict.entityId)
    (resolvedState tenantId state conflict resolvedValue draws commit.commitId)) := ⟨rfl, rfl⟩
  apply Traceable.extend sound indexes
  · intro id other found settled
    exact closeConflict_resolved sound.stored moved held unresolved found settled
  · exact closeConflict_candidates moved (sound.candidates.later _) held
  · intro key held' name attr stored' present
    exact resolved_attributes draws held owner (closeConflict_closed moved named) stored rfl stored'
      present
  · intro id created stored'
    change (service.commits.set (commit.tenantId, commit.commitId) commit).get? id = some created
      at stored'
    rw [Dict.get?_set] at stored'
    split at stored'
    · cases stored'
      refine Or.inr ?_
      intro observationId member
      rw [answers.observationIds] at member
      rw [CommitRecord.entityKey, answers.tenantId, answers.entityType, answers.entityId]
      exact sound.resolved_sources held owner (.utc (draws.clock 0)) _ member
    · exact Or.inl stored'

theorem Traceable.resolveConflict (sound : Traceable history service) (draws : Draws) :
    let after := (service.resolveConflict rt draws tenantId conflictId resolvedValue resolvedBy
      reason).state
    Traceable (history ++ [⟨service, .resolveConflict draws tenantId conflictId resolvedValue resolvedBy
      reason, after⟩]) after := by
  dsimp only
  have way := resolveConflict_resolution rt service draws tenantId conflictId resolvedValue resolvedBy
    reason
  have indexes := @resolveConflict_indexes rt service draws tenantId conflictId resolvedValue resolvedBy
    reason sound.stored
  dsimp only at indexes
  generalize service.resolveConflict rt draws tenantId conflictId resolvedValue resolvedBy reason =
    outcome at way indexes ⊢
  cases way with
  | unknown error absent => exact Traceable.idle sound rfl
  | settled conflict found resolved => exact Traceable.idle sound rfl
  | undumped conflict state found unresolved stored' undumpable => exact Traceable.idle sound rfl
  | refused conflict state error found unresolved stored' failed => exact Traceable.idle sound rfl
  | stateless conflict found unresolved absent =>
      exact sound.closed draws (getConflict_ok found) unresolved
        ⟨indexes.1, indexes.2 sound.filed sound.covered⟩
  | committed conflict state commit found unresolved stored continues answers =>
      exact sound.resolved draws (getConflict_ok found) unresolved stored answers
        ⟨indexes.1, indexes.2 sound.filed sound.covered⟩

end Resolve

/-! ## Runs -/

instance (service : WorldStateService) : (call : WorldCall) -> Decidable (call.FreshConflicts service)
  | .ingest draws tenantId observation _ _ =>
      inferInstanceAs (Decidable
        (FreshIds service tenantId draws 0 observation.payload.entries.length))
  | .resolveConflict _ _ _ _ _ _ => isTrue True.intro

instance (rt : Runtime) (service : WorldStateService) (call : WorldCall) :
    Decidable ((conflictSystem rt).admits service call) :=
  inferInstanceAs (Decidable (call.FreshConflicts service))

section Runs

variable {rt : Runtime} {history : List (Step WorldStateService WorldCall)}
variable {service : WorldStateService}

theorem Traceable.fresh : Traceable [] .fresh where
  stored := .fresh
  filed := .fresh
  covered := .fresh
  attributes := by
    intro key state name attr stored
    cases stored
  candidates := by
    intro id conflict stored
    cases stored
  commits := by
    intro id commit stored
    cases stored

theorem Traceable.of_run (run : (conflictSystem rt).Run history service) :
    Traceable history service := by
  apply System.Run.historyInvariant run
  · rintro _ rfl
    exact .fresh
  · intro history service call earlier sound admitted
    cases call with
    | ingest draws tenantId observation cause assuranceLevel => exact sound.ingest admitted
    | resolveConflict draws tenantId conflictId resolvedValue resolvedBy reason =>
        exact sound.resolveConflict draws

/-- In every run, an attribute is what its last writer says: a resolution of a conflict about it,
with identifiers of the candidates, or an observation of the entity that carries it.  The
identifiers of a commit are those of ingested observations of its entity. -/
theorem values_traceable (run : (conflictSystem rt).Run history service) :
    (forall key state name attr, service.states.get? key = some state ->
      state.attributes.get? name = some attr -> Exists fun call =>
        LastWritten history key name call ∧ Traced history service key name attr call) ∧
    forall id commit, service.commits.get? id = some commit -> forall observationId,
      observationId ∈ commit.observationIds -> Sourced history commit.entityKey observationId := by
  have sound := Traceable.of_run run
  exact ⟨sound.attributes, sound.commits⟩

end Runs

/-- Two sources disagree about an order and an operator settles it. -/
def settledDispute : List WorldCall :=
  [sampleIngest 10 "demo" openReading, sampleIngest 20 "demo" disagreeingReading,
    .resolveConflict (.numbered 30) "demo" (newConflictId (.numbered 20) 0) (.str "cancelled")
      "operator" "checked"]

theorem values_traceable_sample :
    Exists fun history => Exists fun service : WorldStateService => Exists fun state : OrderState =>
      service.states.get? ("demo", "order", "1001") = some state ∧
        state.attributes.keys = ["id", "status"] ∧ service.commits.keys.length = 2 ∧
        TracedAttributes history service ∧ SourcedCommits history service := by
  have facts : (conflictSystem .plain).AdmitsAll .fresh settledDispute ∧
      (((conflictSystem .plain).trace .fresh settledDispute).2.states.get?
          ("demo", "order", "1001")).map (fun state => state.attributes.keys) =
        some (["id", "status"] : List Text) ∧
      ((conflictSystem .plain).trace .fresh settledDispute).2.commits.keys.length = 2 := by
    decide +kernel
  rcases facts with ⟨admitted, keys, commits⟩
  rcases Option.map_eq_some_iff.mp keys with ⟨state, stored, names⟩
  rcases values_traceable (System.run_trace settledDispute rfl admitted) with ⟨attributes, sources⟩
  exact ⟨_, _, state, stored, names, commits, attributes, sources⟩

end WorldState
end RealityLayer
