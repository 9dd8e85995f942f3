import RealityLayer.WorldState.Provenance

namespace RealityLayer
namespace WorldState

open Foundation Python RealityGit WorldStateService

/-!
# Entities do not see each other

A tenant's observations go through maps that all its entities share.  `EntityRecord` is a
service for one entity alone: the identifiers it has seen, its state without the generated
commit identifier, and its open conflicts without theirs.  The shared service refines one such
record for each entity: a reading of the entity moves its record, and a reading of any other
leaves it alone.

What an entity ends with is therefore a fold over its own readings, so neither the readings of
other entities nor the order in which they come between can change it.
-/

/-! ## Readings -/

/-- One observation to ingest, with what its call draws. The tenant is fixed for a whole
interleaving. -/
structure Reading where
  observation : Observation
  cause : Text
  assuranceLevel : Text
  draws : Draws

/-- The object a reading is about. -/
def Reading.entity (reading : Reading) : Text × Text :=
  (reading.observation.objectType, reading.observation.objectId)

def Reading.observationId (reading : Reading) : Text := reading.observation.observationId

def Reading.call (tenantId : Text) (reading : Reading) : WorldCall :=
  .ingest reading.draws tenantId reading.observation reading.cause reading.assuranceLevel

/-- The same observation under the same clock; the identifiers drawn may differ. They have to
differ when one entity's readings are replayed without the others. -/
structure Reading.Same (first second : Reading) : Prop where
  observation : first.observation = second.observation
  cause : first.cause = second.cause
  assuranceLevel : first.assuranceLevel = second.assuranceLevel
  clock : first.draws.clock 0 = second.draws.clock 0

/-- No observation identifier is used for two objects. A known identifier is answered from
whatever object it now names, and ingests nothing. -/
def Separate (readings : List Reading) : Prop :=
  forall first, first ∈ readings -> forall second, second ∈ readings ->
    first.observationId = second.observationId -> first.entity = second.entity

def ofObject (entity : Text × Text) (readings : List Reading) : List Reading :=
  readings.filter (fun reading => decide (reading.entity = entity))

/-- The readings of one tenant, ingested by a fresh service one after the other. -/
def readingSystem (rt : Runtime) (tenantId : Text) : System WorldStateService Reading where
  start := fun service => service = .fresh
  admits := fun service reading => (reading.call tenantId).FreshConflicts service
  next := fun service reading => service.perform rt (reading.call tenantId)

def readingsOf (history : List (Step WorldStateService Reading)) : List Reading :=
  history.map Step.label

/-! ## What two services tell of an entity -/

/-- A conflict without its identifier and its time, which are the only parts of it that the
other entities can shift. -/
structure Dispute where
  attributeName : Text
  status : Text
  candidates : List ConflictCandidate
deriving DecidableEq

def Conflict.dispute (conflict : Conflict) : Dispute where
  attributeName := conflict.attributeName
  status := conflict.status
  candidates := conflict.candidates

def conflictsAbout (service : WorldStateService) (tenantId : Text) (entity : Text × Text) :
    List Conflict :=
  service.conflictsById.values.filter (fun conflict =>
    decide ((conflict.tenantId, conflict.entityType, conflict.entityId) = (tenantId, entity)))

/-- Both services hold the same attributes of the entity at the same version, and the same
conflicts about it. -/
structure SameEntity (tenantId : Text) (entity : Text × Text) (first second : WorldStateService) :
    Prop where
  attributes : (first.states.get? (tenantId, entity)).map OrderState.attributes =
    (second.states.get? (tenantId, entity)).map OrderState.attributes
  version : (first.states.get? (tenantId, entity)).map OrderState.stateVersion =
    (second.states.get? (tenantId, entity)).map OrderState.stateVersion
  disputes : List.Perm ((conflictsAbout first tenantId entity).map Conflict.dispute)
    ((conflictsAbout second tenantId entity).map Conflict.dispute)

/-! ## A service for one entity -/

/-- A state without its generated identifier. The runs compared draw different ones. -/
def OrderState.unnamed (state : OrderState) : OrderState := { state with commitId := "" }

/-- The dispute lists a candidate of the connector with an equal value. -/
def Dispute.lists (dispute : Dispute) (incoming : StateAttribute) : Bool :=
  dispute.candidates.any (fun candidate =>
    decide (candidate.connector = incoming.connector) && candidate.value.pyEq incoming.value)

/-- What a disputed attribute does to the open disputes of its entity. -/
def noteDispute (disputes : Dict Text Dispute) (name : Text) (existing incoming : StateAttribute) :
    Dict Text Dispute :=
  match disputes.get? name with
  | some dispute =>
      if dispute.lists incoming then disputes
      else disputes.set name
        { dispute with candidates := dispute.candidates ++ [candidateOf incoming] }
  | none => disputes.set name ⟨name, "open", [candidateOf existing, candidateOf incoming]⟩

def noteDisputes (held : Dict Text StateAttribute) :
    List (Text × StateAttribute) -> Dict Text Dispute -> Dict Text Dispute
  | [], disputes => disputes
  | entry :: rest, disputes =>
      noteDisputes held rest (match disputed? held entry with
        | some existing => noteDispute disputes entry.1 existing entry.2
        | none => disputes)

/-- What is kept about one entity: the observations seen, the state without its commit's
name, and the disputes by attribute. It is what a service of the entity's own would hold. -/
structure EntityRecord where
  known : List Text
  state : Option OrderState
  disputes : Dict Text Dispute

def EntityRecord.fresh : EntityRecord := ⟨[], none, Dict.empty⟩

/-- Ingesting a reading of the entity. Nothing else of the service is needed for it. -/
def EntityRecord.ingest (rt : Runtime) (tenantId : Text) (record : EntityRecord) (reading : Reading) :
    EntityRecord :=
  if reading.observationId ∈ record.known then record
  else
    let known := record.known ++ [reading.observationId]
    match project reading.draws reading.observation with
    | .error _ => { record with known }
    | .ok incoming => {
        known
        state :=
          if commits rt tenantId reading.observation reading.cause reading.assuranceLevel record.state
            incoming
          then some (compiledState tenantId reading.observation record.state incoming "")
          else record.state
        disputes := noteDisputes (heldAttributes record.state) incoming.entries record.disputes }

/-- No conflict was resolved yet. -/
def AllWait (service : WorldStateService) : Prop :=
  forall id conflict, service.conflictsById.get? id = some conflict -> conflict.status = "open"

/-- The disputes are the service's open conflicts about the entity. Their identifiers are
left out, as they are drawn. -/
def Reflects (service : WorldStateService) (tenantId : Text) (entity : Text × Text)
    (disputes : Dict Text Dispute) : Prop :=
  forall name, (service.openConflict? tenantId entity.1 entity.2 name).map Conflict.dispute =
    disputes.get? name

/-- A record of the entity is what the service holds about it. The rest of the service is free. -/
structure Mirrors (tenantId : Text) (entity : Text × Text) (record : EntityRecord)
    (service : WorldStateService) : Prop where
  state : (service.states.get? (tenantId, entity)).map OrderState.unnamed = record.state
  disputes : Reflects service tenantId entity record.disputes

/-! ## Recording conflicts -/

section Recording

variable {service : WorldStateService} {draws : Draws} {place : Nat}
variable {tenantId entityType entityId name : Text} {existing incoming : StateAttribute}

/-- Recording a conflict changes nothing that is found under another attribute. -/
theorem recordConflict_elsewhere (filed : Filed service)
    (fresh : service.conflictsById.get? (tenantId, newConflictId draws place) = none)
    {key : Text × Text × Text × Text} (other : key ≠ (tenantId, entityType, entityId, name)) :
    (service.recordConflict draws place tenantId entityType entityId name existing
        incoming).openConflict? key.1 key.2.1 key.2.2.1 key.2.2.2 =
      service.openConflict? key.1 key.2.1 key.2.2.1 key.2.2.2 := by
  cases found : service.openConflict? tenantId entityType entityId name with
  | none =>
      rw [recordConflict_absent found]
      change ((service.openConflicts.set (tenantId, entityType, entityId, name) _).get? key).bind
        (fun conflictId => (service.conflictsById.set (tenantId, newConflictId draws place) _).get?
          (key.1, conflictId)) = (service.openConflicts.get? key).bind _
      rw [Dict.get?_set_of_ne _ _ other]
      cases index : service.openConflicts.get? key with
      | none => rfl
      | some conflictId =>
          refine Dict.get?_set_of_ne _ _ ?_
          intro taken
          rcases filed.indexed _ _ index with ⟨held, stored, _⟩
          rw [taken, fresh] at stored
          cases stored
  | some conflict =>
      rcases filed.openConflict found with ⟨_, stored, about, _⟩
      cases listed : conflict.lists incoming with
      | true => rw [recordConflict_listed found listed]
      | false =>
          rw [recordConflict_unlisted found listed]
          change (service.openConflicts.get? key).bind (fun conflictId =>
            (service.conflictsById.set conflict.storedId _).get? (key.1, conflictId)) =
              (service.openConflicts.get? key).bind _
          cases index : service.openConflicts.get? key with
          | none => rfl
          | some conflictId =>
              refine Dict.get?_set_of_ne _ _ ?_
              intro taken
              rcases filed.indexed _ _ index with ⟨held, stored', about', _⟩
              rw [taken, stored] at stored'
              cases stored'
              exact other (about'.symm.trans about)

/-- Recording a conflict resolves none. -/
theorem recordConflict_waits (filed : Filed service) (waits : AllWait service) :
    AllWait (service.recordConflict draws place tenantId entityType entityId name existing
      incoming) := by
  intro id conflict found
  cases slot : service.openConflict? tenantId entityType entityId name with
  | none =>
      rw [recordConflict_absent slot] at found
      change (service.conflictsById.set _ _).get? id = some conflict at found
      rw [Dict.get?_set] at found
      split at found
      · cases found
        rfl
      · exact waits id conflict found
  | some earlier =>
      rcases filed.openConflict slot with ⟨_, _, _, status⟩
      cases listed : earlier.lists incoming with
      | true =>
          rw [recordConflict_listed slot listed] at found
          exact waits id conflict found
      | false =>
          rw [recordConflict_unlisted slot listed] at found
          change (service.conflictsById.set _ _).get? id = some conflict at found
          rw [Dict.get?_set] at found
          split at found
          · cases found
            exact status
          · exact waits id conflict found

theorem recordConflict_reflects {disputes : Dict Text Dispute} (filed : Filed service)
    (fresh : service.conflictsById.get? (tenantId, newConflictId draws place) = none)
    (reflects : Reflects service tenantId (entityType, entityId) disputes) :
    Reflects (service.recordConflict draws place tenantId entityType entityId name existing incoming)
      tenantId (entityType, entityId) (noteDispute disputes name existing incoming) := by
  intro other
  have own := reflects name
  have rest := reflects other
  dsimp only at own rest ⊢
  unfold noteDispute
  cases found : service.openConflict? tenantId entityType entityId name with
  | none =>
      rw [found, Option.map_none] at own
      rw [recordConflict_absent found, ← own]
      have looked := openConflict?_opened entityType entityId name existing incoming filed fresh other
      dsimp only at looked ⊢
      rw [looked, Dict.get?_set]
      split
      · rfl
      · exact rest
  | some conflict =>
      rw [found, Option.map_some] at own
      rw [← own]
      dsimp only
      change _ = (if conflict.lists incoming = true then disputes else _).get? other
      cases listed : conflict.lists incoming with
      | true =>
          rw [recordConflict_listed found listed, if_pos rfl]
          exact rest
      | false =>
          rw [recordConflict_unlisted found listed, if_neg Bool.false_ne_true,
            openConflict?_extended incoming filed found, Dict.get?_set]
          split
          · rfl
          · exact rest

theorem recordConflicts_reflects (held : Dict Text StateAttribute)
    (entries : List (Text × StateAttribute)) {disputes : Dict Text Dispute} (filed : Filed service)
    (fresh : FreshIds service tenantId draws place entries.length)
    (reflects : Reflects service tenantId (entityType, entityId) disputes) :
    Reflects (recordConflicts draws tenantId entityType entityId held place entries service) tenantId
      (entityType, entityId) (noteDisputes held entries disputes) := by
  induction entries generalizing service place disputes with
  | nil => exact reflects
  | cons entry rest ih =>
      rw [recordConflicts, noteDisputes]
      cases disputed : disputed? held entry with
      | none => exact ih filed (fresh.next (.refl service)) reflects
      | some existing =>
          have files := @recordConflict_files service draws place tenantId entityType entityId held filed
            fresh.first entry existing disputed
          rcases files with ⟨filed', grows, _⟩
          exact ih filed' (fresh.next grows) (recordConflict_reflects filed fresh.first reflects)

end Recording

/-! ## One reading -/

/-- What holds of a service that only ingests. No conflict is ever resolved there, so every
conflict it has is open and in the index. -/
structure OnlyIngests (service : WorldStateService) : Prop where
  linkable : Linkable service
  stored : Stored service
  filed : Filed service
  covered : Covered service
  waits : AllWait service

theorem OnlyIngests.fresh : OnlyIngests .fresh where
  linkable := .fresh
  stored := .fresh
  filed := .fresh
  covered := .fresh
  waits := by
    intro id conflict stored
    cases stored

theorem heldAttributes_unnamed (previous : Option OrderState) :
    heldAttributes (previous.map OrderState.unnamed) = heldAttributes previous := by
  cases previous with
  | none => rfl
  | some state => rfl

/-- The generated identifier plays no part in what a reading commits and compiles. -/
theorem commits_unnamed (rt : Runtime) (tenantId : Text) (observation : Observation)
    (cause assuranceLevel : Text) (previous : Option OrderState)
    (incoming : Dict Text StateAttribute) :
    commits rt tenantId observation cause assuranceLevel (previous.map OrderState.unnamed) incoming =
      commits rt tenantId observation cause assuranceLevel previous incoming := by
  cases previous with
  | none => rfl
  | some state => rfl

theorem compiledState_unnamed {tenantId : Text} {observation : Observation}
    (previous : Option OrderState) (incoming : Dict Text StateAttribute) (commitId : Text) :
    compiledState tenantId observation (previous.map OrderState.unnamed) incoming "" =
      (compiledState tenantId observation previous incoming commitId).unnamed := by
  cases previous with
  | none => rfl
  | some state => rfl

section Step

variable {rt : Runtime} {service : WorldStateService} {tenantId : Text} {reading : Reading}
variable {entity : Text × Text} {record : EntityRecord}

theorem OnlyIngests.ingest (only : OnlyIngests service) (digests : DigestsEncodable rt)
    (fresh : (reading.call tenantId).FreshConflicts service) :
    OnlyIngests (service.perform rt (reading.call tenantId)) where
  linkable := only.linkable.ingest digests
  stored := ingest_stored only.stored
  filed := (ingest_filed only.filed fresh).1
  covered := ingest_covered only.filed only.covered fresh
  waits := by
    refine ingest_keeps AllWait only.filed fresh ?_ ?_ only.waits
    · intro first second same waits
      unfold AllWait
      rw [← same.conflictsById]
      exact waits
    · intro current place name value label existing filed _ _ _ _ waits
      exact recordConflict_waits filed waits

/-- A reading of another object leaves what is held about an entity. -/
theorem Mirrors.elsewhere (mirrors : Mirrors tenantId entity record service) (filed : Filed service)
    (fresh : (reading.call tenantId).FreshConflicts service) (other : reading.entity ≠ entity) :
    Mirrors tenantId entity record (service.perform rt (reading.call tenantId)) where
  state := by
    rw [← mirrors.state]
    apply congrArg (Option.map OrderState.unnamed)
    rcases ingest_writes rt service reading.draws tenantId reading.observation reading.cause
      reading.assuranceLevel with ⟨same, _⟩ | ⟨label, commit, states, _⟩
    · exact congrArg (fun states => Dict.get? states (tenantId, entity)) same
    · refine (congrArg (fun states => Dict.get? states (tenantId, entity)) states).trans ?_
      refine Dict.get?_set_of_ne _ _ ?_
      intro same
      exact other (congrArg Prod.snd same).symm
  disputes := by
    refine ingest_keeps (fun current => Reflects current tenantId entity record.disputes) filed fresh
      ?_ ?_ mirrors.disputes
    · intro first second same reflects name
      rw [← openConflict?_congr same]
      exact reflects name
    · intro current place name value label existing filed' absent _ _ _ reflects attributeName
      have key : (tenantId, entity.1, entity.2, attributeName) ≠ (tenantId,
          reading.observation.objectType, reading.observation.objectId, name) := by
        intro same
        exact other (congrArg (fun key => (key.2.1, key.2.2.1)) same).symm
      have kept := @recordConflict_elsewhere current reading.draws place tenantId _ _ name existing
        (projectedAttribute reading.observation label name value) filed' absent _ key
      exact (congrArg _ kept).trans (reflects attributeName)

/-- A reading of the entity moves its record. What the service holds of other objects plays
no part in it. -/
theorem Mirrors.ingest (mirrors : Mirrors tenantId reading.entity record service)
    (only : OnlyIngests service) (fresh : (reading.call tenantId).FreshConflicts service)
    (seen : service.observations.contains (tenantId, reading.observationId) = true <->
      reading.observationId ∈ record.known) :
    Mirrors tenantId reading.entity (record.ingest rt tenantId reading)
      (service.perform rt (reading.call tenantId)) := by
  change Mirrors _ _ _ (service.ingest rt reading.draws tenantId reading.observation reading.cause
    reading.assuranceLevel).state
  unfold EntityRecord.ingest
  by_cases known : reading.observationId ∈ record.known
  · rw [if_pos known, ingest_known (seen.mpr known)]
    exact mirrors
  rw [if_neg known]
  have new : service.observations.contains (tenantId, reading.observation.observationId) = false :=
    Bool.eq_false_iff.mpr (fun repeated => known (seen.mp repeated))
  cases aware : reading.observation.observedAt.instant? with
  | none =>
      rcases project_naive reading.draws aware with ⟨error, refused⟩
      rw [refused, ingest_naive new aware]
      exact ⟨mirrors.state, mirrors.disputes⟩
  | some observed =>
      have projected := project_eq reading.draws aware
      have length := projectedReading_length reading.observation (freshnessLabel reading.draws observed)
      rw [projected]
      generalize projectedReading reading.observation (freshnessLabel reading.draws observed) = incoming
        at projected length ⊢
      dsimp only
      generalize stored : service.states.get?
        (tenantId, reading.observation.objectType, reading.observation.objectId) = previous
      have held : record.state = previous.map OrderState.unnamed := by
        rw [← mirrors.state, ← stored]
        rfl
      rcases only.linkable.compiled rt reading.cause reading.assuranceLevel new
        projected stored with ⟨entry, _, compiled⟩
      have fresh' : FreshIds (service.seen tenantId reading.observation) tenantId reading.draws 0
          incoming.entries.length := by
        rw [length]
        exact ⟨fresh.new, fresh.distinct⟩
      have reflects : Reflects
          (service.merged reading.draws tenantId reading.observation previous incoming) tenantId
          reading.entity (noteDisputes (heldAttributes previous) incoming.entries record.disputes) :=
        recordConflicts_reflects _ _ (only.filed.congr ⟨rfl, rfl⟩) fresh' mirrors.disputes
      have kept := (merged_same service reading.draws tenantId reading.observation previous
        incoming).states
      rw [held, commits_unnamed, heldAttributes_unnamed]
      generalize commits rt tenantId reading.observation reading.cause reading.assuranceLevel previous
        incoming = accepted at compiled ⊢
      generalize (service.ingest rt reading.draws tenantId reading.observation reading.cause
        reading.assuranceLevel).state = after at compiled ⊢
      cases compiled with
      | kept =>
          refine ⟨?_, reflects⟩
          rw [kept]
          exact congrArg (Option.map OrderState.unnamed) stored
      | committed commit answers =>
          refine ⟨?_, reflects⟩
          refine (congrArg (Option.map OrderState.unnamed) (Dict.get?_set_self _ _ _)).trans ?_
          exact congrArg some (compiledState_unnamed previous incoming commit.commitId).symm

/-- A reading adds its own identifier to the ones that were seen. -/
theorem perform_contains (rt : Runtime) (service : WorldStateService) (tenantId : Text)
    (reading : Reading) (key : Text × Text) :
    (service.perform rt (reading.call tenantId)).observations.contains key = true <->
      service.observations.contains key = true ∨ key = (tenantId, reading.observationId) := by
  change (service.ingest rt reading.draws tenantId reading.observation reading.cause
    reading.assuranceLevel).state.observations.contains key = true <-> _
  by_cases known : service.observations.contains (tenantId, reading.observation.observationId) = true
  · rw [ingest_known known]
    constructor
    · exact Or.inl
    · rintro (seen | rfl)
      · exact seen
      · exact known
  · rw [ingest_records rt _ _ _ (Bool.eq_false_iff.mpr known), Dict.contains, Dict.get?_set]
    by_cases same : key = (tenantId, reading.observation.observationId)
    · rw [if_pos same]
      exact iff_of_true rfl (Or.inr same)
    · rw [if_neg same]
      exact ⟨Or.inl, fun seen => seen.resolve_right same⟩

end Step

/-! ## The readings of an entity -/

section Records

variable {rt : Runtime} {tenantId : Text} {record : EntityRecord} {reading : Reading}

/-- The record of an entity after its readings. -/
def recordOf (rt : Runtime) (tenantId : Text) (readings : List Reading) : EntityRecord :=
  readings.foldl (EntityRecord.ingest rt tenantId) .fresh

theorem recordOf_snoc (readings : List Reading) (last : Reading) :
    recordOf rt tenantId (readings ++ [last]) = (recordOf rt tenantId readings).ingest rt tenantId last := by
  unfold recordOf
  rw [List.foldl_append]
  rfl

theorem mem_known_ingest (observationId : Text) :
    observationId ∈ (record.ingest rt tenantId reading).known <->
      observationId ∈ record.known ∨ observationId = reading.observationId := by
  unfold EntityRecord.ingest
  by_cases member : reading.observationId ∈ record.known
  · rw [if_pos member]
    constructor
    · exact Or.inl
    · rintro (known | rfl)
      · exact known
      · exact member
  · rw [if_neg member]
    cases project reading.draws reading.observation with
    | error error => simp
    | ok incoming => simp

/-- A record knows the identifiers of its readings. -/
theorem mem_known_recordOf (readings : List Reading) (observationId : Text) :
    observationId ∈ (recordOf rt tenantId readings).known <->
      Exists fun reading : Reading => reading ∈ readings ∧ reading.observationId = observationId := by
  induction readings using List.reverseRec with
  | nil =>
      constructor
      · intro member
        cases member
      · rintro ⟨reading, member, _⟩
        cases member
  | append_singleton front last ih =>
      rw [recordOf_snoc, mem_known_ingest, ih]
      simp only [List.mem_append, List.mem_singleton]
      constructor
      · rintro (⟨reading, member, rfl⟩ | rfl)
        · exact ⟨reading, Or.inl member, rfl⟩
        · exact ⟨last, Or.inr rfl, rfl⟩
      · rintro ⟨reading, member | rfl, rfl⟩
        · exact Or.inl ⟨reading, member, rfl⟩
        · exact Or.inr rfl

/-- What a reading does to a record does not depend on the identifiers it draws. This is what
makes two interleavings comparable. -/
theorem ingest_same {first second : Reading} (same : first.Same second) :
    record.ingest rt tenantId first = record.ingest rt tenantId second := by
  rcases first with ⟨observation, cause, assuranceLevel, draws⟩
  rcases same with ⟨rfl, rfl, rfl, clock⟩
  have projected : project draws second.observation = project second.draws second.observation := by
    unfold project
    dsimp only at clock
    rw [clock]
  unfold EntityRecord.ingest
  dsimp only [Reading.observationId]
  rw [projected]
  rfl

theorem recordOf_same {readings readings' : List Reading}
    (same : List.Forall₂ Reading.Same readings readings') :
    recordOf rt tenantId readings = recordOf rt tenantId readings' := by
  unfold recordOf
  generalize EntityRecord.fresh = record
  induction same generalizing record with
  | nil => rfl
  | cons first rest ih => rw [List.foldl_cons, List.foldl_cons, ingest_same first, ih]

end Records

/-! ## The conflicts of an entity -/

section Disputes

variable {service : WorldStateService} {tenantId : Text} {entity : Text × Text}
variable {record : EntityRecord}

theorem mem_conflictsAbout (only : OnlyIngests service) (conflict : Conflict) :
    conflict ∈ conflictsAbout service tenantId entity <->
      service.openConflict? tenantId entity.1 entity.2 conflict.attributeName = some conflict := by
  unfold conflictsAbout
  rw [List.mem_filter, Dict.mem_values_iff, decide_eq_true_iff]
  constructor
  · rintro ⟨⟨id, found⟩, about⟩
    cases about
    have index := only.covered _ _ found (only.waits _ _ found)
    have named := only.stored.named _ _ found
    unfold openConflict?
    change (service.openConflicts.get? conflict.key).bind _ = _
    rw [index, Option.bind_some]
    rw [← named] at found
    exact found
  · intro found
    rcases only.filed.openConflict found with ⟨_, stored, about, _⟩
    exact ⟨⟨_, stored⟩, congrArg (fun key => (key.1, key.2.1, key.2.2.1)) about⟩

theorem nodup_conflictsAbout (only : OnlyIngests service) :
    ((conflictsAbout service tenantId entity).map Conflict.dispute).Nodup := by
  have distinct : service.conflictsById.values.Nodup := by
    have keys := service.conflictsById.map_values_of_named Conflict.storedId only.stored.named
    exact List.Nodup.of_map Conflict.storedId (keys ▸ service.conflictsById.distinct)
  refine List.Nodup.map_on ?_ (distinct.filter _)
  intro first member second member' same
  have found := (mem_conflictsAbout only first).mp member
  have found' := (mem_conflictsAbout only second).mp member'
  have name : first.attributeName = second.attributeName := congrArg Dispute.attributeName same
  rw [name, found'] at found
  exact (Option.some.inj found).symm

/-- The conflicts of an entity are the disputes of its record. -/
theorem Mirrors.perm (mirrors : Mirrors tenantId entity record service) (only : OnlyIngests service) :
    List.Perm ((conflictsAbout service tenantId entity).map Conflict.dispute)
      record.disputes.values := by
  have named : forall name dispute, record.disputes.get? name = some dispute ->
      dispute.attributeName = name := by
    intro name dispute found
    rw [← mirrors.disputes] at found
    rcases Option.map_eq_some_iff.mp found with ⟨conflict, slot, rfl⟩
    rcases only.filed.openConflict slot with ⟨_, _, about, _⟩
    exact congrArg (fun key => key.2.2.2) about
  have distinct : record.disputes.values.Nodup := by
    have keys := record.disputes.map_values_of_named Dispute.attributeName named
    exact List.Nodup.of_map Dispute.attributeName (keys ▸ record.disputes.distinct)
  rw [List.perm_ext_iff_of_nodup (nodup_conflictsAbout only) distinct]
  intro dispute
  rw [List.mem_map, Dict.mem_values_iff]
  constructor
  · rintro ⟨conflict, member, rfl⟩
    refine ⟨conflict.attributeName, ?_⟩
    rw [← mirrors.disputes, (mem_conflictsAbout only conflict).mp member]
    rfl
  · rintro ⟨name, found⟩
    rw [← mirrors.disputes] at found
    rcases Option.map_eq_some_iff.mp found with ⟨conflict, slot, rfl⟩
    rcases only.filed.openConflict slot with ⟨_, _, about, _⟩
    have same : conflict.attributeName = name := congrArg (fun key => key.2.2.2) about
    refine ⟨conflict, (mem_conflictsAbout only conflict).mpr ?_, rfl⟩
    rw [same]
    exact slot

/-- Services with one record for an entity tell the same of it. -/
theorem Mirrors.sameEntity {second : WorldStateService}
    (mirrors : Mirrors tenantId entity record service) (only : OnlyIngests service)
    (mirrors' : Mirrors tenantId entity record second) (only' : OnlyIngests second) :
    SameEntity tenantId entity service second where
  attributes := by
    have same := congrArg (Option.map OrderState.attributes) (mirrors.state.trans mirrors'.state.symm)
    rw [Option.map_map, Option.map_map] at same
    exact same
  version := by
    have same := congrArg (Option.map OrderState.stateVersion) (mirrors.state.trans mirrors'.state.symm)
    rw [Option.map_map, Option.map_map] at same
    exact same
  disputes := (mirrors.perm only).trans (mirrors'.perm only').symm

end Disputes

/-! ## Runs -/

section Runs

variable {rt : Runtime} {tenantId : Text} {history history' : List (Step WorldStateService Reading)}
variable {service service' : WorldStateService}

/-- The invariant of a run: the shared service is one record for each entity, and each record
is made from that entity's readings alone. -/
structure Apart (rt : Runtime) (tenantId : Text) (readings : List Reading)
    (service : WorldStateService) : Prop where
  only : OnlyIngests service
  seen : forall observationId, service.observations.contains (tenantId, observationId) = true <->
    Exists fun reading : Reading => reading ∈ readings ∧ reading.observationId = observationId
  mirrors : forall entity, Mirrors tenantId entity
    (recordOf rt tenantId (ofObject entity readings)) service

theorem Apart.fresh : Apart rt tenantId [] .fresh where
  only := .fresh
  seen := by
    intro observationId
    constructor
    · intro seen
      cases seen
    · rintro ⟨reading, member, _⟩
      cases member
  mirrors := fun _ => ⟨rfl, fun _ => rfl⟩

theorem Apart.ingest {readings : List Reading} {reading : Reading}
    (apart : Apart rt tenantId readings service) (digests : DigestsEncodable rt)
    (fresh : (reading.call tenantId).FreshConflicts service)
    (separate : Separate (readings ++ [reading])) :
    Apart rt tenantId (readings ++ [reading]) (service.perform rt (reading.call tenantId)) where
  only := apart.only.ingest digests fresh
  seen := by
    intro observationId
    rw [perform_contains, apart.seen, Prod.mk_right_inj]
    simp only [List.mem_append, List.mem_singleton]
    constructor
    · rintro (⟨earlier, member, rfl⟩ | rfl)
      · exact ⟨earlier, Or.inl member, rfl⟩
      · exact ⟨reading, Or.inr rfl, rfl⟩
    · rintro ⟨other, member | rfl, rfl⟩
      · exact Or.inl ⟨other, member, rfl⟩
      · exact Or.inr rfl
  mirrors := by
    intro entity
    unfold ofObject
    rw [List.filter_append]
    by_cases about : reading.entity = entity
    · subst about
      rw [List.filter_singleton, decide_eq_true rfl, cond_true, recordOf_snoc]
      apply (apart.mirrors reading.entity).ingest apart.only fresh
      rw [apart.seen, mem_known_recordOf]
      constructor
      · rintro ⟨earlier, member, same⟩
        have object := separate earlier (List.mem_append_left _ member) reading
          (List.mem_append_right _ (List.mem_singleton_self _)) same
        exact ⟨earlier, List.mem_filter.mpr ⟨member, decide_eq_true object⟩, same⟩
      · rintro ⟨earlier, member, same⟩
        exact ⟨earlier, (List.mem_filter.mp member).1, same⟩
    · rw [List.filter_singleton, decide_eq_false about, cond_false, List.append_nil]
      exact (apart.mirrors entity).elsewhere apart.only.filed fresh about

theorem Apart.of_run (digests : DigestsEncodable rt)
    (run : (readingSystem rt tenantId).Run history service)
    (separate : Separate (readingsOf history)) : Apart rt tenantId (readingsOf history) service := by
  revert separate
  apply System.Run.historyInvariant run
  · rintro _ rfl _
    exact .fresh
  · intro history service reading earlier sound admitted separate
    unfold readingsOf at separate sound ⊢
    rw [List.map_append] at separate ⊢
    refine Apart.ingest (sound ?_) digests admitted separate
    intro first member second member'
    exact separate first (List.mem_append_left _ member) second (List.mem_append_left _ member')

/-- Readings of the same observations use no identifier for two objects either. -/
theorem Separate.of_same {readings readings' : List Reading} (separate : Separate readings)
    (known : forall reading, reading ∈ readings' -> Exists fun original : Reading =>
      original ∈ readings ∧ original.Same reading) : Separate readings' := by
  intro first member second member' same
  rcases known first member with ⟨original, inside, first'⟩
  rcases known second member' with ⟨original', inside', second'⟩
  have object := separate original inside original' inside'
  unfold Reading.observationId Reading.entity at *
  rw [first'.observation, second'.observation] at object
  exact object same

/-- An entity ends as its own readings alone would leave it: other readings, the places they are
ingested at and the identifiers that are drawn change nothing.  Two interleavings of the same
readings of each object leave the same entities. -/
theorem entities_independent (rt : Runtime) (digests : DigestsEncodable rt)
    (run : (readingSystem rt tenantId).Run history service) (separate : Separate (readingsOf history))
    (run' : (readingSystem rt tenantId).Run history' service') :
    (forall entity, List.Forall₂ Reading.Same (ofObject entity (readingsOf history))
        (readingsOf history') -> SameEntity tenantId entity service service') ∧
      ((forall entity, List.Forall₂ Reading.Same (ofObject entity (readingsOf history))
          (ofObject entity (readingsOf history'))) ->
        forall entity, SameEntity tenantId entity service service') := by
  have apart := Apart.of_run digests run separate
  constructor
  · intro entity same
    have known : forall reading, reading ∈ readingsOf history' -> Exists fun original : Reading =>
        (original ∈ readingsOf history ∧ original.entity = entity) ∧ original.Same reading := by
      intro reading member
      rcases exists_left_of_forall₂ same member with ⟨original, inside, related⟩
      rcases List.mem_filter.mp inside with ⟨inside, about⟩
      exact ⟨original, ⟨inside, of_decide_eq_true about⟩, related⟩
    have apart' := Apart.of_run digests run' (separate.of_same (fun reading member => by
      rcases known reading member with ⟨original, ⟨inside, _⟩, related⟩
      exact ⟨original, inside, related⟩))
    have whole : ofObject entity (readingsOf history') = readingsOf history' := by
      refine List.filter_eq_self.mpr (fun reading member => ?_)
      rcases known reading member with ⟨original, ⟨_, about⟩, related⟩
      unfold Reading.entity at about ⊢
      rw [← related.observation]
      exact decide_eq_true about
    have mirrors := apart'.mirrors entity
    rw [whole, ← recordOf_same same] at mirrors
    exact (apart.mirrors entity).sameEntity apart.only mirrors apart'.only
  · intro same entity
    have apart' := Apart.of_run digests run' (separate.of_same (fun reading member => by
      have own : reading ∈ ofObject reading.entity (readingsOf history') :=
        List.mem_filter.mpr ⟨member, decide_eq_true rfl⟩
      rcases exists_left_of_forall₂ (same reading.entity) own with ⟨original, inside, related⟩
      exact ⟨original, (List.mem_filter.mp inside).1, related⟩))
    have mirrors := apart'.mirrors entity
    rw [← recordOf_same (same entity)] at mirrors
    exact (apart.mirrors entity).sameEntity apart.only mirrors apart'.only

end Runs

/-! ## A disputed order between readings of another -/

def otherReading : Observation where
  observationId := "obs_shopify_1002"
  connector := "shopify"
  objectType := "order"
  objectId := "1002"
  observedAt := .utc 0
  payload := Dict.ofList [("status", .str "open")]
  valid := by decide +kernel

def sampleReading (start : Nat) (observation : Observation) : Reading :=
  ⟨observation, "observation", "observed", drawsAt start 0⟩

instance (rt : Runtime) (tenantId : Text) (service : WorldStateService) (reading : Reading) :
    Decidable ((readingSystem rt tenantId).admits service reading) :=
  inferInstanceAs (Decidable ((reading.call tenantId).FreshConflicts service))

instance (readings : List Reading) : Decidable (Separate readings) :=
  inferInstanceAs (Decidable (forall first, first ∈ readings -> forall second, second ∈ readings -> _))

/-- The disputed order's readings, with a reading of another order between them. -/
def mixedReadings : List Reading :=
  [sampleReading 10 openReading, sampleReading 20 otherReading, sampleReading 30 disagreeingReading]

def ownReadings : List Reading := [sampleReading 40 openReading, sampleReading 50 disagreeingReading]

theorem entities_independent_sample :
    Exists fun service : WorldStateService => Exists fun service' : WorldStateService =>
      service.states.keys.length = 2 ∧ service'.states.keys.length = 1 ∧
        ((conflictsAbout service "demo" ("order", "1001")).map Conflict.dispute).length = 1 ∧
        SameEntity "demo" ("order", "1001") service service' := by
  have facts : (readingSystem .plain "demo").AdmitsAll .fresh mixedReadings ∧
      (readingSystem .plain "demo").AdmitsAll .fresh ownReadings ∧ Separate mixedReadings ∧
      ((readingSystem .plain "demo").trace .fresh mixedReadings).2.states.keys.length = 2 ∧
      ((readingSystem .plain "demo").trace .fresh ownReadings).2.states.keys.length = 1 ∧
      ((conflictsAbout ((readingSystem .plain "demo").trace .fresh mixedReadings).2 "demo"
        ("order", "1001")).map Conflict.dispute).length = 1 := by
    decide +kernel
  rcases facts with ⟨admitted, admitted', separate, two, one, disputed⟩
  have independent := entities_independent .plain plain_digestsEncodable
    (System.run_trace mixedReadings rfl admitted) separate (System.run_trace ownReadings rfl admitted')
  have same : List.Forall₂ Reading.Same (ofObject ("order", "1001") mixedReadings) ownReadings := by
    have own : ofObject ("order", "1001") mixedReadings =
      [sampleReading 10 openReading, sampleReading 30 disagreeingReading] := rfl
    rw [own]
    exact .cons ⟨rfl, rfl, rfl, rfl⟩ (.cons ⟨rfl, rfl, rfl, rfl⟩ .nil)
  exact ⟨_, _, two, one, disputed, independent.1 _ same⟩

end WorldState
end RealityLayer
