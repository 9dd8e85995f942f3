import RealityLayer.WorldState.Filing
import RealityLayer.WorldState.Served

namespace RealityLayer
namespace WorldState

open Foundation Python RealityGit WorldStateService

/-!
# Properties of all records

A service holds states, commits, heads and conflicts, and each call adds few of them.  A
property of every record is kept when the new records have it.  The rules say which records
these are, so that an invariant of this kind needs no case analysis of its own.
-/

/-- What is required of each record of a service. One run lemma serves every such property,
since all records are written by the same few operations. -/
structure Requirements where
  state : Text × Text × Text -> OrderState -> Prop
  commit : CommitRecord -> Prop
  head : Text -> Prop
  conflict : Conflict -> Prop

namespace Requirements

/-- Every record of a service is as required. Heads are records too: each names the last
commit of a tenant. -/
structure MetBy (required : Requirements) (service : WorldStateService) : Prop where
  states : service.states.All required.state
  commits : service.commits.All (fun _ => required.commit)
  heads : service.latestCommit.All (fun _ => required.head)
  conflicts : service.conflictsById.All (fun _ => required.conflict)

section Rules

variable {required : Requirements} {service after : WorldStateService} {rt : Runtime} {draws : Draws}
variable {tenantId : Text} {observation : Observation} {cause assuranceLevel : Text}

theorem MetBy.fresh (required : Requirements) : required.MetBy .fresh :=
  ⟨.empty _, .empty _, .empty _, .empty _⟩

/-- Only the conflicts are different. -/
theorem MetBy.of_same (met : required.MetBy service) (same : service.SameRecords after)
    (conflicts : after.conflictsById.All (fun _ => required.conflict)) : required.MetBy after where
  states := same.states ▸ met.states
  commits := same.commits ▸ met.commits
  heads := same.latestCommit ▸ met.heads
  conflicts := conflicts

theorem MetBy.record (met : required.MetBy service) {commit : CommitRecord}
    (new : required.commit commit) (head : required.head commit.commitId) :
    required.MetBy (service.record commit) where
  states := met.states
  commits := met.commits.set new
  heads := met.heads.set head
  conflicts := met.conflicts

theorem MetBy.setState (met : required.MetBy service) {key : Text × Text × Text} {state : OrderState}
    (new : required.state key state) : required.MetBy (service.setState key state) where
  states := met.states.set new
  commits := met.commits
  heads := met.heads
  conflicts := met.conflicts

theorem MetBy.hydrateConflict (met : required.MetBy service) {conflict : Conflict}
    (new : required.conflict conflict) : required.MetBy (service.hydrateConflict conflict) := by
  apply met.of_same
  · unfold WorldStateService.hydrateConflict
    dsimp only
    split
    · exact ⟨rfl, rfl, rfl, rfl⟩
    · exact ⟨rfl, rfl, rfl, rfl⟩
  · rw [hydrateConflict_conflictsById]
    exact met.conflicts.set new

theorem MetBy.hydrateAll {conflicts : List Conflict} (met : required.MetBy service)
    (new : forall conflict, conflict ∈ conflicts -> required.conflict conflict) :
    required.MetBy (conflicts.foldl WorldStateService.hydrateConflict service) := by
  induction conflicts generalizing service with
  | nil => exact met
  | cons conflict rest ih =>
      exact ih (met.hydrateConflict (new conflict List.mem_cons_self))
        (fun other member => new other (List.mem_cons_of_mem _ member))

/-- Hydrating files the state, and may build a commit and move the head to one of two
identifiers. -/
theorem MetBy.hydrate (met : required.MetBy service) {state : OrderState}
    {parentCommitId parentHash : Option Text}
    (new : required.state (state.tenantId, state.entityType.lower, state.entityId.afterColon) state)
    (head : required.head ((truthy? parentCommitId).getD state.commitId))
    (commit : forall commitId hash, truthy? parentCommitId = some commitId ->
      truthy? parentHash = some hash -> required.commit (hydratedCommit state commitId hash)) :
    required.MetBy (service.hydrate state parentCommitId parentHash) where
  states := by
    rw [hydrate_states]
    exact met.states.set new
  commits := by
    rw [hydrate_commits]
    split
    · exact met.commits.set (commit _ _ ‹_› ‹_›)
    · exact met.commits
  heads := by
    rw [hydrate_latestCommit]
    apply met.heads.set
    unfold WorldStateService.hydratedHead
    dsimp only
    split
    · exact head
    split
    · exact met.heads state.tenantId _ ‹_›
    · exact head
  conflicts := by
    rw [← (hydrate_sameConflicts service state parentCommitId parentHash).conflictsById]
    exact met.conflicts

/-! ## `ingest` -/

/-- The conflicts that a reading opens or extends are as required. The held value of the
dispute goes into the conflict as its first candidate. -/
structure Disputable (required : Requirements) (draws : Draws) (tenantId : Text)
    (observation : Observation) (held : Dict Text StateAttribute)
    (entries : List (Text × StateAttribute)) : Prop where
  opened : forall place entry existing, entry ∈ entries -> disputed? held entry = some existing ->
    required.conflict (openedConflict draws place tenantId observation.objectType observation.objectId
      entry.1 existing entry.2)
  extended : forall conflict entry, entry ∈ entries -> required.conflict conflict ->
    required.conflict (conflict.extended entry.2)

theorem recordConflict_all {place : Nat} {entityType entityId name : Text}
    {existing incoming : StateAttribute}
    (held : service.conflictsById.All (fun _ => required.conflict))
    (opened : required.conflict
      (openedConflict draws place tenantId entityType entityId name existing incoming))
    (extended : forall conflict, required.conflict conflict ->
      required.conflict (conflict.extended incoming)) :
    (service.recordConflict draws place tenantId entityType entityId name existing
      incoming).conflictsById.All (fun _ => required.conflict) := by
  cases found : service.openConflict? tenantId entityType entityId name with
  | none =>
      rw [recordConflict_absent found]
      exact held.set opened
  | some conflict =>
      cases listed : conflict.lists incoming with
      | true =>
          rw [recordConflict_listed found listed]
          exact held
      | false =>
          rw [recordConflict_unlisted found listed]
          rcases Option.bind_eq_some_iff.mp found with ⟨conflictId, _, stored⟩
          exact held.set (extended conflict (held _ conflict stored))

theorem recordConflicts_all {held : Dict Text StateAttribute} {entries : List (Text × StateAttribute)}
    (disputable : required.Disputable draws tenantId observation held entries) (place : Nat)
    (known : service.conflictsById.All (fun _ => required.conflict)) :
    (recordConflicts draws tenantId observation.objectType observation.objectId held place entries
      service).conflictsById.All (fun _ => required.conflict) := by
  induction entries generalizing place service with
  | nil => exact known
  | cons entry rest ih =>
      have later : required.Disputable draws tenantId observation held rest :=
        ⟨fun place other existing member =>
            disputable.opened place other existing (List.mem_cons_of_mem entry member),
          fun conflict other member =>
            disputable.extended conflict other (List.mem_cons_of_mem entry member)⟩
      rw [recordConflicts]
      cases disputed : disputed? held entry with
      | none => exact ih later (place + 1) known
      | some existing =>
          refine ih later (place + 1) (recordConflict_all known ?_ ?_)
          · exact disputable.opened place entry existing List.mem_cons_self disputed
          · exact fun conflict => disputable.extended conflict entry List.mem_cons_self

/-- The new records of a call of `ingest` are as required. They are made from the
observation, the held state and what the call draws, and from nothing else. -/
structure Ingestible (required : Requirements) (rt : Runtime) (service : WorldStateService)
    (draws : Draws) (tenantId : Text) (observation : Observation) (cause assuranceLevel : Text)
    (previous : Option OrderState) : Prop where
  disputable : forall incoming, project draws observation = .ok incoming ->
    required.Disputable draws tenantId observation
      ((previous.map OrderState.attributes).getD Dict.empty) incoming.entries
  committed : forall incoming commit, project draws observation = .ok incoming ->
    required.MetBy (service.merged draws tenantId observation previous incoming) ->
    Continues rt (service.merged draws tenantId observation previous incoming) commit ->
    Answers (ingestRequest rt tenantId observation cause assuranceLevel previous incoming) draws commit ->
    required.commit commit ∧ required.head commit.commitId ∧
      required.state (tenantId, observation.objectType, observation.objectId)
        (compiledState tenantId observation previous incoming commit.commitId)

/-- After `ingest` all records are as required, and so is the answered state. -/
theorem MetBy.ingest (met : required.MetBy service)
    (ingestible : required.Ingestible rt service draws tenantId observation cause assuranceLevel
      (service.states.get? (tenantId, observation.objectType, observation.objectId))) :
    required.MetBy (service.ingest rt draws tenantId observation cause assuranceLevel).state ∧
      forall state, (service.ingest rt draws tenantId observation cause assuranceLevel).result = .ok state ->
        required.state (tenantId, observation.objectType, observation.objectId) state := by
  have way := ingest_ingestion rt service draws tenantId observation cause assuranceLevel
  generalize stored : service.states.get? (tenantId, observation.objectType, observation.objectId) =
    previous at way ingestible
  generalize service.ingest rt draws tenantId observation cause assuranceLevel = outcome at way ⊢
  have seen : required.MetBy (service.seen tenantId observation) :=
    ⟨met.states, met.commits, met.heads, met.conflicts⟩
  have merged : forall incoming, project draws observation = .ok incoming ->
      required.MetBy (service.merged draws tenantId observation previous incoming) :=
    fun incoming projected => seen.of_same (merged_same _ _ _ _ _ _)
      (recordConflicts_all (ingestible.disputable incoming projected) 0 seen.conflicts)
  cases way with
  | repeated state found known =>
      refine ⟨met, fun other answered => ?_⟩
      cases answered
      exact met.states _ _ (stored.trans found)
  | stateless absent known => exact ⟨met, fun other answered => by cases answered⟩
  | unprojected error new failed => exact ⟨seen, fun other answered => by cases answered⟩
  | unchanged incoming state found new projected same =>
      refine ⟨merged incoming projected, fun other answered => ?_⟩
      cases answered
      exact met.states _ _ (stored.trans found)
  | undumped incoming new projected undumpable =>
      exact ⟨merged incoming projected, fun other answered => by cases answered⟩
  | refused incoming error new projected changes failed =>
      exact ⟨merged incoming projected, fun other answered => by cases answered⟩
  | committed incoming commit new projected changes continues answers =>
      rcases ingestible.committed incoming commit projected
        (merged incoming projected) continues answers with ⟨written, head, filed⟩
      refine ⟨((merged incoming projected).record written head).setState filed, fun other answered => ?_⟩
      cases answered
      exact filed

/-! ## `resolve_conflict` -/

/-- The new records of a call of `resolve_conflict` are as required. The closed conflict
keeps its candidates, and the new state takes its sources from one of them. -/
structure Resolvable (required : Requirements) (rt : Runtime) (service : WorldStateService)
    (draws : Draws) (tenantId conflictId : Text) (resolvedValue : Json) (resolvedBy reason : Text) :
    Prop where
  closed : forall conflict, required.conflict conflict -> required.conflict
    (conflict.closed resolvedValue resolvedBy reason (.utc (draws.clock 0)))
  committed : forall conflict state commit, required.conflict conflict ->
    required.state (tenantId, conflict.entityType, conflict.entityId) state ->
    Continues rt service commit ->
    Answers (resolveRequest rt tenantId state conflict resolvedValue draws) draws commit ->
    required.commit commit ∧ required.head commit.commitId ∧
      required.state (tenantId, conflict.entityType, conflict.entityId)
        (resolvedState tenantId state conflict resolvedValue draws commit.commitId)

theorem MetBy.closeConflict (met : required.MetBy service) {conflict : Conflict} {resolvedValue : Json}
    {resolvedBy reason : Text} {now : Timestamp}
    (closed : required.conflict (conflict.closed resolvedValue resolvedBy reason now)) :
    required.MetBy
      (service.closeConflict tenantId conflict resolvedValue resolvedBy reason now).state :=
  met.of_same ⟨rfl, rfl, rfl, rfl⟩ (met.conflicts.set closed)

/-- After `resolve_conflict` all records are as required, and so is the answered conflict. -/
theorem MetBy.resolveConflict {conflictId resolvedBy reason : Text} {resolvedValue : Json}
    (met : required.MetBy service)
    (resolvable : required.Resolvable rt service draws tenantId conflictId resolvedValue resolvedBy
      reason) :
    required.MetBy (service.resolveConflict rt draws tenantId conflictId resolvedValue resolvedBy
        reason).state ∧
      forall conflict, (service.resolveConflict rt draws tenantId conflictId resolvedValue resolvedBy
        reason).result = .ok conflict -> required.conflict conflict := by
  have way := resolveConflict_resolution rt service draws tenantId conflictId resolvedValue resolvedBy
    reason
  generalize service.resolveConflict rt draws tenantId conflictId resolvedValue resolvedBy reason =
    outcome at way ⊢
  have known : forall conflict, service.getConflict tenantId conflictId = .ok conflict ->
      required.conflict conflict :=
    fun conflict found => met.conflicts _ conflict (getConflict_ok found)
  cases way with
  | unknown error absent => exact ⟨met, fun other answered => by cases answered⟩
  | settled conflict found resolved =>
      refine ⟨met, fun other answered => ?_⟩
      cases answered
      exact known conflict found
  | stateless conflict found unresolved absent =>
      have closed := resolvable.closed conflict (known conflict found)
      refine ⟨met.closeConflict closed, fun other answered => ?_⟩
      cases answered
      exact closed
  | undumped conflict state found unresolved stored undumpable =>
      exact ⟨met, fun other answered => by cases answered⟩
  | refused conflict state error found unresolved stored failed =>
      exact ⟨met, fun other answered => by cases answered⟩
  | committed conflict state commit found unresolved stored continues answers =>
      have closed := resolvable.closed conflict (known conflict found)
      rcases resolvable.committed conflict state commit (known conflict found)
        (met.states _ state stored) continues answers with ⟨written, head, filed⟩
      refine ⟨((met.record written head).setState filed).closeConflict closed, fun other answered => ?_⟩
      cases answered
      exact closed

end Rules

/-! ## Properties of single readings -/

/-- Every attribute and every candidate has a property. -/
def ofReadings (property : Json -> PyFloat -> Timestamp -> Prop) : Requirements where
  state := fun _ state => state.attributes.All (fun _ attr =>
    property attr.value attr.confidence attr.observedAt)
  commit := fun _ => True
  head := fun _ => True
  conflict := fun conflict => forall candidate, candidate ∈ conflict.candidates ->
    property candidate.value candidate.confidence candidate.observedAt

section Readings

variable {property : Json -> PyFloat -> Timestamp -> Prop} {service : WorldStateService}
variable {draws : Draws} {tenantId : Text} {observation : Observation}

theorem ofReadings_held (met : (ofReadings property).MetBy service) (key : Text × Text × Text) :
    (heldAttributes (service.states.get? key)).All (fun _ attr =>
      property attr.value attr.confidence attr.observedAt) := by
  intro name attr held
  rcases heldAttributes_stored held with ⟨state, stored, held⟩
  exact met.states key state stored name attr held

/-- A reading whose values have the property can be taken in. -/
theorem ofReadings_ingestible (rt : Runtime) (met : (ofReadings property).MetBy service)
    (cause assuranceLevel : Text)
    (read : forall incoming, project draws observation = .ok incoming -> forall name value,
      observation.payload.get? name = some value ->
        property value (projectedConfidence name) observation.observedAt) :
    (ofReadings property).Ingestible rt service draws tenantId observation cause assuranceLevel
      (service.states.get? (tenantId, observation.objectType, observation.objectId)) where
  disputable := by
    intro incoming projected
    have held := ofReadings_held met (tenantId, observation.objectType, observation.objectId)
    have values := read incoming projected
    rcases project_ok projected with ⟨label, rfl⟩
    have entries : forall entry, entry ∈ (projectedReading observation label).entries ->
        property entry.2.value entry.2.confidence entry.2.observedAt := by
      intro entry member
      rcases List.mem_map.mp member with ⟨original, listed, rfl⟩
      exact values original.1 original.2 ((Dict.mem_entries_iff _ _ _).mp listed)
    refine ⟨fun place entry existing member disputed candidate listed => ?_,
      fun conflict entry member known candidate listed => ?_⟩
    · have stored := (Option.filter_eq_some_iff.mp disputed).1
      rcases List.mem_cons.mp listed with rfl | later
      · exact held entry.1 existing stored
      · rw [List.mem_singleton.mp later]
        exact entries entry member
    · rcases List.mem_append.mp listed with before | last
      · exact known candidate before
      · rw [List.mem_singleton.mp last]
        exact entries entry member
  committed := by
    intro incoming commit projected _ _ _
    have values := read incoming projected
    rcases project_ok projected with ⟨label, rfl⟩
    exact ⟨trivial, trivial, compiledAttributes_all (ofReadings_held met _) values⟩

/-- A conflict can be resolved when the resolved attribute has the property. -/
theorem ofReadings_resolvable (rt : Runtime) (service : WorldStateService) (draws : Draws)
    (tenantId conflictId : Text) {resolvedValue : Json} (resolvedBy reason : Text)
    (resolved : forall conflict, (ofReadings property).conflict conflict ->
      property resolvedValue (resolvedAttribute conflict resolvedValue (.utc (draws.clock 0))).confidence
        (.utc (draws.clock 0))) :
    (ofReadings property).Resolvable rt service draws tenantId conflictId resolvedValue resolvedBy
      reason where
  closed := fun _ known => known
  committed := by
    intro conflict state commit known held _ _
    exact ⟨trivial, trivial, Dict.All.set held (resolved conflict known)⟩

end Readings

end Requirements

end WorldState
end RealityLayer
