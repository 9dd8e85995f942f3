import RealityLayer.WorldState.Steps

namespace RealityLayer
namespace WorldState

open Foundation Python RealityGit WorldStateService

/-!
# Everything a call can do

`Ingestion` and `Resolution` are the complete inversions of the two calls: one
constructor for each way through the code, with every guard on it and the exact
outcome.  Proofs about the calls split on them and never unfold the calls again.

The commit of a call is described by its request.  `Answers` says that a commit
carries the fields of a request, under the identifier that was drawn.
-/

/-! ## The request of a commit -/

/-- The fields of a commit that its request determines. Its parent, its previous hash and its
own hash are left out: they come from the service that the commit is made on. -/
structure Answers (request : CommitRequest) (draws : Draws) (commit : CommitRecord) : Prop where
  commitId : commit.commitId = newCommitId draws
  tenantId : commit.tenantId = request.tenantId
  entityType : commit.entityType = request.entityType
  entityId : commit.entityId = request.entityId
  cause : commit.cause = request.cause
  observationIds : commit.observationIds = request.observationIds
  before : commit.before = request.before
  after : commit.after = request.after
  semanticDiff : commit.semanticDiff = request.semanticDiff
  assuranceLevel : commit.assuranceLevel = request.assuranceLevel

section Creating

variable {rt : Runtime} {service : WorldStateService} {draws : Draws} {request : CommitRequest}

/-- `_create_commit` either raises before it writes or records an answer. -/
theorem createCommit_answers (rt : Runtime) (service : WorldStateService) (draws : Draws)
    (request : CommitRequest) :
    (Exists fun error => service.createCommit rt draws request = .raises service error) ∨
      Exists fun commit => service.createCommit rt draws request =
          .returns (service.record commit) commit ∧
        Continues rt service commit ∧ Answers request draws commit := by
  unfold createCommit
  cases latest : service.latestHash request.tenantId with
  | error error => exact Or.inl ⟨error, rfl⟩
  | ok previousHash =>
      dsimp only
      cases hashed : hashJson rt (commitDocument request (newCommitId draws)
          (service.latestCommit.get? request.tenantId) previousHash) with
      | error cause => exact Or.inl ⟨_, rfl⟩
      | ok hash =>
          exact Or.inr ⟨_, rfl, ⟨rfl, latest, hashed⟩,
            ⟨rfl, rfl, rfl, rfl, rfl, rfl, rfl, rfl, rfl, rfl⟩⟩

end Creating

/-! ## `ingest` -/

namespace WorldStateService

/-- The service after the first write of `ingest`. The observation counts as known from here
on, even if the call then raises. -/
def seen (service : WorldStateService) (tenantId : Text) (observation : Observation) :
    WorldStateService :=
  { service with
    observations := service.observations.set (tenantId, observation.observationId) observation }

/-- The service after the conflicts of `ingest` are recorded. They stay when the commit that
follows cannot be made. -/
def merged (service : WorldStateService) (draws : Draws) (tenantId : Text)
    (observation : Observation) (previous : Option OrderState)
    (incoming : Dict Text StateAttribute) : WorldStateService :=
  recordConflicts draws tenantId observation.objectType observation.objectId
    ((previous.map OrderState.attributes).getD Dict.empty) 0 incoming.entries
    (service.seen tenantId observation)

theorem merged_same (service : WorldStateService) (draws : Draws) (tenantId : Text)
    (observation : Observation) (previous : Option OrderState)
    (incoming : Dict Text StateAttribute) :
    (service.seen tenantId observation).SameRecords
      (service.merged draws tenantId observation previous incoming) :=
  recordConflicts_same _ _ _ _ _ _ _ _

end WorldStateService

/-- The names an observation changes. A value that is held back changes nothing. -/
def ingestChanges (rt : Runtime) (previous : Option OrderState)
    (incoming : Dict Text StateAttribute) : List Text :=
  changedNames (attributesFor rt previous) (dumpAttributes rt (compiledAttributes previous incoming))

/-- The commit an observation asks for. It is asked for on a first reading, even of nothing,
and later only where a value changes. -/
def ingestRequest (rt : Runtime) (tenantId : Text) (observation : Observation)
    (cause assuranceLevel : Text) (previous : Option OrderState)
    (incoming : Dict Text StateAttribute) : CommitRequest where
  tenantId := tenantId
  entityType := observation.objectType
  entityId := observation.objectId
  cause := cause
  observationIds := [observation.observationId]
  before := attributesFor rt previous
  after := dumpAttributes rt (compiledAttributes previous incoming)
  semanticDiff := semanticDiff (ingestChanges rt previous incoming)
  assuranceLevel := assuranceLevel

section Ingest

variable (rt : Runtime) (service : WorldStateService) (draws : Draws) (tenantId : Text)
variable (observation : Observation) (cause assuranceLevel : Text)

/-- Every way through `ingest`. The cases are in the order of the code, and each that fails
says at which state it stops, because the observation is recorded before any of them. -/
inductive Ingestion (previous : Option OrderState) :
    Outcome PyError WorldStateService OrderState -> Prop
  | repeated (state : OrderState) (stored : previous = some state)
      (known : service.observations.contains (tenantId, observation.observationId) = true) :
      Ingestion previous (.returns service state)
  | stateless (absent : previous = none)
      (known : service.observations.contains (tenantId, observation.observationId) = true) :
      Ingestion previous (.raises service (.keyError observation.objectId))
  | unprojected (error : PyError)
      (new : service.observations.contains (tenantId, observation.observationId) = false)
      (failed : project draws observation = .error error) :
      Ingestion previous (.raises (service.seen tenantId observation) error)
  | unchanged (incoming : Dict Text StateAttribute) (state : OrderState)
      (stored : previous = some state)
      (new : service.observations.contains (tenantId, observation.observationId) = false)
      (projected : project draws observation = .ok incoming)
      (same : ingestChanges rt previous incoming = [])
      (dumped : dumpsChange rt previous (compiledAttributes previous incoming) = true) :
      Ingestion previous (.returns (service.merged draws tenantId observation previous incoming) state)
  | undumped (incoming : Dict Text StateAttribute)
      (new : service.observations.contains (tenantId, observation.observationId) = false)
      (projected : project draws observation = .ok incoming)
      (undumpable : dumpsChange rt previous (compiledAttributes previous incoming) = false) :
      Ingestion previous
        (.raises (service.merged draws tenantId observation previous incoming) dumpRefusal)
  | refused (incoming : Dict Text StateAttribute) (error : PyError)
      (new : service.observations.contains (tenantId, observation.observationId) = false)
      (projected : project draws observation = .ok incoming)
      (changes : previous = none ∨ ingestChanges rt previous incoming ≠ [])
      (failed : (service.merged draws tenantId observation previous incoming).createCommit rt draws
        (ingestRequest rt tenantId observation cause assuranceLevel previous incoming) =
          .raises (service.merged draws tenantId observation previous incoming) error)
      (dumped : dumpsChange rt previous (compiledAttributes previous incoming) = true) :
      Ingestion previous
        (.raises (service.merged draws tenantId observation previous incoming) error)
  | committed (incoming : Dict Text StateAttribute) (commit : CommitRecord)
      (new : service.observations.contains (tenantId, observation.observationId) = false)
      (projected : project draws observation = .ok incoming)
      (changes : previous = none ∨ ingestChanges rt previous incoming ≠ [])
      (continues : Continues rt (service.merged draws tenantId observation previous incoming) commit)
      (answers : Answers
        (ingestRequest rt tenantId observation cause assuranceLevel previous incoming) draws commit)
      (dumped : dumpsChange rt previous (compiledAttributes previous incoming) = true) :
      Ingestion previous (.returns
        (((service.merged draws tenantId observation previous incoming).record commit).setState
          (tenantId, observation.objectType, observation.objectId)
          (compiledState tenantId observation previous incoming commit.commitId))
        (compiledState tenantId observation previous incoming commit.commitId))

theorem ingest_ingestion :
    Ingestion rt service draws tenantId observation cause assuranceLevel
      (service.states.get? (tenantId, observation.objectType, observation.objectId))
      (service.ingest rt draws tenantId observation cause assuranceLevel) := by
  unfold ingest
  dsimp only
  generalize stored : service.states.get? (tenantId, observation.objectType, observation.objectId) =
    previous
  by_cases known : service.observations.contains (tenantId, observation.observationId) = true
  · rw [if_pos known]
    cases previous with
    | none => exact .stateless rfl known
    | some state => exact .repeated state rfl known
  have new := Bool.eq_false_iff.mpr known
  rw [if_neg known]
  cases projected : project draws observation with
  | error error => exact .unprojected error new projected
  | ok incoming =>
      dsimp only
      by_cases undumpable : dumpsChange rt previous (compiledAttributes previous incoming) = false
      · rw [if_pos undumpable]
        exact .undumped incoming new projected undumpable
      have dumped := Bool.eq_true_of_not_eq_false undumpable
      rw [if_neg undumpable]
      cases quiet : previous.filter (fun _ => (ingestChanges rt previous incoming).isEmpty) with
      | some state =>
          rcases Option.filter_eq_some_iff.mp quiet with ⟨rfl, empty⟩
          unfold ingestChanges at quiet
          rw [quiet]
          exact .unchanged incoming state rfl new projected (List.isEmpty_iff.mp empty) dumped
      | none =>
          have changes : previous = none ∨ ingestChanges rt previous incoming ≠ [] := by
            cases previous with
            | none => exact Or.inl rfl
            | some state =>
                refine Or.inr (fun same => ?_)
                rw [same] at quiet
                cases quiet
          unfold ingestChanges at quiet
          rw [quiet]
          dsimp only
          change Ingestion rt service draws tenantId observation cause assuranceLevel previous
            (((service.merged draws tenantId observation previous incoming).createCommit rt draws
              (ingestRequest rt tenantId observation cause assuranceLevel previous incoming)).andThen _)
          rcases createCommit_answers rt (service.merged draws tenantId observation previous incoming)
            draws (ingestRequest rt tenantId observation cause assuranceLevel previous incoming) with
            ⟨error, raised⟩ | ⟨commit, returned, continues, answers⟩
          · rw [raised]
            exact .refused incoming error new projected changes raised dumped
          · rw [returned]
            exact .committed incoming commit new projected changes continues answers dumped

end Ingest

/-! ## `resolve_conflict` -/

/-- The state's attributes with the resolution in place. Whatever was held under the name is
replaced, also by an equal value. -/
def resolvedAttributes (state : OrderState) (conflict : Conflict) (resolvedValue : Json)
    (draws : Draws) : Dict Text StateAttribute :=
  state.attributes.set conflict.attributeName
    (resolvedAttribute conflict resolvedValue (.utc (draws.clock 0)))

/-- The commit a resolution asks for. Its sources are those of the candidates with the
resolved value, or of all where none has it. -/
def resolveRequest (rt : Runtime) (tenantId : Text) (state : OrderState) (conflict : Conflict)
    (resolvedValue : Json) (draws : Draws) : CommitRequest where
  tenantId := tenantId
  entityType := conflict.entityType
  entityId := conflict.entityId
  cause := "conflict_resolved:" ++ conflict.conflictId
  observationIds :=
    (resolvedAttribute conflict resolvedValue (.utc (draws.clock 0))).sourceObservationIds
  before := attributesFor rt (some state)
  after := dumpAttributes rt (resolvedAttributes state conflict resolvedValue draws)
  semanticDiff := semanticDiff (changedNames (attributesFor rt (some state))
    (dumpAttributes rt (resolvedAttributes state conflict resolvedValue draws)))
  assuranceLevel := "operator_resolved"

/-- The attributes before and after a resolution can be dumped. If not, the call raises and
the conflict stays open. -/
def resolveDumps (rt : Runtime) (state : OrderState) (conflict : Conflict) (resolvedValue : Json)
    (draws : Draws) : Bool :=
  dumpsChange rt (some state) (resolvedAttributes state conflict resolvedValue draws)

/-- The state a resolution leads to. -/
def resolvedState (tenantId : Text) (state : OrderState) (conflict : Conflict) (resolvedValue : Json)
    (draws : Draws) (commitId : Text) : OrderState :=
  { state with
    tenantId
    stateVersion := state.stateVersion + 1
    attributes := resolvedAttributes state conflict resolvedValue draws
    commitId }

/-- The record of a conflict once it is resolved. Its candidates stay as they were. -/
def Conflict.closed (conflict : Conflict) (resolvedValue : Json) (resolvedBy reason : Text)
    (now : Timestamp) : Conflict :=
  { conflict with
    status := "resolved"
    resolvedValue
    resolvedBy := some resolvedBy
    resolvedAt := some now
    resolutionReason := some reason }

section Resolve

variable (rt : Runtime) (service : WorldStateService) (draws : Draws) (tenantId conflictId : Text)
variable (resolvedValue : Json) (resolvedBy reason : Text)

/-- Every way through `resolve_conflict`. Nothing is written before the commit, so every case
that raises leaves the service as it was. -/
inductive Resolution : Outcome PyError WorldStateService Conflict -> Prop
  | unknown (error : PyError) (absent : service.getConflict tenantId conflictId = .error error) :
      Resolution (.raises service error)
  | settled (conflict : Conflict) (found : service.getConflict tenantId conflictId = .ok conflict)
      (resolved : conflict.status = ("resolved" : Text)) : Resolution (.returns service conflict)
  | stateless (conflict : Conflict) (found : service.getConflict tenantId conflictId = .ok conflict)
      (unresolved : conflict.status ≠ ("resolved" : Text))
      (absent : service.states.get? (tenantId, conflict.entityType, conflict.entityId) = none) :
      Resolution (service.closeConflict tenantId conflict resolvedValue resolvedBy reason
        (.utc (draws.clock 0)))
  | undumped (conflict : Conflict) (state : OrderState)
      (found : service.getConflict tenantId conflictId = .ok conflict)
      (unresolved : conflict.status ≠ ("resolved" : Text))
      (stored : service.states.get? (tenantId, conflict.entityType, conflict.entityId) = some state)
      (undumpable : resolveDumps rt state conflict resolvedValue draws = false) :
      Resolution (.raises service dumpRefusal)
  | refused (conflict : Conflict) (state : OrderState) (error : PyError)
      (found : service.getConflict tenantId conflictId = .ok conflict)
      (unresolved : conflict.status ≠ ("resolved" : Text))
      (stored : service.states.get? (tenantId, conflict.entityType, conflict.entityId) = some state)
      (failed : service.createCommit rt draws
        (resolveRequest rt tenantId state conflict resolvedValue draws) = .raises service error)
      (dumped : resolveDumps rt state conflict resolvedValue draws = true) :
      Resolution (.raises service error)
  | committed (conflict : Conflict) (state : OrderState) (commit : CommitRecord)
      (found : service.getConflict tenantId conflictId = .ok conflict)
      (unresolved : conflict.status ≠ ("resolved" : Text))
      (stored : service.states.get? (tenantId, conflict.entityType, conflict.entityId) = some state)
      (continues : Continues rt service commit)
      (answers : Answers (resolveRequest rt tenantId state conflict resolvedValue draws) draws commit)
      (dumped : resolveDumps rt state conflict resolvedValue draws = true) :
      Resolution (((service.record commit).setState
        (tenantId, conflict.entityType, conflict.entityId)
        (resolvedState tenantId state conflict resolvedValue draws commit.commitId)).closeConflict
          tenantId conflict resolvedValue resolvedBy reason (.utc (draws.clock 0)))

theorem getConflict_ok {service : WorldStateService} {tenantId conflictId : Text} {conflict : Conflict}
    (found : service.getConflict tenantId conflictId = .ok conflict) :
    service.conflictsById.get? (tenantId, conflictId) = some conflict := by
  unfold getConflict at found
  split at found
  · cases found
    assumption
  · cases found

theorem resolveConflict_resolution :
    Resolution rt service draws tenantId conflictId resolvedValue resolvedBy reason
      (service.resolveConflict rt draws tenantId conflictId resolvedValue resolvedBy reason) := by
  unfold resolveConflict
  cases found : service.getConflict tenantId conflictId with
  | error error => exact .unknown error found
  | ok conflict =>
      dsimp only
      by_cases resolved : conflict.status = ("resolved" : Text)
      · rw [if_pos resolved]
        exact .settled conflict found resolved
      rw [if_neg resolved]
      cases stored : service.states.get? (tenantId, conflict.entityType, conflict.entityId) with
      | none => exact .stateless conflict found resolved stored
      | some state =>
          dsimp only
          by_cases undumpable : resolveDumps rt state conflict resolvedValue draws = false
          · have asked := undumpable
            unfold resolveDumps resolvedAttributes at asked
            rw [if_pos asked]
            exact .undumped conflict state found resolved stored undumpable
          have dumped := Bool.eq_true_of_not_eq_false undumpable
          unfold resolveDumps resolvedAttributes at undumpable
          rw [if_neg undumpable]
          change Resolution rt service draws tenantId conflictId resolvedValue resolvedBy reason
            ((service.createCommit rt draws
              (resolveRequest rt tenantId state conflict resolvedValue draws)).andThen _)
          rcases createCommit_answers rt service draws
            (resolveRequest rt tenantId state conflict resolvedValue draws) with
            ⟨error, raised⟩ | ⟨commit, returned, continues, answers⟩
          · rw [raised]
            exact .refused conflict state error found resolved stored raised dumped
          · rw [returned]
            exact .committed conflict state commit found resolved stored continues answers dumped

end Resolve

end WorldState
end RealityLayer
