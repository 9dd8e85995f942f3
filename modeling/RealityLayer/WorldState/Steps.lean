import RealityLayer.RealityGit.Validation
import RealityLayer.WorldState.Service

namespace RealityLayer
namespace WorldState

open Foundation Python RealityGit

/-!
# What one call can do to the commits

`ingest` and `resolve_conflict` reach the commit map only through
`_create_commit`.  `CommitEffect` is the inversion of both for that map and the
heads: a call leaves them alone, or it adds one commit that continues its
tenant's chain.  Recording a conflict, closing one and placing a state are frame
steps here.
-/

/-- One request to the service. Hydration is not one of them: it comes from a database, and
runs that have it say so. -/
inductive WorldCall where
  | ingest (draws : Draws) (tenantId : Text) (observation : Observation) (cause assuranceLevel : Text)
  | resolveConflict (draws : Draws) (tenantId conflictId : Text) (resolvedValue : Json)
      (resolvedBy reason : Text)

def WorldCall.commitId : WorldCall -> Text
  | .ingest draws _ _ _ _ => newCommitId draws
  | .resolveConflict draws _ _ _ _ _ => newCommitId draws

namespace WorldStateService

/-- What a call leaves behind; the value it returns is not kept. -/
def perform (rt : Runtime) (service : WorldStateService) : WorldCall -> WorldStateService
  | .ingest draws tenantId observation cause assuranceLevel =>
      (service.ingest rt draws tenantId observation cause assuranceLevel).state
  | .resolveConflict draws tenantId conflictId resolvedValue resolvedBy reason =>
      (service.resolveConflict rt draws tenantId conflictId resolvedValue resolvedBy reason).state

/-- No commit has the identifier the call draws. -/
def DrawsFresh (service : WorldStateService) (call : WorldCall) : Prop :=
  call.commitId ∉ service.commits.keys.map Prod.snd

instance (service : WorldStateService) (call : WorldCall) : Decidable (service.DrawsFresh call) :=
  inferInstanceAs (Decidable (_ ∉ _))

theorem DrawsFresh.absent {service : WorldStateService} {call : WorldCall}
    (fresh : service.DrawsFresh call) (tenantId : Text) :
    service.commits.get? (tenantId, call.commitId) = none := by
  refine (service.commits.get?_eq_none_iff _).mpr (fun member => ?_)
  exact fresh (List.mem_map_of_mem (f := Prod.snd) member)

/-! ## What recording conflicts leaves alone -/

/-- Everything but the conflicts is the same. Recording the disputes of a reading is the only
thing that an ingestion does before its commit. -/
structure SameRecords (before after : WorldStateService) : Prop where
  observations : after.observations = before.observations
  states : after.states = before.states
  commits : after.commits = before.commits
  latestCommit : after.latestCommit = before.latestCommit

theorem SameRecords.trans {first second third : WorldStateService}
    (left : first.SameRecords second) (right : second.SameRecords third) :
    first.SameRecords third where
  observations := right.observations.trans left.observations
  states := right.states.trans left.states
  commits := right.commits.trans left.commits
  latestCommit := right.latestCommit.trans left.latestCommit

theorem recordConflict_same (service : WorldStateService) (draws : Draws) (place : Nat)
    (tenantId entityType entityId name : Text) (existing incoming : StateAttribute) :
    service.SameRecords
      (service.recordConflict draws place tenantId entityType entityId name existing incoming) := by
  unfold recordConflict
  split
  · split
    · exact ⟨rfl, rfl, rfl, rfl⟩
    · exact ⟨rfl, rfl, rfl, rfl⟩
  · exact ⟨rfl, rfl, rfl, rfl⟩

theorem recordConflicts_same (draws : Draws) (tenantId entityType entityId : Text)
    (previous : Dict Text StateAttribute) (place : Nat) (entries : List (Text × StateAttribute))
    (service : WorldStateService) :
    service.SameRecords
      (recordConflicts draws tenantId entityType entityId previous place entries service) := by
  induction entries generalizing place service with
  | nil => exact ⟨rfl, rfl, rfl, rfl⟩
  | cons entry rest ih =>
      rw [recordConflicts]
      refine SameRecords.trans ?_ (ih (place + 1) _)
      split
      · exact recordConflict_same _ _ _ _ _ _ _ _ _
      · exact ⟨rfl, rfl, rfl, rfl⟩

end WorldStateService

/-! ## Creating a commit -/

open WorldStateService

/-- The commit continues its tenant's chain in the service and seals its contents. Another
tenant's head is not involved. -/
structure Continues (rt : Runtime) (service : WorldStateService) (commit : CommitRecord) : Prop where
  parent : commit.parentCommitId = service.latestCommit.get? commit.tenantId
  previous : service.latestHash commit.tenantId = .ok commit.previousHash
  genuine : SealedCommit rt commit

/-- `_create_commit` raises without a trace, or records one commit as requested. -/
theorem createCommit_cases (rt : Runtime) (service : WorldStateService) (draws : Draws)
    (request : CommitRequest) :
    (Exists fun error => service.createCommit rt draws request = .raises service error) ∨
      Exists fun commit => service.createCommit rt draws request =
          .returns (service.record commit) commit ∧
        Continues rt service commit ∧ commit.commitId = newCommitId draws ∧
        commit.tenantId = request.tenantId := by
  unfold createCommit
  cases latest : service.latestHash request.tenantId with
  | error error => exact Or.inl ⟨error, rfl⟩
  | ok previousHash =>
      dsimp only
      cases hashed : hashJson rt (commitDocument request (newCommitId draws)
          (service.latestCommit.get? request.tenantId) previousHash) with
      | error cause => exact Or.inl ⟨_, rfl⟩
      | ok hash => exact Or.inr ⟨_, rfl, ⟨rfl, latest, hashed⟩, rfl, rfl⟩

/-- What a call does to the commits and the heads. A call adds one commit at most and moves
the head of one tenant onto it. -/
inductive CommitEffect (rt : Runtime) (service : WorldStateService) (commitId : Text) :
    Option CommitRecord -> WorldStateService -> Prop
  | quiet (after : WorldStateService) (commits : after.commits = service.commits)
      (head : after.latestCommit = service.latestCommit) :
      CommitEffect rt service commitId none after
  | committed (commit : CommitRecord) (after : WorldStateService)
      (continues : Continues rt service commit) (named : commit.commitId = commitId)
      (commits : after.commits = (service.record commit).commits)
      (head : after.latestCommit = (service.record commit).latestCommit) :
      CommitEffect rt service commitId (some commit) after

section Effects

variable (rt : Runtime) (service : WorldStateService)

/-- A call that creates a commit in a service with the same records, and then
touches neither the commits nor the heads. -/
theorem createCommit_effect {A : Type} {base : WorldStateService} (same : service.commits = base.commits)
    (heads : service.latestCommit = base.latestCommit) (draws : Draws) (request : CommitRequest)
    (rest : WorldStateService -> CommitRecord -> Outcome PyError WorldStateService A)
    (keeps : forall next commit, (rest next commit).state.commits = next.commits ∧
      (rest next commit).state.latestCommit = next.latestCommit) :
    Exists fun entry => CommitEffect rt service (newCommitId draws) entry
      ((base.createCommit rt draws request).andThen rest).state := by
  rcases createCommit_cases rt base draws request with ⟨error, raised⟩ | ⟨commit, returned, continues,
    named, _⟩
  · rw [raised]
    exact ⟨none, .quiet _ same.symm heads.symm⟩
  · rw [returned]
    rcases keeps (base.record commit) commit with ⟨commits, head⟩
    refine ⟨some commit, .committed commit _ ⟨?_, ?_, continues.genuine⟩ named ?_ ?_⟩
    · rw [heads]
      exact continues.parent
    · have latest : service.latestHash commit.tenantId = base.latestHash commit.tenantId := by
        unfold latestHash
        rw [same, heads]
      exact latest.trans continues.previous
    · exact commits.trans (by simp only [record, same])
    · exact head.trans (by simp only [record, heads])

/-- What `ingest` can do.  A commit is created in a service `base` that differs
from the given one in its observations and conflicts only. -/
inductive IngestEffect (draws : Draws) (tenantId : Text) (observation : Observation) :
    Outcome PyError WorldStateService OrderState -> Prop
  | repeated (state : OrderState)
      (seen : service.observations.contains (tenantId, observation.observationId) = true)
      (stored : service.states.get? (tenantId, observation.objectType, observation.objectId) =
        some state) :
      IngestEffect draws tenantId observation (.returns service state)
  | raised (error : PyError) (after : WorldStateService) (states : after.states = service.states)
      (commits : after.commits = service.commits)
      (head : after.latestCommit = service.latestCommit) :
      IngestEffect draws tenantId observation (.raises after error)
  | unchanged (incoming : Dict Text StateAttribute) (state : OrderState) (after : WorldStateService)
      (projected : project draws observation = .ok incoming)
      (stored : service.states.get? (tenantId, observation.objectType, observation.objectId) =
        some state)
      (same : changedNames (dumpAttributes rt state.attributes)
        (dumpAttributes rt (compiledAttributes (some state) incoming)) = [])
      (states : after.states = service.states) (commits : after.commits = service.commits)
      (head : after.latestCommit = service.latestCommit) :
      IngestEffect draws tenantId observation (.returns after state)
  | committed (incoming : Dict Text StateAttribute) (commit : CommitRecord) (base : WorldStateService)
      (previous : Option OrderState) (projected : project draws observation = .ok incoming)
      (stored : service.states.get? (tenantId, observation.objectType, observation.objectId) =
        previous)
      (states : base.states = service.states) (commits : base.commits = service.commits)
      (head : base.latestCommit = service.latestCommit) (continues : Continues rt base commit)
      (named : commit.commitId = newCommitId draws) (tenant : commit.tenantId = tenantId) :
      IngestEffect draws tenantId observation (.returns
        ((base.record commit).setState (tenantId, observation.objectType, observation.objectId)
          (compiledState tenantId observation previous incoming commit.commitId))
        (compiledState tenantId observation previous incoming commit.commitId))

theorem ingest_cases (draws : Draws) (tenantId : Text) (observation : Observation)
    (cause assuranceLevel : Text) :
    IngestEffect rt service draws tenantId observation
      (service.ingest rt draws tenantId observation cause assuranceLevel) := by
  unfold ingest
  dsimp only
  split
  · rename_i seen
    split
    · rename_i state stored
      exact .repeated state seen stored
    · exact .raised _ _ rfl rfl rfl
  · split
    · exact .raised _ _ rfl rfl rfl
    · rename_i incoming projected
      have same := recordConflicts_same draws tenantId observation.objectType observation.objectId
        (((service.states.get? (tenantId, observation.objectType, observation.objectId)).map
          OrderState.attributes).getD Dict.empty) 0 incoming.entries
        { service with
          observations := service.observations.set (tenantId, observation.observationId) observation }
      split
      · exact .raised _ _ same.states same.commits same.latestCommit
      split
      · rename_i state quiet
        rcases Option.filter_eq_some_iff.mp quiet with ⟨stored, empty⟩
        rw [stored] at empty
        rw [stored] at same
        rw [stored]
        exact .unchanged incoming state _ projected stored (List.isEmpty_iff.mp empty) same.states
          same.commits same.latestCommit
      · rcases createCommit_cases rt (recordConflicts draws tenantId observation.objectType
          observation.objectId (((service.states.get? (tenantId, observation.objectType,
            observation.objectId)).map OrderState.attributes).getD Dict.empty) 0 incoming.entries
          { service with observations :=
              service.observations.set (tenantId, observation.observationId) observation }) draws _ with
          ⟨error, raised⟩ | ⟨commit, returned, continues, named, tenant⟩
        · rw [raised]
          exact .raised error _ same.states same.commits same.latestCommit
        · rw [returned]
          exact .committed incoming commit _ _ projected rfl same.states same.commits same.latestCommit
            continues named tenant

/-- A commit created in a service with the same commits and heads continues the
chain of that service as well. -/
theorem Continues.of_same {base : WorldStateService} {commit : CommitRecord}
    (continues : Continues rt base commit) (commits : base.commits = service.commits)
    (head : base.latestCommit = service.latestCommit) : Continues rt service commit := by
  have latest : base.latestHash commit.tenantId = service.latestHash commit.tenantId := by
    unfold latestHash
    rw [commits, head]
  exact ⟨head ▸ continues.parent, latest ▸ continues.previous, continues.genuine⟩

theorem ingest_effect (draws : Draws) (tenantId : Text) (observation : Observation)
    (cause assuranceLevel : Text) :
    Exists fun entry => CommitEffect rt service (newCommitId draws) entry
      (service.ingest rt draws tenantId observation cause assuranceLevel).state := by
  have effect := ingest_cases rt service draws tenantId observation cause assuranceLevel
  generalize service.ingest rt draws tenantId observation cause assuranceLevel = outcome at effect ⊢
  cases effect with
  | repeated state seen stored => exact ⟨none, .quiet _ rfl rfl⟩
  | raised error after states commits head => exact ⟨none, .quiet _ commits head⟩
  | unchanged incoming state after projected stored same states commits head =>
      exact ⟨none, .quiet _ commits head⟩
  | committed incoming commit base previous projected stored states commits head continues named tenant =>
      refine ⟨some commit, .committed commit _ (continues.of_same rt service commits head) named ?_ ?_⟩
      · simp only [Outcome.returns_state, setState, record, commits]
      · simp only [Outcome.returns_state, setState, record, head]

theorem resolveConflict_effect (draws : Draws) (tenantId conflictId : Text) (resolvedValue : Json)
    (resolvedBy reason : Text) :
    Exists fun entry => CommitEffect rt service (newCommitId draws) entry
      (service.resolveConflict rt draws tenantId conflictId resolvedValue resolvedBy reason).state := by
  unfold resolveConflict
  split
  · exact ⟨none, .quiet _ rfl rfl⟩
  · split
    · exact ⟨none, .quiet _ rfl rfl⟩
    · dsimp only
      split
      · exact ⟨none, .quiet _ rfl rfl⟩
      split
      · exact ⟨none, .quiet _ rfl rfl⟩
      · exact createCommit_effect rt service rfl rfl draws _ _ (fun _ _ => ⟨rfl, rfl⟩)

/-- Every call has one of the two effects. -/
theorem perform_commits (call : WorldCall) :
    Exists fun entry => CommitEffect rt service call.commitId entry (service.perform rt call) := by
  cases call with
  | ingest draws tenantId observation cause assuranceLevel =>
      exact ingest_effect rt service draws tenantId observation cause assuranceLevel
  | resolveConflict draws tenantId conflictId resolvedValue resolvedBy reason =>
      exact resolveConflict_effect rt service draws tenantId conflictId resolvedValue resolvedBy reason

end Effects

end WorldState
end RealityLayer
