import RealityLayer.Db.Sessions

namespace RealityLayer
namespace Db

open Foundation Python WorldState

/-!
# Sessions and the tables of the requests

The requests work on tables that hold only the columns they read.  A session holds whole
rows and may refuse a write.  A write that returns changes both in the same way, and both
are read alike, so what is proved about the tables holds of a session.
-/

/-- The columns of a projection that are read. -/
def StateProjection.essential (row : StateProjection) : WorldState.StateProjection where
  entityType := row.entityType
  attributes := row.attributes
  producingCommitId := row.producingCommitId
  stateVersion := row.stateVersion

/-- The whole row of a conflict. -/
def wholeRow (rt : Runtime) (row : ConflictRow) : ConflictRecord :=
  { conflictRow rt row.conflict with candidates := row.candidates }

/-- A session and the tables hold the same, as far as a request reads them. The tables have
no columns that are only written, and no lengths. -/
structure Represents (rt : Runtime) (session : Session) (tables : Tables) : Prop where
  keyed : session.Keyed
  projections : forall key, tables.projections.get? key =
    (session.stateProjections.get? key).map StateProjection.essential
  commits : forall tenantId commitId, CommitRepository.get session tenantId commitId =
    (tables.loadCommit tenantId commitId).map commitRow
  conflicts : forall key, session.conflicts.get? key = (tables.conflicts.get? key).map (wholeRow rt)

section Simulation

variable {rt : Runtime} {session after : Session} {tables : Tables}

theorem Represents.empty (rt : Runtime) : Represents rt .empty .empty :=
  ⟨(Filed.empty rt).keyed, fun _ => rfl, fun _ _ => rfl, fun _ => rfl⟩

theorem get_of_unused {tenantId commitId : Text} (unused : session.commitLog.get? commitId = none) :
    CommitRepository.get session tenantId commitId = none := by
  unfold CommitRepository.get
  rw [unused]
  rfl

/-- A new commit is appended to the log of the tables. -/
theorem Represents.loadCommit_append (same : Represents rt session tables) {commit : CommitRecord}
    (unused : session.commitLog.get? commit.commitId = none) (state : OrderState)
    (tenantId commitId : Text) :
    CommitRepository.get (session.committed rt state commit) tenantId commitId =
      ((tables.commitLog ++ [commit]).find? (fun other =>
        decide (other.tenantId = tenantId ∧ other.commitId = commitId))).map commitRow := by
  have before := same.commits tenantId commitId
  unfold Tables.loadCommit at before
  rw [List.find?_append]
  unfold CommitRepository.get at before ⊢
  unfold Session.committed
  dsimp only
  rw [Dict.get?_set]
  by_cases named : commitId = commit.commitId
  · rw [named, unused] at before
    rw [named, if_pos rfl, Option.map_eq_none_iff.mp before.symm, Option.none_or, Option.filter_some]
    by_cases owner : commit.tenantId = tenantId
    · have own : (commitRow commit).tenantId = tenantId := owner
      rw [if_pos (decide_eq_true own)]
      simp [owner]
    · have other : (commitRow commit).tenantId ≠ tenantId := owner
      simp [owner, other]
  · rw [if_neg named, before]
    have different : commit.commitId ≠ commitId := Ne.symm named
    simp [different]

/-- A write of a state that returns is the one of the tables. -/
theorem Represents.persist (same : Represents rt session tables) {state : OrderState}
    {commit : CommitRecord} (written : session.write rt (.state state commit) = .ok after) :
    Represents rt after (tables.persist rt state commit) := by
  have writing := write_ok same.keyed written
  have keyed := writing.keyed same.keyed
  have stored := same.commits commit.tenantId commit.commitId
  cases writing with
  | repeated state commit row found =>
      rw [found] at stored
      rcases Option.map_eq_some_iff.mp stored.symm with ⟨known, loaded, _⟩
      unfold Tables.persist
      rw [loaded]
      exact same
  | committed state commit unused =>
      rw [get_of_unused unused] at stored
      unfold Tables.persist
      rw [Option.map_eq_none_iff.mp stored.symm]
      refine ⟨keyed, fun key => ?_, same.loadCommit_append unused state, same.conflicts⟩
      unfold Session.committed
      dsimp only
      rw [Dict.get?_set, Dict.get?_set]
      split
      · rfl
      · exact same.projections key

theorem Represents.persistConflict (same : Represents rt session tables) {conflict : Conflict}
    (written : session.write rt (.conflict conflict) = .ok after) :
    Represents rt after (tables.persistConflict rt conflict) := by
  have writing := write_ok same.keyed written
  have keyed := writing.keyed same.keyed
  cases writing with
  | saved conflict =>
      refine ⟨keyed, same.projections, same.commits, fun key => ?_⟩
      unfold Tables.persistConflict
      dsimp only
      rw [Dict.get?_set, Dict.get?_set]
      split
      · rfl
      · exact same.conflicts key

theorem Represents.event (same : Represents rt session tables) {event : Actions.ActionEventRecord}
    (written : session.write rt (.event event) = .ok after) : Represents rt after tables := by
  have writing := write_ok same.keyed written
  have keyed := writing.keyed same.keyed
  cases writing with
  | known event row found => exact same
  | logged event unused => exact ⟨keyed, same.projections, same.commits, same.conflicts⟩

/-- What a write does to the tables.  They have no events. -/
def Record.follow (rt : Runtime) (tables : Tables) : Record -> Tables
  | .state entity commit => tables.persist rt entity commit
  | .conflict dispute => tables.persistConflict rt dispute
  | .event _ => tables

/-- The tables follow all writes of a session that return. So whatever is proved about the
small tables holds of these rows. -/
theorem Represents.writeAll {records : List Record} (same : Represents rt session tables)
    (written : session.writeAll rt records = .ok after) :
    Represents rt after (records.foldl (Record.follow rt) tables) := by
  induction records generalizing session tables with
  | nil =>
      cases written
      exact same
  | cons record rest ih =>
      rcases bind_ok written with ⟨next, first, later⟩
      refine ih ?_ later
      cases record with
      | state state commit => exact same.persist first
      | conflict conflict => exact same.persistConflict first
      | event event => exact same.event first

/-! ## Reading -/

theorem Represents.loadCommit (same : Represents rt session tables) (tenantId commitId : Text) :
    CompilerPersistenceService.loadCommit session tenantId commitId =
      tables.loadCommit tenantId commitId := by
  unfold CompilerPersistenceService.loadCommit
  rw [same.commits, Option.map_map]
  exact congrFun Option.map_id _

theorem Represents.loadState (same : Represents rt session tables) (tenantId entityId : Text) :
    CompilerPersistenceService.loadState rt session tenantId entityId =
      tables.loadState rt tenantId entityId := by
  unfold CompilerPersistenceService.loadState Tables.loadState StateProjectionRepository.get
  rw [same.projections]
  cases stored : session.stateProjections.get? (tenantId, entityId) with
  | none => rfl
  | some row =>
      rcases Prod.mk.inj (same.keyed.projections _ row stored) with ⟨_, named⟩
      rw [Option.map_some]
      dsimp only
      rw [named]
      rfl

/-- Where the database answers in the zone of the writer, a conflict is read as before. -/
theorem toConflict_wholeRow (rt : Runtime) (row : ConflictRow) :
    CompilerPersistenceService.toConflict rt id (wholeRow rt row) = Tables.toConflict rt row := by
  unfold CompilerPersistenceService.toConflict Tables.toConflict wholeRow conflictRow
  dsimp only
  rw [Option.map_id]
  rfl

theorem Represents.loadConflict (same : Represents rt session tables) {tenantId conflictId : Text}
    {row : ConflictRow} (stored : tables.conflicts.get? (tenantId, conflictId) = some row) :
    CompilerPersistenceService.loadConflict rt id session tenantId conflictId =
      (Tables.toConflict rt row).map some := by
  unfold CompilerPersistenceService.loadConflict ConflictRepository.get
  rw [same.conflicts, stored, Option.map_some]
  dsimp only
  rw [toConflict_wholeRow]

end Simulation

end Db
end RealityLayer
