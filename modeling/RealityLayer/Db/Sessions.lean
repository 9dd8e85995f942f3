import RealityLayer.Db.Repositories

namespace RealityLayer
namespace Db

open Foundation Python WorldState Actions

/-!
# What a sequence of writes leaves

A commit and an event are written once: a second write finds the row and returns.  A
projection is written together with a new commit, and a conflict whenever it is saved, so
the row of an entity or a conflict is that of its last save.

`Writing` says what a write that returned did.  `Filed` says which records the rows of a
session come from, and is kept by every write.
-/

/-! ## Writes -/

/-- One call of a service that persists, with its arguments. A state always comes with its
commit: the two are written together or not at all. -/
inductive Record where
  | state (state : OrderState) (commit : CommitRecord)
  | conflict (conflict : Conflict)
  | event (event : ActionEventRecord)
deriving DecidableEq

namespace Session

def write (rt : Runtime) (session : Session) : Record -> Except WriteError Session
  | .state state commit => CompilerPersistenceService.persist rt session state commit
  | .conflict conflict => CompilerPersistenceService.persistConflict rt session conflict
  | .event event => ActionEventPersistenceService.persist session event

/-- Write records one after the other, up to one that is refused. The error is all that is
left then, as the session is rolled back. -/
def writeAll (rt : Runtime) (session : Session) : List Record -> Except WriteError Session
  | [] => .ok session
  | record :: rest => do
      let next <- session.write rt record
      writeAll rt next rest

theorem writeAll_append {rt : Runtime} {session after : Session} {front back : List Record}
    (written : session.writeAll rt (front ++ back) = .ok after) :
    Exists fun middle : Session =>
      session.writeAll rt front = .ok middle ∧ middle.writeAll rt back = .ok after := by
  induction front generalizing session with
  | nil => exact ⟨session, rfl, written⟩
  | cons record rest ih =>
      rcases bind_ok written with ⟨next, first, later⟩
      rcases ih later with ⟨middle, before, last⟩
      refine ⟨middle, ?_, last⟩
      rw [writeAll, first]
      exact before

/-- Every row of a projection or a conflict is filed under its own key. A save that updates
column by column relies on it, since it copies every column but the key. -/
structure Keyed (session : Session) : Prop where
  projections : session.stateProjections.All (fun key row => (row.tenantId, row.entityId) = key)
  conflicts : session.conflicts.All (fun key row => (row.tenantId, row.conflictId) = key)

end Session

theorem updated_projection {existing projection : StateProjection}
    (key : (existing.tenantId, existing.entityId) = (projection.tenantId, projection.entityId)) :
    StateProjectionRepository.updated existing projection = projection := by
  rcases Prod.mk.inj key with ⟨tenant, entity⟩
  unfold StateProjectionRepository.updated
  rw [tenant, entity]

theorem updated_conflict {existing conflict : ConflictRecord}
    (key : (existing.tenantId, existing.conflictId) = (conflict.tenantId, conflict.conflictId)) :
    ConflictRepository.updated existing conflict = conflict := by
  rcases Prod.mk.inj key with ⟨tenant, named⟩
  unfold ConflictRepository.updated
  rw [tenant, named]

section Saves

variable {rt : Runtime} {session after : Session}

/-- The column-by-column update stores the given projection. -/
theorem save_projection (keyed : session.Keyed) (projection : StateProjection) :
    StateProjectionRepository.save session projection =
      Session.flush projection.cells { session with
        stateProjections :=
          session.stateProjections.set (projection.tenantId, projection.entityId) projection } := by
  unfold StateProjectionRepository.save StateProjectionRepository.get
  cases stored : session.stateProjections.get? (projection.tenantId, projection.entityId) with
  | none => rfl
  | some existing =>
      dsimp only
      rw [updated_projection (keyed.projections _ existing stored)]

theorem save_conflict (keyed : session.Keyed) (conflict : ConflictRecord) :
    ConflictRepository.save session conflict =
      Session.flush conflict.cells { session with
        conflicts := session.conflicts.set (conflict.tenantId, conflict.conflictId) conflict } := by
  unfold ConflictRepository.save ConflictRepository.get
  cases stored : session.conflicts.get? (conflict.tenantId, conflict.conflictId) with
  | none => rfl
  | some existing =>
      dsimp only
      rw [updated_conflict (keyed.conflicts _ existing stored)]

/-- The session after a new commit and its projection. -/
def Session.committed (rt : Runtime) (session : Session) (state : OrderState) (commit : CommitRecord) :
    Session :=
  { session with
    commitLog := session.commitLog.set commit.commitId (commitRow commit)
    stateProjections :=
      session.stateProjections.set (state.tenantId, state.entityId) (projectionRow rt state) }

/-- What a write that returned did. A repeated commit or event changes nothing, whatever
state or payload came with it, and a conflict is saved anew each time. -/
inductive Writing (rt : Runtime) (session : Session) : Record -> Session -> Prop
  | repeated (state : OrderState) (commit : CommitRecord) (row : CommitLog)
      (found : CommitRepository.get session commit.tenantId commit.commitId = some row) :
      Writing rt session (.state state commit) session
  | committed (state : OrderState) (commit : CommitRecord)
      (unused : session.commitLog.get? commit.commitId = none) :
      Writing rt session (.state state commit) (session.committed rt state commit)
  | saved (conflict : Conflict) :
      Writing rt session (.conflict conflict) { session with
        conflicts :=
          session.conflicts.set (conflict.tenantId, conflict.conflictId) (conflictRow rt conflict) }
  | known (event : ActionEventRecord) (row : ActionEvent)
      (found : session.actionEvents.get? (event.tenantId, event.eventId) = some row) :
      Writing rt session (.event event) session
  | logged (event : ActionEventRecord)
      (unused : session.actionEvents.get? (event.tenantId, event.eventId) = none) :
      Writing rt session (.event event) { session with
        actionEvents := session.actionEvents.set (event.tenantId, event.eventId) (eventRow event) }

theorem write_ok (keyed : session.Keyed) {record : Record} (written : session.write rt record = .ok after) :
    Writing rt session record after := by
  cases record with
  | state state commit =>
      rw [Session.write, CompilerPersistenceService.persist] at written
      split at written
      · rename_i row found
        cases written
        exact .repeated state commit row found
      · rcases bind_ok written with ⟨added, first, saved⟩
        unfold CommitRepository.add at first
        split at first
        · cases first
        · rename_i unused
          cases Session.flush_ok first
          have kept : Session.Keyed { session with
              commitLog := session.commitLog.set commit.commitId (commitRow commit) } :=
            ⟨keyed.projections, keyed.conflicts⟩
          split at saved
          · cases Session.flush_ok ((save_projection kept (projectionRow rt state)).symm.trans saved)
            exact .committed state commit unused
          · cases saved
  | conflict conflict =>
      rw [Session.write, CompilerPersistenceService.persistConflict] at written
      split at written
      · rw [save_conflict keyed] at written
        cases Session.flush_ok written
        exact .saved conflict
      · cases written
  | event event =>
      rw [Session.write, ActionEventPersistenceService.persist] at written
      split at written
      · rename_i row found
        cases written
        exact .known event row found
      · rename_i unused
        unfold ActionEventRepository.append at written
        split at written
        · cases written
        · cases Session.flush_ok written
          exact .logged event unused

end Saves

/-! ## Writes that return -/

/-- The strings that a write sends to the database. A state has those of its commit and of
its projection. -/
def Record.cells (rt : Runtime) : Record -> List Cell
  | .state entity commit => (commitRow commit).cells ++ (projectionRow rt entity).cells
  | .conflict dispute => (conflictRow rt dispute).cells
  | .event entry => (eventRow entry).cells

def Record.Fits (rt : Runtime) (record : Record) : Prop :=
  forall cell, cell ∈ record.cells rt -> cell.Fits

instance (rt : Runtime) (record : Record) : Decidable (record.Fits rt) :=
  inferInstanceAs (Decidable (forall cell, cell ∈ record.cells rt -> cell.Fits))

/-- The values that a write puts into its rows can be dumped. An event holds what was dumped
when it was made, so its row asks for no dump. -/
def Record.dumps (rt : Runtime) : Record -> Bool
  | .state entity _ => dumpsAll rt entity.attributes
  | .conflict dispute => CompilerPersistenceService.dumpsCandidates rt dispute
  | .event _ => true

/-- No other row has the record's key or hash. Projections and conflicts are updated in
place, so nothing stands in their way. -/
def Record.Free (session : Session) : Record -> Prop
  | .state _ commit => forall row, session.commitLog.get? commit.commitId = some row ->
      row.tenantId = commit.tenantId
  | .conflict _ => True
  | .event entry => forall key row, session.actionEvents.get? key = some row ->
      row.tenantId = entry.tenantId -> row.eventHash = entry.eventHash ->
        key = (entry.tenantId, entry.eventId)

/-- The rows of a session come from the records written to it, and each of them is there.
Projections and conflicts are left out: their rows are replaced by later saves. -/
structure Filed (rt : Runtime) (records : List Record) (session : Session) : Prop where
  keyed : session.Keyed
  commits : session.commitLog.All (fun commitId row => Exists fun state : OrderState =>
    Exists fun commit : CommitRecord => .state state commit ∈ records ∧ row = commitRow commit ∧
      commit.commitId = commitId)
  committed : forall state commit, .state state commit ∈ records ->
    Exists fun row : CommitLog =>
      CommitRepository.get session commit.tenantId commit.commitId = some row
  events : session.actionEvents.All (fun key row => Exists fun event : ActionEventRecord =>
    .event event ∈ records ∧ row = eventRow event ∧ (event.tenantId, event.eventId) = key)
  logged : forall event, .event event ∈ records ->
    Exists fun row : ActionEvent => session.actionEvents.get? (event.tenantId, event.eventId) = some row

section Filing

variable {rt : Runtime} {session after : Session} {records : List Record} {record : Record}

theorem Filed.empty (rt : Runtime) : Filed rt [] .empty :=
  ⟨⟨.empty _, .empty _⟩, .empty _, nofun, .empty _, nofun⟩

theorem CommitRepository.get_some {tenantId commitId : Text} {row : CommitLog} :
    CommitRepository.get session tenantId commitId = some row <->
      session.commitLog.get? commitId = some row ∧ row.tenantId = tenantId := by
  unfold CommitRepository.get
  rw [Option.filter_eq_some_iff, decide_eq_true_iff]

theorem Writing.keyed (writing : Writing rt session record after) (keyed : session.Keyed) :
    after.Keyed := by
  cases writing with
  | repeated state commit row found => exact keyed
  | committed state commit unused => exact ⟨keyed.projections.set rfl, keyed.conflicts⟩
  | saved conflict => exact ⟨keyed.projections, keyed.conflicts.set rfl⟩
  | known event row found => exact keyed
  | logged event unused => exact ⟨keyed.projections, keyed.conflicts⟩

/-- A stored commit is never written again. A second state with the same commit writes nothing. -/
theorem Writing.commitLog (writing : Writing rt session record after) :
    Dict.Adds (fun commitId row => Exists fun state : OrderState => Exists fun commit : CommitRecord =>
      record = .state state commit ∧ row = commitRow commit ∧ commit.commitId = commitId)
      session.commitLog after.commitLog := by
  cases writing with
  | repeated state commit row found => exact .nothing
  | committed state commit unused => exact .entry _ _ unused ⟨state, commit, rfl, rfl, rfl⟩
  | saved conflict => exact .nothing
  | known event row found => exact .nothing
  | logged event unused => exact .nothing

theorem Writing.actionEvents (writing : Writing rt session record after) :
    Dict.Adds (fun key row => Exists fun event : ActionEventRecord =>
      record = .event event ∧ row = eventRow event ∧ (event.tenantId, event.eventId) = key)
      session.actionEvents after.actionEvents := by
  cases writing with
  | repeated state commit row found => exact .nothing
  | committed state commit unused => exact .nothing
  | saved conflict => exact .nothing
  | known event row found => exact .nothing
  | logged event unused => exact .entry _ _ unused ⟨event, rfl, rfl, rfl⟩

theorem Writing.commitThere {state : OrderState} {commit : CommitRecord}
    (writing : Writing rt session (.state state commit) after) : Exists fun row : CommitLog =>
      CommitRepository.get after commit.tenantId commit.commitId = some row := by
  cases writing with
  | repeated state commit row found => exact ⟨row, found⟩
  | committed state commit unused =>
      exact ⟨commitRow commit, CommitRepository.get_some.mpr ⟨Dict.get?_set_self _ _ _, rfl⟩⟩

theorem Writing.eventThere {event : ActionEventRecord}
    (writing : Writing rt session (.event event) after) : Exists fun row : ActionEvent =>
      after.actionEvents.get? (event.tenantId, event.eventId) = some row := by
  cases writing with
  | known event row found => exact ⟨row, found⟩
  | logged event unused => exact ⟨eventRow event, Dict.get?_set_self _ _ _⟩

theorem Filed.write (filed : Filed rt records session) (writing : Writing rt session record after) :
    Filed rt (records ++ [record]) after where
  keyed := writing.keyed filed.keyed
  commits := by
    intro commitId row stored
    rcases writing.commitLog.origin stored with before | ⟨state, commit, rfl, same, named⟩
    · rcases filed.commits commitId row before with ⟨state, commit, member, rest⟩
      exact ⟨state, commit, List.mem_append_left _ member, rest⟩
    · exact ⟨state, commit, List.mem_append_right _ List.mem_cons_self, same, named⟩
  committed := by
    intro state commit member
    rcases List.mem_append.mp member with before | last
    · rcases filed.committed state commit before with ⟨row, found⟩
      rcases CommitRepository.get_some.mp found with ⟨stored, owner⟩
      exact ⟨row, CommitRepository.get_some.mpr ⟨writing.commitLog.kept stored, owner⟩⟩
    · cases List.mem_singleton.mp last
      exact writing.commitThere
  events := by
    intro key row stored
    rcases writing.actionEvents.origin stored with before | ⟨event, rfl, same, named⟩
    · rcases filed.events key row before with ⟨event, member, rest⟩
      exact ⟨event, List.mem_append_left _ member, rest⟩
    · exact ⟨event, List.mem_append_right _ List.mem_cons_self, same, named⟩
  logged := by
    intro event member
    rcases List.mem_append.mp member with before | last
    · rcases filed.logged event before with ⟨row, stored⟩
      exact ⟨row, writing.actionEvents.kept stored⟩
    · cases List.mem_singleton.mp last
      exact writing.eventThere

theorem Filed.writeAll {more : List Record} (filed : Filed rt records session)
    (written : session.writeAll rt more = .ok after) : Filed rt (records ++ more) after := by
  induction more generalizing records session with
  | nil =>
      cases written
      rw [List.append_nil]
      exact filed
  | cons record rest ih =>
      rcases bind_ok written with ⟨next, first, later⟩
      rw [← List.singleton_append, ← List.append_assoc]
      exact ih (filed.write (write_ok filed.keyed first)) later

end Filing

/-! ## What is read back -/

section Reading

variable {rt : Runtime} {session after : Session} {records front back : List Record}

/-- A commit that shares its key with no other is stored as it was written. -/
theorem Filed.commit (filed : Filed rt records session) {state : OrderState} {commit : CommitRecord}
    (member : .state state commit ∈ records)
    (sole : forall state' commit', .state state' commit' ∈ records -> commit'.tenantId = commit.tenantId ->
      commit'.commitId = commit.commitId -> commit' = commit) :
    CommitRepository.get session commit.tenantId commit.commitId = some (commitRow commit) := by
  rcases filed.committed state commit member with ⟨row, found⟩
  rcases CommitRepository.get_some.mp found with ⟨stored, owner⟩
  rcases filed.commits _ row stored with ⟨state', commit', member', rfl, named⟩
  rw [found, sole state' commit' member' owner named]

/-- An event that shares its key with no other is stored as it was written. -/
theorem Filed.event (filed : Filed rt records session) {event : ActionEventRecord}
    (member : .event event ∈ records)
    (sole : forall event', .event event' ∈ records -> event'.tenantId = event.tenantId ->
      event'.eventId = event.eventId -> event' = event) :
    session.actionEvents.get? (event.tenantId, event.eventId) = some (eventRow event) := by
  rcases filed.logged event member with ⟨row, stored⟩
  rcases filed.events _ row stored with ⟨event', member', rfl, key⟩
  rcases Prod.mk.inj key with ⟨owner, named⟩
  rw [stored, sole event' member' owner named]

/-- Writes that save no other state of an entity leave its projection. -/
theorem Filed.projectionKept {key : Text × Text} {row : StateProjection}
    (filed : Filed rt records session) (stored : session.stateProjections.get? key = some row)
    (written : session.writeAll rt back = .ok after)
    (repeats : forall state commit, .state state commit ∈ back -> (state.tenantId, state.entityId) = key ->
      .state state commit ∈ records) : after.stateProjections.get? key = some row := by
  induction back generalizing records session with
  | nil =>
      cases written
      exact stored
  | cons record rest ih =>
      rcases bind_ok written with ⟨next, first, later⟩
      have writing := write_ok filed.keyed first
      refine ih (filed.write writing) ?_ later (fun state commit member same =>
        List.mem_append_left _ (repeats state commit (List.mem_cons_of_mem _ member) same))
      cases writing with
      | repeated state commit row found => exact stored
      | saved conflict => exact stored
      | known event row found => exact stored
      | logged event unused => exact stored
      | committed state commit unused =>
          refine (Dict.get?_set_of_ne _ _ ?_).trans stored
          intro same
          -- A repeated state has its commit stored, so the write would have returned at once.
          rcases filed.committed state commit
            (repeats state commit List.mem_cons_self same.symm) with ⟨row, found⟩
          rw [(CommitRepository.get_some.mp found).1] at unused
          cases unused

/-- The projection of an entity is that of the last new state. -/
theorem Filed.projection {state : OrderState} {commit : CommitRecord}
    (written : Session.empty.writeAll rt (front ++ .state state commit :: back) = .ok after)
    (new : forall state' commit', .state state' commit' ∈ front -> commit'.tenantId = commit.tenantId ->
      commit'.commitId ≠ commit.commitId)
    (repeats : forall state' commit', .state state' commit' ∈ back ->
      (state'.tenantId, state'.entityId) = (state.tenantId, state.entityId) ->
        .state state' commit' ∈ front ++ [.state state commit]) :
    after.stateProjections.get? (state.tenantId, state.entityId) = some (projectionRow rt state) := by
  rcases Session.writeAll_append written with ⟨middle, before, written⟩
  rcases bind_ok written with ⟨next, first, later⟩
  have filed : Filed rt front middle := (Filed.empty rt).writeAll before
  have writing := write_ok filed.keyed first
  refine (filed.write writing).projectionKept ?_ later repeats
  cases writing with
  | committed state commit unused => exact Dict.get?_set_self _ _ _
  | repeated state commit row found =>
      rcases CommitRepository.get_some.mp found with ⟨stored, owner⟩
      rcases filed.commits _ row stored with ⟨state', commit', member, rfl, named⟩
      exact absurd named (new state' commit' member owner)

/-- Writes that save no other version of a conflict leave its row. -/
theorem Session.Keyed.conflictKept {conflict : Conflict} (keyed : session.Keyed)
    (stored : session.conflicts.get? (conflict.tenantId, conflict.conflictId) =
      some (conflictRow rt conflict))
    (written : session.writeAll rt back = .ok after)
    (last : forall conflict', .conflict conflict' ∈ back ->
      (conflict'.tenantId, conflict'.conflictId) = (conflict.tenantId, conflict.conflictId) ->
        conflict' = conflict) :
    after.conflicts.get? (conflict.tenantId, conflict.conflictId) = some (conflictRow rt conflict) := by
  induction back generalizing session with
  | nil =>
      cases written
      exact stored
  | cons record rest ih =>
      rcases bind_ok written with ⟨next, first, later⟩
      have writing := write_ok keyed first
      refine ih (writing.keyed keyed) ?_ later (fun other member =>
        last other (List.mem_cons_of_mem _ member))
      cases writing with
      | repeated state commit row found => exact stored
      | committed state commit unused => exact stored
      | known event row found => exact stored
      | logged event unused => exact stored
      | saved other =>
          dsimp only
          rw [Dict.get?_set]
          split
          · rename_i same
            rw [last other List.mem_cons_self same.symm]
          · exact stored

/-- The row of a conflict is that of its last save. Earlier saves of it leave nothing behind. -/
theorem Filed.conflict {conflict : Conflict}
    (written : Session.empty.writeAll rt (front ++ .conflict conflict :: back) = .ok after)
    (last : forall conflict', .conflict conflict' ∈ back ->
      (conflict'.tenantId, conflict'.conflictId) = (conflict.tenantId, conflict.conflictId) ->
        conflict' = conflict) :
    after.conflicts.get? (conflict.tenantId, conflict.conflictId) = some (conflictRow rt conflict) := by
  rcases Session.writeAll_append written with ⟨middle, before, written⟩
  rcases bind_ok written with ⟨next, first, later⟩
  have keyed : middle.Keyed := ((Filed.empty rt).writeAll before).keyed
  have writing := write_ok keyed first
  refine (writing.keyed keyed).conflictKept ?_ later last
  cases writing with
  | saved conflict => exact Dict.get?_set_self _ _ _

end Reading

end Db
end RealityLayer
