import RealityLayer.Actions.Orders
import RealityLayer.Db.Sessions
import RealityLayer.WorldState.Readable

namespace RealityLayer
namespace Db

open Foundation Python RealityGit WorldState Actions

/-!
# Reading back what was written

The records that the services produce are told apart by their keys: a commit identifier
stands for one commit and one state, and an event identifier for one event.  A write of
such a record therefore finds its row only when the same record was written before.  What
a session reads back is the record, whatever else was written before and after, up to a
later save of the same entity or conflict.

The writes themselves return when the strings fit their columns, no two events of a tenant
have one hash, and the candidates of every conflict can be dumped.  What a state holds was
dumped when it was committed, but the disputed value of a conflict was not: it may be
nested deeper than a dump goes, and then the conflict cannot be written at all.
-/

/-! ## Decoding rows -/

section Decoding

variable {rt : Runtime} {zone : Timestamp -> Timestamp} {session : Session}

theorem loadState_row {state : OrderState} (times : TimesKept rt zone)
    (legible : state.attributes.All (fun _ => StateAttribute.Legible))
    (stored : session.stateProjections.get? (state.tenantId, state.entityId) =
      some (projectionRow rt state)) :
    Exists fun other : OrderState =>
      CompilerPersistenceService.loadState rt session state.tenantId state.entityId =
        .ok (some other) ∧ state.Alike other := by
  rcases Reread.of_readable times legible with ⟨other, same, alike⟩
  refine ⟨other, ?_, alike⟩
  unfold CompilerPersistenceService.loadState StateProjectionRepository.get
  rw [stored]
  dsimp only
  have read : Tables.readValues (StateAttribute.modelValidate rt)
      (projectionRow rt state).attributes.entries = .ok other.attributes.entries := same.readValues
  rw [read]
  dsimp only
  rw [Dict.ofList_entries, alike.rest]
  rfl

end Decoding

/-! ## Records told apart -/

/-- Over a run, a commit identifier stands for one state, and every commit led to a state.
Identifiers are drawn fresh, and a state is stored only together with a new commit. -/
structure Attributed (history : List (Step WorldStateService WorldCall)) : Prop where
  sole : forall moment, moment ∈ moments history -> forall moment', moment' ∈ moments history ->
    forall key key' state state', moment.states.get? key = some state ->
      moment'.states.get? key' = some state' -> state.commitId = state'.commitId -> state = state'
  led : forall commit, commit ∈ createdBy history -> Exists fun moment : WorldStateService =>
    moment ∈ moments history ∧ Exists fun state : OrderState =>
      moment.states.get? commit.entityKey = some state ∧ state.commitId = commit.commitId

section Attribution

variable {rt : Runtime} {history : List (Step WorldStateService WorldCall)}
variable {service : WorldStateService}

/-- No state so far has the identifier that a call draws. -/
theorem commitId_unused (run : (worldSystem rt).Run history service) {call : WorldCall}
    (fresh : service.DrawsFresh call) {moment : WorldStateService} (member : moment ∈ moments history)
    {key : Text × Text × Text} {state : OrderState} (held : moment.states.get? key = some state) :
    state.commitId ≠ call.commitId := by
  intro same
  rcases (Remembered.of_run run).states moment member key state held with ⟨_, commit, made, _, named⟩
  have stored := (HistorySound.of_run run).stored commit made
  rw [named, same, fresh.absent] at stored
  cases stored

/-- A state after a call was there before, or it is the state of the new commit. -/
theorem state_after {call : WorldCall} {entry : Option CommitRecord} {after : WorldStateService}
    (commits : CommitEffect rt service call.commitId entry after) (effect : EntityEffect rt service entry after)
    {key : Text × Text × Text} {state : OrderState} (held : after.states.get? key = some state) :
    service.states.get? key = some state ∨
      state.commitId = call.commitId ∧ entry.map CommitRecord.entityKey = some key := by
  cases effect with
  | quiet after states =>
      rw [states] at held
      exact Or.inl held
  | advanced commit next after advances states =>
      rw [states, Dict.get?_set] at held
      split at held
      · rename_i same
        cases held
        cases commits with
        | committed _ _ _ named _ _ => exact Or.inr ⟨advances.commitId.trans named, congrArg some same.symm⟩
      · exact Or.inl held

theorem Attributed.step (attributed : Attributed history) (run : (worldSystem rt).Run history service)
    {call : WorldCall} (fresh : service.DrawsFresh call) :
    Attributed (history ++ [⟨service, call, service.perform rt call⟩]) := by
  rcases perform_entity rt service call with ⟨entry, commits, effect⟩
  have created := commits.createdBy_snoc fresh history
  have visited := moments_snoc history ⟨service, call, service.perform rt call⟩
  have present := (Remembered.of_run run).present
  -- A state of the new list of moments is an old one, or the new commit's.
  have origin : forall moment, moment ∈ moments history ++ [service.perform rt call] ->
      forall key state, moment.states.get? key = some state ->
        (Exists fun earlier : WorldStateService => earlier ∈ moments history ∧
          earlier.states.get? key = some state) ∨
        state.commitId = call.commitId ∧ entry.map CommitRecord.entityKey = some key ∧
          (service.perform rt call).states.get? key = some state := by
    intro moment member key state held
    rcases List.mem_append.mp member with before | last
    · exact Or.inl ⟨moment, before, held⟩
    · rw [List.mem_singleton.mp last] at held
      rcases state_after commits effect held with old | ⟨named, filed⟩
      · exact Or.inl ⟨service, present, old⟩
      · exact Or.inr ⟨named, filed, held⟩
  constructor
  · rw [visited]
    intro moment member moment' member' key key' state state' held held' same
    rcases origin moment member key state held with ⟨_, early, old⟩ | ⟨named, filed, new⟩
    · rcases origin moment' member' key' state' held' with ⟨_, early', old'⟩ | ⟨named', _, _⟩
      · exact attributed.sole _ early _ early' key key' state state' old old' same
      · exact absurd (same.trans named') (commitId_unused run fresh early old)
    · rcases origin moment' member' key' state' held' with ⟨_, early', old'⟩ | ⟨_, filed', new'⟩
      · exact absurd (same.symm.trans named) (commitId_unused run fresh early' old')
      · cases Option.some.inj (filed.symm.trans filed')
        exact Option.some.inj (new.symm.trans new')
  · rw [visited, created]
    intro commit member
    rcases List.mem_append.mp member with before | last
    · rcases attributed.led commit before with ⟨moment, early, led⟩
      exact ⟨moment, List.mem_append_left _ early, led⟩
    · refine ⟨_, List.mem_append_right _ List.mem_cons_self, ?_⟩
      cases effect with
      | quiet after states => cases last
      | advanced made state after advances states =>
          cases List.mem_singleton.mp last
          refine ⟨state, ?_, advances.commitId⟩
          rw [states]
          exact Dict.get?_set_self _ _ _

theorem Attributed.of_run (run : (worldSystem rt).Run history service) : Attributed history := by
  refine @System.Run.historyInvariant _ _ _ _ _ (fun history _ => Attributed history) run ?_ ?_
  · rintro _ rfl
    refine ⟨?_, nofun⟩
    intro moment member moment' _ key key' state state' held
    rw [List.mem_singleton.mp member] at held
    cases held
  · intro history service call earlier attributed admitted
    exact attributed.step earlier admitted

end Attribution

/-! ## What the services produce -/

/-- The states of all moments of a run with their commits, the conflicts of all moments, and
the logged events. -/
inductive Produced (history : List (Step WorldStateService WorldCall)) (log : List ActionEventRecord) :
    Record -> Prop
  | state {moment : WorldStateService} {key : Text × Text × Text} {state : OrderState}
      {commit : CommitRecord} (member : moment ∈ moments history)
      (held : moment.states.get? key = some state) (made : commit ∈ createdBy history)
      (owner : commit.tenantId = state.tenantId) (named : commit.commitId = state.commitId) :
      Produced history log (.state state commit)
  | conflict {moment : WorldStateService} {key : Text × Text} {conflict : Conflict}
      (member : moment ∈ moments history) (held : moment.conflictsById.get? key = some conflict) :
      Produced history log (.conflict conflict)
  | event {event : ActionEventRecord} (logged : event ∈ log) : Produced history log (.event event)

section Producing

variable {rt : Runtime} {zone : Timestamp -> Timestamp}
variable {history : List (Step WorldStateService WorldCall)} {world : WorldStateService}
variable {actionHistory : List (Step ActionService Call)} {service : ActionService}
variable {records : List Record} {session : Session} {log : List ActionEventRecord}

theorem createdBy_inj (run : (worldSystem rt).Run history world) {first second : CommitRecord}
    (made : first ∈ createdBy history) (made' : second ∈ createdBy history)
    (same : first.commitId = second.commitId) : first = second :=
  List.inj_on_of_nodup_map (HistorySound.of_run run).distinct made made' same

theorem Produced.owns {state : OrderState} {commit : CommitRecord}
    (produced : Produced history log (.state state commit)) : commit ∈ createdBy history := by
  cases produced with
  | state member held made owner named => exact made

theorem sealed_of_log (run : (actionSystem rt).Run actionHistory service) {event : ActionEventRecord}
    (logged : event ∈ eventLog actionHistory) : SealedEvent rt event := by
  have linked := (AuditSound.of_run run).linked event.actionId
  rw [(LogSound.of_run run).rows] at linked
  exact linked.genuine_of_mem _ _ _ (List.mem_filter.mpr ⟨logged, decide_eq_true rfl⟩)

/-- A produced record meets no row of another one. Its identifiers were drawn for it alone. -/
theorem Produced.free (worldRun : (worldSystem rt).Run history world)
    (actionRun : (actionSystem rt).Run actionHistory service) (filed : Filed rt records session)
    (all : forall record, record ∈ records -> Produced history (eventLog actionHistory) record)
    (separates : HashSeparates rt eventBody (eventLog actionHistory) (eventLog actionHistory))
    {record : Record} (produced : Produced history (eventLog actionHistory) record) :
    record.Free session := by
  cases produced with
  | @state _ _ _ commit member held made owner named =>
      intro row stored
      rcases filed.commits _ row stored with ⟨state', commit', written, rfl, same⟩
      rw [createdBy_inj worldRun (all _ written).owns made same]
      rfl
  | conflict member held => exact trivial
  | event logged =>
      intro key row stored _ hash
      rcases filed.events key row stored with ⟨event', written, rfl, filedUnder⟩
      cases all _ written with
      | event logged' =>
          rw [← filedUnder, event_of_hash (LogSound.of_run actionRun) separates logged' logged
            (sealed_of_log actionRun logged') (sealed_of_log actionRun logged) hash]

/-- What is held was dumped when it was committed. -/
theorem states_dumped (run : (worldSystem rt).Run history world) :
    world.states.All (fun _ state => dumpsAll rt state.attributes = true) := by
  apply run.invariant
  · rintro _ rfl
    exact .empty _
  · intro service call held _
    rcases perform_entity rt service call with ⟨entry, _, effect⟩
    change (service.perform rt call).states.All _
    cases effect with
    | quiet after states =>
        rw [states]
        exact held
    | advanced commit state after advances states =>
        rw [states]
        exact held.set advances.dumped

/-- Only a conflict can hold what was never dumped. States were dumped for their commits, and
events hold what was dumped. -/
theorem Produced.dumps (worldRun : (jsonSystem rt).Run history world) {record : Record}
    (produced : Produced history log record)
    (candidates : forall conflict, record = .conflict conflict ->
      CompilerPersistenceService.dumpsCandidates rt conflict = true) : record.dumps rt = true := by
  cases produced with
  | state member held made owner named =>
      rcases reaches_moment worldRun member with ⟨_, run⟩
      exact states_dumped run.ofRestrict _ _ held
  | conflict member held => exact candidates _ rfl
  | event logged => rfl

end Producing

end Db
end RealityLayer
