import Mathlib.Logic.Function.Basic
import RealityLayer.Actions.Proof
import RealityLayer.Actions.Workers

namespace RealityLayer
namespace Actions

open Foundation Python RealityGit WorldState

/-!
# The API and the verifier worker side by side

Both processes verify actions, each with its own service, and they share the event
table.  A verification restores the table's rows, verifies on the service and writes
the action's events back.  The worker may verify and write again without restoring.
Nothing orders the steps of the two, and a write inserts every event that the table
does not have.

`Current` asks of each write that one of the process's log and the table's rows is a
front of the other.  Then the rows stay one chain with at most one conclusive event.
A log that has parted from the table's rows never becomes a front of them again, so it
needs no further care: it is never written.
-/

/-! ## The steps of a verification -/

inductive Process where
  | api
  | worker
deriving DecidableEq

/-- How far a verification has come.  One that raises ends without writing. -/
inductive VerificationPhase where
  | waiting
  | restored
  | verified (pending : Bool)
  | ended
deriving DecidableEq

namespace VerificationPhase

def ofRestore : Except PyError Unit -> VerificationPhase
  | .ok _ => .restored
  | .error _ => .ended

def ofVerify : Except PyError ActionDecision -> VerificationPhase
  | .ok decision => .verified (decide (decision.status = .verificationPending))
  | .error _ => .ended

/-- After a pending attempt the worker tries again on the same service. It does not read the
table again in between. -/
def afterWrite : VerificationPhase -> VerificationPhase
  | .verified true => .restored
  | .verified false => .ended
  | .waiting => .ended
  | .restored => .ended
  | .ended => .ended

def isVerified : VerificationPhase -> Bool
  | .verified _ => true
  | .waiting => false
  | .restored => false
  | .ended => false

end VerificationPhase

inductive VerificationStep where
  | restore (rows : List ActionEventRecord)
  | verify (draws : Draws) (state : Option OrderState) (isFinalAttempt : Bool)
  | write

/-- One step of one verification by a process. A process may have many verifications under
way, and they are told apart by their number. -/
structure Move where
  process : Process
  sequence : Nat
  step : VerificationStep

/-- The services of the processes, the shared table, and the verifications under way. The
table is a list, because the order of the writes decides which event came first. -/
structure Bench where
  services : Process -> ActionService
  table : List ActionEventRecord
  phases : Process × Nat -> VerificationPhase

/-- The rows of an action, in the order in which they were written. -/
def actionRows (actionId : Text) (table : List ActionEventRecord) : List ActionEventRecord :=
  table.filter (fun row => decide (row.actionId = actionId))

namespace Bench

/-- Replace a process's service and move its verification to a phase. -/
def moved (bench : Bench) (move : Move) (service : ActionService) (phase : VerificationPhase) : Bench where
  services := Function.update bench.services move.process service
  table := bench.table
  phases := Function.update bench.phases (move.process, move.sequence) phase

def next (rt : Runtime) (actionId tenantId : Text) (bench : Bench) (move : Move) : Bench :=
  let service := bench.services move.process
  match move.step with
  | .restore rows =>
      let outcome := service.restoreAll rt rows
      bench.moved move outcome.state (.ofRestore outcome.result)
  | .verify draws state isFinalAttempt =>
      let outcome := service.verify rt draws actionId tenantId state isFinalAttempt
      bench.moved move outcome.state (.ofVerify outcome.result)
  | .write =>
      match service.listEvents actionId tenantId with
      | .error _ => bench.moved move service .ended
      | .ok events => { bench.moved move service
            (bench.phases (move.process, move.sequence)).afterWrite with
          table := persistActionEvents bench.table events }

/-- The rows that a process reads before it verifies. The worker reads those of all tenants,
as it has no request to take a tenant from. -/
def readable (tenantId : Text) (bench : Bench) : Process -> List ActionEventRecord
  | .api => tenantRows bench.table tenantId
  | .worker => bench.table

/-- A verification takes its steps in order, its rows come in any order, and a new event gets a
new identifier.  The API makes one attempt only. -/
def Admits (tenantId : Text) (bench : Bench) (move : Move) : Prop :=
  let phase := bench.phases (move.process, move.sequence)
  match move.step with
  | .restore rows => phase = .waiting ∧ rows.Perm (bench.readable tenantId move.process)
  | .verify draws _ isFinalAttempt => phase = .restored ∧
      (move.process = .api -> isFinalAttempt = true) ∧
      ActionService.newEventId draws 0 ∉ bench.table.map ActionEventRecord.eventId ∧
      ActionService.newEventId draws 0 ∉ (bench.services .api).eventIds ∧
      ActionService.newEventId draws 0 ∉ (bench.services .worker).eventIds
  | .write => phase.isVerified = true

/-- The event is in the table or in some service. -/
def Holds (bench : Bench) (event : ActionEventRecord) : Prop :=
  event ∈ bench.table ∨ Exists fun process => (bench.services process).Holds event

end Bench

/-- A service whose events come from the table, and whose log of the action is a front of the
table's rows. -/
structure CopyOf (actionId : Text) (table : List ActionEventRecord) (service : ActionService) : Prop where
  held : forall event, service.Holds event -> event ∈ table
  front : service.eventsOf actionId <+: actionRows actionId table
  known : service.eventsOf actionId ≠ [] -> service.actions.get? actionId ≠ none

/-- Some service took the action to `provider_accepted`, its events are in the table, and each
process has a copy of them, however old. -/
structure Bench.Starts (rt : Runtime) (actionId tenantId : Text) (bench : Bench) : Prop where
  origin : Exists fun history => Exists fun service => Exists fun action : StoredAction =>
    (actionSystem rt).Run history service ∧ service.actions.get? actionId = some action ∧
      action.tenantId = tenantId ∧ action.decision.status = .providerAccepted ∧
      bench.table.Perm service.events.values.flatten ∧
      actionRows actionId bench.table = service.eventsOf actionId
  copies : forall process, CopyOf actionId bench.table (bench.services process)
  waiting : forall request, bench.phases request = .waiting

/-- Verifications by both processes, their steps in any order. Each restores, verifies and
writes as steps of its own. -/
def benchSystem (rt : Runtime) (actionId tenantId : Text) : System Bench Move where
  start := fun bench => bench.Starts rt actionId tenantId
  admits := fun bench move => bench.Admits tenantId move
  next := fun bench move => bench.next rt actionId tenantId move

/-- One list is a front of the other. -/
def Comparable {A : Type} (first second : List A) : Prop := first <+: second ∨ second <+: first

/-- A process that writes has an up-to-date log, or nothing new. This is the condition on the
state before a write. -/
def Bench.Current (actionId : Text) (bench : Bench) (move : Move) : Prop :=
  match move.step with
  | .write => Comparable ((bench.services move.process).eventsOf actionId)
      (actionRows actionId bench.table)
  | .restore _ => True
  | .verify _ _ _ => True

/-- The same steps, each write current. -/
def currentBench (rt : Runtime) (actionId tenantId : Text) : System Bench Move :=
  (benchSystem rt actionId tenantId).restrict (Bench.Current actionId)

/-- The action's rows form one chain, with at most one conclusive event. The rows may have to
be put into the order of their links, since the table gives them in none. -/
structure OneVerdict (rt : Runtime) (actionId : Text) (table : List ActionEventRecord) : Prop where
  chained : Exists fun rows : List ActionEventRecord => rows.Perm (actionRows actionId table) ∧
    validateEventChain rt rows = .ok ()
  once : ((actionRows actionId table).filter ActionEventRecord.isTerminal).length ≤ 1

/-! ## Comparable logs -/

section Comparison

variable {A : Type} {first second longer : List A} {last : A}

theorem Comparable.of_prefix (comparable : Comparable longer second) (front : first <+: longer) :
    Comparable first second := by
  rcases comparable with below | above
  · exact Or.inl (front.trans below)
  · exact List.prefix_or_prefix_of_prefix front above

theorem Comparable.symm (comparable : Comparable first second) : Comparable second first :=
  comparable.elim Or.inr Or.inl

/-- A log that was extended by a known element it lacked is still a front. -/
theorem Comparable.snoc (comparable : Comparable (first ++ [last]) second) (member : last ∈ second)
    (lacked : last ∉ first) : first ++ [last] <+: second := by
  rcases comparable with below | above
  · exact below
  · rcases List.prefix_concat_iff.mp above with same | shorter
    · exact same ▸ List.prefix_rfl
    · exact absurd (shorter.subset member) lacked

end Comparison

/-- A log that is one chain, in which nothing follows a conclusive event. Pending verdicts
are not conclusive, and any number of them may come before it. -/
structure ProperLog (rt : Runtime) (log : List ActionEventRecord) : Prop where
  linked : Linked ActionEventRecord.previousEventHash ActionEventRecord.eventHash (SealedEvent rt) none log
  ends : forall front event back, log = front ++ event :: back -> event.isTerminal = true -> back = []

section Logs

variable {rt : Runtime} {log back : List ActionEventRecord} {event : ActionEventRecord}

theorem ProperLog.front (proper : ProperLog rt (log ++ back)) : ProperLog rt log where
  linked := ((linked_append _ _ _ none log back).mp proper.linked).1
  ends := by
    rintro front event rest rfl terminal
    have none := proper.ends front event (rest ++ back) (by simp) terminal
    exact (List.append_eq_nil_iff.mp none).1

theorem ProperLog.snoc (proper : ProperLog rt log)
    (open_ : forall event, event ∈ log -> event.isTerminal = false)
    (continues : event.previousEventHash = headAfter ActionEventRecord.eventHash none log)
    (genuine : SealedEvent rt event) : ProperLog rt (log ++ [event]) where
  linked := (linked_snoc _ _ _ none log event).mpr ⟨proper.linked, continues, genuine⟩
  ends := by
    intro front other rest split terminal
    rcases List.eq_nil_or_concat rest with rfl | ⟨middle, last, rfl⟩
    · rfl
    · -- A conclusive event before the last one would be in the old log.
      rw [List.concat_eq_append, ← List.cons_append, ← List.append_assoc] at split
      rcases List.append_inj' split rfl with ⟨whole, _⟩
      have member : other ∈ log := whole ▸ List.mem_append_right _ List.mem_cons_self
      rw [open_ other member] at terminal
      cases terminal

/-- In a proper log that goes on, no earlier event is conclusive. -/
theorem ProperLog.unfinished (proper : ProperLog rt (log ++ back)) (more : back ≠ [])
    {other : ActionEventRecord} (member : other ∈ log) : other.isTerminal = false := by
  rcases List.append_of_mem member with ⟨front, rest, rfl⟩
  refine Bool.eq_false_iff.mpr (fun terminal => ?_)
  have none := proper.ends front other (rest ++ back) (by simp) terminal
  exact more (List.append_eq_nil_iff.mp none).2

/-- A proper log has at most one conclusive event. -/
theorem ProperLog.once (proper : ProperLog rt log) :
    (log.filter ActionEventRecord.isTerminal).length ≤ 1 := by
  cases log using List.reverseRec with
  | nil => exact Nat.zero_le 1
  | append_singleton front last =>
      have none : front.filter ActionEventRecord.isTerminal = [] := by
        refine List.filter_eq_nil_iff.mpr (fun event member => ?_)
        rw [proper.unfinished (List.cons_ne_nil last []) member]
        exact Bool.false_ne_true
      rw [List.filter_append, none, List.nil_append]
      exact List.length_filter_le _ [last]

/-- A proper log, in any order, is one chain with at most one conclusive event. -/
theorem ProperLog.oneVerdict {actionId : Text} {table : List ActionEventRecord}
    (proper : ProperLog rt (actionRows actionId table)) : OneVerdict rt actionId table where
  chained := ⟨_, List.Perm.refl _, (validateEventChain_ok_iff rt _).mpr proper.linked⟩
  once := proper.once

end Logs

/-! ## Conclusive events of a live service -/

/-- A type that `restore` maps to a status that cannot be verified. -/
theorem conclusive_status {eventType : Text} (conclusive : eventType ∈ conclusiveTypes) :
    Exists fun status => ActionService.restoredStatus? eventType = some status ∧ status.Conclusive := by
  simp only [conclusiveTypes, List.mem_cons, List.not_mem_nil, or_false] at conclusive
  rcases conclusive with rfl | rfl | rfl
  · exact ⟨.verified, rfl, Or.inl rfl⟩
  · exact ⟨.verificationFailed, rfl, Or.inr (Or.inl rfl)⟩
  · exact ⟨.stateDiverged, rfl, Or.inr (Or.inr rfl)⟩

/-- What the logs of a live service keep: different identifiers, and no conclusive event of an action that
is not in a terminal status.  The status of an action that has a conclusive event is the one
that the event is named after. -/
structure LogsSettled (service : ActionService) : Prop where
  distinct : forall actionId, ((service.eventsOf actionId).map ActionEventRecord.eventId).Nodup
  concluded : forall actionId event, event ∈ service.eventsOf actionId -> event.isTerminal = true ->
    Exists fun action => service.actions.get? actionId = some action ∧ action.decision.status.Terminal ∧
      ActionService.restoredStatus? event.eventType = some action.decision.status

section Settled

variable {rt : Runtime} {service after : ActionService} {hashed : Prop} {call : Call}
variable {entry : Option ActionEventRecord}

/-- A logged conclusive event leaves its action in the terminal status it is named after. -/
theorem Effect.entry_concluded {event : ActionEventRecord}
    (effect : Effect rt service hashed call (some event) after) (terminal : event.isTerminal = true) :
    Exists fun action => after.actions.get? event.actionId = some action ∧
      action.decision.status.Terminal ∧
      ActionService.restoredStatus? event.eventType = some action.decision.status := by
  have conclusive := (isTerminal_iff event).mp terminal
  cases effect with
  | created draws proposal tenantId context _ _ unclaimed appends =>
      rcases appends.of_entry with ⟨eventHash, rfl, genuine, rfl⟩
      exact absurd conclusive (by decide : ("policy_evaluated" : Text) ∉ conclusiveTypes)
  | settled call actionId tenantId action verdict _ _ found owner decides appends =>
      rcases appends.of_entry with ⟨eventHash, rfl, genuine, rfl⟩
      rcases conclusive_status conclusive with ⟨status, maps, final⟩
      cases maps.symm.trans decides.sets.1
      exact ⟨_, Dict.get?_set_self _ _ _, Or.inr (Or.inr (Or.inr final)), maps⟩
  | refused draws actionId tenantId cancelOrder currentState action reason _ _ found owner approved
      ineligible appends =>
      rcases appends.of_entry with ⟨eventHash, rfl, genuine, rfl⟩
      exact absurd conclusive (by decide : ("precondition_failed" : Text) ∉ conclusiveTypes)
  | accepted draws actionId tenantId cancelOrder currentState action receipt _ _ reaches accepts
      appends =>
      rcases appends.of_entry with ⟨eventHash, rfl, genuine, rfl⟩
      exact absurd conclusive (by decide : ("provider_accepted" : Text) ∉ conclusiveTypes)

theorem LogsSettled.step (settled : LogsSettled service)
    (effect : Effect rt service hashed call entry after) (fresh : service.DrawsFresh call) :
    LogsSettled after where
  distinct := by
    intro actionId
    rw [effect.grows actionId, List.map_append]
    refine List.nodup_append.mpr ⟨settled.distinct actionId, ?_, ?_⟩
    · cases entry with
      | none => exact List.nodup_nil
      | some event => exact (List.nodup_singleton _).sublist (List.filter_sublist.map _)
    · intro eventId old last new same
      subst same
      rcases List.mem_map.mp new with ⟨event, member, rfl⟩
      rcases List.mem_map.mp old with ⟨other, held, same⟩
      cases entry with
      | none => cases member
      | some logged =>
          have equal := List.mem_singleton.mp (List.mem_of_mem_filter member)
          subst equal
          refine fresh.1 (ActionService.mem_eventIds_iff.mpr ⟨other, ⟨actionId, held⟩, ?_⟩)
          exact same.trans effect.entry_genuine.2.1
  concluded := by
    intro actionId event member terminal
    rcases (effect.grows.mem_iff actionId event).mp member with earlier | ⟨rfl, names⟩
    · rcases settled.concluded actionId event earlier terminal with ⟨action, stored, final, named⟩
      exact ⟨action, (effect.terminal fresh stored final).1, final, named⟩
    · exact names ▸ effect.entry_concluded terminal

theorem LogsSettled.of_run {history : List (Step ActionService Call)}
    (run : (actionSystem rt).Run history service) : LogsSettled service := by
  apply System.Run.invariant run
  · rintro _ rfl
    exact ⟨fun _ => List.nodup_nil, nofun⟩
  · intro service call settled fresh
    rcases perform_effect rt service call with ⟨entry, effect⟩
    exact settled.step effect fresh

end Settled

/-! ## One process beside the table -/

/-- What a process keeps about the action.  As long as its log and the table's rows have not parted, the
log is proper, and a conclusive event in it has left the action in a status that cannot be verified. -/
structure InStep (rt : Runtime) (actionId : Text) (rows : List ActionEventRecord)
    (service : ActionService) : Prop where
  named : forall event, event ∈ service.eventsOf actionId -> event.actionId = actionId
  distinct : ((service.eventsOf actionId).map ActionEventRecord.eventId).Nodup
  known : service.eventsOf actionId ≠ [] -> service.actions.get? actionId ≠ none
  proper : Comparable (service.eventsOf actionId) rows -> ProperLog rt (service.eventsOf actionId)
  concluded : Comparable (service.eventsOf actionId) rows ->
    forall event, event ∈ service.eventsOf actionId -> event.isTerminal = true ->
      forall action, service.actions.get? actionId = some action ->
        ActionService.verifiable action.decision.status = false

/-- Restoring an event skips it, or adds it to its log and sets the status it maps to. An
event of an unknown action is skipped, and so is one whose identifier is known. -/
inductive Restores (service : ActionService) (event : ActionEventRecord) : ActionService -> Prop
  | skipped : Restores service event service
  | added (after : ActionService) (action : StoredAction) (new : event.eventId ∉ service.eventIds)
      (grows : GrowsBy ActionEventRecord.actionId (some event) service.eventsOf after.eventsOf)
      (rebinds : Rebinds service after event.actionId action)
      (maps : event.eventType ≠ "policy_evaluated" -> forall status,
        ActionService.restoredStatus? event.eventType = some status -> action.decision.status = status) :
      Restores service event after

section Restoring

variable {rt : Runtime} {actionId : Text} {rows : List ActionEventRecord} {service after : ActionService}
variable {event : ActionEventRecord}

theorem Restores.of_push {base : ActionService} {action : StoredAction}
    (new : event.eventId ∉ service.eventIds) (events : base.events = service.events)
    (rebinds : Rebinds service base event.actionId action)
    (maps : event.eventType ≠ "policy_evaluated" -> forall status,
      ActionService.restoredStatus? event.eventType = some status -> action.decision.status = status)
    (same : after.events = (base.push event).events) (actions : after.actions = base.actions) :
    Restores service event after := by
  refine .added after action new (.of_push (fun index => ?_)) ?_ maps
  · rw [eventsOf_congr same, ActionService.eventsOf_push, eventsOf_congr events]
  · exact ⟨actions ▸ rebinds.here, actions ▸ rebinds.elsewhere⟩

theorem registers (service : ActionService) (actionId : Text) (action : StoredAction) :
    Rebinds service (service.register actionId action) actionId action :=
  .of_set rfl

theorem restore_restores (rt : Runtime) (service : ActionService) (event : ActionEventRecord) :
    Restores service event (service.restore rt event).state := by
  unfold ActionService.restore
  split
  · exact .skipped
  · rename_i new
    split
    · rename_i later
      split
      · exact .skipped
      · rename_i action stored
        have applied : Exists fun next : StoredAction =>
            Rebinds service (service.applyRestoredEvent rt action event) event.actionId next ∧
              forall status, ActionService.restoredStatus? event.eventType = some status ->
                next.decision.status = status := by
          unfold ActionService.applyRestoredEvent
          cases ActionService.restoredStatus? event.eventType with
          | none => exact ⟨action, ⟨stored, fun _ _ => rfl⟩, nofun⟩
          | some status => exact ⟨_, .of_set rfl, fun _ same => Option.some.inj same⟩
        rcases applied with ⟨next, rebinds, maps⟩
        have events := (applyRestoredEvent_frame rt service action event).1
        dsimp only
        split
        · split
          · exact .of_push new events rebinds (fun _ => maps) rfl rfl
          · exact .of_push new events rebinds (fun _ => maps) rfl rfl
        · exact .of_push new events rebinds (fun _ => maps) rfl rfl
    · rename_i policy
      unfold ActionService.restorePolicy
      split
      · split
        · exact .skipped
        · split
          · exact .skipped
          · refine .of_push new ?_ (registers service event.actionId _)
              (fun later => absurd later policy) rfl rfl
            rfl
      · exact .skipped

/-- A status that a conclusive event sets cannot be verified. -/
theorem settled_status {status : ActionStatus} (terminal : event.isTerminal = true)
    (maps : ActionService.restoredStatus? event.eventType = some status) :
    ActionService.verifiable status = false := by
  rcases conclusive_status ((isTerminal_iff event).mp terminal) with ⟨other, mapped, final⟩
  cases maps.symm.trans mapped
  exact (ActionStatus.Terminal.not_waiting (Or.inr (Or.inr (Or.inr final)))).2.2

/-- One more event in the log, of which the new status takes account. -/
theorem InStep.extended (inStep : InStep rt actionId rows service) {action : StoredAction}
    (log : after.eventsOf actionId = service.eventsOf actionId ++ [event])
    (about : event.actionId = actionId) (new : event.eventId ∉ service.eventIds)
    (found : after.actions.get? actionId = some action)
    (longer : Comparable (service.eventsOf actionId ++ [event]) rows ->
      ProperLog rt (service.eventsOf actionId ++ [event]) ∧
        forall other, other ∈ service.eventsOf actionId -> other.isTerminal = false)
    (settles : event.isTerminal = true -> ActionService.verifiable action.decision.status = false) :
    InStep rt actionId rows after where
  named := by
    intro other member
    rw [log] at member
    rcases List.mem_append.mp member with old | last
    · exact inStep.named other old
    · exact List.mem_singleton.mp last ▸ about
  distinct := by
    rw [log, List.map_append]
    refine List.nodup_append.mpr ⟨inStep.distinct, List.nodup_singleton _, ?_⟩
    intro eventId old last inside same
    rcases List.mem_map.mp old with ⟨other, member, rfl⟩
    refine new (ActionService.mem_eventIds_iff.mpr ⟨other, ⟨actionId, member⟩, ?_⟩)
    exact same.trans (List.mem_singleton.mp inside)
  known := by
    intro _
    rw [found]
    exact Option.some_ne_none _
  proper := by
    rw [log]
    exact fun comparable => (longer comparable).1
  concluded := by
    rw [log]
    intro comparable other member terminal stored same
    cases found.symm.trans same
    rcases List.mem_append.mp member with old | last
    · rw [(longer comparable).2 other old] at terminal
      cases terminal
    · exact settles (List.mem_singleton.mp last ▸ terminal)

/-- Restoring one row of the table keeps a process in step with it. -/
theorem InStep.restore (inStep : InStep rt actionId rows service) (proper : ProperLog rt rows)
    (row : event.actionId = actionId -> event ∈ rows) (restores : Restores service event after) :
    InStep rt actionId rows after := by
  cases restores with
  | skipped => exact inStep
  | added after action new grows rebinds maps =>
      by_cases about : event.actionId = actionId
      · have lacked : event ∉ service.eventsOf actionId :=
          fun member => new (ActionService.mem_eventIds_iff.mpr ⟨event, ⟨actionId, member⟩, rfl⟩)
        apply inStep.extended (about ▸ grows.at_key) about new (about ▸ rebinds.here)
        · -- A comparable longer log is a front of the rows.
          intro comparable
          rcases comparable.snoc (row about) lacked with ⟨back, split⟩
          rw [← split] at proper
          refine ⟨proper.front, fun other member => ?_⟩
          rw [List.append_assoc] at proper
          exact proper.unfinished (List.cons_ne_nil event back) member
        · intro terminal
          have conclusive := (isTerminal_iff event).mp terminal
          rcases conclusive_status conclusive with ⟨status, mapped, _⟩
          have later : event.eventType ≠ "policy_evaluated" := by
            intro policy
            rw [policy] at conclusive
            exact absurd conclusive (by decide)
          rw [maps later status mapped]
          exact settled_status terminal mapped
      · have log : after.eventsOf actionId = service.eventsOf actionId := grows.elsewhere (Ne.symm about)
        have bound : after.actions.get? actionId = service.actions.get? actionId :=
          rebinds.elsewhere actionId (Ne.symm about)
        refine ⟨log ▸ inStep.named, log ▸ inStep.distinct, ?_, log ▸ inStep.proper, ?_⟩
        · rw [log, bound]
          exact inStep.known
        · rw [log, bound]
          exact inStep.concluded

theorem Restores.holds {other : ActionEventRecord} (restores : Restores service event after)
    (held : after.Holds other) : service.Holds other ∨ other = event := by
  cases restores with
  | skipped => exact Or.inl held
  | added after action new grows rebinds maps =>
      rcases held with ⟨index, member⟩
      rcases (grows.mem_iff index other).mp member with old | ⟨same, _⟩
      · exact Or.inl ⟨index, old⟩
      · exact Or.inr (Option.some.inj same).symm

/-- Restoring rows of the table, up to where one raises, keeps a process in step with it. -/
theorem InStep.restoreAll (proper : ProperLog rt rows) (read : List ActionEventRecord)
    (inStep : InStep rt actionId rows service)
    (row : forall event, event ∈ read -> event.actionId = actionId -> event ∈ rows) :
    InStep rt actionId rows (service.restoreAll rt read).state ∧
      forall other, (service.restoreAll rt read).state.Holds other -> service.Holds other ∨ other ∈ read := by
  induction read generalizing service with
  | nil => exact ⟨inStep, fun other held => Or.inl held⟩
  | cons event rest ih =>
      have restores := restore_restores rt service event
      have middle := inStep.restore proper (row event List.mem_cons_self) restores
      have first : forall other, (service.restore rt event).state.Holds other ->
          service.Holds other ∨ other ∈ event :: rest :=
        fun other held => (restores.holds held).imp_right (fun same => List.mem_cons.mpr (Or.inl same))
      unfold ActionService.restoreAll Outcome.forEach Outcome.andThen
      split
      · rcases ih middle (fun other member => row other (List.mem_cons_of_mem _ member)) with
            ⟨last, later⟩
        refine ⟨last, fun other held => ?_⟩
        rcases later other held with before | inside
        · exact first other before
        · exact Or.inr (List.mem_cons_of_mem _ inside)
      · exact ⟨middle, first⟩

/-- A process stays in step with rows that only grew. -/
theorem InStep.mono {earlier : List ActionEventRecord} (inStep : InStep rt actionId earlier service)
    (grown : earlier <+: rows) : InStep rt actionId rows service where
  named := inStep.named
  distinct := inStep.distinct
  known := inStep.known
  proper := fun comparable => inStep.proper (comparable.symm.of_prefix grown).symm
  concluded := fun comparable => inStep.concluded (comparable.symm.of_prefix grown).symm

/-- In a status that can be verified, the log has no conclusive event. -/
theorem InStep.open_ (inStep : InStep rt actionId rows service)
    (comparable : Comparable (service.eventsOf actionId) rows) {action : StoredAction}
    (found : service.actions.get? actionId = some action)
    (verifiable : ActionService.verifiable action.decision.status = true)
    {other : ActionEventRecord} (member : other ∈ service.eventsOf actionId) :
    other.isTerminal = false := by
  refine Bool.eq_false_iff.mpr (fun terminal => ?_)
  rw [inStep.concluded comparable other member terminal action found] at verifiable
  cases verifiable

/-- Verifying the action keeps a process in step with the table. What it logs is not in the
table yet, and so ahead of it. -/
theorem InStep.verify {draws : Draws} {tenantId : Text} {state : Option OrderState}
    {isFinalAttempt : Bool} {hashed : Prop} {entry : Option ActionEventRecord}
    (inStep : InStep rt actionId rows service)
    (effect : Effect rt service hashed (.verify draws actionId tenantId state isFinalAttempt) entry after)
    (fresh : ActionService.newEventId draws 0 ∉ service.eventIds) : InStep rt actionId rows after := by
  cases effect with
  | idle => exact inStep
  | settled call target owner action verdict _ _ found tenant decides appends =>
      have sets := decides.sets.1
      cases decides with
      | verification draws actionId tenantId state isFinalAttempt verifiable =>
          cases appends with
          | unhashable broken =>
              refine ⟨inStep.named, inStep.distinct, ?_, inStep.proper, ?_⟩
              · intro _
                rw [ActionService.withDecision, Dict.get?_set_self]
                exact Option.some_ne_none _
              · intro comparable other member terminal
                rw [inStep.open_ comparable found verifiable member] at terminal
                cases terminal
          | logged eventHash genuine =>
              refine inStep.extended ((ActionService.eventsOf_push _ _ _).trans (if_pos rfl)) rfl fresh
                (Dict.get?_set_self _ _ _) ?_ ?_
              · intro comparable
                have earlier := comparable.of_prefix (List.prefix_append _ _)
                have open_ : forall other, other ∈ service.eventsOf actionId -> other.isTerminal = false :=
                  fun other member => inStep.open_ earlier found verifiable member
                exact ⟨(inStep.proper earlier).snoc open_ Option.or_none.symm genuine, open_⟩
              · intro terminal
                exact settled_status terminal sets

end Restoring

/-! ## Writing a log back -/

section Writing

variable {table events : List ActionEventRecord} {actionId : Text}

theorem persistActionEvents_known (known : forall event, event ∈ events -> event ∈ table) :
    persistActionEvents table events = table := by
  induction events with
  | nil => rfl
  | cons first rest ih =>
      have stored : persistEvent table first = table :=
        if_pos ⟨first, known first List.mem_cons_self, rfl, rfl⟩
      change persistActionEvents (persistEvent table first) rest = table
      rw [stored]
      exact ih (fun event member => known event (List.mem_cons_of_mem _ member))

theorem persistActionEvents_new (distinct : (events.map ActionEventRecord.eventId).Nodup)
    (new : forall event, event ∈ events -> event.eventId ∉ table.map ActionEventRecord.eventId) :
    persistActionEvents table events = table ++ events := by
  induction events generalizing table with
  | nil => exact (List.append_nil table).symm
  | cons first rest ih =>
      rcases List.nodup_cons.mp distinct with ⟨unlisted, distinct⟩
      have stored : persistEvent table first = table ++ [first] := by
        refine if_neg ?_
        rintro ⟨row, listed, _, same⟩
        exact new first List.mem_cons_self (List.mem_map.mpr ⟨row, listed, same⟩)
      change persistActionEvents (persistEvent table first) rest = table ++ first :: rest
      rw [stored, ih distinct]
      · simp
      · intro event member listed
        rw [List.map_append, List.mem_append] at listed
        rcases listed with old | last
        · exact new event (List.mem_cons_of_mem _ member) old
        · exact unlisted (List.mem_singleton.mp last ▸ List.mem_map_of_mem member)

theorem actionRows_self (named : forall event, event ∈ events -> event.actionId = actionId) :
    actionRows actionId events = events :=
  List.filter_eq_self.mpr (fun event member => decide_eq_true (named event member))

/-- A log that continues the table's rows replaces them. -/
theorem actionRows_written {back : List ActionEventRecord}
    (named : forall event, event ∈ back -> event.actionId = actionId)
    (distinct : ((actionRows actionId table ++ back).map ActionEventRecord.eventId).Nodup)
    (unique : forall row event, row ∈ table -> event ∈ back -> row.eventId = event.eventId -> row = event) :
    actionRows actionId (persistActionEvents table (actionRows actionId table ++ back)) =
      actionRows actionId table ++ back := by
  have known : persistActionEvents table (actionRows actionId table) = table :=
    persistActionEvents_known (fun event member => List.mem_of_mem_filter member)
  have split : persistActionEvents table (actionRows actionId table ++ back) =
      persistActionEvents (persistActionEvents table (actionRows actionId table)) back :=
    List.foldl_append
  rw [List.map_append] at distinct
  rcases List.nodup_append.mp distinct with ⟨_, distinct, apart⟩
  rw [split, known, persistActionEvents_new distinct]
  · exact (List.filter_append _ _).trans (congrArg _ (actionRows_self named))
  · intro event member listed
    rcases List.mem_map.mp listed with ⟨row, inside, same⟩
    have equal := unique row event inside member same
    subst equal
    have row' : row ∈ actionRows actionId table :=
      List.mem_filter.mpr ⟨inside, decide_eq_true (named row member)⟩
    exact apart row.eventId (List.mem_map_of_mem row') row.eventId (List.mem_map_of_mem member) rfl

end Writing

/-! ## Runs -/

/-- The table's rows are proper, and every process is in step with them: of its own log and
the rows, one is a front of the other. -/
structure BenchSound (rt : Runtime) (actionId : Text) (bench : Bench) : Prop where
  unique : forall first second, bench.Holds first -> bench.Holds second ->
    first.eventId = second.eventId -> first = second
  proper : ProperLog rt (actionRows actionId bench.table)
  inStep : forall process, InStep rt actionId (actionRows actionId bench.table) (bench.services process)

section Benches

variable {rt : Runtime} {actionId tenantId : Text} {bench : Bench} {move : Move}

theorem BenchSound.of_start (starts : bench.Starts rt actionId tenantId) : BenchSound rt actionId bench := by
  rcases starts.origin with ⟨history, service, action, run, found, _, accepted, stored, rows⟩
  have audit := AuditSound.of_run run
  have settled := LogsSettled.of_run run
  have open_ : forall event, event ∈ actionRows actionId bench.table -> event.isTerminal = false := by
    intro event member
    refine Bool.eq_false_iff.mpr (fun terminal => ?_)
    rcases settled.concluded actionId event (rows ▸ member) terminal with ⟨other, same, final, _⟩
    cases found.symm.trans same
    rw [accepted] at final
    rcases final with same | same | same | same | same | same <;> cases same
  have held : forall event, event ∈ bench.table -> service.Holds event :=
    fun event member => ActionService.holds_iff_mem_flatten.mpr (stored.mem_iff.mp member)
  have narrows : forall event, bench.Holds event -> service.Holds event := by
    rintro event (listed | ⟨process, inside⟩)
    · exact held event listed
    · exact held event ((starts.copies process).held event inside)
  have proper : ProperLog rt (actionRows actionId bench.table) := by
    refine ⟨rows ▸ audit.linked actionId, ?_⟩
    intro front event back split terminal
    have member : event ∈ actionRows actionId bench.table :=
      split ▸ List.mem_append_right _ List.mem_cons_self
    rw [open_ event member] at terminal
    cases terminal
  refine ⟨?_, proper, ?_⟩
  · intro first second one two
    exact (EventsGenuine.of_run run).unique first second (narrows first one) (narrows second two)
  · intro process
    have copy := starts.copies process
    rcases copy.front with ⟨back, split⟩
    refine ⟨?_, ?_, copy.known, ?_, ?_⟩
    · intro event member
      exact of_decide_eq_true (List.mem_filter.mp (copy.front.subset member)).2
    · exact (rows ▸ settled.distinct actionId).sublist (copy.front.sublist.map _)
    · intro _
      rw [← split] at proper
      exact proper.front
    · intro _ event member terminal
      rw [open_ event (copy.front.subset member)] at terminal
      cases terminal

/-- A step that leaves the table alone and brings at most one new event into circulation. -/
theorem BenchSound.moved (sound : BenchSound rt actionId bench) {service : ActionService}
    {phase : VerificationPhase} (entry : Option ActionEventRecord)
    (inStep : InStep rt actionId (actionRows actionId bench.table) service)
    (holds : forall event, service.Holds event -> bench.Holds event ∨ entry = some event)
    (fresh : forall event other, entry = some event -> bench.Holds other ->
      other.eventId ≠ event.eventId) : BenchSound rt actionId (bench.moved move service phase) where
  unique := by
    have known : forall event, (bench.moved move service phase).Holds event ->
        bench.Holds event ∨ entry = some event := by
      rintro event (listed | ⟨process, held⟩)
      · exact Or.inl (Or.inl listed)
      · change (Function.update bench.services move.process service process).Holds event at held
        by_cases same : process = move.process
        · rw [same, Function.update_self] at held
          exact holds event held
        · rw [Function.update_of_ne same] at held
          exact Or.inl (Or.inr ⟨process, held⟩)
    intro first second one two ids
    rcases known first one with old | new
    · rcases known second two with before | now
      · exact sound.unique first second old before ids
      · exact absurd ids (fresh second first now old)
    · rcases known second two with before | now
      · exact absurd ids.symm (fresh first second new before)
      · exact Option.some.inj (new.symm.trans now)
  proper := sound.proper
  inStep := by
    intro process
    change InStep rt actionId (actionRows actionId bench.table)
      (Function.update bench.services move.process service process)
    by_cases same : process = move.process
    · rw [same, Function.update_self]
      exact inStep
    · rw [Function.update_of_ne same]
      exact sound.inStep process

/-- Writing a comparable log leaves the longer of the two in the table. Two logs that differ
at one place would both stay, and break the chain. -/
theorem BenchSound.written (sound : BenchSound rt actionId bench) {process : Process}
    {phases : Process × Nat -> VerificationPhase}
    (current : Comparable ((bench.services process).eventsOf actionId) (actionRows actionId bench.table)) :
    BenchSound rt actionId ⟨bench.services,
      persistActionEvents bench.table ((bench.services process).eventsOf actionId), phases⟩ := by
  have inStep := sound.inStep process
  have holds : forall event, Bench.Holds ⟨bench.services, persistActionEvents bench.table
      ((bench.services process).eventsOf actionId), phases⟩ event -> bench.Holds event := by
    rintro event (listed | elsewhere)
    · rcases mem_persistActionEvents _ listed with old | new
      · exact Or.inl old
      · exact Or.inr ⟨process, actionId, new⟩
    · exact Or.inr elsewhere
  have rows : actionRows actionId bench.table <+: actionRows actionId (persistActionEvents bench.table
        ((bench.services process).eventsOf actionId)) ∧
      ProperLog rt (actionRows actionId (persistActionEvents bench.table
        ((bench.services process).eventsOf actionId))) := by
    rcases current with older | newer
    · have known : persistActionEvents bench.table ((bench.services process).eventsOf actionId) =
          bench.table :=
        persistActionEvents_known (fun event member => List.mem_of_mem_filter (older.subset member))
      rw [known]
      exact ⟨List.prefix_rfl, sound.proper⟩
    · have proper := inStep.proper (Or.inr newer)
      rcases newer with ⟨back, split⟩
      have distinct := inStep.distinct
      have named := inStep.named
      rw [← split] at distinct named proper ⊢
      rw [actionRows_written (fun event member => named event (List.mem_append_right _ member)) distinct]
      · exact ⟨List.prefix_append _ _, proper⟩
      · intro row event listed member
        refine sound.unique row event (Or.inl listed) (Or.inr ⟨process, actionId, ?_⟩)
        exact split ▸ List.mem_append_right _ member
  refine ⟨?_, rows.2, fun other => (sound.inStep other).mono rows.1⟩
  intro first second one two
  exact sound.unique first second (holds first one) (holds second two)

theorem BenchSound.next (sound : BenchSound rt actionId bench) (admitted : bench.Admits tenantId move)
    (current : bench.Current actionId move) :
    BenchSound rt actionId (bench.next rt actionId tenantId move) := by
  rcases move with ⟨process, sequence, step⟩
  cases step with
  | restore rows =>
      rcases admitted with ⟨_, read⟩
      have listed : forall event, event ∈ rows -> event ∈ bench.table := by
        intro event member
        have inside := read.mem_iff.mp member
        cases process with
        | api => exact List.mem_of_mem_filter inside
        | worker => exact inside
      rcases (sound.inStep process).restoreAll sound.proper rows
        (fun event member about => List.mem_filter.mpr ⟨listed event member, decide_eq_true about⟩) with
          ⟨inStep, held⟩
      refine sound.moved none inStep ?_ nofun
      intro event inside
      rcases held event inside with old | new
      · exact Or.inl (Or.inr ⟨process, old⟩)
      · exact Or.inl (Or.inl (listed event new))
  | verify draws state isFinalAttempt =>
      rcases admitted with ⟨_, _, unlisted, unseen, unseen'⟩
      rcases perform_effect rt (bench.services process)
        (.verify draws actionId tenantId state isFinalAttempt) with ⟨entry, effect⟩
      have fresh : forall other, bench.Holds other -> other.eventId ≠ ActionService.newEventId draws 0 := by
        rintro other (listed | ⟨holder, held⟩) same
        · exact unlisted (List.mem_map.mpr ⟨other, listed, same⟩)
        · have inside := ActionService.mem_eventIds_iff.mpr ⟨other, held, same⟩
          cases holder with
          | api => exact unseen inside
          | worker => exact unseen' inside
      have new : ActionService.newEventId draws 0 ∉ (bench.services process).eventIds := by
        intro inside
        rcases ActionService.mem_eventIds_iff.mp inside with ⟨other, held, same⟩
        exact fresh other (Or.inr ⟨process, held⟩) same
      apply sound.moved entry ((sound.inStep process).verify effect new)
      · intro event held
        rcases (effect.holds_iff event).mp held with old | logged
        · exact Or.inl (Or.inr ⟨process, old⟩)
        · exact Or.inr logged
      · rintro event other rfl held
        rw [effect.entry_genuine.2.1]
        exact fresh other held
  | write =>
      unfold Bench.next
      dsimp only
      have still : Function.update bench.services process (bench.services process) = bench.services :=
        Function.update_eq_self _ _
      cases listed : (bench.services process).listEvents actionId tenantId with
      | error error =>
          exact sound.moved none (sound.inStep process)
            (fun event held => Or.inl (Or.inr ⟨process, held⟩)) nofun
      | ok events =>
          unfold ActionService.listEvents at listed
          cases found : (bench.services process).getAction actionId tenantId with
          | error error =>
              rw [found] at listed
              cases listed
          | ok action =>
              rw [found] at listed
              cases listed
              simp only [Bench.moved, still]
              exact sound.written current

/-- In every run whose writes are current, the action's rows form one chain with at most one
conclusive event. -/
theorem one_verdict_when_current (rt : Runtime) (actionId tenantId : Text)
    {history : List (Step Bench Move)} (run : (currentBench rt actionId tenantId).Run history bench) :
    OneVerdict rt actionId bench.table := by
  have sound : BenchSound rt actionId bench := by
    apply System.Run.invariant run
    · exact fun bench starts => .of_start starts
    · intro bench move sound admitted
      exact sound.next admitted.1 admitted.2
  exact sound.proper.oneVerdict

end Benches

/-! ## The sample cancellation on both processes -/

instance {A : Type} [DecidableEq A] (first second : List A) : Decidable (Comparable first second) :=
  inferInstanceAs (Decidable (_ ∨ _))

instance (tenantId : Text) (bench : Bench) (move : Move) : Decidable (bench.Admits tenantId move) :=
  match move with
  | ⟨_, _, .restore _⟩ => inferInstanceAs (Decidable (_ ∧ _))
  | ⟨_, _, .verify _ _ _⟩ => inferInstanceAs (Decidable (_ ∧ _ ∧ _ ∧ _ ∧ _))
  | ⟨_, _, .write⟩ => inferInstanceAs (Decidable (_ = _))

instance (actionId : Text) (bench : Bench) (move : Move) : Decidable (bench.Current actionId move) :=
  match move with
  | ⟨_, _, .restore _⟩ => isTrue True.intro
  | ⟨_, _, .verify _ _ _⟩ => isTrue True.intro
  | ⟨_, _, .write⟩ => inferInstanceAs (Decidable (Comparable _ _))

instance (rt : Runtime) (actionId tenantId : Text) (bench : Bench) (move : Move) :
    Decidable ((benchSystem rt actionId tenantId).admits bench move) :=
  inferInstanceAs (Decidable (bench.Admits tenantId move))

instance (rt : Runtime) (actionId tenantId : Text) (bench : Bench) (move : Move) :
    Decidable ((currentBench rt actionId tenantId).admits bench move) :=
  inferInstanceAs (Decidable (_ ∧ _))

def acceptedCalls : List Call := [samplePropose, sampleApprove, sampleExecute]

/-- The executed sample in the table and in the API's service, and a fresh worker. -/
def sampleBench : Bench where
  services := fun process => if process = .api then sampleService acceptedCalls else .fresh
  table := sampleRows acceptedCalls
  phases := fun _ => .waiting

theorem sampleBench_starts : sampleBench.Starts .plain sampleId "demo" where
  origin := by
    have run := sample_run acceptedCalls ⟨[sampleVerify], rfl⟩
    have facts : ((sampleService acceptedCalls).actions.get? sampleId).map (fun action =>
          (action.tenantId, action.decision.status)) = some (("demo" : Text), ActionStatus.providerAccepted) ∧
        actionRows sampleId (sampleRows acceptedCalls) = (sampleService acceptedCalls).eventsOf sampleId := by
      decide +kernel
    rcases Option.map_eq_some_iff.mp facts.1 with ⟨action, stored, both⟩
    rcases Prod.mk.inj both with ⟨owner, status⟩
    refine ⟨_, sampleService acceptedCalls, action, run.ofRestrict, stored, owner, status, ?_, ?_⟩
    · dsimp only [sampleBench]
      exact List.Perm.refl _
    · dsimp only [sampleBench]
      exact facts.2
  copies := by
    intro process
    cases process with
    | api =>
        have facts : actionRows sampleId (sampleRows acceptedCalls) =
              (sampleService acceptedCalls).eventsOf sampleId ∧
            (sampleService acceptedCalls).actions.get? sampleId ≠ none := by
          decide +kernel
        dsimp only [sampleBench]
        rw [if_pos rfl]
        refine ⟨fun event held => ActionService.holds_iff_mem_flatten.mp held, ?_, fun _ => facts.2⟩
        rewrite [facts.1]
        exact List.prefix_rfl
    | worker =>
        refine ⟨?_, List.nil_prefix, fun logged => absurd rfl logged⟩
        rintro event ⟨actionId, member⟩
        cases member
  waiting := fun _ => rfl

/-- An attempt that reads the order in some status. -/
def sampleAttempt (process : Process) (start : Nat) (status : Text) (isFinalAttempt : Bool) : Move :=
  ⟨process, 0, .verify (.numbered start) (some (sampleOrder 2 status)) isFinalAttempt⟩

/-- The worker needs two attempts, and the API verifies after it. -/
def successiveMoves : List Move :=
  [⟨.worker, 0, .restore (sampleRows acceptedCalls)⟩,
    sampleAttempt .worker 11 "open" false, ⟨.worker, 0, .write⟩,
    sampleAttempt .worker 12 "cancelled" true, ⟨.worker, 0, .write⟩]

/-- Both processes restore and verify before either of them writes. -/
def overlappingMoves : List Move :=
  [⟨.api, 0, .restore (sampleRows acceptedCalls)⟩, ⟨.worker, 0, .restore (sampleRows acceptedCalls)⟩,
    sampleAttempt .api 11 "cancelled" true, sampleAttempt .worker 12 "cancelled" true,
    ⟨.api, 0, .write⟩, ⟨.worker, 0, .write⟩]

def benchAfter (moves : List Move) : Bench :=
  ((benchSystem .plain sampleId "demo").trace sampleBench moves).2

theorem one_verdict_when_current_sample :
    (benchAfter successiveMoves).table.length = 5 ∧
      OneVerdict .plain sampleId (benchAfter successiveMoves).table := by
  have facts : (currentBench .plain sampleId "demo").AdmitsAll sampleBench successiveMoves ∧
      (benchAfter successiveMoves).table.length = 5 := by
    decide +kernel
  have run : (currentBench .plain sampleId "demo").Run _ _ :=
    System.run_trace successiveMoves sampleBench_starts facts.1
  rw [currentBench, System.restrict_trace] at run
  exact ⟨facts.2, one_verdict_when_current .plain sampleId "demo" run⟩

/-- Both verdicts are written, on one and the same predecessor. The table then has two
conclusive events for the action. -/
theorem overlapping_verifications :
    Exists fun history => Exists fun bench : Bench =>
      (benchSystem .plain sampleId "demo").Run history bench ∧ ¬ OneVerdict .plain sampleId bench.table := by
  have facts : (benchSystem .plain sampleId "demo").AdmitsAll sampleBench overlappingMoves ∧
      ¬ ((actionRows sampleId (benchAfter overlappingMoves).table).filter
        ActionEventRecord.isTerminal).length ≤ 1 := by
    decide +kernel
  have run := System.run_trace overlappingMoves sampleBench_starts facts.1
  refine ⟨_, benchAfter overlappingMoves, run, ?_⟩
  intro verdict
  exact facts.2 verdict.once

end Actions
end RealityLayer
