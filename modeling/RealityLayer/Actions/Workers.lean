import Mathlib.Data.List.Perm.Basic
import Mathlib.Logic.Function.Basic
import RealityLayer.Actions.Catchup

namespace RealityLayer
namespace Actions

open Foundation Python RealityGit WorldState

/-!
# Two workers and one event table

Each API worker has its own service, and all of them share the event table.  An
execute request restores the table into the worker's service, executes there,
and writes the action's new events back; other requests run between these three
steps.  The receipt that stops a second execution reaches another worker only
through the table: the accepting request must have persisted, and the other
worker must have restored since.

Nothing in the code waits for that, and two workers that restore before either
of them executes both get their write accepted.  `Serialized` is the missing
order as a condition on the schedule.  The table query has no `ORDER BY`, so a
restore step reads the rows in any order, and `Serialized` also asks for one in
which `restore` does not skip the acceptance row.
-/

/-! ## The steps of a request -/

/-- How far a request has come.  A request that raises ends without persisting. -/
inductive Phase where
  | waiting
  | restored
  | executed
  | ended
deriving DecidableEq

def Phase.after {E A : Type} (phase : Phase) : Except E A -> Phase
  | .ok _ => phase
  | .error _ => .ended

inductive RequestStep where
  | restore (rows : List ActionEventRecord)
  | execute (draws : Draws) (cancelOrder : CancelOrderExecutor) (currentState : Option OrderState)
  | persist

/-- One step of one execute request on a worker. Requests on different workers are cut into
these steps, and the steps may come in any order. -/
structure Turn (W : Type) where
  worker : W
  request : Nat
  step : RequestStep

/-- The workers' services, the shared table, and the requests on each worker. A restart
replaces a service and keeps the table. -/
structure Pool (W : Type) where
  services : W -> ActionService
  table : List ActionEventRecord
  phases : W × Nat -> Phase

/-- `ActionEventPersistenceService.persist`. A row of the tenant with the identifier is left
alone, whatever it contains. -/
def persistEvent (table : List ActionEventRecord) (event : ActionEventRecord) :
    List ActionEventRecord :=
  if Exists fun row => row ∈ table ∧ row.tenantId = event.tenantId ∧ row.eventId = event.eventId
  then table
  else table ++ [event]

/-- `persist_action_events`. The whole list of an action is offered each time, and the table
keeps what it knows already. -/
def persistActionEvents (table events : List ActionEventRecord) : List ActionEventRecord :=
  events.foldl persistEvent table

/-- `list_for_tenant`. The rows of all actions come in one list, in which an order among them
is kept. -/
def tenantRows (table : List ActionEventRecord) (tenantId : Text) : List ActionEventRecord :=
  table.filter (fun row => decide (row.tenantId = tenantId))

namespace Pool

variable {W : Type} [DecidableEq W]

/-- Replace a worker's service and move its request to a phase. -/
def turned (pool : Pool W) (turn : Turn W) (service : ActionService) (phase : Phase) : Pool W where
  services := Function.update pool.services turn.worker service
  table := pool.table
  phases := Function.update pool.phases (turn.worker, turn.request) phase

def next (rt : Runtime) (target : ExecutionTarget) (pool : Pool W) (turn : Turn W) : Pool W :=
  let service := pool.services turn.worker
  match turn.step with
  | .restore rows =>
      let outcome := service.restoreAll rt rows
      pool.turned turn outcome.state (Phase.restored.after outcome.result)
  | .execute draws cancelOrder currentState =>
      let outcome :=
        (service.execute rt draws target.actionId target.tenantId cancelOrder currentState).outcome
      pool.turned turn outcome.state (Phase.executed.after outcome.result)
  | .persist =>
      match service.listEvents target.actionId target.tenantId with
      | .error _ => pool.turned turn service .ended
      | .ok events =>
          { pool.turned turn service .ended with table := persistActionEvents pool.table events }

/-- A request takes its steps in order, a restore step reads the tenant's rows,
and an execute step draws a new event identifier. -/
def Admits (target : ExecutionTarget) (pool : Pool W) (turn : Turn W) : Prop :=
  let phase := pool.phases (turn.worker, turn.request)
  match turn.step with
  | .restore rows => phase = .waiting ∧ rows.Perm (tenantRows pool.table target.tenantId)
  | .execute draws _ _ => phase = .restored ∧
      ActionService.newEventId draws 0 ∉ pool.table.map ActionEventRecord.eventId ∧
      forall worker, ActionService.newEventId draws 0 ∉ (pool.services worker).eventIds
  | .persist => phase = .executed

/-- The event is in the table or in some service. -/
def Holds (pool : Pool W) (event : ActionEventRecord) : Prop :=
  event ∈ pool.table ∨ Exists fun worker => (pool.services worker).Holds event

/-- Before any execute request, some service approved the target, and the table
holds its events.  Each worker has that service or a fresh one. -/
structure Starts (rt : Runtime) (target : ExecutionTarget) (pool : Pool W) : Prop where
  origin : Exists fun history => Exists fun service =>
    (hashedActionSystem rt).Run history service ∧ target.ApprovedIn service ∧
      pool.table.Perm service.events.values.flatten ∧
      forall worker, pool.services worker = service ∨ pool.services worker = .fresh
  waiting : forall request, pool.phases request = .waiting

end Pool

/-- The executor of an execute step echoes the idempotency key it is given. -/
def RequestStep.Echoes : RequestStep -> Prop
  | .execute _ cancelOrder _ => cancelOrder.Echoes
  | .restore _ => True
  | .persist => True

section System

def poolSystem (W : Type) [DecidableEq W] (rt : Runtime) (target : ExecutionTarget) :
    System (Pool W) (Turn W) where
  start := fun pool => pool.Starts rt target
  admits := fun pool turn => pool.Admits target turn
  next := fun pool turn => pool.next rt target turn

/-- Workers whose executors echo their keys. -/
def echoingWorkers (W : Type) [DecidableEq W] (rt : Runtime) (target : ExecutionTarget) :
    System (Pool W) (Turn W) :=
  (poolSystem W rt target).restrict (fun _ turn => turn.step.Echoes)

variable {W : Type}

/-- The provider accepts the write of this step. Only an execute step comes into question, in
the worker whose turn it is. -/
def acceptsWrite (rt : Runtime) (target : ExecutionTarget) (step : Step (Pool W) (Turn W)) : Bool :=
  match step.label.step with
  | .execute draws cancelOrder currentState =>
      ((step.before.services step.label.worker).accepts? rt
        (.execute draws target.actionId target.tenantId cancelOrder currentState)).isSome
  | .restore _ => false
  | .persist => false

/-- The steps of a history whose write the provider accepted. -/
def acceptedWrites (rt : Runtime) (target : ExecutionTarget)
    (history : List (Step (Pool W) (Turn W))) : List (Step (Pool W) (Turn W)) :=
  history.filter (acceptsWrite rt target)

/-- The accepted write of a step has reached a worker: first the accepting
request persisted, then the worker restored the table. -/
def HandedOver (history : List (Step (Pool W) (Turn W))) (accepting : Step (Pool W) (Turn W))
    (worker : W) : Prop :=
  Exists fun persisting => Exists fun restoring =>
    [accepting, persisting, restoring].Sublist history ∧
      persisting.label = ⟨accepting.label.worker, accepting.label.request, .persist⟩ ∧
      restoring.label.worker = worker ∧ Exists fun rows => restoring.label.step = .restore rows

/-- The condition on the schedule: rows are read in order, and no worker
executes before every write that another worker got accepted was handed over. -/
structure Serialized (rt : Runtime) (target : ExecutionTarget)
    (history : List (Step (Pool W) (Turn W))) : Prop where
  inOrder : forall step rows, step ∈ history -> step.label.step = .restore rows ->
    target.InOrder rows
  handedOver : forall front step back draws cancelOrder currentState,
    history = front ++ step :: back ->
    step.label.step = .execute draws cancelOrder currentState ->
    forall accepting, accepting ∈ front -> acceptsWrite rt target accepting = true ->
      accepting.label.worker ≠ step.label.worker ->
        HandedOver front accepting step.label.worker

/-- An earlier part of a serialized schedule is serialized. -/
theorem Serialized.front {rt : Runtime} {target : ExecutionTarget}
    {history : List (Step (Pool W) (Turn W))} {last : Step (Pool W) (Turn W)}
    (serialized : Serialized rt target (history ++ [last])) : Serialized rt target history where
  inOrder := fun step rows member => serialized.inOrder step rows (List.mem_append_left _ member)
  handedOver := by
    rintro front step back draws cancelOrder currentState rfl
    exact serialized.handedOver front step (back ++ [last]) draws cancelOrder currentState
      (List.append_assoc _ _ _)

end System

/-! ## What one turn does to the events in circulation -/

section Table

/-- A sublist of a longer list either ends before the new last element or at it. -/
theorem sublist_snoc {A : Type} (front : List A) {history : List A} {last new : A}
    (sublist : (front ++ [last]).Sublist (history ++ [new])) :
    (front ++ [last]).Sublist history ∨ last = new ∧ front.Sublist history := by
  rw [← List.reverse_sublist, List.reverse_append, List.reverse_append] at sublist
  cases sublist with
  | cons _ earlier =>
      refine Or.inl (List.reverse_sublist.mp ?_)
      rw [List.reverse_append]
      exact earlier
  | cons_cons _ earlier => exact Or.inr ⟨rfl, List.reverse_sublist.mp earlier⟩

theorem mem_persistActionEvents (events : List ActionEventRecord) {table : List ActionEventRecord}
    {event : ActionEventRecord}
    (member : event ∈ persistActionEvents table events) : event ∈ table ∨ event ∈ events := by
  induction events generalizing table with
  | nil => exact Or.inl member
  | cons first rest ih =>
      rcases ih member with earlier | later
      · unfold persistEvent at earlier
        split at earlier
        · exact Or.inl earlier
        · rcases List.mem_append.mp earlier with old | new
          · exact Or.inl old
          · exact Or.inr (List.mem_singleton.mp new ▸ List.mem_cons_self)
      · exact Or.inr (List.mem_cons_of_mem _ later)

theorem persistEvent_keeps {table : List ActionEventRecord} (event : ActionEventRecord)
    {row : ActionEventRecord} (member : row ∈ table) : row ∈ persistEvent table event := by
  unfold persistEvent
  split
  · exact member
  · exact List.mem_append_left _ member

theorem persistActionEvents_keeps {table : List ActionEventRecord} (events : List ActionEventRecord)
    {row : ActionEventRecord} (member : row ∈ table) : row ∈ persistActionEvents table events := by
  induction events generalizing table with
  | nil => exact member
  | cons first rest ih => exact ih (persistEvent_keeps first member)

/-- Persisting writes every event whose identifier no other event has. -/
theorem persistActionEvents_writes {table events : List ActionEventRecord}
    {event : ActionEventRecord} (member : event ∈ events)
    (unique : forall row, row ∈ table ∨ row ∈ events -> row.eventId = event.eventId -> row = event) :
    event ∈ persistActionEvents table events := by
  induction events generalizing table with
  | nil => cases member
  | cons first rest ih =>
      rcases List.mem_cons.mp member with rfl | later
      · apply persistActionEvents_keeps rest
        unfold persistEvent
        split
        · rename_i stored
          rcases stored with ⟨row, listed, _, same⟩
          exact unique row (Or.inl listed) same ▸ listed
        · exact List.mem_append_right _ List.mem_cons_self
      · refine ih later (fun row known => unique row ?_)
        rcases known with listed | listed
        · have either : row ∈ table ∨ row ∈ [first] :=
            mem_persistActionEvents [first] listed
          rcases either with old | new
          · exact Or.inl old
          · exact Or.inr (List.mem_singleton.mp new ▸ List.mem_cons_self)
        · exact Or.inr (List.mem_cons_of_mem _ listed)

end Table

section Turn

variable {W : Type} {rt : Runtime} {target : ExecutionTarget} {pool : Pool W} {turn : Turn W}
variable {entry : Option ActionEventRecord} {after : ActionService} {phase : Phase}

/-- Every service is sound for the events in circulation, those of the table and those that
only some worker holds so far. -/
structure Pool.Sound (target : ExecutionTarget) (pool : Pool W) : Prop where
  archive : Archive target pool.Holds
  service : forall worker, LocalSound target pool.Holds (pool.services worker)

/-- Writing events of a service to the table puts nothing new into circulation. -/
theorem Pool.Sound.persisted (sound : pool.Sound target) {events : List ActionEventRecord}
    (held : forall event, event ∈ events -> pool.Holds event) (phases : W × Nat -> Phase) :
    Pool.Sound target ⟨pool.services, persistActionEvents pool.table events, phases⟩ := by
  have same : Pool.Holds ⟨pool.services, persistActionEvents pool.table events, phases⟩ =
      pool.Holds := by
    funext event
    refine propext ⟨?_, ?_⟩
    · rintro (listed | elsewhere)
      · rcases mem_persistActionEvents _ listed with old | new
        · exact Or.inl old
        · exact held event new
      · exact Or.inr elsewhere
    · rintro (listed | elsewhere)
      · exact Or.inl (persistActionEvents_keeps events listed)
      · exact Or.inr elsewhere
  constructor
  · rw [same]
    exact sound.archive
  · intro worker
    rw [same]
    exact sound.service worker

theorem Pool.Starts.sound (starts : pool.Starts rt target) : pool.Sound target := by
  rcases starts.origin with ⟨history, service, run, approved, stored, workers⟩
  have narrows : forall event, pool.Holds event -> service.Holds event := by
    rintro event (listed | ⟨worker, held⟩)
    · exact ActionService.holds_iff_mem_flatten.mpr (stored.mem_iff.mp listed)
    · rcases workers worker with same | fresh
      · exact same ▸ held
      · rcases held with ⟨actionId, member⟩
        rw [fresh] at member
        cases member
  have whole : pool.Holds = service.Holds := by
    funext event
    refine propext ⟨narrows event, fun held => Or.inl ?_⟩
    exact stored.mem_iff.mpr (ActionService.holds_iff_mem_flatten.mp held)
  constructor
  · rw [whole]
    exact approved.archive run
  · intro worker
    rw [whole]
    rcases workers worker with same | fresh
    · rw [same]
      exact approved.localSound run
    · rw [fresh]
      exact .fresh target _

variable [DecidableEq W]

theorem Pool.turned_here (pool : Pool W) (turn : Turn W) (service : ActionService) (phase : Phase) :
    (pool.turned turn service phase).services turn.worker = service :=
  Function.update_self _ _ _

theorem Pool.turned_elsewhere (pool : Pool W) {turn : Turn W} (service : ActionService)
    (phase : Phase) {worker : W} (other : worker ≠ turn.worker) :
    (pool.turned turn service phase).services worker = pool.services worker :=
  Function.update_of_ne other _ _

theorem Pool.phase_here (pool : Pool W) (turn : Turn W) (service : ActionService) (phase : Phase) :
    (pool.turned turn service phase).phases (turn.worker, turn.request) = phase :=
  Function.update_self _ _ _

theorem Pool.phase_elsewhere (pool : Pool W) {turn : Turn W} (service : ActionService) (phase : Phase)
    {request : W × Nat} (other : request ≠ (turn.worker, turn.request)) :
    (pool.turned turn service phase).phases request = pool.phases request :=
  Function.update_of_ne other _ _

/-- A turn of one worker puts its entry into circulation, and nothing else. -/
theorem Pool.holds_turned (advances : Advances target pool.Holds (pool.services turn.worker) entry after) :
    (pool.turned turn after phase).Holds = WithEntry pool.Holds entry := by
  funext event
  refine propext ⟨?_, ?_⟩
  · rintro (listed | ⟨worker, held⟩)
    · exact Or.inl (Or.inl listed)
    · by_cases same : worker = turn.worker
      · rw [same, Pool.turned_here] at held
        exact advances.sound.held event held
      · rw [Pool.turned_elsewhere pool after phase same] at held
        exact Or.inl (Or.inr ⟨worker, held⟩)
  · rintro ((listed | ⟨worker, held⟩) | logged)
    · exact Or.inl listed
    · refine Or.inr ⟨worker, ?_⟩
      by_cases same : worker = turn.worker
      · rw [same, Pool.turned_here]
        exact advances.extends_.holds (same ▸ held)
      · rw [Pool.turned_elsewhere pool after phase same]
        exact held
    · refine Or.inr ⟨turn.worker, ?_⟩
      rw [Pool.turned_here]
      exact advances.logged event logged

theorem Pool.Sound.turned (sound : pool.Sound target)
    (advances : Advances target pool.Holds (pool.services turn.worker) entry after) :
    (pool.turned turn after phase).Sound target where
  archive := by
    rw [Pool.holds_turned advances]
    exact advances.archive
  service := by
    intro worker
    rw [Pool.holds_turned advances]
    by_cases same : worker = turn.worker
    · rw [same, Pool.turned_here]
      exact advances.sound
    · rw [Pool.turned_elsewhere pool after phase same]
      exact (sound.service worker).mono (fun event => Or.inl)

theorem Pool.extends_turned (extends_ : (pool.services turn.worker).Extends after) (worker : W) :
    (pool.services worker).Extends ((pool.turned turn after phase).services worker) := by
  by_cases same : worker = turn.worker
  · rw [same, Pool.turned_here]
    exact extends_
  · rw [Pool.turned_elsewhere pool after phase same]
    exact .refl _

end Turn

/-! ## The handover -/

/-- An acceptance event of the target. The receipt inside it is not compared, because its
presence alone stops another execution. -/
structure IsAcceptance (target : ExecutionTarget) (event : ActionEventRecord) : Prop where
  kind : event.eventType = "provider_accepted"
  about : event.actionId = target.actionId
  tenant : event.tenantId = target.tenantId

/-- The accepting request can still persist its acceptance event: the worker has the action
and the event, and a persist writes every event of the action's list. -/
structure CanPersist (target : ExecutionTarget) (service : ActionService) : Prop where
  known : service.actions.get? target.actionId ≠ none
  logged : Exists fun event => event ∈ service.eventsOf target.actionId ∧ IsAcceptance target event

/-- What a schedule keeps about the writes accepted so far: the accepting worker has the
receipt, and its request has persisted the event or can still do so. -/
structure PoolSound {W : Type} (rt : Runtime) (target : ExecutionTarget)
    (history : List (Step (Pool W) (Turn W))) (pool : Pool W) : Prop where
  sound : pool.Sound target
  receipt : forall step, step ∈ history -> acceptsWrite rt target step = true ->
    (pool.services step.label.worker).executions.get? target.key ≠ none
  pending : forall step, step ∈ history -> acceptsWrite rt target step = true ->
    pool.phases (step.label.worker, step.label.request) = .ended ∨
      pool.phases (step.label.worker, step.label.request) = .executed ∧
        CanPersist target (pool.services step.label.worker)
  persisted : forall accepting persisting, [accepting, persisting].Sublist history ->
    acceptsWrite rt target accepting = true ->
    persisting.label = ⟨accepting.label.worker, accepting.label.request, .persist⟩ ->
      Exists fun event => event ∈ pool.table ∧ IsAcceptance target event
  handed : forall accepting worker, HandedOver history accepting worker ->
    acceptsWrite rt target accepting = true ->
      (pool.services worker).executions.get? target.key ≠ none

theorem PoolSound.of_start {W : Type} {rt : Runtime} {target : ExecutionTarget} {pool : Pool W}
    (starts : pool.Starts rt target) : PoolSound rt target [] pool where
  sound := starts.sound
  receipt := nofun
  pending := nofun
  persisted := by
    intro accepting persisting sublist
    cases sublist
  handed := by
    rintro accepting worker ⟨persisting, restoring, sublist, _⟩
    cases sublist

section Schedule

variable {W : Type} [DecidableEq W] {rt : Runtime} {target : ExecutionTarget}
variable {history : List (Step (Pool W) (Turn W))} {pool : Pool W} {turn : Turn W}
variable {entry : Option ActionEventRecord} {after : ActionService} {phase : Phase}

theorem CanPersist.extends_ {service : ActionService} (can : CanPersist target service)
    (grows : service.Extends after) : CanPersist target after where
  known := grows.actions _ can.known
  logged := can.logged.imp (fun event found => ⟨grows.events _ event found.1, found.2⟩)

theorem CanPersist.pushed {base : ActionService} {event : ActionEventRecord}
    (known : base.actions.get? target.actionId ≠ none) (acceptance : IsAcceptance target event) :
    CanPersist target (base.push event) where
  known := known
  logged := by
    refine ⟨event, ?_, acceptance⟩
    rw [ActionService.eventsOf_push, if_pos acceptance.about.symm]
    exact List.mem_append_right _ List.mem_cons_self

/-- A turn that leaves the table alone, of a request that has not executed yet. -/
theorem PoolSound.turned (sound : PoolSound rt target history pool)
    (advances : Advances target pool.Holds (pool.services turn.worker) entry after)
    (early : pool.phases (turn.worker, turn.request) = .waiting ∨
      pool.phases (turn.worker, turn.request) = .restored)
    (reads : turn.step ≠ .persist)
    (accepts : acceptsWrite rt target ⟨pool, turn, pool.turned turn after phase⟩ = true ->
      after.executions.get? target.key ≠ none ∧
        (phase = .ended ∨ phase = .executed ∧ CanPersist target after))
    (restores : forall rows event, turn.step = .restore rows -> event ∈ pool.table ->
      IsAcceptance target event -> after.executions.get? target.key ≠ none) :
    PoolSound rt target (history ++ [⟨pool, turn, pool.turned turn after phase⟩])
      (pool.turned turn after phase) := by
  have grows : forall worker, (pool.services worker).Extends
      ((pool.turned turn after phase).services worker) :=
    Pool.extends_turned advances.extends_
  have pairs : forall accepting persisting,
      [accepting, persisting].Sublist (history ++ [⟨pool, turn, pool.turned turn after phase⟩]) ->
      persisting.label = ⟨accepting.label.worker, accepting.label.request, .persist⟩ ->
        [accepting, persisting].Sublist history := by
    intro accepting persisting sublist persists
    rcases sublist_snoc [accepting] sublist with earlier | ⟨rfl, _⟩
    · exact earlier
    · exact absurd (congrArg Turn.step persists) reads
  refine ⟨sound.sound.turned advances, ?_, ?_, ?_, ?_⟩
  · intro step member accepted
    rcases List.mem_append.mp member with earlier | last
    · exact (grows _).executions _ (sound.receipt step earlier accepted)
    · have same := List.mem_singleton.mp last
      subst same
      rw [Pool.turned_here]
      exact (accepts accepted).1
  · intro step member accepted
    rcases List.mem_append.mp member with earlier | last
    · -- An accepted request has left both early phases, so this turn is another request's.
      have held := sound.pending step earlier accepted
      have other : (step.label.worker, step.label.request) ≠ (turn.worker, turn.request) := by
        intro same
        rw [same] at held
        rcases early with waiting | restored
        · rw [waiting] at held
          rcases held with ended | ⟨executed, _⟩
          · cases ended
          · cases executed
        · rw [restored] at held
          rcases held with ended | ⟨executed, _⟩
          · cases ended
          · cases executed
      rw [Pool.phase_elsewhere pool after phase other]
      exact held.imp id (fun executed => ⟨executed.1, executed.2.extends_ (grows _)⟩)
    · have same := List.mem_singleton.mp last
      subst same
      rw [Pool.turned_here, Pool.phase_here]
      exact (accepts accepted).2
  · intro accepting persisting sublist accepted persists
    exact sound.persisted accepting persisting (pairs accepting persisting sublist persists) accepted
      persists
  · rintro accepting worker ⟨persisting, restoring, sublist, persists, on, rows, reading⟩ accepted
    rcases sublist_snoc [accepting, persisting] sublist with earlier | ⟨rfl, before⟩
    · exact (grows _).executions _ (sound.handed accepting worker
        ⟨persisting, restoring, earlier, persists, on, rows, reading⟩ accepted)
    · rcases sound.persisted accepting persisting before accepted persists with
          ⟨event, listed, acceptance⟩
      rw [← on, Pool.turned_here]
      exact restores rows event reading listed acceptance

/-- A restore step reads every acceptance event that the table holds. Nothing accepted before
a serialized request can escape it. -/
theorem PoolSound.restore (sound : PoolSound rt target history pool) {worker : W} {request : Nat}
    {rows : List ActionEventRecord}
    (admitted : pool.Admits target ⟨worker, request, .restore rows⟩) (ordered : target.InOrder rows) :
    PoolSound rt target
      (history ++ [⟨pool, ⟨worker, request, .restore rows⟩,
        pool.next rt target ⟨worker, request, .restore rows⟩⟩])
      (pool.next rt target ⟨worker, request, .restore rows⟩) := by
  rcases admitted with ⟨waiting, permuted⟩
  have held : forall event, event ∈ rows -> pool.Holds event := by
    intro event member
    exact Or.inl (List.mem_filter.mp (permuted.mem_iff.mp member)).1
  have caught : Exists fun service => (pool.services worker).restoreAll rt rows = .returns service () ∧
      CaughtUp target pool.Holds (pool.services worker) rows service :=
    (sound.sound.service worker).restoreAll sound.sound.archive held
  rcases caught with ⟨service, restored, caughtUp⟩
  have next : pool.next rt target ⟨worker, request, .restore rows⟩ =
      pool.turned ⟨worker, request, .restore rows⟩ service .restored := by
    simp only [Pool.next, restored]
    rfl
  have advances : Advances target pool.Holds (pool.services worker) none service := by
    refine ⟨caughtUp.extends_, ?_, ?_, nofun⟩
    · rw [withEntry_none]
      exact sound.sound.archive
    · rw [withEntry_none]
      exact caughtUp.sound
  rw [next]
  apply sound.turned advances (Or.inl waiting) nofun nofun
  rintro _ event reading listed acceptance
  cases reading
  have member : event ∈ rows :=
    permuted.mem_iff.mpr (List.mem_filter.mpr ⟨listed, decide_eq_true acceptance.tenant⟩)
  exact (sound.sound.service worker).restoreAll_recorded sound.sound.archive held ordered restored
    member acceptance.kind acceptance.about

/-- An accepted execution whose event was hashed can be persisted. -/
theorem CanPersist.of_accepted {service : ActionService} {draws : Draws}
    {cancelOrder : CancelOrderExecutor} {currentState : Option OrderState} {action : StoredAction}
    {receipt returned : ExecutionReceipt}
    (reaches : ReachesProvider service target.actionId target.tenantId currentState action)
    (accepts : cancelOrder (action.providerCall target.actionId) = .ok receipt)
    (returns : (service.execute rt draws target.actionId target.tenantId cancelOrder
      currentState).outcome.result = .ok returned) :
    CanPersist target (service.execute rt draws target.actionId target.tenantId cancelOrder
      currentState).outcome.state := by
  rw [execute_reaching rt service draws cancelOrder reaches, accepts] at returns ⊢
  rcases appendEvent_appends rt
    (service.accept target.actionId target.tenantId action receipt)
    (acceptanceDraft draws target.tenantId target.actionId receipt)
    (fun state _ => .returns state receipt) True (fun _ _ => rfl)
    (fun _ cause raised => by cases returns.symm.trans raised) with ⟨entry, appends⟩
  rcases appends.of_hashed trivial with ⟨eventHash, _, pushed⟩
  have known : (service.accept target.actionId target.tenantId action receipt).actions.get?
      target.actionId ≠ none := by
    rw [ActionService.accept, ActionService.withDecision, Dict.get?_set_self]
    exact Option.some_ne_none _
  exact (congrArg (CanPersist target) pushed).mpr (.pushed known ⟨rfl, rfl, rfl⟩)

/-- An accepted execution records a receipt under the target's key. -/
theorem accepted_recorded {service : ActionService} {draws : Draws}
    {cancelOrder : CancelOrderExecutor} {currentState : Option OrderState} {action : StoredAction}
    {receipt : ExecutionReceipt} (key : action.proposal.idempotencyKey = target.idempotencyKey)
    (reaches : ReachesProvider service target.actionId target.tenantId currentState action)
    (accepts : cancelOrder (action.providerCall target.actionId) = .ok receipt) :
    (service.execute rt draws target.actionId target.tenantId cancelOrder
      currentState).outcome.state.executions.get? target.key ≠ none := by
  have executions := (execute_accepting rt service draws reaches accepts).2
  simp only [ActionService.perform, Outcome.map_state] at executions
  rw [executions, ActionService.accept, key, ExecutionTarget.key, Dict.get?_set_self]
  exact Option.some_ne_none _

theorem PoolSound.execute (sound : PoolSound rt target history pool) {worker : W} {request : Nat}
    {draws : Draws} {cancelOrder : CancelOrderExecutor} {currentState : Option OrderState}
    (admitted : pool.Admits target ⟨worker, request, .execute draws cancelOrder currentState⟩)
    (echoes : cancelOrder.Echoes) :
    PoolSound rt target
      (history ++ [⟨pool, ⟨worker, request, .execute draws cancelOrder currentState⟩,
        pool.next rt target ⟨worker, request, .execute draws cancelOrder currentState⟩⟩])
      (pool.next rt target ⟨worker, request, .execute draws cancelOrder currentState⟩) := by
  rcases admitted with ⟨restored, unlisted, unseen⟩
  have fresh : forall event, pool.Holds event -> event.eventId ≠ ActionService.newEventId draws 0 := by
    rintro event (listed | ⟨other, held⟩) same
    · exact unlisted (List.mem_map.mpr ⟨event, listed, same⟩)
    · exact unseen other (ActionService.mem_eventIds_iff.mpr ⟨event, held, same⟩)
  rcases perform_effect rt (pool.services worker)
    (.execute draws target.actionId target.tenantId cancelOrder currentState) with ⟨entry, effect⟩
  have advances := (sound.sound.service worker).execute sound.sound.archive effect echoes fresh
  refine sound.turned advances (Or.inr restored) nofun ?_ nofun
  intro accepted
  rcases Option.isSome_iff_exists.mp accepted with ⟨⟨providerCall, receipt⟩, accepts⟩
  rcases (accepts?_iff rt _ _ _ _).mp accepts with ⟨_, _, _, _, _, action, same, reaches, rfl, answered⟩
  cases same
  have key := ((sound.sound.service worker).keyed action reaches.found).2
  refine ⟨accepted_recorded key reaches answered, ?_⟩
  cases returned : ((pool.services worker).execute rt draws target.actionId target.tenantId cancelOrder
      currentState).outcome.result with
  | error error => exact Or.inl rfl
  | ok value => exact Or.inr ⟨rfl, .of_accepted reaches answered returned⟩

/-- Persisting moves no service: it ends the request and writes some of the
worker's events, all of the target's if the action is known. -/
theorem Pool.next_persist (rt : Runtime) (target : ExecutionTarget) (pool : Pool W) (worker : W)
    (request : Nat) :
    Exists fun events =>
      pool.next rt target ⟨worker, request, .persist⟩ =
        { pool with
          table := persistActionEvents pool.table events
          phases := Function.update pool.phases (worker, request) .ended } ∧
      (forall event, event ∈ events -> (pool.services worker).Holds event) ∧
      forall action, (pool.services worker).actions.get? target.actionId = some action ->
        action.tenantId = target.tenantId ->
          events = (pool.services worker).eventsOf target.actionId := by
  have still : Function.update pool.services worker (pool.services worker) = pool.services :=
    Function.update_eq_self _ _
  cases found : (pool.services worker).getAction target.actionId target.tenantId with
  | error error =>
      refine ⟨[], ?_, nofun, ?_⟩
      · simp only [Pool.next, ActionService.listEvents, found, Except.map, Pool.turned, still]
        rfl
      · intro action stored owner
        have known := ((pool.services worker).getAction_ok_iff _ _ _).mpr ⟨stored, owner⟩
        cases found.symm.trans known
  | ok action =>
      refine ⟨_, ?_, fun event member => ⟨target.actionId, member⟩, fun _ _ _ => rfl⟩
      simp only [Pool.next, ActionService.listEvents, found, Except.map, Pool.turned, still]

theorem PoolSound.persist (sound : PoolSound rt target history pool) {worker : W} {request : Nat}
    (admitted : pool.Admits target ⟨worker, request, .persist⟩) :
    PoolSound rt target
      (history ++ [⟨pool, ⟨worker, request, .persist⟩,
        pool.next rt target ⟨worker, request, .persist⟩⟩])
      (pool.next rt target ⟨worker, request, .persist⟩) := by
  rcases pool.next_persist rt target worker request with ⟨events, next, written, whole⟩
  rw [next]
  have before : forall after step, step ∈ history ++ [⟨pool, ⟨worker, request, .persist⟩, after⟩] ->
      acceptsWrite rt target step = true -> step ∈ history := by
    intro after step member accepted
    rcases List.mem_append.mp member with earlier | last
    · exact earlier
    · rw [List.mem_singleton.mp last] at accepted
      cases accepted
  refine ⟨?_, ?_, ?_, ?_, ?_⟩
  · exact sound.sound.persisted (fun event member => Or.inr ⟨worker, written event member⟩) _
  · intro step member accepted
    exact sound.receipt step (before _ step member accepted) accepted
  · intro step member accepted
    have held := sound.pending step (before _ step member accepted) accepted
    by_cases same : (step.label.worker, step.label.request) = (worker, request)
    · rw [same]
      exact Or.inl (Function.update_self _ _ _)
    · change Function.update pool.phases (worker, request) .ended _ = _ ∨
        Function.update pool.phases (worker, request) .ended _ = _ ∧ _
      rw [Function.update_of_ne same]
      exact held
  · intro accepting persisting sublist accepted persists
    rcases sublist_snoc [accepting] sublist with earlier | ⟨rfl, single⟩
    · rcases sound.persisted accepting persisting earlier accepted persists with
          ⟨event, listed, acceptance⟩
      exact ⟨event, persistActionEvents_keeps events listed, acceptance⟩
    · -- The accepted request is the one that persists now, so its event is written.
      have member := List.singleton_sublist.mp single
      have pending := sound.pending accepting member accepted
      cases persists
      rcases pending with ended | ⟨_, known, event, logged, acceptance⟩
      · cases (admitted : pool.phases (_, _) = .executed).symm.trans ended
      · cases stored : (pool.services accepting.label.worker).actions.get? target.actionId with
        | none => exact absurd stored known
        | some action =>
            have owner := ((sound.sound.service _).keyed action stored).1
            have all := whole action stored owner
            refine ⟨event, persistActionEvents_writes (all ▸ logged) ?_, acceptance⟩
            intro row known ids
            refine sound.sound.archive.unique row event ?_ ?_ ids
            · rcases known with listed | listed
              · exact Or.inl listed
              · exact Or.inr ⟨_, written row listed⟩
            · exact Or.inr ⟨_, target.actionId, logged⟩
  · rintro accepting other ⟨persisting, restoring, sublist, persists, on, rows, reading⟩ accepted
    rcases sublist_snoc [accepting, persisting] sublist with earlier | ⟨rfl, _⟩
    · exact sound.handed accepting other ⟨persisting, restoring, earlier, persists, on, rows, reading⟩
        accepted
    · cases reading

theorem PoolSound.next (sound : PoolSound rt target history pool)
    (admitted : (echoingWorkers W rt target).admits pool turn)
    (serialized : Serialized rt target (history ++ [⟨pool, turn, pool.next rt target turn⟩])) :
    PoolSound rt target (history ++ [⟨pool, turn, pool.next rt target turn⟩])
      (pool.next rt target turn) := by
  rcases admitted with ⟨admitted, echoes⟩
  cases turn with
  | mk worker request step =>
      cases step with
      | restore rows =>
          exact sound.restore admitted
            (serialized.inOrder _ rows (List.mem_append_right _ List.mem_cons_self) rfl)
      | execute draws cancelOrder currentState => exact sound.execute admitted echoes
      | persist => exact sound.persist admitted

/-- A serialized step is not accepted after another accepted one. The earlier acceptance was
persisted before this request restored. -/
theorem PoolSound.first_acceptance (sound : PoolSound rt target history pool)
    (serialized : Serialized rt target (history ++ [⟨pool, turn, pool.next rt target turn⟩]))
    (accepts : acceptsWrite rt target ⟨pool, turn, pool.next rt target turn⟩ = true) :
    acceptedWrites rt target history = [] := by
  refine List.filter_eq_nil_iff.mpr (fun accepting member accepted => ?_)
  cases turn with
  | mk worker request step =>
      cases step with
      | restore rows => cases accepts
      | persist => cases accepts
      | execute draws cancelOrder currentState =>
          rcases Option.isSome_iff_exists.mp accepts with ⟨⟨providerCall, receipt⟩, answered⟩
          rcases (accepts?_iff rt _ _ _ _).mp answered with ⟨_, _, _, _, _, action, same, reaches, _, _⟩
          cases same
          have key := ((sound.sound.service worker).keyed action reaches.found).2
          have bound : (pool.services worker).executions.get? target.key ≠ none := by
            by_cases same : accepting.label.worker = worker
            · exact same ▸ sound.receipt accepting member accepted
            · exact sound.handed accepting worker (serialized.handedOver history _ [] draws cancelOrder
                currentState rfl rfl accepting member accepted same) accepted
          apply bound
          rw [ExecutionTarget.key, ← key]
          exact reaches.unused

/-- In every serialized schedule the provider accepts the write at most once. The number of
workers and of their requests does not matter. -/
theorem one_write_when_serialized (rt : Runtime) (target : ExecutionTarget)
    (run : (echoingWorkers W rt target).Run history pool)
    (serialized : Serialized rt target history) :
    (acceptedWrites rt target history).length ≤ 1 := by
  have invariant : Serialized rt target history -> PoolSound rt target history pool ∧
      (acceptedWrites rt target history).length ≤ 1 := by
    apply System.Run.historyInvariant run
    · exact fun pool starts _ => ⟨.of_start starts, Nat.zero_le 1⟩
    · intro history pool turn earlier ih admitted serialized
      rcases ih serialized.front with ⟨sound, once⟩
      refine ⟨sound.next admitted serialized, ?_⟩
      unfold acceptedWrites at once ⊢
      rw [List.filter_append, List.length_append]
      by_cases accepts : acceptsWrite rt target ⟨pool, turn, pool.next rt target turn⟩ = true
      · have none := sound.first_acceptance serialized accepts
        unfold acceptedWrites at none
        rw [none, List.length_nil, Nat.zero_add]
        exact List.length_filter_le _ _
      · have unchanged : List.filter (acceptsWrite rt target)
            [⟨pool, turn, pool.next rt target turn⟩] = [] := by
          refine List.filter_eq_nil_iff.mpr (fun step member => ?_)
          rw [List.mem_singleton.mp member]
          exact accepts
        have same : (echoingWorkers W rt target).next pool turn = pool.next rt target turn := rfl
        rw [same, unchanged]
        exact once
  exact (invariant serialized).2

end Schedule

/-! ## Two workers on the sample cancellation -/

/-- Rows that open with the target's policy event come in order. -/
theorem ExecutionTarget.inOrder_of_head {target : ExecutionTarget} {rows : List ActionEventRecord}
    (opens : rows.head?.any (fun policy : ActionEventRecord => decide
      (policy.eventType = "policy_evaluated" ∧ policy.actionId = target.actionId)) = true) :
    target.InOrder rows := by
  rintro front event back rfl accepted about
  cases front with
  | nil =>
      have both := of_decide_eq_true opens
      exact absurd (accepted.symm.trans both.1) (by decide)
  | cons policy front => exact ⟨policy, List.mem_cons_self, of_decide_eq_true opens⟩

instance (target : ExecutionTarget) (pool : Pool (Fin 2)) (turn : Turn (Fin 2)) :
    Decidable (pool.Admits target turn) :=
  match turn with
  | ⟨_, _, .restore _⟩ => inferInstanceAs (Decidable (_ ∧ _))
  | ⟨_, _, .execute _ _ _⟩ => inferInstanceAs (Decidable (_ ∧ _ ∧ _))
  | ⟨_, _, .persist⟩ => inferInstanceAs (Decidable (_ = _))

instance (rt : Runtime) (target : ExecutionTarget) (pool : Pool (Fin 2)) (turn : Turn (Fin 2)) :
    Decidable ((poolSystem (Fin 2) rt target).admits pool turn) :=
  inferInstanceAs (Decidable (pool.Admits target turn))

def sampleTarget : ExecutionTarget := ⟨sampleId, "demo", "cancel-1001"⟩

/-- The table after the first calls of the sample run. -/
def sampleRows (calls : List Call) : List ActionEventRecord :=
  (sampleService calls).events.values.flatten

/-- Two fresh workers, and a table with the events of the approved sample. -/
def samplePool : Pool (Fin 2) where
  services := fun _ => .fresh
  table := sampleRows [samplePropose, sampleApprove]
  phases := fun _ => .waiting

theorem samplePool_starts : samplePool.Starts .plain sampleTarget where
  origin := by
    have run := sample_run [samplePropose, sampleApprove] ⟨[sampleExecute, sampleVerify], rfl⟩
    refine ⟨_, _, run, ⟨sampleApproved, sample_approved, rfl, rfl, rfl⟩, ?_, fun _ => Or.inr rfl⟩
    dsimp only [samplePool]
    exact List.Perm.refl _
  waiting := fun _ => rfl

def sampleTurn (worker : Fin 2) (step : RequestStep) : Turn (Fin 2) := ⟨worker, 0, step⟩

/-- An execute step of the sample, with its own event identifier. -/
def sampleExecution (start : Nat) : RequestStep :=
  .execute (.numbered start) sampleExecutor (some (sampleOrder 1 "open"))

/-- The first worker finishes its request before the second one restores. -/
def serializedTurns : List (Turn (Fin 2)) :=
  [sampleTurn 0 (.restore (sampleRows [samplePropose, sampleApprove])),
    sampleTurn 0 (sampleExecution 4),
    sampleTurn 0 .persist,
    sampleTurn 1 (.restore (sampleRows [samplePropose, sampleApprove, sampleExecute])),
    sampleTurn 1 (sampleExecution 5)]

/-- Both workers restore before either of them executes. -/
def overlappingTurns : List (Turn (Fin 2)) :=
  [sampleTurn 0 (.restore (sampleRows [samplePropose, sampleApprove])),
    sampleTurn 1 (.restore (sampleRows [samplePropose, sampleApprove])),
    sampleTurn 0 (sampleExecution 4),
    sampleTurn 1 (sampleExecution 5)]

/-- Every step of the two schedules uses the echoing sample executor. -/
theorem sampleTurns_echo (turn : Turn (Fin 2))
    (member : turn ∈ serializedTurns ∨ turn ∈ overlappingTurns) : turn.step.Echoes := by
  simp only [serializedTurns, overlappingTurns, List.mem_cons, List.not_mem_nil, or_false] at member
  rcases member with (rfl | rfl | rfl | rfl | rfl) | rfl | rfl | rfl | rfl
  · exact True.intro
  · exact sampleExecutor_echoes
  · exact True.intro
  · exact True.intro
  · exact sampleExecutor_echoes
  · exact True.intro
  · exact True.intro
  · exact sampleExecutor_echoes
  · exact sampleExecutor_echoes

/-- A schedule is serialized when a request of another worker starts after a
whole request has persisted. -/
theorem serialized_of_sequence {W : Type} {rt : Runtime} {target : ExecutionTarget}
    {opening accepting persisting restoring executing : Step (Pool W) (Turn W)}
    {rows later : List ActionEventRecord}
    (opens : opening.label.step = .restore rows) (inOrder : target.InOrder rows)
    (persists : persisting.label = ⟨accepting.label.worker, accepting.label.request, .persist⟩)
    (restores : restoring.label.step = .restore later) (laterInOrder : target.InOrder later)
    (same : restoring.label.worker = executing.label.worker)
    (executes : forall step, step = accepting ∨ step = executing ->
      forall rows, step.label.step ≠ .restore rows) :
    Serialized rt target [opening, accepting, persisting, restoring, executing] where
  inOrder := by
    intro step read member reading
    simp only [List.mem_cons, List.not_mem_nil, or_false] at member
    rcases member with rfl | rfl | rfl | rfl | rfl
    · cases opens.symm.trans reading
      exact inOrder
    · exact absurd reading (executes step (Or.inl rfl) read)
    · rw [persists] at reading
      cases reading
    · cases restores.symm.trans reading
      exact laterInOrder
    · exact absurd reading (executes step (Or.inr rfl) read)
  handedOver := by
    have quiet : forall step, step = opening ∨ step = persisting ∨ step = restoring ->
        acceptsWrite rt target step = false ∧
          forall draws cancelOrder currentState,
            step.label.step ≠ .execute draws cancelOrder currentState := by
      rintro step (rfl | rfl | rfl)
      · simp [acceptsWrite, opens]
      · simp [acceptsWrite, persists]
      · simp [acceptsWrite, restores]
    intro front step back draws cancelOrder currentState whole call found member accepts other
    have loud : found ≠ opening ∧ found ≠ persisting ∧ found ≠ restoring := by
      refine ⟨?_, ?_, ?_⟩ <;> rintro rfl <;> simp [quiet] at accepts
    rcases front with _ | ⟨first, _ | ⟨second, _ | ⟨third, _ | ⟨fourth, front⟩⟩⟩⟩
    · cases member
    · simp only [List.cons_append, List.nil_append, List.cons.injEq] at whole
      rcases whole with ⟨rfl, -⟩
      exact absurd (List.mem_singleton.mp member) loud.1
    · simp only [List.cons_append, List.nil_append, List.cons.injEq] at whole
      rcases whole with ⟨-, -, rfl, -⟩
      exact absurd call ((quiet _ (Or.inr (Or.inl rfl))).2 _ _ _)
    · simp only [List.cons_append, List.nil_append, List.cons.injEq] at whole
      rcases whole with ⟨-, -, -, rfl, -⟩
      exact absurd call ((quiet _ (Or.inr (Or.inr rfl))).2 _ _ _)
    · cases front with
      | cons fifth front =>
          have lengths := congrArg List.length whole
          simp at lengths
      | nil =>
          simp only [List.cons_append, List.nil_append, List.cons.injEq] at whole
          rcases whole with ⟨rfl, rfl, rfl, rfl, rfl, -⟩
          simp only [List.mem_cons, List.not_mem_nil, or_false, loud, false_or] at member
          subst member
          exact ⟨persisting, restoring, List.sublist_cons_self _ _, persists, same, later, restores⟩

theorem serializedTurns_serialized : Serialized .plain sampleTarget
    ((poolSystem (Fin 2) .plain sampleTarget).trace samplePool serializedTurns).1 := by
  refine serialized_of_sequence rfl (ExecutionTarget.inOrder_of_head ?_) rfl rfl
    (ExecutionTarget.inOrder_of_head ?_) rfl ?_
  · decide +kernel
  · decide +kernel
  · rintro step (rfl | rfl) rows reading
    · cases reading
    · cases reading

theorem one_write_when_serialized_sample :
    Exists fun history : List (Step (Pool (Fin 2)) (Turn (Fin 2))) =>
      Serialized .plain sampleTarget history ∧
        (acceptedWrites .plain sampleTarget history).length ≤ 1 := by
  have admitted : (poolSystem (Fin 2) .plain sampleTarget).AdmitsAll samplePool serializedTurns := by
    decide +kernel
  have run := System.run_trace serializedTurns samplePool_starts
    (admitted.restrict (fun turn member _ => sampleTurns_echo turn (Or.inl member)))
  rw [System.restrict_trace] at run
  exact ⟨_, serializedTurns_serialized,
    one_write_when_serialized .plain sampleTarget run serializedTurns_serialized⟩

/-- Neither worker knows of the other's receipt, and the provider accepts both writes. Their
events are both persisted. -/
theorem overlapping_workers_accepted_twice :
    Exists fun history => Exists fun pool =>
      (echoingWorkers (Fin 2) .plain sampleTarget).Run history pool ∧
        (acceptedWrites .plain sampleTarget history).length = 2 := by
  have sampled : (poolSystem (Fin 2) .plain sampleTarget).AdmitsAll samplePool overlappingTurns ∧
      (acceptedWrites .plain sampleTarget ((poolSystem (Fin 2) .plain sampleTarget).trace samplePool
        overlappingTurns).1).length = 2 := by
    decide +kernel
  rcases sampled with ⟨admitted, accepted⟩
  have run : (echoingWorkers (Fin 2) .plain sampleTarget).Run _ _ :=
    System.run_trace overlappingTurns samplePool_starts
      (admitted.restrict (fun turn member _ => sampleTurns_echo turn (Or.inr member)))
  rw [echoingWorkers, System.restrict_trace] at run
  exact ⟨_, _, run, accepted⟩

end Actions
end RealityLayer
