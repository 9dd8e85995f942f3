import RealityLayer.Actions.Provenance
import RealityLayer.Api.Cluster
import RealityLayer.Api.Refusals
import RealityLayer.Api.Workspaces
import RealityLayer.Foundation.Projection

namespace RealityLayer
namespace Api

open Foundation Python WorldState Actions

/-!
# Requests on actions, session by session

A request on an action works in stages.  It arrives, and its first session reads the
policy or checks a capability.  It restores the tenant's actions from their rows.  It
acts: it resolves the order and calls the action service of its process.  It persists the
action's events.  Between two stages of a request, other requests take theirs, in the same
process and in others, so what the first session read may be outdated when the request
acts.

A fleet is any number of processes, API and worker alike, with the requests on their way
and the shared database.  The rows that a restore reads are any rows of the event table,
in any order: a request may have read them earlier, and the worker reads those of all
tenants.  What a verification read is an input, since its World State is compiled in
between.
-/

/-! ## Requests -/

/-- What a request does to an action. An attempt is the worker's verification, which restores
no rows and may be the last of several. -/
inductive Operation where
  | approve (approval : ApprovalRequest) (role : Text)
  | reject (rejection : ApprovalRequest)
  | execute
  | verify
  | attempt (isFinalAttempt : Bool)

inductive ActionRequest where
  | propose (proposal : ActionProposal) (role tenantId : Text)
  | act (operation : Operation) (actionId tenantId : Text)

/-- A request after its first session. What it read there, such as the policy of the
workspace, is not read again. -/
inductive Task where
  | propose (proposal : ActionProposal) (role tenantId : Text) (policy : WorkspacePolicy)
  | act (operation : Operation) (actionId tenantId : Text)

def Task.tenantId : Task -> Text
  | .propose _ _ tenantId _ => tenantId
  | .act _ _ tenantId => tenantId

/-- How far a request has come. A request that raises ends, and what it did to its process
before stays. -/
inductive Flight where
  | absent
  | started (task : Task)
  | restored (task : Task)
  | acted (actionId tenantId : Text)
  | ended

def Flight.after {E A : Type} (flight : Flight) : Except E A -> Flight
  | .ok _ => flight
  | .error _ => .ended

/-- What a stage takes from outside: its draws, the provider, and the state that a
verification read. -/
structure Inputs where
  draws : Draws
  cancelOrder : CancelOrderExecutor
  observed : Option OrderState

inductive Stage where
  | arrive (request : ActionRequest)
  | restore (rows : List ActionEventRecord)
  | act (inputs : Inputs)
  | persist

/-! ## Stages -/

section Stages

variable (host : Host)

/-- The capability of the Shopify connector that an operation needs. Approving and rejecting
need none, and neither does an attempt of the worker. -/
def Operation.capability? : Operation -> Option Text
  | .approve _ _ => none
  | .reject _ => none
  | .execute => some "write"
  | .verify => some "read"
  | .attempt _ => none

/-- The first session of a request. -/
def ActionRequest.start (database : Database) : ActionRequest -> Except RequestError Task
  | .propose proposal role tenantId =>
      (effectivePolicy host.rt host.float host.settings database tenantId).map
        (Task.propose proposal role tenantId)
  | .act operation actionId tenantId =>
      match operation.capability? with
      | none => .ok (.act operation actionId tenantId)
      | some capability =>
          if database.hasCapability tenantId "shopify" capability then
            .ok (.act operation actionId tenantId)
          else .error (.raised (.valueError
            ("Shopify " ++ capability ++ " capability is not enabled for this workspace.")))

/-- `resolve_order_state`, with a session. -/
def Site.resolveOrderState (rt : Runtime) (site : Site) (tenantId orderId : Text) :
    Outcome PyError Site (Option OrderState) :=
  match site.database.tables.loadState rt tenantId ("order:" ++ orderId) with
  | .error error => .raises site error
  | .ok none => .returns site (Api.resolveOrderState site.process.world tenantId orderId)
  | .ok (some state) =>
      .returns (site.withWorld (site.process.world.hydrate state none none)) (some state)

/-- Whether an operation resolves the order's state. A rejection does not ask for it, and
neither does a proposal. -/
def Operation.resolves : Operation -> Bool
  | .approve _ _ => true
  | .reject _ => false
  | .execute => true
  | .verify => false
  | .attempt _ => false

def Operation.call (inputs : Inputs) (actionId tenantId : Text) (state : Option OrderState) :
    Operation -> Call
  | .approve approval role => .approve inputs.draws actionId approval role tenantId state
  | .reject rejection => .reject inputs.draws actionId rejection tenantId
  | .execute => .execute inputs.draws actionId tenantId inputs.cancelOrder state
  | .verify => .verify inputs.draws actionId tenantId inputs.observed true
  | .attempt isFinalAttempt => .verify inputs.draws actionId tenantId inputs.observed isFinalAttempt

/-- What comes before the call of the action service. -/
def Task.prepare (site : Site) (inputs : Inputs) : Task -> Outcome RequestError Site Call
  | .propose proposal role tenantId policy =>
      match orderValueFor host.float site.process.world tenantId proposal with
      | .error error => .raises site error
      | .ok orderValue =>
          let request : ProposalRequest := ⟨proposal, role, tenantId, inputs.draws, []⟩
          .returns site (.propose inputs.draws proposal tenantId
            (request.context site.database.tables policy orderValue))
  | .act operation actionId tenantId =>
      match site.process.actions.getAction actionId tenantId with
      | .error error => .raises site (.raised error)
      | .ok action =>
          if operation.resolves then
            let resolved := site.resolveOrderState host.rt tenantId action.proposal.orderId
            match resolved.result with
            | .error error => .raises resolved.state (.raised error)
            | .ok state => .returns resolved.state (operation.call inputs actionId tenantId state)
          else .returns site (operation.call inputs actionId tenantId none)

/-- The action whose events a request persists. For a proposal it is the one that the answer
names, which may be an older one. -/
def Task.persists (answer : Answer) : Task -> Text
  | .propose _ _ _ _ =>
      match answer with
      | .decision decision => decision.actionId
      | .receipt receipt => receipt.actionId
  | .act _ actionId _ => actionId

def Task.perform (site : Site) (inputs : Inputs) (task : Task) : Outcome RequestError Site Text :=
  (task.prepare host site inputs).andThen (fun prepared call =>
    let outcome := prepared.process.actions.perform host.rt call
    match outcome.result with
    | .error error => .raises (prepared.withActions outcome.state) (.raised error)
    | .ok answer => .returns (prepared.withActions outcome.state) (task.persists answer))

/-- One stage of a request; a stage that is not the request's next one does nothing. -/
def Stage.serve (site : Site) (flight : Flight) : Stage -> Site × Flight
  | .arrive request =>
      match flight with
      | .absent =>
          match request.start host site.database with
          | .error _ => (site, .ended)
          | .ok task => (site, .started task)
      | other => (site, other)
  | .restore rows =>
      match flight with
      | .started task =>
          let outcome := site.process.actions.restoreAll host.rt rows
          (site.withActions outcome.state, (Flight.restored task).after outcome.result)
      | other => (site, other)
  | .act inputs =>
      match flight with
      | .restored task =>
          let outcome := task.perform host site inputs
          (outcome.state, match outcome.result with
            | .error _ => .ended
            | .ok actionId => .acted actionId task.tenantId)
      | other => (site, other)
  | .persist =>
      match flight with
      | .acted actionId tenantId =>
          match persistEventsOf site.database site.process.actions actionId tenantId with
          | .error _ => (site, .ended)
          | .ok database => ({ site with database }, .ended)
      | other => (site, other)

/-- The stages of a request, one after the other. No other request comes between them here. -/
def serveAll (site : Site) (flight : Flight) (stages : List Stage) : Site × Flight :=
  stages.foldl (fun reached stage => stage.serve host reached.1 reached.2) (site, flight)

/-- Without other requests in between, the stages of a proposal are `propose_action`. So the
stages are the request, cut where another process may come in. -/
theorem serveAll_propose (site : Site) (request : ProposalRequest) (cancelOrder : CancelOrderExecutor)
    (observed : Option OrderState) :
    (serveAll host site .absent [.arrive (.propose request.proposal request.role request.tenantId),
      .restore request.rows, .act ⟨request.draws, cancelOrder, observed⟩, .persist]).1 =
        (proposeAction host.rt host.float host.settings site request).state := by
  unfold serveAll proposeAction
  simp only [List.foldl_cons, List.foldl_nil, Stage.serve, ActionRequest.start]
  cases effective : effectivePolicy host.rt host.float host.settings site.database request.tenantId with
  | error error => rfl
  | ok policy =>
      simp only [Except.map]
      cases restored : (site.process.actions.restoreAll host.rt request.rows).result with
      | error error => rfl
      | ok _ =>
          simp only [Flight.after, Task.perform, Task.prepare]
          rw [show orderValueFor host.float (site.withActions (site.process.actions.restoreAll host.rt
            request.rows).state).process.world request.tenantId request.proposal =
              orderValueFor host.float site.process.world request.tenantId request.proposal from rfl]
          cases priced : orderValueFor host.float site.process.world request.tenantId
              request.proposal with
          | error error => rfl
          | ok orderValue =>
              dsimp only [Outcome.andThen, Outcome.returns, Site.withActions, ProposalRequest.context,
                ActionService.perform, Outcome.map, Task.persists, Task.tenantId]
              generalize (site.process.actions.restoreAll host.rt request.rows).state.propose host.rt
                request.draws request.proposal request.tenantId _ = proposed
              rcases proposed with ⟨actions, result⟩
              cases result with
              | error error => rfl
              | ok decision =>
                  dsimp only [Except.map]
                  cases persistEventsOf site.database actions decision.actionId request.tenantId with
                  | error error => rfl
                  | ok database => rfl

end Stages

/-! ## The fleet -/

/-- The way a call on workspaces comes in. The API asks for a role, and the command line does
not. -/
inductive Entrance where
  | commandLine
  | api (role : Text)

/-- The roles that may change the mode of a workspace. -/
def modeRoles : List Text := ["operations", "admin", "system"]

/-- `set_workspace_mode` asks for a role.  The API has no other endpoint that writes a
workspace. -/
def Entrance.lets : Entrance -> DirectoryCall -> Bool
  | .commandLine, _ => true
  | .api role, .setMode _ _ => decide (role ∈ modeRoles)
  | .api _, .initializeWorkspace _ _ _ => false
  | .api _, .recordConnectorChecks _ _ => false

structure Fleet (W : Type) where
  processes : W -> Process
  flights : W × Nat -> Flight
  directory : Directory
  tables : Tables
  events : List ActionEventRecord

/-- What happens to a fleet: a stage of a request, a restart, a call on workspaces, or a
change of World State by any other request. -/
inductive Move (W : Type) where
  | serve (worker : W) (number : Nat) (stage : Stage)
  | restart (worker : W)
  | operate (entrance : Entrance) (call : DirectoryCall)
  | compile (worker : W) (world : WorldStateService) (tables : Tables)

namespace Fleet

variable {W : Type}

def database (fleet : Fleet W) : Database := fleet.directory.database fleet.tables fleet.events

/-- One process of a fleet in front of the database. -/
def site (fleet : Fleet W) (worker : W) : Site := ⟨fleet.processes worker, fleet.database⟩

variable [DecidableEq W]

/-- Take over what a stage left. The requests of the other processes are where they were. -/
def served (fleet : Fleet W) (worker : W) (number : Nat) (left : Site × Flight) : Fleet W where
  processes := Function.update fleet.processes worker left.1.process
  flights := Function.update fleet.flights (worker, number) left.2
  directory := fleet.directory
  tables := left.1.database.tables
  events := left.1.database.events

/-- A restart loses the services of the process and ends its requests. The database keeps
what was committed. -/
def restarted (fleet : Fleet W) (worker : W) : Fleet W :=
  { fleet with
    processes := Function.update fleet.processes worker .fresh
    flights := fun request => if request.1 = worker then .ended else fleet.flights request }

def next (host : Host) (fleet : Fleet W) : Move W -> Fleet W
  | .serve worker number stage =>
      fleet.served worker number
        (stage.serve host (fleet.site worker) (fleet.flights (worker, number)))
  | .restart worker => fleet.restarted worker
  | .operate entrance call =>
      if entrance.lets call then { fleet with directory := call.after host.rt fleet.directory }
      else fleet
  | .compile worker world tables =>
      { fleet with
        processes := Function.update fleet.processes worker { fleet.processes worker with world }
        tables }

/-- A restore reads rows of the event table. Nothing is said of their order, since the source
asks for none. -/
def Admits (fleet : Fleet W) : Move W -> Prop
  | .serve _ _ (.restore rows) => forall row, row ∈ rows -> row ∈ fleet.events
  | _ => True

end Fleet

instance {W : Type} (fleet : Fleet W) : (move : Move W) -> Decidable (fleet.Admits move)
  | .serve _ _ (.restore rows) => inferInstanceAs (Decidable (forall row, row ∈ rows -> row ∈ fleet.events))
  | .serve _ _ (.arrive _) => isTrue trivial
  | .serve _ _ (.act _) => isTrue trivial
  | .serve _ _ .persist => isTrue trivial
  | .restart _ => isTrue trivial
  | .operate _ _ => isTrue trivial
  | .compile _ _ _ => isTrue trivial

/-- A fleet from fresh processes, no requests, no workspaces and no events on. Stages of
different requests may come in any order. -/
def fleetSystem (W : Type) [DecidableEq W] (host : Host) : System (Fleet W) (Move W) where
  start := fun fleet => (forall worker, fleet.processes worker = .fresh) ∧
    (forall request, fleet.flights request = .absent) ∧ fleet.directory = .empty ∧ fleet.events = []
  admits := fun fleet move => fleet.Admits move
  next := fun fleet move => fleet.next host move

instance {W : Type} [DecidableEq W] (host : Host) (fleet : Fleet W) (move : Move W) :
    Decidable ((fleetSystem W host).admits fleet move) :=
  inferInstanceAs (Decidable (fleet.Admits move))

/-- The workspaces of a fleet, as a system of their own. -/
def directoryPart (W : Type) [DecidableEq W] (host : Host) :
    Projection (fleetSystem W host) (directorySystem host.rt) where
  state := Fleet.directory
  label := fun _ move =>
    match move with
    | .operate entrance call => if entrance.lets call then some call else none
    | .serve _ _ _ => none
    | .restart _ => none
    | .compile _ _ _ => none
  starts := fun _ starts => starts.2.2.1
  moves := by
    intro fleet move call _ seen
    refine ⟨trivial, ?_⟩
    cases move with
    | operate entrance made =>
        dsimp only at seen
        split at seen
        next lets =>
          cases seen
          exact congrArg Fleet.directory (if_pos lets)
        next => cases seen
    | serve worker number stage => cases seen
    | restart worker => cases seen
    | compile worker world tables => cases seen
  stays := by
    intro fleet move _ silent
    cases move with
    | operate entrance made =>
        dsimp only at silent
        split at silent
        next => cases silent
        next shut => exact congrArg Fleet.directory (if_neg shut)
    | serve worker number stage => rfl
    | restart worker => rfl
    | compile worker world tables => rfl

/-! ## The calls of a move -/

section Calls

variable {W : Type} (host : Host)

/-- The call of the action service that a stage makes. -/
def Stage.call? (site : Site) (flight : Flight) : Stage -> Option Call
  | .act inputs =>
      match flight with
      | .restored task => (task.prepare host site inputs).result.toOption
      | _ => none
  | _ => none

/-- The call of the action service that a move makes, with the process that makes it.
Restores and writes to the table make none. -/
def Fleet.call? (fleet : Fleet W) : Move W -> Option (W × Call)
  | .serve worker number stage =>
      (stage.call? host (fleet.site worker) (fleet.flights (worker, number))).map (fun call =>
        (worker, call))
  | _ => none

/-- The write that a move sends to the provider. Only an execute stage sends one, and only if
nothing stops it. -/
def Fleet.write? (fleet : Fleet W) (move : Move W) : Option ProviderCall :=
  (fleet.call? host move).bind (fun made =>
    (fleet.processes made.1).actions.invokes host.rt made.2)

/-- The identifier that a move draws for a new action. -/
def Fleet.drawn? (fleet : Fleet W) (move : Move W) : Option Text :=
  (fleet.call? host move).bind (fun made =>
    match made.2 with
    | .propose draws proposal tenantId _ =>
        if (fleet.processes made.1).actions.idempotency.get? (tenantId, proposal.idempotencyKey) = none
        then some (ActionService.newActionId draws) else none
    | _ => none)

theorem Fleet.call?_cases {fleet : Fleet W} {move : Move W} {worker : W} {call : Call}
    (made : fleet.call? host move = some (worker, call)) :
    Exists fun number : Nat => Exists fun inputs : Inputs => Exists fun task : Task =>
      move = .serve worker number (.act inputs) ∧
        fleet.flights (worker, number) = .restored task ∧
        (task.prepare host (fleet.site worker) inputs).result = .ok call := by
  cases move with
  | restart other => cases made
  | operate entrance visible => cases made
  | compile other world tables => cases made
  | serve other number stage =>
      rcases Option.map_eq_some_iff.mp made with ⟨called, seen, same⟩
      cases same
      cases stage with
      | arrive request => cases seen
      | restore rows => cases seen
      | persist => cases seen
      | act inputs =>
          cases flight : fleet.flights (worker, number) with
          | restored task =>
              rw [flight] at seen
              exact ⟨number, inputs, task, rfl, flight, ok_of_toOption seen⟩
          | absent => rw [flight] at seen; cases seen
          | started task => rw [flight] at seen; cases seen
          | acted actionId tenantId => rw [flight] at seen; cases seen
          | ended => rw [flight] at seen; cases seen

/-- A prepared call is the one that the task asks for. -/
theorem Task.prepare_cases {site : Site} {inputs : Inputs} {task : Task} {call : Call}
    (prepared : (task.prepare host site inputs).result = .ok call) :
    (Exists fun proposal => Exists fun role => Exists fun tenantId => Exists fun policy =>
      Exists fun orderValue => task = .propose proposal role tenantId policy ∧
        call = .propose inputs.draws proposal tenantId
          ((ProposalRequest.mk proposal role tenantId inputs.draws []).context site.database.tables
            policy orderValue)) ∨
      Exists fun operation : Operation => Exists fun actionId => Exists fun tenantId =>
        Exists fun state => task = .act operation actionId tenantId ∧
          call = operation.call inputs actionId tenantId state ∧
          forall action, site.process.actions.getAction actionId tenantId = .ok action ->
            operation.resolves = true ->
              (site.resolveOrderState host.rt tenantId action.proposal.orderId).result = .ok state := by
  unfold Task.prepare at prepared
  cases task with
  | propose proposal role tenantId policy =>
      dsimp only at prepared
      cases priced : orderValueFor host.float site.process.world tenantId proposal with
      | error error =>
          rw [priced] at prepared
          cases prepared
      | ok orderValue =>
          rw [priced] at prepared
          cases prepared
          exact Or.inl ⟨proposal, role, tenantId, policy, orderValue, rfl, rfl⟩
  | act operation actionId tenantId =>
      dsimp only at prepared
      cases stored : site.process.actions.getAction actionId tenantId with
      | error error =>
          rw [stored] at prepared
          cases prepared
      | ok action =>
          rw [stored] at prepared
          dsimp only at prepared
          by_cases resolves : operation.resolves = true
          · rw [if_pos resolves] at prepared
            cases resolved : (site.resolveOrderState host.rt tenantId action.proposal.orderId).result with
            | error error =>
                rw [resolved] at prepared
                cases prepared
            | ok state =>
                rw [resolved] at prepared
                cases prepared
                refine Or.inr ⟨operation, actionId, tenantId, state, rfl, rfl, ?_⟩
                intro other held _
                rw [stored] at held
                cases held
                exact resolved
          · rw [if_neg resolves] at prepared
            cases prepared
            exact Or.inr ⟨operation, actionId, tenantId, none, rfl, rfl,
              fun _ _ other => absurd other resolves⟩

/-! ## What a stage does -/

/-- Preparing a call touches neither the actions nor the database. -/
theorem Task.prepare_frame (site : Site) (inputs : Inputs) (task : Task) :
    (task.prepare host site inputs).state.process.actions = site.process.actions ∧
      (task.prepare host site inputs).state.database = site.database := by
  have resolved : forall tenantId orderId : Text,
      (site.resolveOrderState host.rt tenantId orderId).state.process.actions = site.process.actions ∧
        (site.resolveOrderState host.rt tenantId orderId).state.database = site.database := by
    intro tenantId orderId
    unfold Site.resolveOrderState
    rcases site.database.tables.loadState host.rt tenantId ("order:" ++ orderId) with error | state
    · exact ⟨rfl, rfl⟩
    · cases state <;> exact ⟨rfl, rfl⟩
  unfold Task.prepare
  cases task with
  | propose proposal role tenantId policy =>
      dsimp only
      split <;> exact ⟨rfl, rfl⟩
  | act operation actionId tenantId =>
      dsimp only
      split
      · exact ⟨rfl, rfl⟩
      next action stored =>
        split
        · split
          · exact resolved tenantId action.proposal.orderId
          · exact resolved tenantId action.proposal.orderId
        · exact ⟨rfl, rfl⟩

/-- Acting makes the prepared call, and changes nothing else of the actions. -/
theorem Task.perform_actions (site : Site) (inputs : Inputs) (task : Task) :
    (task.perform host site inputs).state.process.actions =
        (match (task.prepare host site inputs).result.toOption with
          | some call => (site.process.actions.perform host.rt call).state
          | none => site.process.actions) ∧
      (task.perform host site inputs).state.database = site.database := by
  rcases task.prepare_frame host site inputs with ⟨actions, database⟩
  unfold Task.perform Outcome.andThen
  cases prepared : (task.prepare host site inputs).result with
  | error error => exact ⟨actions, database⟩
  | ok call =>
      dsimp only [Except.toOption]
      rw [actions]
      cases (site.process.actions.perform host.rt call).result with
      | error error => exact ⟨rfl, database⟩
      | ok answer => exact ⟨rfl, database⟩

/-- What a stage does to the actions of its process and to the event table. A stage does one
of the two at most, so a crash between stages loses nothing that was written. -/
inductive StageEffect (site : Site) (flight : Flight) :
    Stage -> ActionService -> List ActionEventRecord -> Prop
  | idle (stage : Stage) : StageEffect site flight stage site.process.actions site.database.events
  | restored (rows : List ActionEventRecord) : StageEffect site flight (.restore rows)
      (site.process.actions.restoreAll host.rt rows).state site.database.events
  | called (stage : Stage) (call : Call) (made : stage.call? host site flight = some call) :
      StageEffect site flight stage (site.process.actions.perform host.rt call).state
        site.database.events
  | persisted (actionId : Text) :
      StageEffect site flight .persist site.process.actions
        (persistActionEvents site.database.events (site.process.actions.eventsOf actionId))

theorem Stage.serve_effect (site : Site) (flight : Flight) (stage : Stage) :
    StageEffect host site flight stage (stage.serve host site flight).1.process.actions
      (stage.serve host site flight).1.database.events := by
  cases stage with
  | arrive request =>
      unfold Stage.serve
      cases flight with
      | absent =>
          dsimp only
          cases request.start host site.database with
          | error error => exact .idle _
          | ok task => exact .idle _
      | started task => exact .idle _
      | restored task => exact .idle _
      | acted actionId tenantId => exact .idle _
      | ended => exact .idle _
  | restore rows =>
      cases flight with
      | started task => exact .restored rows
      | absent => exact .idle _
      | restored task => exact .idle _
      | acted actionId tenantId => exact .idle _
      | ended => exact .idle _
  | act inputs =>
      cases flight with
      | restored task =>
          rcases task.perform_actions host site inputs with ⟨actions, database⟩
          have left : (Stage.serve host site (.restored task) (.act inputs)).1 =
            (task.perform host site inputs).state := rfl
          rw [left, actions, database]
          cases made : (task.prepare host site inputs).result.toOption with
          | none => exact .idle _
          | some call => exact .called _ call made
      | absent => exact .idle _
      | started task => exact .idle _
      | acted actionId tenantId => exact .idle _
      | ended => exact .idle _
  | persist =>
      cases flight with
      | acted actionId tenantId =>
          unfold Stage.serve
          dsimp only
          unfold persistEventsOf ActionService.listEvents
          cases site.process.actions.getAction actionId tenantId with
          | error error => exact .idle _
          | ok action => exact .persisted actionId
      | absent => exact .idle _
      | started task => exact .idle _
      | restored task => exact .idle _
      | ended => exact .idle _

/-- The task of a request that has not acted yet. -/
def Flight.task? : Flight -> Option Task
  | .absent => none
  | .started task => some task
  | .restored task => some task
  | .acted _ _ => none
  | .ended => none

/-- A request has the task that its first session made of it. -/
theorem Stage.serve_task {site : Site} {flight : Flight} {stage : Stage} {task : Task}
    (carries : (stage.serve host site flight).2.task? = some task) :
    flight.task? = some task ∨ Exists fun request : ActionRequest =>
      stage = .arrive request ∧ request.start host site.database = .ok task := by
  cases stage with
  | arrive request =>
      cases flight with
      | absent =>
          unfold Stage.serve at carries
          dsimp only at carries
          cases begun : request.start host site.database with
          | error error =>
              rw [begun] at carries
              cases carries
          | ok other =>
              rw [begun] at carries
              cases carries
              exact Or.inr ⟨request, rfl, begun⟩
      | started other => exact Or.inl carries
      | restored other => exact Or.inl carries
      | acted actionId tenantId => exact Or.inl carries
      | ended => exact Or.inl carries
  | restore rows =>
      cases flight with
      | started other =>
          unfold Stage.serve at carries
          dsimp only at carries
          cases restored : (site.process.actions.restoreAll host.rt rows).result with
          | error error =>
              rw [restored] at carries
              cases carries
          | ok _ =>
              rw [restored] at carries
              exact Or.inl carries
      | absent => exact Or.inl carries
      | restored other => exact Or.inl carries
      | acted actionId tenantId => exact Or.inl carries
      | ended => exact Or.inl carries
  | act inputs =>
      cases flight with
      | restored other =>
          unfold Stage.serve at carries
          dsimp only at carries
          split at carries <;> cases carries
      | absent => exact Or.inl carries
      | started other => exact Or.inl carries
      | acted actionId tenantId => exact Or.inl carries
      | ended => exact Or.inl carries
  | persist =>
      cases flight with
      | acted actionId tenantId =>
          unfold Stage.serve at carries
          dsimp only at carries
          split at carries <;> cases carries
      | absent => exact Or.inl carries
      | started other => exact Or.inl carries
      | restored other => exact Or.inl carries
      | ended => exact Or.inl carries

end Calls

/-! ## Warrants over a run -/

/-- A warrant that grows with the history of a fleet, and that every call keeps. The rows
that a process restores are under it already, because some process wrote them. -/
structure Upheld {W : Type} (host : Host) (warrants : List (Step (Fleet W) (Move W)) -> Warrant) :
    Prop where
  restorable : forall history, (warrants history).Restorable
  actions : forall history step actionId action, (warrants history).action actionId action ->
    (warrants (history ++ [step])).action actionId action
  events : forall history step event, (warrants history).event event ->
    (warrants (history ++ [step])).event event
  performed : forall history (fleet after : Fleet W) move worker call,
    (warrants history).Covers (fleet.processes worker).actions ->
      fleet.call? host move = some (worker, call) ->
        (warrants (history ++ [⟨fleet, move, after⟩])).Covers
          ((fleet.processes worker).actions.perform host.rt call).state

/-- Every process and every row of the event table is under the warrant. Rows in flight need
no place of their own: they are read from a process that holds them. -/
structure Fleet.Under {W : Type} (warrant : Warrant) (fleet : Fleet W) : Prop where
  processes : forall worker, warrant.Covers (fleet.processes worker).actions
  table : forall event, event ∈ fleet.events -> warrant.event event

section Runs

variable {W : Type} {host : Host} {warrants : List (Step (Fleet W) (Move W)) -> Warrant}
variable {history : List (Step (Fleet W) (Move W))} {fleet : Fleet W}

theorem Upheld.extend (upheld : Upheld host warrants) {service : ActionService}
    (covers : (warrants history).Covers service) (step : Step (Fleet W) (Move W)) :
    (warrants (history ++ [step])).Covers service :=
  covers.mono (upheld.actions history step) (upheld.events history step)

/-- A stage leaves only what the longer history warrants. -/
theorem Upheld.stage (upheld : Upheld host warrants) (under : fleet.Under (warrants history))
    {worker : W} {number : Nat} {stage : Stage} {actions : ActionService}
    {events : List ActionEventRecord} (after : Fleet W)
    (admitted : fleet.Admits (.serve worker number stage))
    (effect : StageEffect host (fleet.site worker) (fleet.flights (worker, number)) stage actions
      events) :
    (warrants (history ++ [⟨fleet, .serve worker number stage, after⟩])).Covers actions ∧
      forall event, event ∈ events ->
        (warrants (history ++ [⟨fleet, .serve worker number stage, after⟩])).event event := by
  let step : Step (Fleet W) (Move W) := ⟨fleet, .serve worker number stage, after⟩
  have kept := upheld.extend (under.processes worker) step
  have table : forall event, event ∈ fleet.events -> (warrants (history ++ [step])).event event :=
    fun event member => upheld.events history step event (under.table event member)
  cases effect with
  | idle => exact ⟨kept, table⟩
  | restored rows =>
      exact ⟨kept.restoreAll (upheld.restorable _) rows
        (fun row member => table row (admitted row member)), table⟩
  | called _ call made =>
      have called : fleet.call? host (.serve worker number stage) = some (worker, call) :=
        congrArg (Option.map (fun call => (worker, call))) made
      exact ⟨upheld.performed history fleet after _ worker call (under.processes worker) called, table⟩
  | persisted actionId =>
      refine ⟨kept, fun event member => ?_⟩
      rcases mem_persistActionEvents _ member with earlier | logged
      · exact table event earlier
      · exact kept.events event ⟨actionId, logged⟩

variable [DecidableEq W]

theorem Upheld.step (upheld : Upheld host warrants) (under : fleet.Under (warrants history))
    (move : Move W) (admitted : fleet.Admits move) :
    (fleet.next host move).Under (warrants (history ++ [⟨fleet, move, fleet.next host move⟩])) := by
  let step : Step (Fleet W) (Move W) := ⟨fleet, move, fleet.next host move⟩
  have processes := fun worker => upheld.extend (under.processes worker) step
  have table : forall event, event ∈ fleet.events -> (warrants (history ++ [step])).event event :=
    fun event member => upheld.events history step event (under.table event member)
  have elsewhere : forall (worker : W) (process : Process),
      (warrants (history ++ [step])).Covers process.actions -> forall other,
        (warrants (history ++ [step])).Covers
          (Function.update fleet.processes worker process other).actions := by
    intro worker process covers
    exact (Function.forall_update_iff fleet.processes
      (fun _ process => (warrants (history ++ [step])).Covers process.actions)).mpr
        ⟨covers, fun other _ => processes other⟩
  cases move with
  | restart worker => exact ⟨elsewhere worker .fresh (.fresh _), table⟩
  | operate entrance call =>
      change Fleet.Under (warrants (history ++ [step]))
        (if entrance.lets call then { fleet with directory := call.after host.rt fleet.directory }
          else fleet)
      split
      · exact ⟨processes, table⟩
      · exact ⟨processes, table⟩
  | compile worker world tables =>
      exact ⟨elsewhere worker { fleet.processes worker with world } (processes worker), table⟩
  | serve worker number stage =>
      rcases upheld.stage under (fleet.next host (.serve worker number stage)) admitted
        (stage.serve_effect host (fleet.site worker) (fleet.flights (worker, number))) with
          ⟨actions, events⟩
      exact ⟨elsewhere worker _ actions, events⟩

/-- In every run, every process and every row is under the warrant. What a process holds may
be out of date all the same. -/
theorem Upheld.of_run (upheld : Upheld host warrants) (run : (fleetSystem W host).Run history fleet) :
    fleet.Under (warrants history) := by
  induction run with
  | begin initial =>
      rcases initial with ⟨fresh, _, _, empty⟩
      refine ⟨fun worker => ?_, fun event member => ?_⟩
      · rw [fresh]
        exact .fresh _
      · rw [empty] at member
        cases member
  | extend move earlier admitted ih => exact upheld.step ih move admitted

end Runs

end Api
end RealityLayer
