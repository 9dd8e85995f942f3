import Mathlib.Data.List.Pairwise
import RealityLayer.Actions.Orders
import RealityLayer.Actions.Provenance
import RealityLayer.Api.Fleet

namespace RealityLayer
namespace Api

open Foundation Python WorldState Actions

/-!
# Writes are governed

Only data ties a write to the decisions before it: a mode in a row, a status in memory, an
event in a table.  The processes read these at different times, and rebuild each other's
actions from rows in any order.

Still no schedule gets around the decisions.  Whenever any process sends a write, four
steps lie behind it, in this order: an operator opened the tenant's workspace for
proposals, a request arrived and read that mode, it registered the action, and the
required role approved it.  Besides, a connector check recorded the write capability
before the request that writes arrived and found it.

The proof carries a warrant through the run: every action that a process holds was
registered by a step of the history, and every approval, as a status or as an event, was
granted by one.
-/

/-! ## The steps behind a write -/

/-- The request that registers an action: who serves it, the policy that it read, and what
it draws. -/
structure Filing (W : Type) where
  worker : W
  number : Nat
  policy : WorkspacePolicy
  draws : Draws
  context : PolicyContext

/-- An action as a process holds it goes back to the action that was registered.  A
proposal that was restored has been through JSON. -/
structure Follows (base held : StoredAction) : Prop where
  proposal : held.proposal = base.proposal ∨ held.proposal = base.proposal.jsonMode
  tenant : held.tenantId = base.tenantId
  required : held.decision.requiredRole = base.decision.requiredRole

section Steps

variable {W : Type} (host : Host)

/-- A step registers a new action. The policy that it uses was read in an earlier session of
the request, and may have changed since. -/
structure Registers (actionId : Text) (base : StoredAction) (filing : Filing W)
    (step : Step (Fleet W) (Move W)) : Prop where
  asked : step.before.flights (filing.worker, filing.number) =
    .restored (.propose base.proposal base.proposerRole base.tenantId filing.policy)
  made : step.before.call? host step.label =
    some (filing.worker, .propose filing.draws base.proposal base.tenantId filing.context)
  unclaimed : (step.before.processes filing.worker).actions.idempotency.get?
    (base.tenantId, base.proposal.idempotencyKey) = none
  named : ActionService.newActionId filing.draws = actionId
  judged : base = createdAction host.rt filing.draws base.proposal base.tenantId filing.context
  mode : filing.context.workspaceMode = filing.policy.mode

/-- A step approves an action that its process holds. The process may have restored the
action from rows, so it is compared with the registered one elsewhere. -/
structure Grants (actionId : Text) (held : StoredAction) (role : Text) (state : OrderState)
    (step : Step (Fleet W) (Move W)) : Prop where
  made : Exists fun worker : W => Exists fun draws => Exists fun approval =>
    step.before.call? host step.label =
        some (worker, .approve draws actionId approval role held.tenantId (some state)) ∧
      (step.before.processes worker).actions.actions.get? actionId = some held
  waited : held.decision.status = .approvalRequired
  required : some role = held.decision.requiredRole
  preconditions : MeetsPreconditions held.proposal state

/-- An action was registered, and later approved. Who approved it is not part of this. -/
def Granted (history : List (Step (Fleet W) (Move W))) (actionId : Text) : Prop :=
  Exists fun registration => Exists fun filing : Filing W => Exists fun base => Exists fun grant =>
    Exists fun held => Exists fun role => Exists fun state =>
      [registration, grant].Sublist history ∧ Registers host actionId base filing registration ∧
        base.decision.status = .approvalRequired ∧ Follows base held ∧
        Grants host actionId held role state grant

/-- An action that some process holds was registered, and approved if it is approved. It need
not have been registered by that process. -/
structure Sourced (history : List (Step (Fleet W) (Move W))) (actionId : Text)
    (action : StoredAction) : Prop where
  registered : Exists fun registration => Exists fun filing : Filing W => Exists fun base =>
    registration ∈ history ∧ Registers host actionId base filing registration ∧
      Follows base action ∧
      (action.decision.status = .approvalRequired -> base.decision.status = .approvalRequired)
  approved : action.decision.status = .approved -> Granted host history actionId

/-- An event tells of a registration or of an approval that took place. The other events are
not needed here: they lead no action towards a write. -/
structure Attested (history : List (Step (Fleet W) (Move W))) (event : ActionEventRecord) : Prop where
  policy : event.eventType = "policy_evaluated" -> Exists fun registration =>
    Exists fun filing : Filing W => Exists fun base => registration ∈ history ∧
      Registers host event.actionId base filing registration ∧ event.tenantId = base.tenantId ∧
      event.payload = ActionService.policyPayload base.decision base.proposal
  approved : event.eventType = "approved" -> Granted host history event.actionId

/-- A request arrives, and its first session makes a task of it. A request whose first
session raises never becomes one. -/
structure Arrives (worker : W) (number : Nat) (task : Task) (step : Step (Fleet W) (Move W)) : Prop where
  arrives : Exists fun request : ActionRequest => step.label = .serve worker number (.arrive request) ∧
    request.start host step.before.database = .ok task

/-- What the history warrants. -/
def governed (history : List (Step (Fleet W) (Move W))) : Warrant :=
  ⟨Sourced host history, Attested host history⟩

end Steps

/-! ## The warrant -/

section Warrants

variable {W : Type} {host : Host} {history : List (Step (Fleet W) (Move W))}
variable {actionId : Text}

theorem Follows.refl (base : StoredAction) : Follows base base := ⟨Or.inl rfl, rfl, rfl⟩

theorem restoredStatus?_waiting (eventType : Text) :
    ActionService.restoredStatus? eventType ≠ some .approvalRequired := by
  unfold ActionService.restoredStatus?
  simp only [Dict.lookup]
  repeat' split
  all_goals exact fun same => by cases same

theorem restoredStatus?_approved {eventType : Text}
    (approved : ActionService.restoredStatus? eventType = some .approved) : eventType = "approved" := by
  unfold ActionService.restoredStatus? at approved
  simp only [Dict.lookup] at approved
  split at approved
  next same => exact same.symm
  next =>
    exfalso
    revert approved
    repeat' split
    all_goals exact fun same => by cases same

theorem Registers.status {base : StoredAction} {filing : Filing W} {step : Step (Fleet W) (Move W)}
    (registers : Registers host actionId base filing step) :
    base.decision.status = .denied ∨ base.decision.status = .approvalRequired := by
  rw [registers.judged]
  exact evaluatePolicy_status host.rt _ _ _

/-- What a history warrants, every longer one does. -/
theorem Granted.extend (granted : Granted host history actionId) (step : Step (Fleet W) (Move W)) :
    Granted host (history ++ [step]) actionId := by
  rcases granted with ⟨registration, filing, base, grant, held, role, state, order, rest⟩
  exact ⟨registration, filing, base, grant, held, role, state,
    order.trans (List.sublist_append_left _ _), rest⟩

theorem Sourced.extend {action : StoredAction} (sourced : Sourced host history actionId action)
    (step : Step (Fleet W) (Move W)) : Sourced host (history ++ [step]) actionId action where
  registered := by
    rcases sourced.registered with ⟨registration, filing, base, member, rest⟩
    exact ⟨registration, filing, base, List.mem_append_left _ member, rest⟩
  approved := fun status => (sourced.approved status).extend step

theorem Attested.extend {event : ActionEventRecord} (attested : Attested host history event)
    (step : Step (Fleet W) (Move W)) : Attested host (history ++ [step]) event where
  policy := by
    intro kind
    rcases attested.policy kind with ⟨registration, filing, base, member, rest⟩
    exact ⟨registration, filing, base, List.mem_append_left _ member, rest⟩
  approved := fun kind => (attested.approved kind).extend step

/-- Restoring makes of an event only what the event attests. -/
theorem governed_restorable (history : List (Step (Fleet W) (Move W))) :
    (governed host history).Restorable where
  policy := by
    intro event proposal decision attested kind reads
    rcases attested.policy kind with ⟨registration, filing, base, member, registers, tenant, payload⟩
    have carried := readsPolicy_of_payload payload
    rcases reads with ⟨⟨data, proposed, readProposal⟩, ⟨data', decided, readDecision⟩⟩
    rcases carried with ⟨⟨written, proposed', readProposal'⟩, ⟨written', decided', readDecision'⟩⟩
    rw [proposed'] at proposed
    cases proposed
    rw [readProposal'] at readProposal
    cases readProposal
    rw [decided'] at decided
    cases decided
    rw [readDecision'] at readDecision
    cases readDecision
    refine ⟨⟨registration, filing, base, member, registers, ⟨Or.inr rfl, tenant, rfl⟩, id⟩, ?_⟩
    intro approved
    rcases registers.status with denied | waiting
    · rw [denied] at approved
      cases approved
    · rw [waiting] at approved
      cases approved
  status := by
    intro event action status reason attested restored sourced
    rcases sourced.registered with ⟨registration, filing, base, member, registers, follows, _⟩
    refine ⟨⟨registration, filing, base, member, registers,
      ⟨follows.proposal, follows.tenant, follows.required⟩, ?_⟩, ?_⟩
    · intro waiting
      have same : status = .approvalRequired := waiting
      rw [same] at restored
      exact absurd restored (restoredStatus?_waiting _)
    · intro approved
      have same : status = .approved := approved
      rw [same] at restored
      exact attested.approved (restoredStatus?_approved restored)

/-- A proposal of a running request is judged under the policy that the request read. -/
theorem registers_of_call {fleet : Fleet W} (after : Fleet W) {move : Move W} {worker : W}
    {draws : Draws} {proposal : ActionProposal} {tenantId : Text} {context : PolicyContext}
    (made : fleet.call? host move = some (worker, .propose draws proposal tenantId context))
    (unclaimed : (fleet.processes worker).actions.idempotency.get?
      (tenantId, proposal.idempotencyKey) = none) :
    Exists fun filing : Filing W => Registers host (ActionService.newActionId draws)
      (createdAction host.rt draws proposal tenantId context) filing ⟨fleet, move, after⟩ := by
  rcases Fleet.call?_cases host made with ⟨number, inputs, task, rfl, flight, prepared⟩
  rcases Task.prepare_cases host prepared with
    ⟨asked, role, tenant, policy, orderValue, rfl, same⟩ | ⟨operation, actionId, tenant, state, rfl, same, _⟩
  · cases same
    exact ⟨⟨worker, number, policy, inputs.draws, _⟩, flight, made, unclaimed, rfl, rfl, rfl⟩
  · cases operation <;> cases same

/-- What the call of a step warrants. -/
theorem governed_perform {fleet after : Fleet W} {move : Move W} {worker : W} {call : Call}
    (covers : (governed host history).Covers (fleet.processes worker).actions)
    (made : fleet.call? host move = some (worker, call)) :
    (governed host (history ++ [⟨fleet, move, after⟩])).Covers
      ((fleet.processes worker).actions.perform host.rt call).state := by
  let step : Step (Fleet W) (Move W) := ⟨fleet, move, after⟩
  have last : step ∈ history ++ [step] := List.mem_append_right _ (List.mem_singleton_self _)
  -- An approving verdict makes this step the grant of a registration before it.
  have granted : forall actionId tenantId action verdict,
      (fleet.processes worker).actions.actions.get? actionId = some action ->
      action.tenantId = tenantId -> Decides host.rt action call actionId tenantId verdict ->
      verdict.status = .approved -> Granted host (history ++ [step]) actionId := by
    intro actionId tenantId action verdict found owner decides approved
    rcases decides.grants approved with ⟨draws, approval, role, state, rfl, waiting, required, meets⟩
    rcases (covers.actions actionId action found).registered with
      ⟨registration, filing, base, member, registers, follows, waits⟩
    subst owner
    exact ⟨registration, filing, base, step, action, role, state,
      (List.singleton_sublist.mpr member).append (List.Sublist.refl [step]), registers, waits waiting,
      follows, ⟨worker, draws, approval, made, found⟩, waiting, required, meets⟩
  have kept : (governed host (history ++ [step])).Covers (fleet.processes worker).actions :=
    covers.mono (fun _ _ sourced => sourced.extend step) (fun _ attested => attested.extend step)
  apply kept.perform
  · intro actionId action rewrites
    cases rewrites with
    | created draws proposal tenantId context unclaimed =>
        rcases registers_of_call after made unclaimed with ⟨filing, registers⟩
        refine ⟨⟨step, filing, _, last, registers, .refl _, id⟩, ?_⟩
        intro approved
        rcases registers.status with denied | waiting
        · rw [denied] at approved
          cases approved
        · rw [waiting] at approved
          cases approved
    | settled _ _ tenantId held verdict found owner decides =>
        rcases ((covers.actions actionId held found).extend step).registered with
          ⟨registration, filing, base, member, registers, follows, _⟩
        exact ⟨⟨registration, filing, base, member, registers,
          ⟨follows.proposal, follows.tenant, follows.required⟩,
          fun waiting => absurd waiting decides.not_waiting⟩,
          fun approved => granted actionId tenantId held verdict found owner decides approved⟩
    | accepted draws _ tenantId cancelOrder currentState held reaches =>
        rcases ((covers.actions actionId held reaches.found).extend step).registered with
          ⟨registration, filing, base, member, registers, follows, _⟩
        exact ⟨⟨registration, filing, base, member, registers,
          ⟨follows.proposal, follows.tenant, follows.required⟩,
          fun waiting => by cases waiting⟩, fun approved => by cases approved⟩
  · intro event records
    cases records with
    | created draws proposal tenantId context unclaimed _ genuine tells =>
        rcases tells with ⟨base, eventHash, rfl⟩
        rcases registers_of_call after made unclaimed with ⟨filing, registers⟩
        refine ⟨fun _ => ⟨step, filing, _, last, registers, rfl, rfl⟩, fun kind => ?_⟩
        exact absurd kind (by decide : ("policy_evaluated" : Text) ≠ "approved")
    | settled _ actionId tenantId held verdict found owner decides _ genuine tells =>
        rcases tells with ⟨base, eventHash, rfl⟩
        refine ⟨fun kind => absurd kind decides.sets.2.1, fun kind => ?_⟩
        apply granted actionId tenantId held verdict found owner decides
        have maps := decides.sets.1
        have same : verdict.eventType = "approved" := kind
        rw [same] at maps
        exact (Option.some.inj maps).symm
    | refused draws actionId tenantId cancelOrder currentState reason ineligible _ genuine tells =>
        rcases tells with ⟨base, eventHash, rfl⟩
        exact ⟨fun kind => absurd kind (by decide : ("precondition_failed" : Text) ≠ "policy_evaluated"),
          fun kind => absurd kind (by decide : ("precondition_failed" : Text) ≠ "approved")⟩
    | accepted draws actionId tenantId cancelOrder currentState held receipt reaches accepts _ genuine
        tells =>
        rcases tells with ⟨base, eventHash, rfl⟩
        exact ⟨fun kind => absurd kind (by decide : ("provider_accepted" : Text) ≠ "policy_evaluated"),
          fun kind => absurd kind (by decide : ("provider_accepted" : Text) ≠ "approved")⟩

theorem governed_upheld (host : Host) : Upheld host (governed (W := W) host) where
  restorable := governed_restorable
  actions := fun _ step _ _ sourced => sourced.extend step
  events := fun _ step _ attested => attested.extend step
  performed := fun _ _ _ _ _ _ covers made => governed_perform covers made

end Warrants

/-! ## The requests -/

/-- A request on its way has arrived. -/
theorem arrived_of_run {W : Type} [DecidableEq W] {host : Host}
    {history : List (Step (Fleet W) (Move W))} {fleet : Fleet W}
    (run : (fleetSystem W host).Run history fleet) (worker : W) (number : Nat) (task : Task)
    (carries : (fleet.flights (worker, number)).task? = some task) :
    Exists fun arrived => arrived ∈ history ∧ Arrives host worker number task arrived := by
  induction run with
  | begin initial =>
      rw [initial.2.1] at carries
      cases carries
  | @extend history fleet move earlier admitted ih =>
      have before : (fleet.flights (worker, number)).task? = some task -> Exists fun arrived =>
          arrived ∈ history ++ [⟨fleet, move, (fleetSystem W host).next fleet move⟩] ∧
            Arrives host worker number task arrived := by
        intro carried
        rcases ih carried with ⟨arrived, member, arrives⟩
        exact ⟨arrived, List.mem_append_left _ member, arrives⟩
      cases move with
      | restart other =>
          change (if worker = other then Flight.ended else fleet.flights (worker, number)).task? =
            some task at carries
          split at carries
          · cases carries
          · exact before carries
      | operate entrance call =>
          change ((if entrance.lets call then { fleet with directory := call.after host.rt fleet.directory }
            else fleet).flights (worker, number)).task? = some task at carries
          split at carries
          · exact before carries
          · exact before carries
      | compile other world tables => exact before carries
      | serve other sent stage =>
          change (Function.update fleet.flights (other, sent) _ (worker, number)).task? =
            some task at carries
          by_cases same : (worker, number) = (other, sent)
          · cases same
            rw [Function.update_self] at carries
            rcases Stage.serve_task host carries with carried | ⟨request, rfl, begun⟩
            · exact before carried
            · exact ⟨_, List.mem_append_right _ (List.mem_singleton_self _), request, rfl, begun⟩
          · rw [Function.update_of_ne same] at carries
            exact before carries

/-! ## The decisions before a request -/

section Decisions

variable {W : Type} [DecidableEq W] {host : Host} {history : List (Step (Fleet W) (Move W))}
variable {fleet : Fleet W}

/-- An operator opens the tenant's workspace for proposals, on the command line or with a
role that may. -/
structure OpensProposals (host : Host) (tenantId : Text) (step : Step (Fleet W) (Move W)) : Prop where
  operated : Exists fun entrance : Entrance =>
    step.label = .operate entrance (.setMode tenantId .demoProposal) ∧
      entrance.lets (.setMode tenantId .demoProposal) = true
  performed : Exists fun directory => (DirectoryCall.setMode tenantId .demoProposal).perform host.rt
    step.before.directory = .ok directory

/-- A check of the tenant's connectors records that Shopify can be written. When one check
lists the connector twice, the last result stands. -/
structure RecordsWriting (tenantId : Text) (step : Step (Fleet W) (Move W)) : Prop where
  checked : Exists fun results => Exists fun result : Dict Text Json =>
    step.label = .operate .commandLine (.recordConnectorChecks tenantId results) ∧
      lastCheck "shopify" results = some result ∧ Directory.flag result "write_capability" = true

/-- A step of the directory is a call that was let in. -/
theorem operated_of_step {taken : Step (Fleet W) (Move W)} {visible : Step Directory DirectoryCall}
    (seen : (directoryPart W host).step taken = some visible) :
    (Exists fun entrance : Entrance => taken.label = .operate entrance visible.label ∧
      entrance.lets visible.label = true) ∧ visible.before = taken.before.directory := by
  rcases ((directoryPart W host).step_eq_some_iff taken visible).mp seen with ⟨labelled, before, _⟩
  refine ⟨?_, before⟩
  rcases taken with ⟨earlier, move, later⟩
  cases move with
  | operate entrance call =>
      change (if entrance.lets call then some call else none) = some visible.label at labelled
      split at labelled
      next lets =>
        have same := Option.some.inj labelled
        rw [← same]
        exact ⟨entrance, rfl, lets⟩
      next => cases labelled
  | serve worker number stage => cases labelled
  | restart worker => cases labelled
  | compile worker world tables => cases labelled

/-- A mode other than the initial one was set by an operator. -/
theorem opened_before (run : (fleetSystem W host).Run history fleet) {tenantId : Text}
    {policy : WorkspacePolicy}
    (read : effectivePolicy host.rt host.float host.settings fleet.database tenantId = .ok policy)
    (writable : policy.mode ≠ observeOnlyMode) :
    Exists fun opened => opened ∈ history ∧ OpensProposals host tenantId opened := by
  have remembers := policy_remembered host.float ((directoryPart W host).run run) fleet.tables
    fleet.events tenantId
  have mode : policy.mode = lastWritten (modeWritten host.rt tenantId) observeOnlyMode
      ((directoryPart W host).steps history) := by
    unfold effectivePolicy at read
    rw [show fleet.database.policy host.rt host.float tenantId = _ from remembers] at read
    cases read
    rfl
  rcases lastWritten_source (modeWritten host.rt tenantId) observeOnlyMode
    ((directoryPart W host).steps history) with initial | ⟨visible, inside, written⟩
  · exact absurd (mode.trans initial) writable
  rw [← mode] at written
  rcases List.mem_filterMap.mp inside with ⟨opened, member, seen⟩
  rcases operated_of_step seen with ⟨⟨entrance, labelled, lets⟩, before⟩
  unfold modeWritten at written
  split at written
  next other target directory called performed =>
      split at written
      next same =>
        subst same
        have shown := Option.some.inj written
        cases target with
        | observeOnly => exact absurd shown.symm writable
        | demoProposal =>
            rw [called] at labelled lets performed
            rw [before] at performed
            exact ⟨opened, member, ⟨entrance, labelled, lets⟩, directory, ok_of_toOption performed⟩
      next => cases written
  next => cases written

/-- A write capability was recorded by a check. -/
theorem checked_before (run : (fleetSystem W host).Run history fleet) {tenantId : Text}
    (capable : fleet.database.hasCapability tenantId "shopify" "write" = true) :
    Exists fun checked => checked ∈ history ∧ RecordsWriting tenantId checked := by
  have remembers := capability_remembered ((directoryPart W host).run run) fleet.tables fleet.events
    tenantId "shopify" (by decide : ("write" : Text) ∈ (["read", "write"] : List Text))
  rcases lastWritten_source (capabilityWritten host.rt tenantId "shopify" "write") false
    ((directoryPart W host).steps history) with initial | ⟨visible, inside, written⟩
  · exact absurd (capable.symm.trans (remembers.trans initial)) (by decide)
  rw [← show fleet.database.hasCapability tenantId "shopify" "write" = _ from remembers, capable]
    at written
  rcases List.mem_filterMap.mp inside with ⟨checked, member, seen⟩
  rcases operated_of_step seen with ⟨⟨entrance, labelled, lets⟩, _⟩
  unfold capabilityWritten at written
  split at written
  next other results directory called performed =>
      rcases Option.map_eq_some_iff.mp written with ⟨result, last, flagged⟩
      split at last
      next same =>
        subst same
        rw [called] at labelled lets
        cases entrance with
        | commandLine => exact ⟨checked, member, results, result, labelled, last, flagged⟩
        | api role => cases lets
      next => cases last
  next => cases written

/-- What the first session found when it let a request on. The session is closed by then, so
that this may have changed since. -/
def Task.Cleared (host : Host) (database : Database) : Task -> Prop
  | .propose _ _ tenantId policy =>
      effectivePolicy host.rt host.float host.settings database tenantId = .ok policy
  | .act operation _ tenantId => forall capability, operation.capability? = some capability ->
      database.hasCapability tenantId "shopify" capability = true

theorem ActionRequest.start_cleared {database : Database} {request : ActionRequest} {task : Task}
    (begun : request.start host database = .ok task) : task.Cleared host database := by
  unfold ActionRequest.start at begun
  cases request with
  | propose proposal role tenantId =>
      dsimp only at begun
      cases read : effectivePolicy host.rt host.float host.settings database tenantId with
      | error error =>
          rw [read] at begun
          cases begun
      | ok policy =>
          rw [read] at begun
          cases begun
          exact read
  | act operation actionId tenantId =>
      dsimp only at begun
      split at begun
      next free =>
        cases begun
        intro capability needed
        rw [free] at needed
        cases needed
      next capability needs =>
        split at begun
        next capable =>
          cases begun
          intro other needed
          rw [needs] at needed
          cases needed
          exact capable
        next => cases begun

end Decisions

/-! ## Every write -/

section Writes

variable {W : Type}

/-- Two steps do not draw one identifier. Steps that register no action draw none here. -/
def Apart (host : Host) (first second : Step (Fleet W) (Move W)) : Prop :=
  forall actionId, first.before.drawn? host first.label = some actionId ->
    second.before.drawn? host second.label ≠ some actionId

instance (host : Host) : Std.Symm (Apart (W := W) host) :=
  ⟨fun _ _ apart actionId drawn drawn' => apart actionId drawn' drawn⟩

instance (host : Host) (first second : Step (Fleet W) (Move W)) : Decidable (Apart host first second) :=
  decidable_of_iff ((first.before.drawn? host first.label).all (fun actionId =>
      decide (second.before.drawn? host second.label ≠ some actionId)) = true) (by
    unfold Apart
    cases first.before.drawn? host first.label with
    | none => simp
    | some actionId => simp)

/-- No two registrations draw the same identifier. They may be those of different processes. -/
def DistinctIds (host : Host) (history : List (Step (Fleet W) (Move W))) : Prop :=
  history.Pairwise (Apart host)

/-- What lies behind a write, beside the action that was registered: its content, the steps
that led to it in their order, and the capability that the request read. -/
structure WriteGoverned (host : Host) (history : List (Step (Fleet W) (Move W))) (fleet : Fleet W)
    (worker : W) (number : Nat) (base : StoredAction) (call : ProviderCall) : Prop where
  content : base.proposal.actionType = .cancelOrder ∧ call.orderId = base.proposal.orderId ∧
    call.idempotencyKey = base.proposal.idempotencyKey
  decided : Exists fun opened => Exists fun arrived => Exists fun registration => Exists fun grant =>
    Exists fun filing : Filing W => Exists fun held => Exists fun state =>
      [opened, arrived, registration, grant].Sublist history ∧
        OpensProposals host base.tenantId opened ∧
        Arrives host filing.worker filing.number
          (.propose base.proposal base.proposerRole base.tenantId filing.policy) arrived ∧
        Registers host call.actionId base filing registration ∧ filing.context.Permits ∧
        Follows base held ∧ Grants host call.actionId held "operations" state grant
  capable : Exists fun checked => Exists fun arrived => [checked, arrived].Sublist history ∧
    RecordsWriting base.tenantId checked ∧
      Arrives host worker number (.act .execute call.actionId base.tenantId) arrived
  eligible : Exists fun state =>
    ((fleet.site worker).resolveOrderState host.rt base.tenantId call.orderId).result = .ok (some state) ∧
      EligibleTestOrder state

variable {host : Host} {history : List (Step (Fleet W) (Move W))} {fleet : Fleet W}

/-- A step registers at most one action. -/
theorem Registers.unique {actionId : Text} {base base' : StoredAction} {filing filing' : Filing W}
    {step : Step (Fleet W) (Move W)} (registers : Registers host actionId base filing step)
    (registers' : Registers host actionId base' filing' step) : base = base' := by
  have same := Option.some.inj (registers.made.symm.trans registers'.made)
  have calls := (Prod.ext_iff.mp same).2
  rw [registers.judged, registers'.judged]
  injection calls with draws proposal tenant context
  rw [draws, proposal, tenant, context]

theorem Registers.drawn {actionId : Text} {base : StoredAction} {filing : Filing W}
    {step : Step (Fleet W) (Move W)} (registers : Registers host actionId base filing step) :
    step.before.drawn? host step.label = some actionId := by
  unfold Fleet.drawn?
  rw [registers.made]
  exact (if_pos registers.unclaimed).trans (congrArg some registers.named)

/-- An identifier has one registration. -/
theorem DistinctIds.registers (distinct : DistinctIds host history) {actionId : Text}
    {base base' : StoredAction} {filing filing' : Filing W} {step step' : Step (Fleet W) (Move W)}
    (member : step ∈ history) (member' : step' ∈ history)
    (registers : Registers host actionId base filing step)
    (registers' : Registers host actionId base' filing' step') : base = base' := by
  by_cases same : step = step'
  · subst same
    exact registers.unique registers'
  · exact absurd registers'.drawn
      (List.Pairwise.forall distinct member member' same actionId registers.drawn)

/-- Only an execution sends a write, and it has passed every guard. -/
theorem execute_of_invokes {service : ActionService} {made : Call} {call : ProviderCall}
    (invoked : service.invokes host.rt made = some call) :
    Exists fun draws => Exists fun actionId => Exists fun tenantId => Exists fun cancelOrder =>
      Exists fun currentState => Exists fun action =>
        made = .execute draws actionId tenantId cancelOrder currentState ∧
          ReachesProvider service actionId tenantId currentState action ∧
          action.providerCall actionId = call := by
  cases made with
  | execute draws actionId tenantId cancelOrder currentState =>
      rcases (execute_invoked_iff host.rt service draws actionId tenantId cancelOrder currentState
        call).mp invoked with ⟨action, reaches, same⟩
      exact ⟨draws, actionId, tenantId, cancelOrder, currentState, action, rfl, reaches, same⟩
  | propose draws proposal tenantId context => cases invoked
  | approve draws actionId approval role tenantId currentState => cases invoked
  | reject draws actionId rejection tenantId => cases invoked
  | verify draws actionId tenantId state isFinalAttempt => cases invoked

/-- An execute call is made by an execute request, in the state that it resolved. What the
provider shows by then is not asked. -/
theorem executing_of_call {move : Move W} {worker : W} {draws : Draws} {actionId tenantId : Text}
    {cancelOrder : CancelOrderExecutor} {currentState : Option OrderState}
    (called : fleet.call? host move =
      some (worker, .execute draws actionId tenantId cancelOrder currentState)) :
    Exists fun number : Nat => Exists fun inputs : Inputs => move = .serve worker number (.act inputs) ∧
      fleet.flights (worker, number) = .restored (.act .execute actionId tenantId) ∧
      cancelOrder = inputs.cancelOrder ∧
      forall action, (fleet.processes worker).actions.getAction actionId tenantId = .ok action ->
        ((fleet.site worker).resolveOrderState host.rt tenantId action.proposal.orderId).result =
          .ok currentState := by
  rcases Fleet.call?_cases host called with ⟨number, inputs, task, rfl, flight, prepared⟩
  rcases Task.prepare_cases host prepared with
    ⟨proposal, role, tenant, policy, orderValue, rfl, same⟩ |
      ⟨operation, named, tenant, state, rfl, same, resolved⟩
  · cases same
  · cases operation with
    | execute =>
        cases same
        exact ⟨number, inputs, rfl, flight, rfl, fun action stored => resolved action stored rfl⟩
    | approve approval role => cases same
    | reject rejection => cases same
    | verify => cases same
    | attempt isFinalAttempt => cases same

variable [DecidableEq W]

/-- A request on its way arrived in the run, and its first session let it on. -/
theorem arrived_in (run : (fleetSystem W host).Run history fleet) {worker : W} {number : Nat}
    {task : Task} (carries : (fleet.flights (worker, number)).task? = some task) :
    Exists fun front => Exists fun arrived => Exists fun back => history = front ++ arrived :: back ∧
      Arrives host worker number task arrived ∧ (fleetSystem W host).Run front arrived.before ∧
        task.Cleared host arrived.before.database := by
  rcases arrived_of_run run worker number task carries with
    ⟨arrived, member, request, labelled, begun⟩
  rcases List.append_of_mem member with ⟨front, back, parts⟩
  exact ⟨front, arrived, back, parts, ⟨request, labelled, begun⟩, (run.cut parts).1,
    ActionRequest.start_cleared begun⟩

/-- Before a registration, its request read a mode that an operator had set. It may have been
changed again before the registration. -/
theorem decided_before (run : (fleetSystem W host).Run history fleet)
    {registration grant : Step (Fleet W) (Move W)} (order : [registration, grant].Sublist history)
    {actionId : Text} {base : StoredAction} {filing : Filing W}
    (registers : Registers host actionId base filing registration)
    (permits : filing.context.Permits) : Exists fun opened => Exists fun arrived =>
      [opened, arrived, registration, grant].Sublist history ∧
        OpensProposals host base.tenantId opened ∧
        Arrives host filing.worker filing.number
          (.propose base.proposal base.proposerRole base.tenantId filing.policy) arrived := by
  rcases List.cons_sublist_iff.mp order with ⟨early, late, rfl, member, last⟩
  rcases List.append_of_mem member with ⟨front, between, rfl⟩
  have earlier : (fleetSystem W host).Run front registration.before :=
    (run.cut (List.append_assoc front (registration :: between) late)).1
  rcases arrived_in earlier (congrArg Flight.task? registers.asked) with
    ⟨first, arrived, rest, rfl, arrives, opening, cleared⟩
  have writable : filing.policy.mode ≠ observeOnlyMode := registers.mode ▸ permits.mode
  rcases opened_before opening cleared writable with ⟨opened, inside, opens⟩
  refine ⟨opened, arrived, ?_, opens, arrives⟩
  have before : [opened, arrived].Sublist (first ++ arrived :: rest) :=
    (List.singleton_sublist.mpr inside).append (List.singleton_sublist.mpr List.mem_cons_self)
  have after : [registration].Sublist (registration :: between) :=
    List.singleton_sublist.mpr List.mem_cons_self
  exact (before.append after).append last

/-- Before a write, its request found a capability that a check had recorded. Between the
two, another check may have taken it away. -/
theorem capable_before (run : (fleetSystem W host).Run history fleet) {worker : W} {number : Nat}
    {actionId tenantId : Text}
    (flight : fleet.flights (worker, number) = .restored (.act .execute actionId tenantId)) :
    Exists fun checked => Exists fun arrived => [checked, arrived].Sublist history ∧
      RecordsWriting tenantId checked ∧
        Arrives host worker number (.act .execute actionId tenantId) arrived := by
  rcases arrived_in run (congrArg Flight.task? flight) with
    ⟨front, arrived, back, rfl, arrives, earlier, cleared⟩
  rcases checked_before earlier (cleared "write" rfl) with ⟨checked, inside, records⟩
  exact ⟨checked, arrived, (List.singleton_sublist.mpr inside).append
    (List.singleton_sublist.mpr List.mem_cons_self), records, arrives⟩

/-- A restored proposal asks for the same write. -/
theorem Follows.content {base held : StoredAction} (follows : Follows base held) :
    held.proposal.actionType = base.proposal.actionType ∧
      held.proposal.orderId = base.proposal.orderId ∧
      held.proposal.idempotencyKey = base.proposal.idempotencyKey := by
  rcases follows.proposal with same | restored
  · rw [same]
    exact ⟨rfl, rfl, rfl⟩
  · rw [restored]
    exact ⟨rfl, rfl, rfl⟩

/-- In every run of a fleet, whichever process sends a write and however the requests are
interleaved, an operator opened the tenant's workspace before, a request read that mode and
registered the action, operations approved it, and a check recorded the write capability. -/
theorem writes_governed (run : (fleetSystem W host).Run history fleet)
    (distinct : DistinctIds host history) {move : Move W} {call : ProviderCall}
    (writes : fleet.write? host move = some call) :
    Exists fun worker : W => Exists fun number : Nat => Exists fun inputs : Inputs =>
      Exists fun base : StoredAction => move = .serve worker number (.act inputs) ∧
        WriteGoverned host history fleet worker number base call := by
  rcases Option.bind_eq_some_iff.mp writes with ⟨⟨worker, made⟩, called, invoked⟩
  rcases execute_of_invokes invoked with
    ⟨draws, actionId, tenantId, cancelOrder, currentState, action, rfl, reaches, rfl⟩
  rcases executing_of_call called with ⟨number, inputs, rfl, flight, _, resolved⟩
  have sourced := (((governed_upheld host).of_run run).processes worker).actions actionId action
    reaches.found
  -- The action goes back to one registration, and its approval to the same one.
  rcases sourced.registered with ⟨source, origin, base, sourceIn, registers, follows, _⟩
  rcases sourced.approved reaches.approved with
    ⟨registration, filing, approved, grant, held, role, state, order, registers', waits, traced, grants⟩
  have same := distinct.registers sourceIn (order.subset List.mem_cons_self) registers registers'
  subst same
  rcases follows.content with ⟨kind, orderId, key⟩
  have cancels : base.proposal.actionType = .cancelOrder := kind.symm.trans reaches.cancels
  have judged := registers'.judged
  rw [judged] at waits
  rcases evaluatePolicy_cancel_permits host.rt _ base.proposal filing.context cancels waits with
    ⟨permits, required⟩
  have operations : role = "operations" := by
    have asked := grants.required
    rw [traced.required, judged] at asked
    exact Option.some.inj (asked.trans required)
  subst operations
  have tenant : base.tenantId = tenantId := follows.tenant.symm.trans reaches.owner
  subst tenant
  rcases decided_before run order registers' permits with ⟨opened, arrived, ordered, opens, arrives⟩
  refine ⟨worker, number, inputs, base, rfl, ⟨cancels, orderId, key⟩,
    ⟨opened, arrived, registration, grant, filing, held, state, ordered, opens, arrives, registers',
      permits, traced, grants⟩, capable_before run flight, ?_⟩
  rcases (ineligibleReason_none_iff currentState).mp reaches.eligible with ⟨current, rfl, eligible⟩
  exact ⟨current, resolved action ((ActionService.getAction_ok_iff _ _ _ _).mpr
    ⟨reaches.found, reaches.owner⟩), eligible⟩

end Writes

/-! ## Two processes -/

/-- An API process and another one, in front of an empty database. -/
def emptyFleet : Fleet Bool where
  processes := fun _ => .fresh
  flights := fun _ => .absent
  directory := .empty
  tables := .empty
  events := []

/-- A World State that holds the sample order. -/
def orderWorld : WorldStateService :=
  { WorldStateService.fresh with
    states := Dict.ofList [(("demo", "order", "1001"), sampleOrder 1 "open")] }

/-- The tenant is set up, and both processes know the order. -/
def preparedMoves : List (Move Bool) :=
  sampleSetup.map (Move.operate .commandLine) ++
    [.compile false orderWorld .empty, .compile true orderWorld .empty]

/-- The stages of a request before it persists. What is left out is its last stage. -/
def stagesOf (worker : Bool) (request : ActionRequest) (rows : List ActionEventRecord) (start : Nat) :
    List (Move Bool) :=
  [.serve worker 0 (.arrive request), .serve worker 0 (.restore rows),
    .serve worker 0 (.act ⟨.numbered start, sampleExecutor, none⟩)]

/-- One process proposes, and persists the proposal. -/
def proposedMoves : List (Move Bool) :=
  preparedMoves ++ stagesOf false (.propose sampleProposal "operations" "demo") [] 1 ++
    [.serve false 0 .persist]

/-- The events that a front of the run leaves in the table. -/
def eventsAfter (moves : List (Move Bool)) : List ActionEventRecord :=
  ((fleetSystem Bool memoryHost.toHost).trace emptyFleet moves).2.events

/-- The other process approves. -/
def approvedMoves : List (Move Bool) :=
  proposedMoves ++ stagesOf true (.act (.approve sampleApproval "operations") sampleId "demo")
    (eventsAfter proposedMoves) 3 ++ [.serve true 0 .persist]

/-- The first process has restored the approval, and executes next. -/
def executingMoves : List (Move Bool) :=
  approvedMoves ++ [.serve false 1 (.arrive (.act .execute sampleId "demo")),
    .serve false 1 (.restore (eventsAfter approvedMoves))]

def executingFleet : Fleet Bool :=
  ((fleetSystem Bool memoryHost.toHost).trace emptyFleet executingMoves).2

theorem executingFleet_reached : (fleetSystem Bool memoryHost.toHost).Run
    ((fleetSystem Bool memoryHost.toHost).trace emptyFleet executingMoves).1 executingFleet := by
  have admitted : (fleetSystem Bool memoryHost.toHost).AdmitsAll emptyFleet executingMoves := by
    decide +kernel
  exact System.run_trace executingMoves ⟨fun _ => rfl, fun _ => rfl, rfl, rfl⟩ admitted

theorem executingMoves_distinct : DistinctIds memoryHost.toHost
    ((fleetSystem Bool memoryHost.toHost).trace emptyFleet executingMoves).1 := by
  unfold DistinctIds
  decide +kernel

def executingMove : Move Bool := .serve false 1 (.act ⟨.numbered 7, sampleExecutor, none⟩)

theorem executing_writes : executingFleet.write? memoryHost.toHost executingMove =
    some ⟨sampleId, "1001", "cancel-1001"⟩ := by
  decide +kernel

theorem writes_governed_sample : Exists fun worker : Bool => Exists fun number : Nat =>
    Exists fun inputs : Inputs => Exists fun base : StoredAction =>
      executingMove = .serve worker number (.act inputs) ∧
        WriteGoverned memoryHost.toHost
          ((fleetSystem Bool memoryHost.toHost).trace emptyFleet executingMoves).1 executingFleet worker
            number base ⟨sampleId, "1001", "cancel-1001"⟩ :=
  writes_governed executingFleet_reached executingMoves_distinct executing_writes

end Api
end RealityLayer
