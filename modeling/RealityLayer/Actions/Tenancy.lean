import RealityLayer.Actions.Proof
import RealityLayer.WorldState.Tenancy

namespace RealityLayer
namespace Actions

open Foundation Python RealityGit WorldState

/-!
# One tenant's actions

Actions are stored under their identifiers alone, and every operation asks for the owner of the
action it names.  An operation for a tenant touches one action at most, and that action is the
tenant's own; a read for another tenant looks at its own actions only, but the text of its
refusal tells whether an action of that identifier exists.  So proposing an action shows: the
other tenant's `Unknown action: ...` becomes `Unknown action`.

Both services are put together at the end, under operations for any tenants.
-/

/-! ## Reads -/

namespace ActionService

/-- `list_actions`. -/
def listActions (service : ActionService) (tenantId : Text) : List ActionDecision :=
  (service.actions.values.filter (fun action => decide (action.tenantId = tenantId))).map
    StoredAction.decision

/-- `get_decision`. -/
def getDecision (service : ActionService) (actionId tenantId : Text) : Except PyError ActionDecision :=
  (service.getAction actionId tenantId).map StoredAction.decision

/-- `get_proposal`. -/
def getProposal (service : ActionService) (actionId tenantId : Text) : Except PyError ActionProposal :=
  (service.getAction actionId tenantId).map StoredAction.proposal

end ActionService

/-- The reads of the service, with their arguments but for the tenant. None of them changes
anything, and each of them may raise for an unknown or a foreign action. -/
inductive ActionRead where
  | listActions
  | events (actionId : Text)
  | getDecision (actionId : Text)
  | getProposal (actionId : Text)
  | proof (actionId : Text) (commit : Option CommitRecord)

inductive ActionAnswer where
  | decisions (decisions : List ActionDecision)
  | events (events : List ActionEventRecord)
  | decision (decision : ActionDecision)
  | proposal (proposal : ActionProposal)
  | proof (bundle : ProofBundle)
deriving DecidableEq

def ActionService.read (rt : Runtime) (service : ActionService) (tenantId : Text) :
    ActionRead -> Except PyError ActionAnswer
  | .listActions => .ok (.decisions (service.listActions tenantId))
  | .events actionId => (service.listEvents actionId tenantId).map .events
  | .getDecision actionId => (service.getDecision actionId tenantId).map .decision
  | .getProposal actionId => (service.getProposal actionId tenantId).map .proposal
  | .proof actionId commit => (service.proof rt actionId tenantId commit).map .proof

/-- The action a read names. -/
def ActionRead.actionId? : ActionRead -> Option Text
  | .listActions => none
  | .events actionId => some actionId
  | .getDecision actionId => some actionId
  | .getProposal actionId => some actionId
  | .proof actionId _ => some actionId

section Reads

variable {rt : Runtime} {service after : ActionService} {tenantId actionId : Text}
variable {request : ActionRead}

/-- A read that names an action is refused as the action is. -/
theorem read_refused (names : request.actionId? = some actionId) {error : PyError}
    (refused : service.getAction actionId tenantId = .error error) :
    service.read rt tenantId request = .error error := by
  cases request with
  | listActions => cases names
  | events id =>
      cases names
      unfold ActionService.read ActionService.listEvents
      dsimp only
      rw [refused]
      rfl
  | getDecision id =>
      cases names
      unfold ActionService.read ActionService.getDecision
      dsimp only
      rw [refused]
      rfl
  | getProposal id =>
      cases names
      unfold ActionService.read ActionService.getProposal
      dsimp only
      rw [refused]
      rfl
  | proof id commit =>
      cases names
      unfold ActionService.read ActionService.proof
      dsimp only
      rw [refused]
      rfl

/-- A read that names an action sees the action and its events. -/
theorem read_congr (names : request.actionId? = some actionId)
    (found : after.getAction actionId tenantId = service.getAction actionId tenantId)
    (events : after.eventsOf actionId = service.eventsOf actionId) :
    after.read rt tenantId request = service.read rt tenantId request := by
  cases request with
  | listActions => cases names
  | events id =>
      cases names
      unfold ActionService.read ActionService.listEvents
      dsimp only
      rw [found, events]
  | getDecision id =>
      cases names
      unfold ActionService.read ActionService.getDecision
      dsimp only
      rw [found]
  | getProposal id =>
      cases names
      unfold ActionService.read ActionService.getProposal
      dsimp only
      rw [found]
  | proof id commit =>
      cases names
      unfold ActionService.read ActionService.proof
      dsimp only
      rw [found, events]

end Reads

/-! ## Operations -/

/-- The action a call names. -/
def Call.actionId? : Call -> Option Text
  | .propose _ _ _ _ => none
  | .approve _ actionId _ _ _ _ => some actionId
  | .reject _ actionId _ _ => some actionId
  | .execute _ actionId _ _ _ => some actionId
  | .verify _ actionId _ _ _ => some actionId

/-- The identifier of the action a call would create is not in use. -/
def Call.CreatesFresh (service : ActionService) (request : Call) : Prop :=
  forall actionId, request.createdId? = some actionId -> service.actions.get? actionId = none

/-- Between two moments nothing changed but one action of a tenant, and its events. What the
other tenants list is said on its own, because a listing is made from all actions. -/
structure Touches (tenantId actionId : Text) (before after : ActionService) : Prop where
  owned : forall action, before.actions.get? actionId = some action -> action.tenantId = tenantId
  owns : forall action, after.actions.get? actionId = some action -> action.tenantId = tenantId
  kept : before.actions.get? actionId ≠ none -> after.actions.get? actionId ≠ none
  elsewhere : forall other, other ≠ actionId -> after.actions.get? other = before.actions.get? other
  events : forall other, other ≠ actionId -> after.eventsOf other = before.eventsOf other
  listed : forall other, other ≠ tenantId -> after.listActions other = before.listActions other

section Touching

variable {rt : Runtime} {service after : ActionService} {tenantId actionId : Text}

theorem touches_same (owned : forall action, service.actions.get? actionId = some action ->
    action.tenantId = tenantId) : Touches tenantId actionId service service :=
  ⟨owned, owned, id, fun _ _ => rfl, fun _ _ => rfl, fun _ _ => rfl⟩

/-- Storing an action of the tenant under an identifier that is free or its own. -/
theorem touches_set {action : StoredAction} (owner : action.tenantId = tenantId)
    (owned : forall held, service.actions.get? actionId = some held -> held.tenantId = tenantId)
    (actions : after.actions = service.actions.set actionId action)
    (events : after.events = service.events) : Touches tenantId actionId service after where
  owned := owned
  owns := by
    intro held found
    rw [actions, Dict.get?_set_self] at found
    cases found
    exact owner
  kept := by
    intro _ absent
    rw [actions, Dict.get?_set_self] at absent
    cases absent
  elsewhere := by
    intro other different
    rw [actions, Dict.get?_set_of_ne _ _ different]
  events := by
    intro other _
    unfold ActionService.eventsOf
    rw [events]
  listed := by
    intro other different
    unfold ActionService.listActions
    rw [actions, Dict.filter_values_set]
    · exact decide_eq_false (owner ▸ different.symm)
    · intro held found
      exact decide_eq_false (owned held found ▸ different.symm)

/-- Appending an event of the action touches nothing else. -/
theorem Touches.appends {middle : ActionService} {draft : EventDraft} {hashed : Prop}
    {entry : Option ActionEventRecord} (touches : Touches tenantId actionId service middle)
    (appends : Appends rt middle draft hashed entry after) (about : draft.actionId = actionId) :
    Touches tenantId actionId service after := by
  cases appends with
  | unhashable broken => exact touches
  | logged eventHash genuine =>
      refine ⟨touches.owned, touches.owns, touches.kept, touches.elsewhere, ?_, touches.listed⟩
      intro other different
      rw [ActionService.eventsOf_push, if_neg]
      · exact touches.events other different
      · change ¬ other = draft.actionId
        rw [about]
        exact different

theorem owned_of_found {action : StoredAction} (found : service.actions.get? actionId = some action)
    (owner : action.tenantId = tenantId) (held : StoredAction)
    (stored : service.actions.get? actionId = some held) : held.tenantId = tenantId := by
  rw [found] at stored
  cases stored
  exact owner

/-- A call changes nothing, or one action of its tenant. Its events and its key are the
action's own. -/
theorem perform_touches (rt : Runtime) (service : ActionService) (request : Call)
    (fresh : request.CreatesFresh service) :
    (service.perform rt request).state = service ∨ Exists fun actionId : Text =>
      Touches request.tenantId actionId service (service.perform rt request).state := by
  rcases perform_effect rt service request with ⟨entry, effect⟩
  generalize (service.perform rt request).state = after at effect ⊢
  cases effect with
  | idle => exact Or.inl rfl
  | created draws proposal tenantId context entry after unclaimed appends =>
      have free := fresh (ActionService.newActionId draws) rfl
      have touches : Touches tenantId (ActionService.newActionId draws) service
          (service.register (ActionService.newActionId draws)
            (createdAction rt draws proposal tenantId context)) := by
        refine touches_set rfl ?_ rfl rfl
        intro held found
        cases free.symm.trans found
      exact Or.inr ⟨_, touches.appends appends rfl⟩
  | settled request actionId tenantId action verdict entry after found owner decides appends =>
      have same : request.tenantId = tenantId := by
        cases decides with
        | approval => rfl
        | rejection => rfl
        | verification => rfl
      rw [same]
      have touches : Touches tenantId actionId service
          (service.withDecision actionId action verdict.status verdict.reason) := by
        refine touches_set ?_ (owned_of_found found owner) rfl rfl
        exact owner
      exact Or.inr ⟨actionId, touches.appends appends rfl⟩
  | refused draws actionId tenantId cancelOrder currentState action reason entry after found owner
      approved ineligible appends =>
      exact Or.inr ⟨actionId, (touches_same (owned_of_found found owner)).appends appends rfl⟩
  | accepted draws actionId tenantId cancelOrder currentState action receipt entry after reaches accepts
      appends =>
      have touches : Touches tenantId actionId service
          (service.accept actionId tenantId action receipt) := by
        refine touches_set ?_ (owned_of_found reaches.found reaches.owner) rfl rfl
        exact reaches.owner
      exact Or.inr ⟨actionId, touches.appends appends rfl⟩

/-- The call made an action of this identifier. -/
def Created (before after : ActionService) (actionId : Text) : Prop :=
  before.actions.get? actionId = none ∧ after.actions.get? actionId ≠ none

theorem read_missing {other : Text} {request : ActionRead} (names : request.actionId? = some actionId)
    (missing : service.actions.get? actionId = none) :
    service.read rt other request = .error (.keyError ("Unknown action: " ++ actionId)) := by
  apply read_refused names
  unfold ActionService.getAction
  rw [missing]

theorem read_foreign {other : Text} {request : ActionRead} (names : request.actionId? = some actionId)
    (owned : forall action, service.actions.get? actionId = some action -> action.tenantId = tenantId)
    (different : other ≠ tenantId) (stored : service.actions.get? actionId ≠ none) :
    service.read rt other request = .error (.keyError "Unknown action") := by
  rcases Option.ne_none_iff_exists'.mp stored with ⟨action, found⟩
  apply read_refused names
  unfold ActionService.getAction
  rw [found]
  exact if_pos (owned action found ▸ different.symm)

/-- A read for another tenant is as before, unless it names the action that was made. -/
theorem Touches.read (touches : Touches tenantId actionId service after) {other : Text}
    (different : other ≠ tenantId) (request : ActionRead)
    (old : forall named, request.actionId? = some named -> ¬ Created service after named) :
    after.read rt other request = service.read rt other request := by
  cases names : request.actionId? with
  | none =>
      cases request with
      | listActions =>
          unfold ActionService.read
          dsimp only
          rw [touches.listed other different]
      | events id => cases names
      | getDecision id => cases names
      | getProposal id => cases names
      | proof id commit => cases names
  | some named =>
      by_cases same : named = actionId
      · subst same
        by_cases stored : service.actions.get? named = none
        · have stored' : after.actions.get? named = none :=
            not_not.mp (fun made => old named names ⟨stored, made⟩)
          rw [read_missing names stored, read_missing names stored']
        · rw [read_foreign names touches.owned different stored,
            read_foreign names touches.owns different (touches.kept stored)]
      · refine read_congr names ?_ (touches.events named same)
        unfold ActionService.getAction
        rw [touches.elsewhere named same]

/-- A call that names another tenant's action is refused, and changes nothing. The error is
that of an unknown action. -/
theorem perform_foreign (rt : Runtime) {request : Call} {action : StoredAction}
    (names : request.actionId? = some actionId)
    (found : service.actions.get? actionId = some action) (foreign : action.tenantId ≠ request.tenantId) :
    service.perform rt request = .raises service (.keyError "Unknown action") := by
  have refused : service.getAction actionId request.tenantId = .error (.keyError "Unknown action") := by
    unfold ActionService.getAction
    rw [found]
    exact if_pos foreign
  cases request with
  | propose draws proposal tenantId context => cases names
  | approve draws id approval role tenantId currentState =>
      cases names
      unfold ActionService.perform ActionService.approve
      dsimp only [Call.tenantId] at refused ⊢
      rw [refused]
      rfl
  | reject draws id rejection tenantId =>
      cases names
      unfold ActionService.perform ActionService.reject
      dsimp only [Call.tenantId] at refused ⊢
      rw [refused]
      rfl
  | execute draws id tenantId cancelOrder currentState =>
      cases names
      unfold ActionService.perform ActionService.execute
      dsimp only [Call.tenantId] at refused ⊢
      rw [refused]
      rfl
  | verify draws id tenantId state isFinalAttempt =>
      cases names
      unfold ActionService.perform ActionService.verify
      dsimp only [Call.tenantId] at refused ⊢
      rw [refused]
      rfl

end Touching

/-! ## Both services -/

structure Services where
  world : WorldStateService
  actions : ActionService

def Services.fresh : Services := ⟨.fresh, .fresh⟩

/-- An operation for a tenant.  A proof is read, so it changes nothing. -/
inductive TenantOperation where
  | world (operation : WorldOperation)
  | action (request : Call)
  | proof (actionId tenantId : Text) (commit : Option CommitRecord)

def TenantOperation.tenantId : TenantOperation -> Text
  | .world operation => operation.tenantId
  | .action request => request.tenantId
  | .proof _ tenantId _ => tenantId

/-- What an operation leaves, and whether it raises. -/
def TenantOperation.outcome (rt : Runtime) (services : Services) :
    TenantOperation -> Outcome PyError Services Unit
  | .world operation =>
      let outcome := operation.outcome rt services.world
      ⟨{ services with world := outcome.state }, outcome.result⟩
  | .action request =>
      let outcome := services.actions.perform rt request
      ⟨{ services with actions := outcome.state }, outcome.result.map (fun _ => ())⟩
  | .proof actionId tenantId commit =>
      ⟨services, (services.actions.proof rt actionId tenantId commit).map (fun _ => ())⟩

/-- The identifier of a new action is not in use. -/
def TenantOperation.CreatesFresh (services : Services) : TenantOperation -> Prop
  | .action request => request.CreatesFresh services.actions
  | .world _ => True
  | .proof _ _ _ => True

/-- The operation names an action or a conflict that belongs to the other tenant only. Orders
have no owner: each tenant has a state of its own for one. -/
def TenantOperation.NamesForeign (services : Services) (other : Text) : TenantOperation -> Prop
  | .world (.call (.resolveConflict _ tenantId conflictId _ _ _)) =>
      (services.world.conflictsById.get? (other, conflictId)).isSome = true ∧
        services.world.conflictsById.get? (tenantId, conflictId) = none
  | .world _ => False
  | .action request => Exists fun actionId : Text => Exists fun action : StoredAction =>
      request.actionId? = some actionId ∧ services.actions.actions.get? actionId = some action ∧
        action.tenantId = other
  | .proof actionId _ _ => Exists fun action : StoredAction =>
      services.actions.actions.get? actionId = some action ∧ action.tenantId = other

/-- Both services under operations for any tenants. -/
def tenancySystem (rt : Runtime) : System Services TenantOperation where
  start := fun services => services = .fresh
  admits := fun services operation => operation.CreatesFresh services
  next := fun services operation => (operation.outcome rt services).state

/-- A read of either service. Its answer is what another tenant's calls must not change. -/
inductive TenantRead where
  | world (request : WorldRead)
  | action (request : ActionRead)

inductive TenantAnswer where
  | world (answer : WorldAnswer)
  | action (answer : ActionAnswer)
deriving DecidableEq

def Services.read (rt : Runtime) (services : Services) (tenantId : Text) :
    TenantRead -> Except PyError TenantAnswer
  | .world request => (services.world.read rt tenantId request).map .world
  | .action request => (services.actions.read rt tenantId request).map .action

def TenantRead.actionId? : TenantRead -> Option Text
  | .world _ => none
  | .action request => request.actionId?

/-- What an operation does to the reads of another tenant.  A read is as before, or it names the
action that the operation made and is refused in other words. -/
structure Isolated (rt : Runtime) (other : Text) (services after : Services) : Prop where
  same : forall request : TenantRead, (forall actionId, request.actionId? = some actionId ->
      ¬ Created services.actions after.actions actionId) ->
    after.read rt other request = services.read rt other request
  refused : forall (request : TenantRead) actionId, request.actionId? = some actionId ->
    Created services.actions after.actions actionId ->
      services.read rt other request = .error (.keyError ("Unknown action: " ++ actionId)) ∧
        after.read rt other request = .error (.keyError "Unknown action")

section Tenants

variable {rt : Runtime} {services : Services} {other : Text}

theorem isolated_world (named : NamedConflicts services.world) (operation : WorldOperation)
    (different : operation.tenantId ≠ other) :
    Isolated rt other services
      ((TenantOperation.world operation).outcome rt services).state where
  same := by
    intro request _
    cases request with
    | world request =>
        exact congrArg (Except.map TenantAnswer.world) (operation.read_other rt named different request)
    | action request => rfl
  refused := by
    rintro request actionId _ ⟨absent, stored⟩
    exact absurd absent stored

theorem isolated_action (request : Call) (fresh : request.CreatesFresh services.actions)
    (different : request.tenantId ≠ other) :
    Isolated rt other services ((TenantOperation.action request).outcome rt services).state := by
  change Isolated rt other services
    { services with actions := (services.actions.perform rt request).state }
  have touched := perform_touches rt services.actions request fresh
  generalize (services.actions.perform rt request).state = after at touched ⊢
  constructor
  · intro asked old
    cases asked with
    | world asked => rfl
    | action asked =>
        apply congrArg (Except.map TenantAnswer.action)
        rcases touched with rfl | ⟨actionId, touches⟩
        · rfl
        · exact touches.read different.symm asked old
  · intro asked actionId names created
    cases asked with
    | world asked => cases names
    | action asked =>
        rcases touched with rfl | ⟨touchedId, touches⟩
        · exact absurd created.1 created.2
        · have same : actionId = touchedId := by
            by_contra apart
            exact created.2 ((touches.elsewhere actionId apart).trans created.1)
          subst same
          constructor
          · exact congrArg (Except.map TenantAnswer.action) (read_missing names created.1)
          · exact congrArg (Except.map TenantAnswer.action)
              (read_foreign names touches.owns different.symm created.2)

/-- An operation keeps every conflict under its own name. -/
theorem outcome_named (named : NamedConflicts services.world) (operation : TenantOperation) :
    NamedConflicts (operation.outcome rt services).state.world := by
  cases operation with
  | world operation => exact (operation.keeps rt named).named
  | action request => exact named
  | proof actionId tenantId commit => exact named

theorem named_of_run {history : List (Step Services TenantOperation)}
    (run : (tenancySystem rt).Run history services) : NamedConflicts services.world := by
  apply run.invariant
  · rintro _ rfl id conflict stored
    cases stored
  · intro services operation named _
    exact outcome_named named operation

/-- An operation that names what belongs to another tenant only raises, and changes nothing. -/
theorem foreign_refused (operation : TenantOperation) (different : operation.tenantId ≠ other)
    (foreign : operation.NamesForeign services other) :
    Exists fun text : Text =>
      operation.outcome rt services = .raises services (.keyError text) := by
  cases operation with
  | world operation =>
      cases operation with
      | call request =>
          cases request with
          | ingest draws tenantId observation cause assuranceLevel => cases foreign
          | resolveConflict draws tenantId conflictId resolvedValue resolvedBy reason =>
              refine ⟨"Unknown conflict: " ++ conflictId, ?_⟩
              unfold TenantOperation.outcome WorldOperation.outcome
              dsimp only
              rw [resolveConflict_foreign rt foreign.2]
              rfl
      | hydrate state parentCommitId parentHash => cases foreign
      | hydrateConflict conflict => cases foreign
  | action request =>
      rcases foreign with ⟨actionId, action, names, found, owner⟩
      refine ⟨"Unknown action", ?_⟩
      unfold TenantOperation.outcome
      dsimp only
      rw [perform_foreign rt names found (owner ▸ different.symm)]
      rfl
  | proof actionId tenantId commit =>
      rcases foreign with ⟨action, found, owner⟩
      refine ⟨"Unknown action", ?_⟩
      have refused : services.actions.getAction actionId tenantId =
          .error (.keyError "Unknown action") := by
        unfold ActionService.getAction
        rw [found]
        exact if_pos (owner ▸ different.symm)
      unfold TenantOperation.outcome ActionService.proof
      dsimp only
      rw [refused]
      rfl

/-- In every reachable state, an operation for one tenant changes no read of another tenant, but
for the words that refuse the action it made; and an operation that names what belongs to
another tenant only raises and changes nothing. -/
theorem tenants_isolated {history : List (Step Services TenantOperation)}
    (run : (tenancySystem rt).Run history services) (operation : TenantOperation)
    (admitted : (tenancySystem rt).admits services operation) (different : operation.tenantId ≠ other) :
    Isolated rt other services (operation.outcome rt services).state ∧
      (operation.NamesForeign services other -> Exists fun text : Text =>
        operation.outcome rt services = .raises services (.keyError text)) := by
  refine ⟨?_, foreign_refused operation different⟩
  cases operation with
  | world operation => exact isolated_world (named_of_run run) operation different
  | action request => exact isolated_action request admitted different
  | proof actionId tenantId commit =>
      refine ⟨fun _ _ => rfl, ?_⟩
      rintro request actionId _ ⟨absent, stored⟩
      exact absurd absent stored

end Tenants

instance (services : Services) : (operation : TenantOperation) -> Decidable (operation.CreatesFresh services)
  | .action request => decidable_of_iff ((request.createdId?.bind services.actions.actions.get?) = none)
      (by
        unfold TenantOperation.CreatesFresh Call.CreatesFresh
        dsimp only
        generalize request.createdId? = created
        cases created with
        | none => simp
        | some actionId => simp)
  | .world _ => isTrue True.intro
  | .proof _ _ _ => isTrue True.intro

instance (rt : Runtime) (services : Services) (operation : TenantOperation) :
    Decidable ((tenancySystem rt).admits services operation) :=
  inferInstanceAs (Decidable (operation.CreatesFresh services))

/-- One tenant observes an order and proposes to cancel it. -/
def tenantOperations : List TenantOperation :=
  [.world (.call (sampleIngest 1 "demo" openReading)), .action samplePropose]

/-- Another tenant's proposal changes nothing that the first one reads. -/
theorem tenants_isolated_sample :
    Exists fun history => Exists fun services : Services =>
      (tenancySystem .plain).Run history services ∧ services.actions.actions.keys = [sampleId] ∧
        Isolated .plain "demo" services ((TenantOperation.action (.propose (.numbered 11) sampleProposal
          "other" sampleContext)).outcome .plain services).state := by
  have facts : (tenancySystem .plain).AdmitsAll .fresh tenantOperations ∧
      ((tenancySystem .plain).trace .fresh tenantOperations).2.actions.actions.keys = [sampleId] ∧
      (tenancySystem .plain).admits ((tenancySystem .plain).trace .fresh tenantOperations).2
        (.action (.propose (.numbered 11) sampleProposal "other" sampleContext)) ∧
      (TenantOperation.action (.propose (.numbered 11) sampleProposal "other"
        sampleContext)).tenantId ≠ "demo" := by
    decide +kernel
  rcases facts with ⟨admitted, keys, fresh, different⟩
  have run := System.run_trace tenantOperations rfl admitted
  exact ⟨_, _, run, keys, (tenants_isolated run _ fresh different).1⟩

/-- After another tenant's proposal, the identifier it was given is refused in other words. -/
theorem proposal_shows :
    Exists fun operation : TenantOperation => Exists fun request : TenantRead =>
      (tenancySystem .plain).admits .fresh operation ∧ operation.tenantId ≠ "other" ∧
        (operation.outcome .plain .fresh).state.read .plain "other" request ≠
          Services.fresh.read .plain "other" request := by
  refine ⟨.action samplePropose, .action (.getDecision sampleId), ?_⟩
  decide +kernel

end Actions
end RealityLayer
