import RealityLayer.Actions.Failure
import RealityLayer.Api.Database

namespace RealityLayer
namespace Api

open Foundation Python WorldState Actions

/-!
# Proposals and the value threshold

`POST /v1/actions` takes the mode, the limit and the conflicts from the database, and
the order's value from the process.  A process that does not hold the order knows no
value, and `evaluate_policy` lets an unknown value pass.

So whether an order above the limit is stopped depends on what the process has served
before: it is stopped exactly when the process holds the order with a price above the
limit, or when something other than the price stops the proposal.
-/

/-- The body and the headers of the request, with its draws and the rows of the
tenant's events.  The query has no order, so the rows are an input. -/
structure ProposalRequest where
  proposal : ActionProposal
  role : Text
  tenantId : Text
  draws : Draws
  rows : List ActionEventRecord

section Endpoint

variable (rt : Runtime) (float : ToFloat) (settings : Settings)

/-- The workspace's policy, with the limit of the settings where it sets none. Its mode
always replaces that of the settings. -/
def effectivePolicy (database : Database) (tenantId : Text) : Except RequestError WorkspacePolicy :=
  (database.policy rt float tenantId).map (fun policy =>
    { policy with valueLimit := policy.valueLimit.or settings.writeValueLimit })

/-- `order_value_for`. It reads the process and not the tables, so that a price the process
has not seen does not count. -/
def orderValueFor (world : WorldStateService) (tenantId : Text) (proposal : ActionProposal) :
    Except RequestError (Option PyFloat) :=
  match (world.states.get? (tenantId, "order", proposal.orderId)).bind
      (fun state => state.value? "total_price") with
  | none => .ok none
  | some value => floatOr float value some (.ok none)

/-- `has_conflict_for`. With a session it asks the table, whatever the process holds. -/
def hasConflictFor (tables : Tables) (tenantId targetEntity : Text) : Bool :=
  let parts := partitionColon targetEntity
  if parts.2.codes.isEmpty then false
  else hasOpenConflictForEntity tables tenantId parts.1 parts.2

/-- The arguments of `evaluate_policy`. -/
def ProposalRequest.context (request : ProposalRequest) (tables : Tables) (policy : WorkspacePolicy)
    (orderValue : Option PyFloat) : PolicyContext where
  role := request.role
  workspaceMode := policy.mode
  orderValue := orderValue
  valueLimit := policy.valueLimit
  hasConflict := hasConflictFor tables request.tenantId request.proposal.targetEntity

/-- `propose_action`. Policy, price and conflicts are read first, then the process restores
and proposes. -/
def proposeAction (site : Site) (request : ProposalRequest) :
    Outcome RequestError Site ActionDecision :=
  match effectivePolicy rt float settings site.database request.tenantId with
  | .error error => .raises site error
  | .ok policy =>
      let restored := site.process.actions.restoreAll rt request.rows
      match restored.result with
      | .error error => .raises (site.withActions restored.state) (.raised error)
      | .ok _ =>
          match orderValueFor float site.process.world request.tenantId request.proposal with
          | .error error => .raises (site.withActions restored.state) error
          | .ok orderValue =>
              let proposed := restored.state.propose rt request.draws request.proposal request.tenantId
                (request.context site.database.tables policy orderValue)
              match proposed.result with
              | .error error => .raises (site.withActions proposed.state) (.raised error)
              | .ok decision =>
                  match persistEventsOf site.database proposed.state decision.actionId
                      request.tenantId with
                  | .error error => .raises (site.withActions proposed.state) (.raised error)
                  | .ok database =>
                      .returns { site.withActions proposed.state with database } decision

/-- The request is answered with the status `approval_required`. -/
def AnswersApproval (site : Site) (request : ProposalRequest) : Prop :=
  Exists fun decision : ActionDecision =>
    (proposeAction rt float settings site request).result = .ok decision ∧
      decision.status = .approvalRequired

/-- The service that the request proposes to. -/
def restoredActions (site : Site) (request : ProposalRequest) : ActionService :=
  (site.process.actions.restoreAll rt request.rows).state

/-- No action has the request's idempotency key. A known one is answered without the policy. -/
def NewKey (site : Site) (request : ProposalRequest) : Prop :=
  (restoredActions rt site request).idempotency.get?
    (request.tenantId, request.proposal.idempotencyKey) = none

/-- The event of a new proposal can be dumped and hashed. -/
def SealableProposal (site : Site) (request : ProposalRequest) (context : PolicyContext) : Prop :=
  let action := createdAction rt request.draws request.proposal request.tenantId context
  request.proposal.dumps rt = true ∧ (policyDraft request.draws action).Sealable rt
    ((restoredActions rt site request).register (ActionService.newActionId request.draws) action)

/-- Nothing but the price can stop the request. The policy's own guards are asked without a
price, since an unknown one stops nothing. -/
structure Unhindered (site : Site) (request : ProposalRequest) (policy : WorkspacePolicy) :
    Prop where
  restored : (site.process.actions.restoreAll rt request.rows).result = .ok ()
  admits : (request.context site.database.tables policy none).Admits request.proposal
  sealable : SealableProposal rt site request (request.context site.database.tables policy none)

/-- The process holds the order with a price above a limit, or with one too large for a
float. -/
def HoldsAbove (world : WorldStateService) (tenantId : Text) (proposal : ActionProposal)
    (limit : PyFloat) : Prop :=
  match orderValueFor float world tenantId proposal with
  | .error _ => True
  | .ok none => False
  | .ok (some value) => value.gt limit = true

/-- The number that the persisted projection of the order has as its price. It is what the
limit is meant to be compared with. -/
def persistedOrderValue (tables : Tables) (tenantId : Text) (proposal : ActionProposal) :
    Option PyFloat :=
  match tables.loadState rt tenantId ("order:" ++ proposal.orderId) with
  | .error _ => none
  | .ok state => (state.bind (fun state => state.value? "total_price")).bind
      (fun value => (float value).toOption)

/-- The tenant has a limit, and the persisted price of the target order is above it. What the
process itself holds of the order is left open. -/
structure AboveLimit (database : Database) (request : ProposalRequest) (policy : WorkspacePolicy)
    (limit : PyFloat) : Prop where
  effective : effectivePolicy rt float settings database request.tenantId = .ok policy
  limited : policy.valueLimit = some limit
  priced : Exists fun value : PyFloat => value.gt limit = true ∧
    persistedOrderValue rt float database.tables request.tenantId request.proposal = some value

end Endpoint

/-! ## Proposing under a new key -/

section Proposing

variable {rt : Runtime} {float : ToFloat} {settings : Settings} {site : Site}
variable {request : ProposalRequest} {policy : WorkspacePolicy}

/-- A proposal under a new key is registered, and answered if its event can be dumped and
hashed. -/
theorem propose_new {service : ActionService} {tenantId : Text} {proposal : ActionProposal}
    (draws : Draws) (context : PolicyContext)
    (new : service.idempotency.get? (tenantId, proposal.idempotencyKey) = none) :
    let action := createdAction rt draws proposal tenantId context
    let written := service.register (ActionService.newActionId draws) action
    ((proposal.dumps rt = true ∧ (policyDraft draws action).Sealable rt written) ∧
      Exists fun event : ActionEventRecord =>
        service.propose rt draws proposal tenantId context =
          .returns (written.push event) action.decision) ∨
    (¬ (proposal.dumps rt = true ∧ (policyDraft draws action).Sealable rt written) ∧
      Exists fun cause : HashError =>
      (service.propose rt draws proposal tenantId context).result = .error (.hashing cause)) := by
  dsimp only
  unfold ActionService.propose EventDraft.Sealable ActionService.appendEvent
  rw [new]
  dsimp only [policyDraft, createdAction]
  cases dumped : proposal.dumps rt with
  | false => exact Or.inr ⟨fun both => Bool.false_ne_true both.1, _, rfl⟩
  | true =>
      rw [if_pos rfl]
      generalize RealityGit.hashJson rt _ = hashed
      cases hashed with
      | error cause =>
          refine Or.inr ⟨?_, cause, rfl⟩
          rintro ⟨_, hash, same⟩
          cases same
      | ok hash => exact Or.inl ⟨⟨rfl, hash, rfl⟩, _, rfl⟩

/-- The events of a new action can be listed by its tenant. -/
theorem persistEventsOf_new {service : ActionService} {tenantId : Text} {proposal : ActionProposal}
    (database : Database) (draws : Draws) (context : PolicyContext) (event : ActionEventRecord) :
    let action := createdAction rt draws proposal tenantId context
    let written := service.register (ActionService.newActionId draws) action
    Exists fun later : Database =>
      persistEventsOf database (written.push event) action.decision.actionId tenantId = .ok later := by
  dsimp only
  rw [show (createdAction rt draws proposal tenantId context).decision.actionId =
    ActionService.newActionId draws from evaluatePolicy_actionId rt _ proposal context]
  have stored := (ActionService.getAction_ok_iff ((service.register (ActionService.newActionId draws)
    (createdAction rt draws proposal tenantId context)).push event) (ActionService.newActionId draws)
      tenantId (createdAction rt draws proposal tenantId context)).mpr ⟨Dict.get?_set_self _ _ _, rfl⟩
  unfold persistEventsOf ActionService.listEvents
  rw [stored]
  exact ⟨_, rfl⟩

/-- When a proposal under a new key is answered `approval_required`. The policy has to permit
it, and its event has to be appended. -/
theorem answersApproval_iff (effective : effectivePolicy rt float settings site.database
      request.tenantId = .ok policy) (new : NewKey rt site request) :
    AnswersApproval rt float settings site request <->
      (site.process.actions.restoreAll rt request.rows).result = .ok () ∧
        Exists fun orderValue : Option PyFloat =>
          orderValueFor float site.process.world request.tenantId request.proposal = .ok orderValue ∧
            (request.context site.database.tables policy orderValue).Admits request.proposal ∧
            (request.context site.database.tables policy orderValue).exceedsLimit = false ∧
            SealableProposal rt site request
              (request.context site.database.tables policy orderValue) := by
  unfold AnswersApproval proposeAction SealableProposal
  unfold NewKey restoredActions at new
  unfold restoredActions
  rw [effective]
  dsimp only
  cases restored : (site.process.actions.restoreAll rt request.rows).result with
  | error error =>
      constructor
      · rintro ⟨decision, returned, _⟩
        cases returned
      · rintro ⟨returned, _⟩
        cases returned
  | ok _ =>
      dsimp only
      cases known : orderValueFor float site.process.world request.tenantId request.proposal with
      | error error =>
          constructor
          · rintro ⟨decision, returned, _⟩
            cases returned
          · rintro ⟨_, orderValue, returned, _⟩
            cases returned
      | ok orderValue =>
          dsimp only
          rcases propose_new request.draws (request.context site.database.tables policy orderValue) new
            with ⟨sealable, event, returned⟩ | ⟨broken, cause, raised⟩
          · rw [returned]
            dsimp only [Outcome.returns]
            rcases persistEventsOf_new site.database request.draws
              (request.context site.database.tables policy orderValue) event with ⟨later, persisted⟩
            rw [persisted]
            constructor
            · rintro ⟨decision, answered, waits⟩
              cases answered
              rcases (evaluatePolicy_waits_iff _ _ _ _).mp waits with ⟨admits, within⟩
              exact ⟨rfl, orderValue, rfl, admits, within, sealable⟩
            · rintro ⟨_, orderValue', same, admits, within, _⟩
              cases same
              exact ⟨_, rfl, (evaluatePolicy_waits_iff _ _ _ _).mpr ⟨admits, within⟩⟩
          · rw [raised]
            constructor
            · rintro ⟨decision, returned, _⟩
              cases returned
            · rintro ⟨_, orderValue', returned, _, _, sealable⟩
              cases returned
              exact absurd sealable broken

/-- A held price is above the limit when the policy sees it exceed the limit. -/
theorem holdsAbove_iff {limit : PyFloat} {orderValue : Option PyFloat}
    (limited : policy.valueLimit = some limit)
    (known : orderValueFor float site.process.world request.tenantId request.proposal =
      .ok orderValue) :
    HoldsAbove float site.process.world request.tenantId request.proposal limit <->
      (request.context site.database.tables policy orderValue).exceedsLimit = true := by
  unfold HoldsAbove PolicyContext.exceedsLimit
  rw [known]
  dsimp only [ProposalRequest.context]
  rw [limited]
  cases orderValue with
  | none => exact ⟨False.elim, fun same => by cases same⟩
  | some value => exact Iff.rfl

/-- Within the limit, a held price does not change the event. -/
theorem sealableProposal_within {orderValue : Option PyFloat}
    (within : (request.context site.database.tables policy orderValue).exceedsLimit = false) :
    SealableProposal rt site request (request.context site.database.tables policy orderValue) <->
      SealableProposal rt site request (request.context site.database.tables policy none) := by
  have unpriced : (request.context site.database.tables policy none).exceedsLimit = false := by
    unfold PolicyContext.exceedsLimit ProposalRequest.context
    cases policy.valueLimit <;> rfl
  have decided := evaluatePolicy_within rt (ActionService.newActionId request.draws) request.proposal
    (request.context site.database.tables policy none) orderValue unpriced within
  have created : createdAction rt request.draws request.proposal request.tenantId
      (request.context site.database.tables policy orderValue) =
        createdAction rt request.draws request.proposal request.tenantId
          (request.context site.database.tables policy none) := by
    unfold createdAction
    exact congrArg (fun decision => StoredAction.mk request.proposal decision request.role
      request.tenantId) decided
  unfold SealableProposal
  rw [created]

end Proposing

/-- An order above the limit is kept from an approval exactly when the process holds it
above the limit, or something else than the price hinders the proposal. -/
theorem threshold_holds_iff (rt : Runtime) (float : ToFloat) (settings : Settings) {site : Site}
    {request : ProposalRequest} {policy : WorkspacePolicy} {limit : PyFloat}
    (above : AboveLimit rt float settings site.database request policy limit)
    (new : NewKey rt site request) :
    ¬ AnswersApproval rt float settings site request <->
      HoldsAbove float site.process.world request.tenantId request.proposal limit ∨
        ¬ Unhindered rt site request policy := by
  rw [answersApproval_iff above.effective new]
  cases known : orderValueFor float site.process.world request.tenantId request.proposal with
  | error error =>
      have holds : HoldsAbove float site.process.world request.tenantId request.proposal limit := by
        unfold HoldsAbove
        rw [known]
        trivial
      refine iff_of_true ?_ (Or.inl holds)
      rintro ⟨_, orderValue, same, _⟩
      cases same
  | ok orderValue =>
      rw [holdsAbove_iff above.limited known]
      constructor
      · intro refused
        by_contra hindered
        rcases not_or.mp hindered with ⟨within, free⟩
        have within := Bool.eq_false_iff.mpr within
        have free := not_not.mp free
        exact refused ⟨free.restored, orderValue, rfl,
          (PolicyContext.admits_orderValue request.proposal
            (request.context site.database.tables policy none) orderValue).mpr free.admits,
          within, (sealableProposal_within within).mpr free.sealable⟩
      · rintro stops ⟨restored, _, same, admits, within, sealable⟩
        cases same
        rcases stops with exceeds | hindered
        · rw [within] at exceeds
          cases exceeds
        · exact hindered ⟨restored,
            (PolicyContext.admits_orderValue request.proposal
              (request.context site.database.tables policy none) orderValue).mp admits,
            (sealableProposal_within within).mp sealable⟩

/-! ## An order of 900, a limit of 500 -/

/-- `float` on floats. -/
def floatOfFloat : ToFloat
  | .float value => .ok value
  | .str _ => .error .valueError
  | _ => .error .typeError

/-- An order with a price of 900.0. -/
def pricedReading : Observation where
  observationId := "obs_shopify_1001"
  connector := "shopify"
  objectType := "order"
  objectId := "1001"
  observedAt := .utc 0
  payload := Dict.ofList [("status", .str "open"), ("total_price", .float ⟨0x408c200000000000⟩)]
  valid := by decide +kernel

/-- The store of the process that ingested the order. -/
def pricedStore : Store :=
  (ingestObservation .plain ⟨.fresh, .empty⟩ (.numbered 1) "demo" pricedReading).state

/-- A process in front of the database that holds the order. -/
def pricedSite (process : Process) : Site where
  process := process
  database := {
    tables := pricedStore.tables
    events := []
    workspaces := [⟨"ws_1", "demo", "demo_proposal", Dict.empty⟩]
    connectors := [] }

/-- 500.0. -/
def sampleLimit : PyFloat := ⟨0x407f400000000000⟩

def sampleRequest : ProposalRequest := ⟨sampleProposal, "operations", "demo", .numbered 5, []⟩

theorem pricedStore_price :
    persistedOrderValue .plain floatOfFloat pricedStore.tables "demo" sampleProposal =
      some ⟨0x408c200000000000⟩ := by
  decide +kernel

theorem priced_aboveLimit (process : Process) :
    AboveLimit .plain floatOfFloat ⟨some sampleLimit⟩ (pricedSite process).database sampleRequest
      ⟨"demo_proposal", some sampleLimit⟩ sampleLimit where
  effective := by rfl
  limited := rfl
  priced := by
    refine ⟨⟨0x408c200000000000⟩, by decide +kernel, ?_⟩
    dsimp only [pricedSite, sampleRequest]
    exact pricedStore_price

theorem threshold_holds_sample :
    ¬ AnswersApproval .plain floatOfFloat ⟨some sampleLimit⟩
      (pricedSite ⟨.fresh, pricedStore.service⟩) sampleRequest := by
  have new : NewKey .plain (pricedSite ⟨.fresh, pricedStore.service⟩) sampleRequest := rfl
  refine (threshold_holds_iff .plain floatOfFloat ⟨some sampleLimit⟩ (priced_aboveLimit _) new).mpr
    (Or.inl ?_)
  have known : orderValueFor floatOfFloat pricedStore.service "demo" sampleProposal =
      .ok (some ⟨0x408c200000000000⟩) := by decide +kernel
  unfold HoldsAbove
  dsimp only [pricedSite, sampleRequest]
  rw [known]
  decide +kernel

/-- A process that has just started asks for an approval of the same proposal. It does not
hold the price, and an unknown price exceeds nothing. -/
theorem fresh_process_passes_limit :
    AboveLimit .plain floatOfFloat ⟨some sampleLimit⟩ (pricedSite .fresh).database sampleRequest
        ⟨"demo_proposal", some sampleLimit⟩ sampleLimit ∧
      NewKey .plain (pricedSite .fresh) sampleRequest ∧
      AnswersApproval .plain floatOfFloat ⟨some sampleLimit⟩ (pricedSite .fresh) sampleRequest := by
  have answered : (proposeAction .plain floatOfFloat ⟨some sampleLimit⟩ (pricedSite .fresh)
      sampleRequest).result.toOption.map ActionDecision.status = some .approvalRequired := by
    decide +kernel
  rcases Option.map_eq_some_iff.mp answered with ⟨decision, returned, waits⟩
  exact ⟨priced_aboveLimit .fresh, rfl, decision, ok_of_toOption returned, waits⟩

end Api
end RealityLayer
