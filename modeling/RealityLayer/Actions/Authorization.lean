import Mathlib.Data.List.Sublists
import RealityLayer.Actions.Audit

namespace RealityLayer
namespace Actions

open Foundation Python RealityGit WorldState

/-!
# Which history stands behind a provider call

An execute call checks the status of the action and the state it is given, and
nothing else.  What the status stands for is a fact about the history: an action
that waits for an approval was created by a permitted proposal, and an approved
one was approved later, by the required role, in a state that met its
preconditions.  `Backed` is that invariant.  It also remembers every status the
action has had since it was created.

The second half of the module is about time.  The preconditions are checked when
the action is approved and not again when it is executed, so they hold at the
execution for a state that still agrees with the approved one.
-/

/-! ## The two state checks -/

/-- Every expected attribute of the proposal has its expected value. The values are compared
as Python compares them, so that `1` and `True` count as equal here. -/
def HoldsExpected (state : OrderState) (proposal : ActionProposal) : Prop :=
  forall name expected, (name, expected) ∈ proposal.expectedAttributes.entries ->
    Exists fun attr => state.attributes.get? name = some attr ∧ attr.value.pyEq expected = true

/-- The preconditions of a proposal hold in a state. They are what an approval checks, and an
execution does not check them again. -/
structure MeetsPreconditions (proposal : ActionProposal) (state : OrderState) : Prop where
  version : state.stateVersion = proposal.expectedStateVersion
  expected : HoldsExpected state proposal

theorem failedExpectation_none_iff (state : OrderState) (entries : List (Text × Json)) :
    ActionService.failedExpectation state entries = none <->
      forall name expected, (name, expected) ∈ entries -> Exists fun attr =>
        state.attributes.get? name = some attr ∧ attr.value.pyEq expected = true := by
  induction entries with
  | nil => simp [ActionService.failedExpectation]
  | cons entry rest ih =>
      rcases entry with ⟨name, expected⟩
      cases found : state.attributes.get? name with
      | none =>
          simp only [ActionService.failedExpectation, found, reduceCtorEq, false_iff, not_forall]
          refine ⟨name, expected, List.mem_cons_self, ?_⟩
          simp [found]
      | some attr =>
          cases same : attr.value.pyEq expected with
          | false =>
              simp only [ActionService.failedExpectation, found, same, Bool.false_eq_true, if_false,
                reduceCtorEq, false_iff, not_forall]
              refine ⟨name, expected, List.mem_cons_self, ?_⟩
              simp [found, same]
          | true =>
              simp only [ActionService.failedExpectation, found, same, if_true, ih]
              constructor
              · intro later other value member
                rcases List.mem_cons.mp member with equal | tail
                · cases equal
                  exact ⟨attr, found, same⟩
                · exact later other value tail
              · intro all other value member
                exact all other value (List.mem_cons_of_mem _ member)

theorem checkPreconditions_none_iff (proposal : ActionProposal) (currentState : Option OrderState) :
    ActionService.checkPreconditions proposal currentState = none <->
      Exists fun state => currentState = some state ∧ MeetsPreconditions proposal state := by
  unfold ActionService.checkPreconditions
  cases currentState with
  | none => simp
  | some state =>
      by_cases version : state.stateVersion = proposal.expectedStateVersion
      · simp only [version, ne_eq, not_true_eq_false, if_false, failedExpectation_none_iff,
          Option.some.injEq, exists_eq_left']
        exact ⟨fun held => ⟨version, held⟩, MeetsPreconditions.expected⟩
      · simp only [ne_eq, version, not_false_eq_true, if_true, reduceCtorEq, Option.some.injEq,
          exists_eq_left', false_iff]
        exact fun meets => version meets.version

/-- What `_require_eligible_test_order` demands of a state. A status that is not a text, or
that is missing, is not refused, so both fields speak only of texts. -/
structure EligibleTestOrder (state : OrderState) : Prop where
  status : forall status, ActionService.heldText? state "status" = some status ->
    status.lower ∉ ActionService.terminalOrderStatuses
  fulfillment : forall status, ActionService.heldText? state "fulfillment_status" = some status ->
    status.lower ≠ "fulfilled"

theorem ineligibleReason_none_iff (currentState : Option OrderState) :
    ActionService.ineligibleReason currentState = none <->
      Exists fun state => currentState = some state ∧ EligibleTestOrder state := by
  unfold ActionService.ineligibleReason
  cases currentState with
  | none => simp
  | some state =>
      simp only [Option.some.injEq, exists_eq_left']
      cases terminal : (ActionService.heldText? state "status").filter
          (fun status => status.lower ∈ ActionService.terminalOrderStatuses) with
      | some status =>
          rcases Option.filter_eq_some_iff.mp terminal with ⟨held, bad⟩
          simp only [reduceCtorEq, false_iff]
          exact fun eligible => eligible.status status held (of_decide_eq_true bad)
      | none =>
          cases fulfilled : (ActionService.heldText? state "fulfillment_status").filter
              (fun fulfillment => fulfillment.lower = ("fulfilled" : Text)) with
          | some status =>
              rcases Option.filter_eq_some_iff.mp fulfilled with ⟨held, bad⟩
              simp only [reduceCtorEq, false_iff]
              exact fun eligible => eligible.fulfillment status held (of_decide_eq_true bad)
          | none =>
              simp only [true_iff]
              rw [Option.filter_eq_none_iff] at terminal fulfilled
              exact ⟨fun status held bad => terminal status held (decide_eq_true bad),
                fun status held bad => fulfilled status held (decide_eq_true bad)⟩

/-! ## Steps that create and approve an action -/

def ActionService.statusOf? (service : ActionService) (actionId : Text) : Option ActionStatus :=
  (service.actions.get? actionId).map (fun action => action.decision.status)

/-- The step created the action, by a proposal whose decision asks for approval. A proposal
under a known key is answered from the stored action and creates nothing, which is why the
action was absent before. -/
structure Creates (rt : Runtime) (actionId : Text) (proposal : ActionProposal) (tenantId : Text)
    (context : PolicyContext) (step : Step ActionService Call) : Prop where
  proposes : Exists fun draws => step.label = .propose draws proposal tenantId context ∧
    ActionService.newActionId draws = actionId
  absent : step.before.actions.get? actionId = none
  waits : (evaluatePolicy rt actionId proposal context).status = .approvalRequired

/-- The step approved the action, by the given role and in the given state. The state is the
one that the caller resolved, and nothing here relates it to the state of a later execution. -/
structure Approves (actionId : Text) (proposal : ActionProposal) (tenantId role : Text)
    (state : OrderState) (step : Step ActionService Call) : Prop where
  approves : Exists fun draws => Exists fun approval =>
    step.label = .approve draws actionId approval role tenantId (some state)
  waited : step.before.statusOf? actionId = some .approvalRequired
  approved : step.after.statusOf? actionId = some .approved
  preconditions : MeetsPreconditions proposal state

/-- Every status the action has after some step of the history. Steps after which the service
does not know the action say nothing. -/
def StatusesWithin (history : List (Step ActionService Call)) (actionId : Text)
    (allowed : ActionStatus -> Prop) : Prop :=
  forall step, step ∈ history -> forall status, step.after.statusOf? actionId = some status ->
    allowed status

theorem StatusesWithin.extend {history : List (Step ActionService Call)} {actionId : Text}
    {allowed wider : ActionStatus -> Prop} (within : StatusesWithin history actionId allowed)
    (widens : forall status, allowed status -> wider status) {step : Step ActionService Call}
    {status : ActionStatus} (now : step.after.statusOf? actionId = some status)
    (fits : wider status) : StatusesWithin (history ++ [step]) actionId wider := by
  intro other member seen held
  rcases List.mem_append.mp member with earlier | last
  · exact widens seen (within other earlier seen held)
  · have same := List.mem_singleton.mp last
    subst same
    rw [now] at held
    cases held
    exact fits

/-- What stands behind an action that waits for an approval: the proposal that created it,
and a history of statuses in which it never left the waiting status. -/
structure Waiting (rt : Runtime) (history : List (Step ActionService Call)) (actionId : Text)
    (action : StoredAction) : Prop where
  created : Exists fun creation => Exists fun context => creation ∈ history ∧
    Creates rt actionId action.proposal action.tenantId context creation ∧
    action.decision.requiredRole =
      (evaluatePolicy rt actionId action.proposal context).requiredRole
  unspoiled : StatusesWithin history actionId (fun status => status = .approvalRequired)

/-- What stands behind an approved action. The creation comes before the approval in the
history, and the approving role is the one that the policy decision required. -/
structure Approved (rt : Runtime) (history : List (Step ActionService Call)) (actionId : Text)
    (action : StoredAction) : Prop where
  lineage : Exists fun creation => Exists fun context => Exists fun approval =>
    Exists fun role => Exists fun state => [creation, approval].Sublist history ∧
      Creates rt actionId action.proposal action.tenantId context creation ∧
      action.decision.requiredRole =
        (evaluatePolicy rt actionId action.proposal context).requiredRole ∧
      some role = action.decision.requiredRole ∧
      Approves actionId action.proposal action.tenantId role state approval
  unspoiled : StatusesWithin history actionId
    (fun status => status = .approvalRequired ∨ status = .approved)

/-- Every stored status is backed by the history. Only the two statuses from which a call can
go on towards a write need a reason; the others are ends. -/
structure Backed (rt : Runtime) (history : List (Step ActionService Call))
    (service : ActionService) : Prop where
  waiting : forall actionId action, service.actions.get? actionId = some action ->
    action.decision.status = .approvalRequired -> Waiting rt history actionId action
  approved : forall actionId action, service.actions.get? actionId = some action ->
    action.decision.status = .approved -> Approved rt history actionId action

section Preservation

variable {rt : Runtime} {history : List (Step ActionService Call)} {service after : ActionService}
variable {call : Call}

theorem statusOf?_of_stored {actionId : Text} {action : StoredAction}
    (stored : service.actions.get? actionId = some action) :
    service.statusOf? actionId = some action.decision.status := by
  rw [ActionService.statusOf?, stored]
  rfl

theorem Waiting.extend {actionId : Text} {action : StoredAction} {step : Step ActionService Call}
    (waiting : Waiting rt history actionId action)
    (now : step.after.statusOf? actionId = some .approvalRequired) :
    Waiting rt (history ++ [step]) actionId action := by
  rcases waiting with ⟨⟨creation, context, member, creates, role⟩, unspoiled⟩
  exact ⟨⟨creation, context, List.mem_append_left _ member, creates, role⟩,
    unspoiled.extend (fun _ same => same) now rfl⟩

theorem Approved.extend {actionId : Text} {action : StoredAction} {step : Step ActionService Call}
    (approved : Approved rt history actionId action)
    (now : step.after.statusOf? actionId = some .approved) :
    Approved rt (history ++ [step]) actionId action := by
  rcases approved with ⟨⟨creation, context, approval, role, state, order, rest⟩, unspoiled⟩
  exact ⟨⟨creation, context, approval, role, state, order.trans (List.sublist_append_left _ _), rest⟩,
    unspoiled.extend (fun _ same => same) now (Or.inr rfl)⟩

/-- An action that the step leaves as it was stays backed. -/
theorem Backed.untouched (backed : Backed rt history service) {actionId : Text}
    {action : StoredAction} (before : service.actions.get? actionId = some action)
    {step : Step ActionService Call} (now : step.after.actions.get? actionId = some action) :
    (action.decision.status = .approvalRequired -> Waiting rt (history ++ [step]) actionId action) ∧
      (action.decision.status = .approved -> Approved rt (history ++ [step]) actionId action) := by
  constructor
  · intro status
    exact (backed.waiting actionId action before status).extend
      (by rw [statusOf?_of_stored now, status])
  · intro status
    exact (backed.approved actionId action before status).extend
      (by rw [statusOf?_of_stored now, status])

/-- An identifier that is free now was free after every earlier step. -/
theorem statuses_of_absent (run : (actionSystem rt).Run history service) {actionId : Text}
    (absent : service.actions.get? actionId = none) (allowed : ActionStatus -> Prop) :
    StatusesWithin history actionId allowed := by
  intro step member status held
  rcases Option.map_eq_some_iff.mp held with ⟨action, stored, _⟩
  rcases actions_persist run member stored with ⟨later, found, _⟩
  rw [absent] at found
  cases found

theorem approvalVerdict_approved_iff (action : StoredAction) (approval : ApprovalRequest)
    (role : Text) (currentState : Option OrderState) :
    (ActionService.approvalVerdict action approval role currentState).status = .approved <->
      some role = action.decision.requiredRole ∧
        ActionService.checkPreconditions action.proposal currentState = none := by
  unfold ActionService.approvalVerdict
  by_cases required : some role = action.decision.requiredRole
  · rw [if_neg (not_not.mpr required)]
    cases failure : ActionService.checkPreconditions action.proposal currentState with
    | some reason => simp
    | none => simp [required]
  · rw [if_pos required]
    simp [required]

theorem approvalVerdict_not_waiting (action : StoredAction) (approval : ApprovalRequest)
    (role : Text) (currentState : Option OrderState) :
    (ActionService.approvalVerdict action approval role currentState).status ≠ .approvalRequired := by
  unfold ActionService.approvalVerdict
  split
  · exact fun same => nomatch same
  · split
    · exact fun same => nomatch same
    · exact fun same => nomatch same

theorem verificationStatus_settles (observed : Json) (isFinalAttempt : Bool) :
    ActionService.verificationStatus observed isFinalAttempt ≠ .approvalRequired ∧
      ActionService.verificationStatus observed isFinalAttempt ≠ .approved := by
  unfold ActionService.verificationStatus
  repeat' split
  all_goals exact ⟨nofun, nofun⟩

/-- Deciding an action backs its new status. -/
theorem Backed.decided (backed : Backed rt history service) {actionId tenantId : Text}
    {action : StoredAction} {verdict : Verdict}
    (found : service.actions.get? actionId = some action) (owner : action.tenantId = tenantId)
    (decides : Decides rt action call actionId tenantId verdict)
    (now : after.statusOf? actionId = some verdict.status)
    (later : StoredAction) (continues : action.Continues later)
    (status : later.decision.status = verdict.status) :
    (later.decision.status = .approvalRequired ->
        Waiting rt (history ++ [⟨service, call, after⟩]) actionId later) ∧
      (later.decision.status = .approved ->
        Approved rt (history ++ [⟨service, call, after⟩]) actionId later) := by
  rw [status]
  cases decides with
  | rejection draws actionId rejection tenantId waiting =>
      exact ⟨nofun, nofun⟩
  | verification draws actionId tenantId state isFinalAttempt verifiable =>
      have settles := verificationStatus_settles (ActionService.observedStatus state) isFinalAttempt
      exact ⟨fun same => absurd same settles.1, fun same => absurd same settles.2⟩
  | approval draws actionId approval role tenantId currentState waiting =>
      refine ⟨fun same => absurd same (approvalVerdict_not_waiting _ _ _ _), fun approved => ?_⟩
      rcases (approvalVerdict_approved_iff _ _ _ _).mp approved with ⟨required, holds⟩
      rcases (checkPreconditions_none_iff _ _).mp holds with ⟨state, rfl, preconditions⟩
      rw [approved] at now
      subst owner
      rcases backed.waiting actionId action found waiting with
          ⟨⟨creation, context, member, creates, role'⟩, unspoiled⟩
      refine ⟨⟨creation, context,
        ⟨service, .approve draws actionId approval role action.tenantId (some state), after⟩,
        role, state, ?_, ?_, ?_, ?_, ?_⟩, ?_⟩
      · exact (List.singleton_sublist.mpr member).append (List.Sublist.refl [_])
      · rw [continues.proposal, continues.tenantId]
        exact creates
      · rw [continues.requiredRole, continues.proposal]
        exact role'
      · rw [continues.requiredRole]
        exact required
      · rw [continues.proposal, continues.tenantId]
        exact ⟨⟨draws, approval, rfl⟩, by rw [statusOf?_of_stored found, waiting], now, preconditions⟩
      · exact unspoiled.extend (fun _ same => Or.inl same) now (Or.inr rfl)

/-- One call keeps every stored status backed. The action that it decides is backed by the
call itself, and the others by what backed them before. -/
theorem Backed.step {hashed : Prop} {entry : Option ActionEventRecord}
    (backed : Backed rt history service) (run : (actionSystem rt).Run history service)
    (fresh : service.DrawsFresh call) (effect : Effect rt service hashed call entry after) :
    Backed rt (history ++ [⟨service, call, after⟩]) after := by
  have both : forall actionId action, after.actions.get? actionId = some action ->
      (action.decision.status = .approvalRequired ->
          Waiting rt (history ++ [⟨service, call, after⟩]) actionId action) ∧
        (action.decision.status = .approved ->
          Approved rt (history ++ [⟨service, call, after⟩]) actionId action) := by
    intro other stored held
    cases effect with
    | idle => exact backed.untouched held held
    | created draws proposal tenantId context _ _ unclaimed appends =>
        have actions := held
        rw [appends.actions] at actions
        by_cases same : other = ActionService.newActionId draws
        · subst same
          rw [ActionService.register, Dict.get?_set_self] at actions
          cases actions
          have absent := fresh.2 _ rfl
          have denied := evaluatePolicy_status rt (ActionService.newActionId draws) proposal context
          refine ⟨fun waits => ?_, fun approved => ?_⟩
          · refine ⟨⟨⟨service, _, after⟩, context, List.mem_append_right _ List.mem_cons_self,
              ⟨⟨draws, rfl, rfl⟩, absent, waits⟩, rfl⟩, ?_⟩
            exact (statuses_of_absent run absent _).extend (fun _ same => same)
              (statusOf?_of_stored held) waits
          · rcases denied with status | status
            · cases approved.symm.trans status
            · cases approved.symm.trans status
        · rw [ActionService.register, Dict.get?_set_of_ne _ _ same] at actions
          exact backed.untouched actions held
    | settled call actionId tenantId action verdict _ _ found owner decides appends =>
        have actions := held
        rw [appends.actions] at actions
        by_cases same : other = actionId
        · subst same
          rw [ActionService.withDecision, Dict.get?_set_self] at actions
          cases actions
          exact backed.decided found owner decides (statusOf?_of_stored held) _
            ⟨rfl, rfl, rfl, rfl⟩ rfl
        · rw [ActionService.withDecision, Dict.get?_set_of_ne _ _ same] at actions
          exact backed.untouched actions held
    | refused draws actionId tenantId cancelOrder currentState action reason _ _ found owner approved
        ineligible appends =>
        have actions := held
        rw [appends.actions] at actions
        exact backed.untouched actions held
    | accepted draws actionId tenantId cancelOrder currentState action receipt _ _ reaches accepts
        appends =>
        have actions := held
        rw [appends.actions] at actions
        by_cases same : other = actionId
        · subst same
          rw [ActionService.accept, ActionService.withDecision, Dict.get?_set_self] at actions
          cases actions
          exact ⟨nofun, nofun⟩
        · rw [ActionService.accept, ActionService.withDecision, Dict.get?_set_of_ne _ _ same] at actions
          exact backed.untouched actions held
  exact ⟨fun actionId action held => (both actionId action held).1,
    fun actionId action held => (both actionId action held).2⟩

theorem Backed.of_run (run : (actionSystem rt).Run history service) : Backed rt history service := by
  apply System.Run.historyInvariant run
  · rintro _ rfl
    exact ⟨nofun, nofun⟩
  · intro history service call earlier backed fresh
    rcases perform_effect rt service call with ⟨entry, effect⟩
    exact backed.step earlier fresh effect

end Preservation

/-! ## No write without authorization -/

/-- An accepted write leaves its action in `provider_accepted`. -/
theorem statusOf?_of_accepts {rt : Runtime} {service : ActionService} {call : Call}
    {providerCall : ProviderCall} {receipt : ExecutionReceipt}
    (accepted : service.accepts? rt call = some (providerCall, receipt)) :
    (service.perform rt call).state.statusOf? providerCall.actionId = some .providerAccepted := by
  rcases (accepts?_iff rt service call providerCall receipt).mp accepted with
      ⟨draws, actionId, tenantId, cancelOrder, currentState, action, rfl, reaches, rfl, accepts⟩
  have stored := (execute_accepting rt service draws reaches accepts).1
  have held : (service.accept actionId tenantId action receipt).actions.get? actionId = some _ :=
    Dict.get?_set_self _ _ _
  rw [← stored] at held
  exact statusOf?_of_stored held

/-- Everything that stands behind a provider call: an action that cancels an order, the steps
that created and approved it, in this order, and the eligibility of the order at the call. -/
structure WriteAuthorized (rt : Runtime) (history : List (Step ActionService Call))
    (actionId tenantId : Text) (currentState : Option OrderState) (call : ProviderCall)
    (action : StoredAction) : Prop where
  cancels : action.proposal.actionType = .cancelOrder
  lineage : Exists fun creation => Exists fun context => Exists fun approval =>
    Exists fun role => Exists fun state => [creation, approval].Sublist history ∧
      Creates rt actionId action.proposal tenantId context creation ∧ context.Permits ∧
      some role = action.decision.requiredRole ∧
      Approves actionId action.proposal tenantId role state approval
  unspoiled : StatusesWithin history actionId
    (fun status => status = .approvalRequired ∨ status = .approved)
  unaccepted : forall step, step ∈ history -> forall earlier receipt,
    step.before.accepts? rt step.label = some (earlier, receipt) -> earlier.actionId ≠ actionId
  eligible : Exists fun state => currentState = some state ∧ EligibleTestOrder state
  arguments : call = ⟨actionId, Text.removePrefix "order:" action.proposal.targetEntity,
    action.proposal.idempotencyKey⟩

/-- Whenever an execute call invokes the executor, in any run, the write is
authorized: a permitted proposal of the calling tenant created the action, the
required role approved it later in a state that met its preconditions, nothing
rejected, denied or accepted it, and the order is eligible now. -/
theorem write_authorized (rt : Runtime) {history : List (Step ActionService Call)}
    {service : ActionService} (run : (actionSystem rt).Run history service) (draws : Draws)
    {actionId tenantId : Text} {cancelOrder : CancelOrderExecutor} {currentState : Option OrderState}
    {call : ProviderCall}
    (invoked : (service.execute rt draws actionId tenantId cancelOrder currentState).invoked =
      some call) :
    Exists fun action => service.actions.get? actionId = some action ∧
      WriteAuthorized rt history actionId tenantId currentState call action := by
  rcases (execute_invoked_iff rt service draws _ _ _ _ _).mp invoked with ⟨action, reaches, rfl⟩
  obtain ⟨⟨creation, context, approval, role, state, order, creates, required, same, approves⟩,
    unspoiled⟩ := (Backed.of_run run).approved actionId action reaches.found reaches.approved
  rw [reaches.owner] at creates approves
  have permits := (evaluatePolicy_cancel_permits rt actionId action.proposal context reaches.cancels
    creates.waits).1
  refine ⟨action, reaches.found, reaches.cancels,
    ⟨creation, context, approval, role, state, order, creates, permits, same, approves⟩, unspoiled, ?_,
    (ineligibleReason_none_iff currentState).mp reaches.eligible, rfl⟩
  rintro step member earlier receipt accepted rfl
  have status := statusOf?_of_accepts accepted
  have reached : step.after = (step.before.perform rt step.label).state :=
    (run.reaches_step member).1.2
  rw [← reached] at status
  rcases unspoiled step member _ status with bad | bad
  · cases bad
  · cases bad

/-- The approved sample action passes every guard, whatever the order's version. The version
is not compared again at execution. -/
theorem sample_reaches (stateVersion : Int) :
    ReachesProvider (sampleService [samplePropose, sampleApprove]) sampleId "demo"
      (some (sampleOrder stateVersion "open")) sampleApproved where
  found := sample_approved
  owner := rfl
  unused := by decide +kernel
  approved := rfl
  cancels := rfl
  eligible := rfl

theorem sample_invoked (stateVersion : Int) :
    ((sampleService [samplePropose, sampleApprove]).execute .plain (.numbered 4) sampleId "demo"
      sampleExecutor (some (sampleOrder stateVersion "open"))).invoked =
        some (sampleApproved.providerCall sampleId) :=
  (execute_invoked_iff _ _ _ _ _ _ _ _).mpr ⟨sampleApproved, sample_reaches stateVersion, rfl⟩

/-- The execute call of the sample run is authorized. -/
theorem write_authorized_sample :
    Exists fun action => (sampleService [samplePropose, sampleApprove]).actions.get? sampleId =
      some action ∧
      WriteAuthorized .plain ((actionSystem .plain).trace .fresh [samplePropose, sampleApprove]).1
        sampleId "demo" (some (sampleOrder 1 "open")) (sampleApproved.providerCall sampleId) action :=
  write_authorized .plain (sample_run [samplePropose, sampleApprove] ⟨_, rfl⟩).ofRestrict (.numbered 4)
    (sample_invoked 1)

/-! ## Stale state

The claim of a fresh state is about two moments.  At the approval the state
meets the preconditions; at the execution only the order's status is checked. -/

/-- A state has, for a proposal, the same version and equal expected attributes
as another one. -/
structure Agrees (proposal : ActionProposal) (earlier current : OrderState) : Prop where
  version : current.stateVersion = earlier.stateVersion
  attributes : forall name expected, (name, expected) ∈ proposal.expectedAttributes.entries ->
    forall held, earlier.attributes.get? name = some held -> Exists fun attr =>
      current.attributes.get? name = some attr ∧ attr.value.pyEq held.value = true

/-- Preconditions carry over to a state that agrees. -/
theorem MeetsPreconditions.of_agrees {proposal : ActionProposal} {earlier current : OrderState}
    (meets : MeetsPreconditions proposal earlier) (agrees : Agrees proposal earlier current) :
    MeetsPreconditions proposal current where
  version := agrees.version.trans meets.version
  expected := by
    intro name expected member
    rcases meets.expected name expected member with ⟨held, found, same⟩
    rcases agrees.attributes name expected member held found with ⟨attr, holds, equal⟩
    exact ⟨attr, holds, Json.pyEq_trans _ _ _ equal same⟩

/-- In any run, an execute call that invokes the executor is given a state that
still meets the proposal's preconditions, provided that the state agrees with
the one in which the action was approved. -/
theorem fresh_state_of_agreement (rt : Runtime) {history : List (Step ActionService Call)}
    {service : ActionService} (run : (actionSystem rt).Run history service) (draws : Draws)
    {actionId tenantId : Text} {cancelOrder : CancelOrderExecutor} {currentState : Option OrderState}
    {call : ProviderCall} {action : StoredAction}
    (invoked : (service.execute rt draws actionId tenantId cancelOrder currentState).invoked =
      some call)
    (stored : service.actions.get? actionId = some action)
    (unchanged : forall current, currentState = some current ->
      forall step, step ∈ history -> forall role earlier,
        Approves actionId action.proposal tenantId role earlier step ->
          Agrees action.proposal earlier current) :
    Exists fun current => currentState = some current ∧
      MeetsPreconditions action.proposal current := by
  rcases write_authorized rt run draws invoked with ⟨found, held, authorized⟩
  rw [stored] at held
  cases held
  rcases authorized.lineage with ⟨creation, context, approval, role, earlier, order, _, _, _, approves⟩
  rcases authorized.eligible with ⟨current, given, _⟩
  have member : approval ∈ history := order.subset (by simp)
  exact ⟨current, given,
    approves.preconditions.of_agrees (unchanged current given approval member role earlier approves)⟩

/-- The sample order agrees with itself, so its execution meets the preconditions. -/
theorem fresh_state_of_agreement_sample :
    Exists fun current => some (sampleOrder 1 "open") = some current ∧
      MeetsPreconditions sampleApproved.proposal current := by
  refine fresh_state_of_agreement .plain (sample_run [samplePropose, sampleApprove] ⟨_, rfl⟩).ofRestrict
    (.numbered 4) (sample_invoked 1) sample_approved ?_
  rintro current given step member role earlier approves
  cases given
  rcases approves.approves with ⟨draws, approval, label⟩
  have same : earlier = sampleOrder 1 "open" := by
    rcases List.mem_cons.mp member with rfl | second
    · cases label
    · rw [List.mem_singleton.mp second] at label
      cases label
      rfl
  subst same
  refine ⟨rfl, fun name expected expects held found => ⟨held, found, ?_⟩⟩
  cases List.mem_singleton.mp expects
  cases found
  decide

/-- The order changed to its second version after the approval, and the write
was sent all the same. -/
theorem stale_state_executed :
    Exists fun history => Exists fun service => Exists fun call => Exists fun action =>
      (actionSystem .plain).Run history service ∧
      (service.execute .plain (.numbered 4) sampleId "demo" sampleExecutor
        (some (sampleOrder 2 "open"))).invoked = some call ∧
      service.actions.get? sampleId = some action ∧
      ¬ MeetsPreconditions action.proposal (sampleOrder 2 "open") :=
  ⟨_, _, _, _, (sample_run [samplePropose, sampleApprove] ⟨_, rfl⟩).ofRestrict, sample_invoked 2,
    sample_approved, fun meets => absurd meets.version (by decide)⟩

end Actions
end RealityLayer
