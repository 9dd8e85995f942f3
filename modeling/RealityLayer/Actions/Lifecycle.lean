import RealityLayer.Actions.Audit

namespace RealityLayer
namespace Actions

open Foundation Python RealityGit WorldState

/-!
# The lifecycle language

The event types of an action spell a word.  `LifecycleWord` is the language of
those words together with the status that each word determines, relative to the
status of the policy decision that opens it.  An execution-stage
`precondition_failed` shares its type with the approval-stage one, but it leaves
the action approved; the word tells the two apart by their position.

The invariant is that every stored action is on course: its events begin with
the policy event, and their types spell a word for its current status.  One call
extends the word by one letter or leaves it, and a terminal status admits no
letter at all.
-/

/-! ## The language -/

def approvedWord (refusals : Nat) : List Text :=
  "policy_evaluated" :: "approved" :: List.replicate refusals "precondition_failed"

def acceptedWord (refusals pending : Nat) : List Text :=
  approvedWord refusals ++ ("provider_accepted" : Text) :: List.replicate pending "verification_pending"

/-- A conclusive outcome of verification. A pending attempt is not one, since the next
attempt may still change the status. -/
def ActionStatus.Conclusive (status : ActionStatus) : Prop :=
  status = .verified ∨ status = .verificationFailed ∨ status = .stateDiverged

/-- The words of the lifecycle, with the status each of them determines. A word is the list
of an action's event types, and a refused execution may repeat its letter without changing
the status. -/
inductive LifecycleWord (initial : ActionStatus) : List Text -> ActionStatus -> Prop
  | evaluated (known : initial = .denied ∨ initial = .approvalRequired) :
      LifecycleWord initial ["policy_evaluated"] initial
  | rejected (waited : initial = .approvalRequired) :
      LifecycleWord initial ["policy_evaluated", "rejected"] .rejected
  | denied (waited : initial = .approvalRequired) :
      LifecycleWord initial ["policy_evaluated", "approval_denied"] .denied
  | preconditionFailed (waited : initial = .approvalRequired) :
      LifecycleWord initial ["policy_evaluated", "precondition_failed"] .preconditionFailed
  | approved (waited : initial = .approvalRequired) (refusals : Nat) :
      LifecycleWord initial (approvedWord refusals) .approved
  | accepted (waited : initial = .approvalRequired) (refusals : Nat) :
      LifecycleWord initial (acceptedWord refusals 0) .providerAccepted
  | pending (waited : initial = .approvalRequired) (refusals pending : Nat) :
      LifecycleWord initial (acceptedWord refusals (pending + 1)) .verificationPending
  | concluded (waited : initial = .approvalRequired) (refusals pending : Nat) (verdict : ActionStatus)
      (final : verdict.Conclusive) :
      LifecycleWord initial (acceptedWord refusals pending ++ [verdict.value]) verdict

/-- No call changes an action in one of these statuses. Those besides the conclusive ones are
the refusals: of the policy, of the approver and of the preconditions at approval. -/
def ActionStatus.Terminal (status : ActionStatus) : Prop :=
  status = .rejected ∨ status = .denied ∨ status = .preconditionFailed ∨ status.Conclusive

theorem acceptedWord_pending (refusals pending : Nat) :
    acceptedWord refusals pending ++ [("verification_pending" : Text)] = acceptedWord refusals (pending + 1) := by
  unfold acceptedWord
  rw [List.append_assoc, List.cons_append, List.replicate_succ']

theorem approvedWord_refused (refusals : Nat) :
    approvedWord refusals ++ [("precondition_failed" : Text)] = approvedWord (refusals + 1) := by
  unfold approvedWord
  rw [List.cons_append, List.cons_append, List.replicate_succ']

namespace LifecycleWord

variable {initial status : ActionStatus} {types : List Text}

/-! ## Reading a status backwards -/

theorem of_waiting (word : LifecycleWord initial types status) (waiting : status = .approvalRequired) :
    types = ["policy_evaluated"] ∧ initial = .approvalRequired := by
  cases word with
  | evaluated known => exact ⟨rfl, waiting⟩
  | concluded waited refusals pending verdict final =>
      rcases final with rfl | rfl | rfl <;> cases waiting
  | rejected waited => cases waiting
  | denied waited => cases waiting
  | preconditionFailed waited => cases waiting
  | approved waited refusals => cases waiting
  | accepted waited refusals => cases waiting
  | pending waited refusals pending => cases waiting

theorem of_approved (word : LifecycleWord initial types status) (approved : status = .approved) :
    initial = .approvalRequired ∧ Exists fun refusals => types = approvedWord refusals := by
  cases word with
  | evaluated known =>
      subst approved
      rcases known with same | same <;> cases same
  | approved waited refusals => exact ⟨waited, refusals, rfl⟩
  | concluded waited refusals pending verdict final =>
      rcases final with rfl | rfl | rfl <;> cases approved
  | rejected waited => cases approved
  | denied waited => cases approved
  | preconditionFailed waited => cases approved
  | accepted waited refusals => cases approved
  | pending waited refusals pending => cases approved

theorem of_verifiable (word : LifecycleWord initial types status)
    (verifiable : ActionService.verifiable status = true) :
    initial = .approvalRequired ∧
      Exists fun refusals => Exists fun pending => types = acceptedWord refusals pending := by
  cases word with
  | evaluated known =>
      rcases known with rfl | rfl <;> cases verifiable
  | accepted waited refusals => exact ⟨waited, refusals, 0, rfl⟩
  | pending waited refusals pending => exact ⟨waited, refusals, pending + 1, rfl⟩
  | concluded waited refusals pending verdict final =>
      rcases final with rfl | rfl | rfl <;> cases verifiable
  | rejected waited => cases verifiable
  | denied waited => cases verifiable
  | preconditionFailed waited => cases verifiable
  | approved waited refusals => cases verifiable

/-! ## One more letter -/

theorem refused (word : LifecycleWord initial types status) (approved : status = .approved) :
    LifecycleWord initial (types ++ [("precondition_failed" : Text)]) status := by
  rcases word.of_approved approved with ⟨waited, refusals, rfl⟩
  rw [approvedWord_refused, approved]
  exact .approved waited (refusals + 1)

theorem providerAccepted (word : LifecycleWord initial types status) (approved : status = .approved) :
    LifecycleWord initial (types ++ [("provider_accepted" : Text)]) .providerAccepted := by
  rcases word.of_approved approved with ⟨waited, refusals, rfl⟩
  exact .accepted waited refusals

/-- A verification attempt adds a pending letter or concludes the word. -/
theorem verified (word : LifecycleWord initial types status)
    (verifiable : ActionService.verifiable status = true) (observed : Json) (isFinalAttempt : Bool) :
    LifecycleWord initial
      (types ++ [(ActionService.verificationStatus observed isFinalAttempt).value])
      (ActionService.verificationStatus observed isFinalAttempt) := by
  rcases word.of_verifiable verifiable with ⟨waited, refusals, pending, rfl⟩
  unfold ActionService.verificationStatus
  split
  · exact .concluded waited refusals pending .verified (Or.inl rfl)
  · split
    · have extended : LifecycleWord initial _ .verificationPending :=
        .pending waited refusals pending
      rw [← acceptedWord_pending] at extended
      exact extended
    · split
      · exact .concluded waited refusals pending .verificationFailed (Or.inr (Or.inl rfl))
      · exact .concluded waited refusals pending .stateDiverged (Or.inr (Or.inr rfl))

/-- Every verdict of the service extends the word to the verdict's status. A refused
execution is no verdict, since it leaves the status. -/
theorem settled {rt : Runtime} {action : StoredAction} {call : Call} {actionId tenantId : Text}
    {verdict : Verdict} (word : LifecycleWord initial types action.decision.status)
    (decides : Decides rt action call actionId tenantId verdict) :
    LifecycleWord initial (types ++ [verdict.eventType]) verdict.status := by
  cases decides with
  | approval draws actionId approval role tenantId currentState waiting =>
      rcases word.of_waiting waiting with ⟨rfl, waited⟩
      unfold ActionService.approvalVerdict
      split
      · exact .denied waited
      · split
        · exact .preconditionFailed waited
        · exact .approved waited 0
  | rejection draws actionId rejection tenantId waiting =>
      rcases word.of_waiting waiting with ⟨rfl, waited⟩
      exact .rejected waited
  | verification draws actionId tenantId state isFinalAttempt verifiable =>
      exact word.verified verifiable _ isFinalAttempt

/-! ## The word determines the status -/

/-- The status after one more letter.  An approved action stays approved when
its execution is refused. -/
def letterStatus (status : ActionStatus) (letter : Text) : ActionStatus :=
  if letter = "precondition_failed" ∧ status = .approved then .approved
  else (ActionService.restoredStatus? letter).getD status

theorem foldl_replicate_fixed {letter : Text} (fixed : letterStatus status letter = status)
    (count : Nat) : (List.replicate count letter).foldl letterStatus status = status := by
  induction count with
  | zero => rfl
  | succ count ih => rw [List.replicate_succ, List.foldl_cons, fixed, ih]

theorem foldl_approvedWord (refusals : Nat) :
    (approvedWord refusals).foldl letterStatus initial = .approved := by
  have opened : letterStatus (letterStatus initial "policy_evaluated") "approved" = .approved := by
    cases initial <;> decide
  rw [approvedWord, List.foldl_cons, List.foldl_cons, opened]
  exact foldl_replicate_fixed (by decide) refusals

theorem foldl_acceptedWord (refusals pending : Nat) :
    (acceptedWord refusals pending).foldl letterStatus initial =
      if pending = 0 then .providerAccepted else .verificationPending := by
  have accepted : letterStatus .approved "provider_accepted" = .providerAccepted := by decide
  have waits : letterStatus .providerAccepted "verification_pending" = .verificationPending := by decide
  rw [acceptedWord, List.foldl_append, foldl_approvedWord, List.foldl_cons, accepted]
  cases pending with
  | zero => rfl
  | succ pending =>
      rw [List.replicate_succ, List.foldl_cons, waits, if_neg (Nat.succ_ne_zero pending)]
      exact foldl_replicate_fixed (by decide) pending

/-- Reading the word letter by letter gives its status. -/
theorem status_eq (word : LifecycleWord initial types status) :
    types.foldl letterStatus initial = status := by
  cases word with
  | evaluated known => rcases known with rfl | rfl <;> decide
  | rejected waited => subst waited; decide
  | denied waited => subst waited; decide
  | preconditionFailed waited => subst waited; decide
  | approved waited refusals => exact foldl_approvedWord refusals
  | accepted waited refusals => exact foldl_acceptedWord refusals 0
  | pending waited refusals pending => exact foldl_acceptedWord refusals (pending + 1)
  | concluded waited refusals pending verdict final =>
      rw [List.foldl_append, foldl_acceptedWord]
      rcases final with rfl | rfl | rfl <;> split <;> decide

theorem unique {other : ActionStatus} (word : LifecycleWord initial types status)
    (again : LifecycleWord initial types other) : other = status :=
  again.status_eq.symm.trans word.status_eq

end LifecycleWord

/-! ## Every stored action is on course -/

/-- The first event is the policy event, and it records this decision status. A proposal that
the policy denies has such an event as well. -/
def PolicyDecided (events : List ActionEventRecord) (initial : ActionStatus) : Prop :=
  Exists fun first => Exists fun rest => Exists fun decision : ActionDecision =>
    events = first :: rest ∧ first.payload.get? "decision" = some (.dict decision.dump) ∧
      decision.status = initial

theorem PolicyDecided.append {events : List ActionEventRecord} {initial : ActionStatus}
    (decided : PolicyDecided events initial) (more : List ActionEventRecord) :
    PolicyDecided (events ++ more) initial := by
  rcases decided with ⟨first, rest, decision, rfl, payload, status⟩
  exact ⟨first, rest ++ more, decision, rfl, payload, status⟩

/-- The events spell a word for the status. The word starts from the status that the policy
event records, which is where the lifecycle forks. -/
def OnCourse (events : List ActionEventRecord) (status : ActionStatus) : Prop :=
  Exists fun initial => PolicyDecided events initial ∧
    LifecycleWord initial (events.map ActionEventRecord.eventType) status

/-- One more event, whose type extends every word of the old status. -/
theorem OnCourse.snoc {events : List ActionEventRecord} {status next : ActionStatus}
    (course : OnCourse events status) (event : ActionEventRecord)
    (extends_ : forall initial types, LifecycleWord initial types status ->
      LifecycleWord initial (types ++ [event.eventType]) next) :
    OnCourse (events ++ [event]) next := by
  rcases course with ⟨initial, decided, word⟩
  refine ⟨initial, decided.append _, ?_⟩
  rw [List.map_append]
  exact extends_ initial _ word

def LifecycleSound (service : ActionService) : Prop :=
  forall actionId action, service.actions.get? actionId = some action ->
    OnCourse (service.eventsOf actionId) action.decision.status

section Preservation

variable {rt : Runtime} {service after : ActionService} {hashed : Prop} {call : Call}
variable {draft : EventDraft} {entry : Option ActionEventRecord}

/-- Changing one decision and logging one event keeps every action on course
when the event's type leads to the new status. -/
theorem LifecycleSound.decided {actionId : Text} {action : StoredAction} (status : ActionStatus)
    (reason : Text) {event : ActionEventRecord} {base : ActionService}
    (sound : LifecycleSound service) (found : service.actions.get? actionId = some action)
    (appends : Appends rt base draft hashed (some event) after) (names : draft.actionId = actionId)
    (actions : base.actions = (service.withDecision actionId action status reason).actions)
    (events : base.eventsOf = service.eventsOf)
    (extends_ : forall initial types, LifecycleWord initial types action.decision.status ->
      LifecycleWord initial (types ++ [event.eventType]) status) :
    LifecycleSound after := by
  intro other stored held
  rw [appends.actions, actions, ActionService.withDecision] at held
  by_cases same : other = actionId
  · subst same
    rw [Dict.get?_set_self] at held
    cases held
    have grown := appends.eventsOf_same
    rw [names, events] at grown
    rw [grown]
    exact (sound other action found).snoc event extends_
  · rw [Dict.get?_set_of_ne _ _ same] at held
    rw [appends.eventsOf_other (fun equal => same (equal.trans names)), events]
    exact sound other stored held

theorem LifecycleSound.step (sound : LifecycleSound service) (audit : AuditSound rt service)
    (effect : Effect rt service hashed call entry after) (fresh : service.DrawsFresh call)
    (visible : hashed) : LifecycleSound after := by
  cases effect with
  | idle => exact sound
  | created draws proposal tenantId context _ _ unclaimed appends =>
      rcases appends.of_hashed visible with ⟨eventHash, rfl, _⟩
      intro other stored held
      rw [appends.actions] at held
      by_cases same : other = ActionService.newActionId draws
      · subst same
        rw [ActionService.register, Dict.get?_set_self] at held
        cases held
        have unlogged : service.eventsOf (ActionService.newActionId draws) = [] := by
          refine List.eq_nil_iff_forall_not_mem.mpr (fun event member => ?_)
          rcases audit.owned _ event member with ⟨action, existing, _⟩
          rw [fresh.2 _ rfl] at existing
          cases existing
        have grown : after.eventsOf (ActionService.newActionId draws) =
            service.eventsOf (ActionService.newActionId draws) ++ _ := appends.eventsOf_same
        rw [grown, unlogged]
        exact ⟨_, ⟨_, [], _, rfl, rfl, rfl⟩, .evaluated (evaluatePolicy_status rt _ proposal context)⟩
      · rw [ActionService.register, Dict.get?_set_of_ne _ _ same] at held
        rw [appends.eventsOf_other same]
        exact sound other stored held
  | settled call actionId tenantId action verdict _ _ found owner decides appends =>
      rcases appends.of_hashed visible with ⟨eventHash, rfl, _⟩
      exact sound.decided _ _ found appends rfl rfl rfl (fun _ _ word => word.settled decides)
  | refused draws actionId tenantId cancelOrder currentState action reason _ _ found owner approved
      ineligible appends =>
      rcases appends.of_hashed visible with ⟨eventHash, rfl, _⟩
      intro other stored held
      rw [appends.actions] at held
      by_cases same : other = actionId
      · subst same
        rw [found] at held
        cases held
        have grown : after.eventsOf other = service.eventsOf other ++ _ := appends.eventsOf_same
        rw [grown]
        exact (sound other action found).snoc _ (fun _ _ word => word.refused approved)
      · rw [appends.eventsOf_other same]
        exact sound other stored held
  | accepted draws actionId tenantId cancelOrder currentState action receipt _ _ reaches accepts
      appends =>
      rcases appends.of_hashed visible with ⟨eventHash, rfl, _⟩
      exact sound.decided .providerAccepted _ reaches.found appends rfl rfl rfl
        (fun _ _ word => word.providerAccepted reaches.approved)

end Preservation

theorem LifecycleSound.of_run {rt : Runtime} {history : List (Step ActionService Call)}
    {service : ActionService} (run : (hashedActionSystem rt).Run history service) :
    LifecycleSound service := by
  apply System.Run.historyInvariant run
  · rintro _ rfl
    exact fun _ _ stored => nomatch stored
  · rintro history service call earlier sound ⟨fresh, visible⟩
    rcases perform_effect rt service call with ⟨entry, effect⟩
    exact sound.step (AuditSound.of_run earlier.ofRestrict) effect fresh visible

/-! ## Terminal statuses -/

theorem ActionStatus.Terminal.not_waiting {status : ActionStatus} (terminal : status.Terminal) :
    status ≠ .approvalRequired ∧ status ≠ .approved ∧ ActionService.verifiable status = false := by
  rcases terminal with rfl | rfl | rfl | rfl | rfl | rfl <;> decide

theorem Decides.not_terminal {rt : Runtime} {action : StoredAction} {call : Call}
    {actionId tenantId : Text} {verdict : Verdict}
    (decides : Decides rt action call actionId tenantId verdict) :
    ¬ action.decision.status.Terminal := by
  intro terminal
  rcases terminal.not_waiting with ⟨notWaiting, _, notVerifiable⟩
  cases decides with
  | approval draws actionId approval role tenantId currentState waiting => exact notWaiting waiting
  | rejection draws actionId rejection tenantId waiting => exact notWaiting waiting
  | verification draws actionId tenantId state isFinalAttempt verifiable =>
      rw [notVerifiable] at verifiable
      cases verifiable

/-- A call leaves an action in a terminal status, and its events, as they are. No call
decides an action in such a status. -/
theorem Effect.terminal {rt : Runtime} {service after : ActionService} {hashed : Prop} {call : Call}
    {entry : Option ActionEventRecord} (effect : Effect rt service hashed call entry after)
    (fresh : service.DrawsFresh call) {actionId : Text} {action : StoredAction}
    (stored : service.actions.get? actionId = some action)
    (terminal : action.decision.status.Terminal) :
    after.actions.get? actionId = some action ∧ after.eventsOf actionId = service.eventsOf actionId := by
  have notApproved := terminal.not_waiting.2.1
  -- Every effect on an action leaves a different action, or needs a status that is not terminal.
  have elsewhere : forall {draft : EventDraft} {base : ActionService},
      Appends rt base draft hashed entry after -> base.eventsOf actionId = service.eventsOf actionId ->
      actionId ≠ draft.actionId -> base.actions.get? actionId = some action ->
      after.actions.get? actionId = some action ∧
        after.eventsOf actionId = service.eventsOf actionId := by
    intro draft base appends events different held
    refine ⟨appends.actions ▸ held, ?_⟩
    rw [appends.grows actionId, events]
    cases appends with
    | logged eventHash genuine => simp [EventDraft.record, Ne.symm different]
    | unhashable broken => simp
  cases effect with
  | idle => exact ⟨stored, rfl⟩
  | created draws proposal tenantId context _ _ unclaimed appends =>
      have different : actionId ≠ ActionService.newActionId draws := by
        rintro rfl
        rw [fresh.2 _ rfl] at stored
        cases stored
      exact elsewhere appends rfl different ((Dict.get?_set_of_ne _ _ different).trans stored)
  | settled call target tenantId held verdict _ _ found owner decides appends =>
      have different : actionId ≠ target := by
        rintro rfl
        rw [stored] at found
        cases found
        exact decides.not_terminal terminal
      exact elsewhere appends rfl different ((Dict.get?_set_of_ne _ _ different).trans stored)
  | refused draws target tenantId cancelOrder currentState held reason _ _ found owner approved
      ineligible appends =>
      have different : actionId ≠ target := by
        rintro rfl
        rw [stored] at found
        cases found
        exact notApproved approved
      exact elsewhere appends rfl different stored
  | accepted draws target tenantId cancelOrder currentState held receipt _ _ reaches accepts appends =>
      have different : actionId ≠ target := by
        rintro rfl
        have found := reaches.found
        rw [stored] at found
        cases found
        exact notApproved reaches.approved
      exact elsewhere appends rfl different ((Dict.get?_set_of_ne _ _ different).trans stored)

/-! ## The lifecycle of every reachable action -/

/-- In every service reached by hashable calls, the event types of each stored
action spell a lifecycle word that determines its status, opened by the policy
decision its first event records.  Once that status is terminal, no call changes
the action or its events. -/
theorem lifecycle_language (rt : Runtime) {history : List (Step ActionService Call)}
    {service : ActionService} (run : (hashedActionSystem rt).Run history service)
    {actionId : Text} {action : StoredAction}
    (stored : service.actions.get? actionId = some action) :
    (Exists fun initial => PolicyDecided (service.eventsOf actionId) initial ∧
      LifecycleWord initial ((service.eventsOf actionId).map ActionEventRecord.eventType)
        action.decision.status ∧
      forall status, LifecycleWord initial
        ((service.eventsOf actionId).map ActionEventRecord.eventType) status ->
          status = action.decision.status) ∧
    (action.decision.status.Terminal -> forall call, service.DrawsFresh call ->
      (service.perform rt call).state.actions.get? actionId = some action ∧
        (service.perform rt call).state.eventsOf actionId = service.eventsOf actionId) := by
  rcases LifecycleSound.of_run run actionId action stored with ⟨initial, decided, word⟩
  refine ⟨⟨initial, decided, word, fun status again => word.unique again⟩, ?_⟩
  intro terminal call fresh
  rcases perform_effect rt service call with ⟨entry, effect⟩
  exact effect.terminal fresh stored terminal

/-- The verified cancellation of the sample run is on course and terminal. -/
theorem lifecycle_language_sample :
    Exists fun action => (sampleService sampleCalls).actions.get? sampleId = some action ∧
      action.decision.status = .verified ∧
      forall call, (sampleService sampleCalls).DrawsFresh call ->
        ((sampleService sampleCalls).perform .plain call).state.actions.get? sampleId = some action := by
  have held : ((sampleService sampleCalls).actions.get? sampleId).map
      (fun action => action.decision.status) = some .verified := by
    decide +kernel
  rcases Option.map_eq_some_iff.mp held with ⟨action, stored, verified⟩
  refine ⟨action, stored, verified, fun call fresh => ?_⟩
  have terminal : action.decision.status.Terminal :=
    Or.inr (Or.inr (Or.inr (Or.inl verified)))
  have run := sample_run sampleCalls List.prefix_rfl
  exact ((lifecycle_language .plain run stored).2 terminal call fresh).1

end Actions
end RealityLayer
