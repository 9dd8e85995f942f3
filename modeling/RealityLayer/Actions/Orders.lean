import RealityLayer.Actions.Verifiers
import RealityLayer.RealityGit.Tamper

namespace RealityLayer
namespace Actions

open Foundation Python RealityGit WorldState

/-!
# Restoring in another order

A table returns the rows of a log in any order.  `restore` takes them as they come: it skips
the events of an action that it does not know yet, and the status is that of the event it
took last.  What a fresh service holds afterwards is a function of the events that it kept,
in the order in which it kept them.

The kept events of an action are accepted by the validator only as a front of the action's
log, because each event names the hash of the one before it.  So an order restores what the
log restores exactly when it keeps fronts that end in the same statuses, and the same
receipts.
-/

/-! ## The events that are kept -/

/-- An event is kept when it introduces its action, or its action is known. This is the test
that `restore` makes, on the events instead of the stored actions. -/
def keepsEvent (kept : List ActionEventRecord) (event : ActionEventRecord) : Bool :=
  decide (event.eventType = "policy_evaluated") ||
    kept.any (fun other => decide (other.actionId = event.actionId))

/-- The events of a list from which none of an action stands before its policy event. The
dropped ones are gone for good: `restore` does not come back to them. -/
def keptEvents (events : List ActionEventRecord) : List ActionEventRecord :=
  events.foldl (fun kept event => if keepsEvent kept event then kept ++ [event] else kept) []

/-- The status that an event sets. A policy event sets the one its decision records, and the
others the one that the table of `restore` has. -/
def eventStatus? (event : ActionEventRecord) : Option ActionStatus :=
  if event.eventType = "policy_evaluated" then
    ((event.payload.get? "decision").bind Json.entries?).bind (fun data =>
      (ActionDecision.modelValidate data).toOption.map ActionDecision.status)
  else ActionService.restoredStatus? event.eventType

/-- The receipt that an event carries, with its key. The key is made from the tenant of the
event and the idempotency key of the receipt. -/
def eventReceipt? (event : ActionEventRecord) : Option ((Text × Text) × ExecutionReceipt) :=
  if event.eventType = "provider_accepted" then
    (ExecutionReceipt.modelValidate event.payload.entries).toOption.map (fun receipt =>
      ((event.tenantId, receipt.idempotencyKey), receipt))
  else none

/-- The status that the last of some events sets. Every type of event that the service writes
sets one. -/
def lastStatus (events : List ActionEventRecord) : Option ActionStatus :=
  events.getLast?.bind eventStatus?

/-- The receipt that the last acceptance of a key carries. Earlier ones of the same key are
overwritten when the events are restored. -/
def lastReceipt (events : List ActionEventRecord) (key : Text × Text) : Option ExecutionReceipt :=
  ((events.filterMap eventReceipt?).filter (fun entry => decide (entry.1 = key))).getLast?.map Prod.snd

theorem keptEvents_snoc (events : List ActionEventRecord) (event : ActionEventRecord) :
    keptEvents (events ++ [event]) =
      if keepsEvent (keptEvents events) event then keptEvents events ++ [event] else keptEvents events := by
  unfold keptEvents
  rw [List.foldl_append]
  rfl

/-- Kept events are among the events, in the same order. -/
theorem keptEvents_sublist (events : List ActionEventRecord) : (keptEvents events).Sublist events := by
  induction events using List.reverseRec with
  | nil => exact List.Sublist.refl _
  | append_singleton front last ih =>
      rw [keptEvents_snoc]
      split
      · exact ih.append (List.Sublist.refl _)
      · exact ih.trans (List.sublist_append_left _ _)

/-! ## Restoring regular events -/

/-- Restoring the event sets a status, and a receipt when it records an acceptance. Every
event of a run is regular; a row of another kind may make `restore` raise, or be listed
without setting a status. -/
structure Regular (event : ActionEventRecord) : Prop where
  policy : event.eventType = "policy_evaluated" -> Exists fun proposal => Exists fun decision =>
    ReadsPolicy event proposal decision
  status : event.eventType ≠ "policy_evaluated" ->
    Exists fun status => ActionService.restoredStatus? event.eventType = some status
  receipt : event.eventType = "provider_accepted" ->
    Exists fun receipt => ExecutionReceipt.modelValidate event.payload.entries = .ok receipt

/-- What a fresh service holds after keeping some events. The status is that of the last kept
event alone, which is why the order of the rows matters. -/
structure RestoredFrom (kept : List ActionEventRecord) (service : ActionService) : Prop where
  rows : forall actionId, service.eventsOf actionId = actionRows actionId kept
  statuses : forall actionId,
    (service.actions.get? actionId).map (fun action => action.decision.status) =
      lastStatus (actionRows actionId kept)
  receipts : forall key, service.executions.get? key = lastReceipt kept key

section Restore

variable {rt : Runtime} {kept : List ActionEventRecord} {service next : ActionService}
variable {event : ActionEventRecord}

theorem ReadsPolicy.eventStatus {proposal : ActionProposal} {decision : ActionDecision}
    (reads : ReadsPolicy event proposal decision) (kind : event.eventType = "policy_evaluated") :
    eventStatus? event = some decision.status := by
  rcases reads.decision with ⟨data, found, read⟩
  unfold eventStatus?
  rw [if_pos kind, found]
  simp only [Option.bind_some, Json.entries?, read]
  rfl

theorem Regular.sets (regular : Regular event) :
    Exists fun status : ActionStatus => eventStatus? event = some status := by
  by_cases kind : event.eventType = "policy_evaluated"
  · rcases regular.policy kind with ⟨proposal, decision, reads⟩
    exact ⟨_, reads.eventStatus kind⟩
  · rcases regular.status kind with ⟨status, maps⟩
    refine ⟨status, ?_⟩
    unfold eventStatus?
    rw [if_neg kind, maps]

theorem actionRows_snoc (actionId : Text) (kept : List ActionEventRecord) (event : ActionEventRecord) :
    actionRows actionId (kept ++ [event]) =
      if actionId = event.actionId then actionRows actionId kept ++ [event]
      else actionRows actionId kept := by
  unfold actionRows
  rw [List.filter_append]
  by_cases same : actionId = event.actionId
  · rw [if_pos same]
    simp [same]
  · rw [if_neg same]
    simp [Ne.symm same]

theorem lastStatus_snoc (events : List ActionEventRecord) (event : ActionEventRecord) :
    lastStatus (events ++ [event]) = eventStatus? event := by
  unfold lastStatus
  rw [List.getLast?_concat]
  rfl

theorem lastReceipt_snoc (kept : List ActionEventRecord) (event : ActionEventRecord) (key : Text × Text) :
    lastReceipt (kept ++ [event]) key =
      (((eventReceipt? event).filter (fun entry => decide (entry.1 = key))).map Prod.snd).or
        (lastReceipt kept key) := by
  unfold lastReceipt
  rw [List.filterMap_append, List.filter_append]
  cases found : eventReceipt? event with
  | none => simp [found]
  | some entry =>
      by_cases same : entry.1 = key
      · simp [found, same, Option.filter]
      · simp [found, same, Option.filter]

/-- An action is known when one of its events was kept. -/
theorem RestoredFrom.known_iff (restored : RestoredFrom kept service)
    (regulars : forall other, other ∈ kept -> Regular other) (actionId : Text) :
    (service.actions.get? actionId).isSome = true <->
      Exists fun other : ActionEventRecord => other ∈ kept ∧ other.actionId = actionId := by
  have status := restored.statuses actionId
  constructor
  · intro known
    rcases Option.isSome_iff_exists.mp known with ⟨action, found⟩
    rw [found] at status
    cases newest : (actionRows actionId kept).getLast? with
    | none =>
        unfold lastStatus at status
        rw [newest] at status
        cases status
    | some other =>
        have member := List.mem_filter.mp (List.mem_of_getLast? newest)
        exact ⟨other, member.1, of_decide_eq_true member.2⟩
  · rintro ⟨other, member, about⟩
    have listed : other ∈ actionRows actionId kept := List.mem_filter.mpr ⟨member, decide_eq_true about⟩
    have full := List.ne_nil_of_mem listed
    rcases (regulars _ (List.mem_filter.mp (List.getLast_mem full)).1).sets with ⟨set, sets⟩
    unfold lastStatus at status
    rw [List.getLast?_eq_some_getLast full, Option.bind_some, sets] at status
    rcases Option.map_eq_some_iff.mp status with ⟨action, found, _⟩
    rw [found]
    rfl

theorem RestoredFrom.unseen (restored : RestoredFrom kept service)
    (new : forall other, other ∈ kept -> other.eventId ≠ event.eventId) :
    event.eventId ∉ service.eventIds := by
  intro seen
  rcases ActionService.mem_eventIds_iff.mp seen with ⟨other, ⟨actionId, member⟩, same⟩
  rw [restored.rows] at member
  exact new other (List.mem_filter.mp member).1 same

/-- One more kept event. -/
theorem RestoredFrom.added (restored : RestoredFrom kept service) {action : StoredAction}
    (rows : forall actionId, next.eventsOf actionId =
      if actionId = event.actionId then service.eventsOf actionId ++ [event]
      else service.eventsOf actionId)
    (rebinds : Rebinds service next event.actionId action)
    (sets : eventStatus? event = some action.decision.status)
    (receipts : forall key, next.executions.get? key =
      (((eventReceipt? event).filter (fun entry => decide (entry.1 = key))).map Prod.snd).or
        (service.executions.get? key)) :
    RestoredFrom (kept ++ [event]) next where
  rows := by
    intro actionId
    rw [rows, restored.rows, actionRows_snoc]
  statuses := by
    intro actionId
    rw [actionRows_snoc]
    by_cases same : actionId = event.actionId
    · subst same
      rw [if_pos rfl, rebinds.here, lastStatus_snoc, sets]
      rfl
    · rw [if_neg same, rebinds.elsewhere actionId same]
      exact restored.statuses actionId
  receipts := by
    intro key
    rw [receipts, restored.receipts, lastReceipt_snoc]

theorem eventReceipt?_none (other : event.eventType ≠ "provider_accepted") :
    eventReceipt? event = none := by
  unfold eventReceipt?
  exact if_neg other

/-- Restoring a regular event keeps it, unless its action is unknown. -/
theorem RestoredFrom.restore (restored : RestoredFrom kept service)
    (regulars : forall other, other ∈ kept -> Regular other) (regular : Regular event)
    (new : forall other, other ∈ kept -> other.eventId ≠ event.eventId) :
    Exists fun next : ActionService => service.restore rt event = .returns next () ∧
      RestoredFrom (if keepsEvent kept event then kept ++ [event] else kept) next := by
  unfold ActionService.restore
  rw [if_neg (restored.unseen new)]
  by_cases policy : event.eventType = "policy_evaluated"
  · -- A policy event registers its action anew.
    have keeps : keepsEvent kept event = true := by
      unfold keepsEvent
      rw [decide_eq_true policy, Bool.true_or]
    have other : event.eventType ≠ "provider_accepted" := by
      rw [policy]
      decide
    rcases regular.policy policy with ⟨proposal, decision, reads⟩
    rcases id reads with ⟨⟨data, proposed, read⟩, ⟨data', decided, read'⟩⟩
    rw [if_neg (not_not.mpr policy), if_pos keeps, ActionService.restorePolicy]
    simp only [proposed, decided, Option.bind_some, Json.entries?, read, read']
    refine ⟨_, rfl, restored.added (fun actionId => ActionService.eventsOf_push _ event actionId)
      (.of_set rfl) (reads.eventStatus policy) (fun key => ?_)⟩
    rw [eventReceipt?_none other]
    rfl
  · rw [if_pos policy]
    cases stored : service.actions.get? event.actionId with
    | none =>
        have skips : keepsEvent kept event = false := by
          unfold keepsEvent
          rw [decide_eq_false policy, Bool.false_or, List.any_eq_false]
          intro other member about
          have known := (restored.known_iff regulars event.actionId).mpr
            ⟨other, member, of_decide_eq_true about⟩
          rw [stored] at known
          cases known
        rw [if_neg (by rw [skips]; exact Bool.false_ne_true)]
        exact ⟨service, rfl, restored⟩
    | some action =>
        obtain ⟨other, member, about⟩ := (restored.known_iff regulars event.actionId).mp (by rw [stored]; rfl)
        have keeps : keepsEvent kept event = true := by
          unfold keepsEvent
          rw [decide_eq_false policy, Bool.false_or]
          exact List.any_eq_true.mpr ⟨other, member, decide_eq_true about⟩
        rcases regular.status policy with ⟨status, maps⟩
        have sets : eventStatus? event = some status := by
          unfold eventStatus?
          rw [if_neg policy, maps]
        rw [if_pos keeps]
        simp only [ActionService.applyRestoredEvent, maps]
        by_cases accepted : event.eventType = "provider_accepted"
        · rcases regular.receipt accepted with ⟨receipt, read⟩
          simp only [if_pos accepted, read]
          refine ⟨_, rfl, restored.added (fun actionId => ActionService.eventsOf_push _ event actionId)
            (.of_set rfl) sets (fun key => ?_)⟩
          have carried : eventReceipt? event = some ((event.tenantId, receipt.idempotencyKey), receipt) := by
            unfold eventReceipt?
            rw [if_pos accepted, read]
            rfl
          rw [carried]
          change (service.executions.set (event.tenantId, receipt.idempotencyKey) receipt).get? key = _
          rw [Dict.get?_set]
          by_cases same : key = (event.tenantId, receipt.idempotencyKey)
          · simp [same, Option.filter]
          · simp [same, Ne.symm same, Option.filter]
        · simp only [if_neg accepted]
          refine ⟨_, rfl, restored.added (fun actionId => ActionService.eventsOf_push _ event actionId)
            (.of_set rfl) sets (fun key => ?_)⟩
          rw [eventReceipt?_none accepted]
          rfl

theorem RestoredFrom.fresh : RestoredFrom [] .fresh where
  rows := fun _ => rfl
  statuses := fun _ => rfl
  receipts := fun _ => rfl

/-- A fresh service restores any list of regular events with distinct identifiers. It never
raises, and it holds exactly the kept events afterwards. -/
theorem restoreAll_fresh (rt : Runtime) (events : List ActionEventRecord)
    (regulars : forall event, event ∈ events -> Regular event)
    (distinct : (events.map ActionEventRecord.eventId).Nodup) :
    Exists fun service : ActionService =>
      ActionService.restoreAll rt .fresh events = .returns service () ∧
        RestoredFrom (keptEvents events) service := by
  induction events using List.reverseRec with
  | nil => exact ⟨.fresh, rfl, .fresh⟩
  | append_singleton front last ih =>
      rw [List.map_append, List.nodup_append] at distinct
      rcases ih (fun event member => regulars event (List.mem_append_left _ member)) distinct.1 with
          ⟨service, returned, restored⟩
      have among := fun event member => (keptEvents_sublist front).subset (a := event) member
      rcases @RestoredFrom.restore rt _ _ last restored
        (fun event member => regulars event (List.mem_append_left _ (among event member)))
        (regulars last (List.mem_append_right _ List.mem_cons_self))
        (fun other member => distinct.2.2 _ (List.mem_map_of_mem (among other member)) _
          (List.mem_map_of_mem List.mem_cons_self)) with ⟨next, restores, kept⟩
      refine ⟨next, ?_, ?_⟩
      · unfold ActionService.restoreAll at returned ⊢
        rw [Outcome.forEach_append _ returned]
        exact restoreAll_single restores
      · rw [keptEvents_snoc]
        exact kept

end Restore

/-! ## The log of a run -/

section Logs

variable {rt : Runtime} {service after : ActionService} {hashed : Prop} {call : Call}
variable {event : ActionEventRecord} {history : List (Step ActionService Call)}

theorem readsPolicy_of_payload {proposal : ActionProposal} {decision : ActionDecision}
    (payload : event.payload = ActionService.policyPayload decision proposal) :
    ReadsPolicy event proposal.jsonMode decision where
  proposal := ⟨proposal.dump, by rw [payload]; rfl, ActionProposal.modelValidate_dump proposal⟩
  decision := ⟨decision.dump, by rw [payload]; rfl, ActionDecision.modelValidate_dump decision⟩

/-- Every event that a call logs is regular. -/
theorem Effect.entry_regular (effect : Effect rt service hashed call (some event) after) :
    Regular event where
  policy := by
    intro kind
    rcases effect.entry_payload.1 kind with ⟨action, decision, _, _, payload⟩
    exact ⟨_, _, readsPolicy_of_payload payload⟩
  status := by
    intro other
    cases effect with
    | created draws proposal tenantId context _ _ unclaimed appends =>
        rcases appends.of_entry with ⟨eventHash, rfl, genuine, rfl⟩
        exact absurd rfl other
    | settled call actionId tenantId action verdict _ _ found owner decides appends =>
        rcases appends.of_entry with ⟨eventHash, rfl, genuine, rfl⟩
        exact ⟨_, decides.sets.1⟩
    | refused draws actionId tenantId cancelOrder currentState action reason _ _ found owner approved
        ineligible appends =>
        rcases appends.of_entry with ⟨eventHash, rfl, genuine, rfl⟩
        exact ⟨_, (by decide : SetsStatus "precondition_failed" .preconditionFailed).1⟩
    | accepted draws actionId tenantId cancelOrder currentState action receipt _ _ reaches accepts
        appends =>
        rcases appends.of_entry with ⟨eventHash, rfl, genuine, rfl⟩
        have maps : ActionService.restoredStatus? "provider_accepted" = some .providerAccepted := by
          decide
        exact ⟨_, maps⟩
  receipt := by
    intro kind
    rcases effect.entry_payload.2 kind with ⟨receipt, payload⟩
    have entries : event.payload.entries = receipt.dump := by
      rw [payload]
      exact Dict.entries_ofList _ (by simp [ExecutionReceipt.dump])
    exact ⟨receipt, by rw [entries]; exact ExecutionReceipt.modelValidate_dump receipt⟩

/-- The log of a run holds the service's events, action by action. Its order across actions
is the order of the calls, and each action's rows come out of it by filtering. -/
structure LogSound (log : List ActionEventRecord) (service : ActionService) : Prop where
  rows : forall actionId, service.eventsOf actionId = actionRows actionId log
  regular : forall event, event ∈ log -> Regular event
  distinct : (log.map ActionEventRecord.eventId).Nodup

theorem LogSound.holds {log : List ActionEventRecord} (sound : LogSound log service)
    (member : event ∈ log) : service.Holds event := by
  refine ⟨event.actionId, ?_⟩
  rw [sound.rows]
  exact List.mem_filter.mpr ⟨member, decide_eq_true rfl⟩

theorem LogSound.of_run (run : (actionSystem rt).Run history service) :
    LogSound (eventLog history) service := by
  refine @System.Run.historyInvariant _ _ _ _ _
    (fun history service => LogSound (eventLog history) service) run ?_ ?_
  · rintro _ rfl
    exact ⟨fun _ => rfl, fun _ member => absurd member List.not_mem_nil, List.nodup_nil⟩
  · intro history service call earlier sound fresh
    rcases perform_effect rt service call with ⟨entry, effect⟩
    have grown : eventLog (history ++ [⟨service, call, (service.perform rt call).state⟩]) =
        eventLog history ++ entry.toList := by
      apply (System.logOf_snoc _ _ _).trans
      exact congrArg (eventLog history ++ ·) (effect.added fresh)
    change LogSound (eventLog (history ++ [⟨service, call, (service.perform rt call).state⟩]))
      (service.perform rt call).state
    rw [grown]
    constructor
    · intro actionId
      apply (effect.grows actionId).trans
      unfold actionRows
      rw [List.filter_append, sound.rows]
      rfl
    · intro event member
      rcases List.mem_append.mp member with before | new
      · exact sound.regular event before
      · cases Option.mem_toList.mp new
        exact effect.entry_regular
    · rw [List.map_append, List.nodup_append]
      refine ⟨sound.distinct, by cases entry <;> simp, ?_⟩
      intro eventId before other new same
      rcases List.mem_map.mp new with ⟨event, logged, rfl⟩
      rcases List.mem_map.mp before with ⟨older, held, rfl⟩
      cases Option.mem_toList.mp logged
      refine fresh.1 (ActionService.mem_eventIds_iff.mpr ⟨older, sound.holds held, ?_⟩)
      exact same.trans effect.entry_genuine.2.1

end Logs

/-! ## Two orders -/

/-- What the second service has in common with the first: the status of every action, every
receipt, and event lists that the validator accepts. -/
structure RestoredAlike (rt : Runtime) (whole other : ActionService) : Prop where
  statuses : forall actionId,
    (other.actions.get? actionId).map (fun action => action.decision.status) =
      (whole.actions.get? actionId).map (fun action => action.decision.status)
  receipts : forall key, other.executions.get? key = whole.executions.get? key
  chains : forall actionId, validateEventChain rt (other.eventsOf actionId) = .ok ()

/-- Fresh services restore the log and the other order, and hold the same afterwards. Neither
of the two raises on the way. -/
def RestoresAlike (rt : Runtime) (events log : List ActionEventRecord) : Prop :=
  Exists fun whole : ActionService => Exists fun other : ActionService =>
    ActionService.restoreAll rt .fresh log = .returns whole () ∧
      ActionService.restoreAll rt .fresh events = .returns other () ∧ RestoredAlike rt whole other

/-- The events that an order keeps are fronts of the logs of their actions, end in the status
in which the log ends, and carry its receipts. -/
structure InOrder (events log : List ActionEventRecord) : Prop where
  fronts : forall actionId, actionRows actionId (keptEvents events) <+: actionRows actionId log
  statuses : forall actionId, lastStatus (actionRows actionId (keptEvents events)) =
    lastStatus (actionRows actionId (keptEvents log))
  receipts : forall key, lastReceipt (keptEvents events) key = lastReceipt (keptEvents log) key

section Permuted

variable {rt : Runtime} {history : List (Step ActionService Call)} {service : ActionService}
variable {events log : List ActionEventRecord}

/-- Without collisions the hash of a logged event belongs to no other event. -/
theorem event_of_hash (sound : LogSound log service)
    (separates : HashSeparates rt eventBody log log) {first second : ActionEventRecord}
    (member : first ∈ log) (member' : second ∈ log) (genuine : SealedEvent rt first)
    (genuine' : SealedEvent rt second) (same : first.eventHash = second.eventHash) : first = second := by
  have hashed : hashJson rt (eventBody second) = .ok first.eventHash := by
    rw [same]
    exact genuine'
  have related := separates first member second member' _ genuine hashed
  have named : Reordered (.str first.eventId) (.str second.eventId) :=
    related.field (by simp) "event_id" (by simp) (by simp)
  exact List.inj_on_of_nodup_map sound.distinct member member' named.text

/-- The validator accepts the kept events of an action exactly when they are a front of its
log. An event that was dropped breaks the chain at the next one. -/
theorem chain_accepted_iff (run : (actionSystem rt).Run history service)
    (separates : HashSeparates rt eventBody (eventLog history) (eventLog history))
    (permuted : events.Perm (eventLog history)) (actionId : Text) :
    validateEventChain rt (actionRows actionId (keptEvents events)) = .ok () <->
      actionRows actionId (keptEvents events) <+: actionRows actionId (eventLog history) := by
  have sound := LogSound.of_run run
  have linked := (AuditSound.of_run run).linked actionId
  rw [sound.rows] at linked
  have logged : forall event, event ∈ actionRows actionId (eventLog history) ->
      event ∈ eventLog history := fun event member => (List.mem_filter.mp member).1
  rw [validateEventChain_ok_iff]
  constructor
  · intro linked'
    apply linked.front _ _ _ linked'
    · exact (List.Nodup.of_map _ sound.distinct).filter _
    · intro event member
      rcases List.mem_filter.mp member with ⟨kept, about⟩
      exact List.mem_filter.mpr ⟨permuted.mem_iff.mp ((keptEvents_sublist events).subset kept), about⟩
    · intro first member second member' same
      exact event_of_hash sound separates (logged first member) (logged second member')
        (linked.genuine_of_mem _ _ _ member) (linked.genuine_of_mem _ _ _ member') same
  · rintro ⟨rest, whole⟩
    rw [← whole, linked_append] at linked
    exact linked.1

/-- Restoring a log in another order restores alike exactly when the order keeps fronts of the
logs of the actions, with their last statuses and their receipts. -/
theorem restore_order_iff (run : (actionSystem rt).Run history service)
    (separates : HashSeparates rt eventBody (eventLog history) (eventLog history))
    (permuted : events.Perm (eventLog history)) :
    RestoresAlike rt events (eventLog history) <-> InOrder events (eventLog history) := by
  have sound := LogSound.of_run run
  rcases restoreAll_fresh rt _ sound.regular sound.distinct with ⟨whole, returned, restored⟩
  rcases restoreAll_fresh rt events
    (fun event member => sound.regular event (permuted.mem_iff.mp member))
    ((permuted.map ActionEventRecord.eventId).nodup_iff.mpr sound.distinct) with
      ⟨other, returned', restored'⟩
  constructor
  · rintro ⟨_, _, same, same', alike⟩
    cases returned.symm.trans same
    cases returned'.symm.trans same'
    constructor
    · intro actionId
      apply (chain_accepted_iff run separates permuted actionId).mp
      rw [← restored'.rows]
      exact alike.chains actionId
    · intro actionId
      rw [← restored'.statuses, ← restored.statuses]
      exact alike.statuses actionId
    · intro key
      rw [← restored'.receipts, ← restored.receipts]
      exact alike.receipts key
  · intro inOrder
    refine ⟨whole, other, returned, returned', ?_, ?_, ?_⟩
    · intro actionId
      rw [restored'.statuses, restored.statuses]
      exact inOrder.statuses actionId
    · intro key
      rw [restored'.receipts, restored.receipts]
      exact inOrder.receipts key
    · intro actionId
      rw [restored'.rows]
      exact (chain_accepted_iff run separates permuted actionId).mpr (inOrder.fronts actionId)

/-- Only the actions of the log have to be compared. -/
theorem InOrder.of_known (permuted : events.Perm log)
    (known : forall actionId, actionId ∈ log.map ActionEventRecord.actionId ->
      actionRows actionId (keptEvents events) <+: actionRows actionId log ∧
        lastStatus (actionRows actionId (keptEvents events)) =
          lastStatus (actionRows actionId (keptEvents log)))
    (receipts : (keptEvents events).filterMap eventReceipt? = (keptEvents log).filterMap eventReceipt?) :
    InOrder events log := by
  have unknown : forall rows : List ActionEventRecord, rows ⊆ log -> forall actionId,
      actionId ∉ log.map ActionEventRecord.actionId -> actionRows actionId rows = [] := by
    intro rows inside actionId absent
    refine List.filter_eq_nil_iff.mpr (fun event member about => absent ?_)
    exact of_decide_eq_true about ▸ List.mem_map_of_mem (inside member)
  have inside : keptEvents events ⊆ log :=
    fun _ member => permuted.subset ((keptEvents_sublist events).subset member)
  have inside' : keptEvents log ⊆ log := (keptEvents_sublist log).subset
  constructor
  · intro actionId
    by_cases member : actionId ∈ log.map ActionEventRecord.actionId
    · exact (known actionId member).1
    · rw [unknown _ inside actionId member]
      exact List.nil_prefix
  · intro actionId
    by_cases member : actionId ∈ log.map ActionEventRecord.actionId
    · exact (known actionId member).2
    · rw [unknown _ inside actionId member, unknown _ inside' actionId member]
  · intro key
    unfold lastReceipt
    rw [receipts]

end Permuted

/-! ## Two proposals in either order, and an approval before its proposal -/

def secondPropose : Call :=
  .propose (.numbered 6) { sampleProposal with idempotencyKey := "cancel-1002", valid := by decide +kernel }
    "demo" sampleContext

def logOfCalls (calls : List Call) : List ActionEventRecord :=
  eventLog ((actionSystem .plain).trace .fresh calls).1

/-- Three events, the second of which is about another action. -/
def interleavedLog : List ActionEventRecord :=
  logOfCalls [samplePropose, secondPropose, sampleApprove]

/-- The other action's event comes first. -/
def swappedLog : List ActionEventRecord :=
  (interleavedLog.drop 1).take 1 ++ (interleavedLog.take 1 ++ interleavedLog.drop 2)

theorem restore_order_sample : RestoresAlike .plain swappedLog interleavedLog := by
  have admitted : (actionSystem .plain).AdmitsAll .fresh
      [samplePropose, secondPropose, sampleApprove] := by
    decide +kernel
  have run := System.run_trace [samplePropose, secondPropose, sampleApprove] rfl admitted
  have facts : swappedLog.Perm interleavedLog ∧
      (forall first, first ∈ interleavedLog -> forall second, second ∈ interleavedLog ->
        hashJson .plain (eventBody first) = hashJson .plain (eventBody second) ->
          eventBody first = eventBody second) ∧
      (forall actionId, actionId ∈ interleavedLog.map ActionEventRecord.actionId ->
        actionRows actionId (keptEvents swappedLog) <+: actionRows actionId interleavedLog ∧
          lastStatus (actionRows actionId (keptEvents swappedLog)) =
            lastStatus (actionRows actionId (keptEvents interleavedLog))) ∧
      (keptEvents swappedLog).filterMap eventReceipt? =
        (keptEvents interleavedLog).filterMap eventReceipt? := by
    decide +kernel
  rcases facts with ⟨permuted, apart, known, receipts⟩
  apply (restore_order_iff run (separates_of_apart apart) permuted).mpr
  exact InOrder.of_known permuted known receipts

/-- An approval that is restored before its proposal is skipped, and the action waits again.
The approval is in the table all the while. -/
theorem approval_lost_in_reverse :
    (Exists fun history => Exists fun service : ActionService =>
      (actionSystem .plain).Run history service ∧
        eventLog history = logOfCalls [samplePropose, sampleApprove]) ∧
      (logOfCalls [samplePropose, sampleApprove]).reverse.Perm
        (logOfCalls [samplePropose, sampleApprove]) ∧
      ¬ RestoresAlike .plain (logOfCalls [samplePropose, sampleApprove]).reverse
        (logOfCalls [samplePropose, sampleApprove]) := by
  refine ⟨⟨_, _, (sample_run [samplePropose, sampleApprove] ⟨_, rfl⟩).ofRestrict, rfl⟩,
    List.reverse_perm _, ?_⟩
  rintro ⟨whole, other, returned, returned', alike⟩
  have facts :
      ((ActionService.restoreAll .plain .fresh (logOfCalls [samplePropose, sampleApprove])).state.actions.get?
        sampleId).map (fun action => action.decision.status) = some .approved ∧
      ((ActionService.restoreAll .plain .fresh
        (logOfCalls [samplePropose, sampleApprove]).reverse).state.actions.get?
          sampleId).map (fun action => action.decision.status) = some .approvalRequired := by
    decide +kernel
  rw [returned, returned'] at facts
  have same := alike.statuses sampleId
  rw [Outcome.returns_state, Outcome.returns_state] at facts
  rw [facts.1, facts.2] at same
  cases same

end Actions
end RealityLayer
