import RealityLayer.Actions.Lifecycle
import RealityLayer.Actions.Replay

namespace RealityLayer
namespace Actions

open Foundation Python RealityGit WorldState

/-!
# Catching up with the event table

A service may restore rows while it already holds some of them, and in whatever
order the table returns them.  This module follows one target action through such
a restore.  `Archive` describes the events in circulation: each can be read back,
and identifiers tell them apart.  `LocalSound` is what a service keeps about them:
it has a receipt for every acceptance event of the target that it holds.

Restoring a row keeps `LocalSound` and loses nothing.  An acceptance row leaves a
receipt only where the action is already known, because `restore` skips the rows
of actions that it does not know.
-/

/-! ## Events in circulation -/

/-- The action that a group of requests executes. Its key decides which receipts belong to
it, and two tenants may use one key for different actions. -/
structure ExecutionTarget where
  actionId : Text
  tenantId : Text
  idempotencyKey : Text

def ExecutionTarget.key (target : ExecutionTarget) : Text × Text :=
  (target.tenantId, target.idempotencyKey)

/-- The payload of a policy event reads back as a proposal and a decision. The proposal that
is read is the dumped one, which may differ from the one that was proposed. -/
structure ReadsPolicy (event : ActionEventRecord) (proposal : ActionProposal)
    (decision : ActionDecision) : Prop where
  proposal : Exists fun data => event.payload.get? "proposal" = some (.dict data) ∧
    ActionProposal.modelValidate data = .ok proposal
  decision : Exists fun data => event.payload.get? "decision" = some (.dict data) ∧
    ActionDecision.modelValidate data = .ok decision

/-- Restoring the event cannot raise, and if it is about the target, it carries
the target's tenant and key. -/
structure Readable (target : ExecutionTarget) (event : ActionEventRecord) : Prop where
  policy : event.eventType = "policy_evaluated" -> Exists fun proposal => Exists fun decision =>
    ReadsPolicy event proposal decision ∧
      (event.actionId = target.actionId -> event.tenantId = target.tenantId ∧
        proposal.idempotencyKey = target.idempotencyKey)
  receipt : event.eventType = "provider_accepted" -> Exists fun receipt =>
    ExecutionReceipt.modelValidate event.payload.entries = .ok receipt ∧
      (event.actionId = target.actionId -> event.tenantId = target.tenantId ∧
        receipt.idempotencyKey = target.idempotencyKey)

/-- The events in circulation: all readable, with identifiers that tell them apart. It is the
part of the picture that no process owns, since every process restores from it. -/
structure Archive (target : ExecutionTarget) (holds : ActionEventRecord -> Prop) : Prop where
  readable : forall event, holds event -> Readable target event
  unique : forall first second, holds first -> holds second -> first.eventId = second.eventId ->
    first = second

/-- The service holds an event in some list. -/
def ActionService.Holds (service : ActionService) (event : ActionEventRecord) : Prop :=
  Exists fun actionId => event ∈ service.eventsOf actionId

theorem ActionService.holds_iff_mem_flatten {service : ActionService} {event : ActionEventRecord} :
    service.Holds event <-> event ∈ service.events.values.flatten := by
  constructor
  · rintro ⟨actionId, member⟩
    exact ActionService.mem_flatten_of_eventsOf member
  · intro member
    rcases List.mem_flatten.mp member with ⟨events, listed, member⟩
    rcases List.mem_map.mp listed with ⟨entry, stored, rfl⟩
    refine ⟨entry.1, ?_⟩
    unfold ActionService.eventsOf
    rw [(service.events.mem_entries_iff entry.1 entry.2).mp stored]
    exact member

theorem ActionService.mem_eventIds_iff {service : ActionService} {eventId : Text} :
    eventId ∈ service.eventIds <->
      Exists fun event => service.Holds event ∧ event.eventId = eventId := by
  unfold ActionService.eventIds
  rw [List.mem_map]
  simp only [ActionService.holds_iff_mem_flatten]

theorem ActionService.holds_push {service : ActionService} {event other : ActionEventRecord} :
    (service.push event).Holds other <-> service.Holds other ∨ other = event := by
  constructor
  · rintro ⟨actionId, member⟩
    rw [ActionService.eventsOf_push] at member
    split at member
    · rcases List.mem_append.mp member with earlier | last
      · exact Or.inl ⟨actionId, earlier⟩
      · exact Or.inr (List.mem_singleton.mp last)
    · exact Or.inl ⟨actionId, member⟩
  · rintro (⟨actionId, member⟩ | rfl)
    · refine ⟨actionId, ?_⟩
      rw [ActionService.eventsOf_push]
      split
      · exact List.mem_append_left _ member
      · exact member
    · refine ⟨other.actionId, ?_⟩
      rw [ActionService.eventsOf_push, if_pos rfl]
      exact List.mem_append_right _ List.mem_cons_self

/-- What a service keeps about the target and the events it holds. A service that knows the
target's acceptance also has the receipt, which is what stops a second execution. -/
structure LocalSound (target : ExecutionTarget) (holds : ActionEventRecord -> Prop)
    (service : ActionService) : Prop where
  held : forall event, service.Holds event -> holds event
  known : forall event, service.Holds event -> event.eventType = "policy_evaluated" ->
    service.actions.get? event.actionId ≠ none
  recorded : forall event, service.Holds event -> event.eventType = "provider_accepted" ->
    event.actionId = target.actionId -> service.executions.get? target.key ≠ none
  keyed : forall action, service.actions.get? target.actionId = some action ->
    action.tenantId = target.tenantId ∧ action.proposal.idempotencyKey = target.idempotencyKey

/-- Stored actions and recorded receipts are not lost, and no event is taken out of a list.
Decisions may change, so they are not compared. -/
structure ActionService.Extends (before after : ActionService) : Prop where
  actions : forall actionId, before.actions.get? actionId ≠ none ->
    after.actions.get? actionId ≠ none
  executions : forall key, before.executions.get? key ≠ none -> after.executions.get? key ≠ none
  events : forall actionId event, event ∈ before.eventsOf actionId -> event ∈ after.eventsOf actionId

namespace ActionService.Extends

theorem refl (service : ActionService) : service.Extends service :=
  ⟨fun _ => id, fun _ => id, fun _ _ => id⟩

theorem trans {first second third : ActionService} (left : first.Extends second)
    (right : second.Extends third) : first.Extends third where
  actions := fun actionId bound => right.actions actionId (left.actions actionId bound)
  executions := fun key bound => right.executions key (left.executions key bound)
  events := fun actionId event member =>
    right.events actionId event (left.events actionId event member)

theorem holds {before after : ActionService} (extends_ : before.Extends after)
    {event : ActionEventRecord} (held : before.Holds event) : after.Holds event :=
  held.imp (fun actionId member => extends_.events actionId event member)

end ActionService.Extends

theorem Dict.set_bound {K V : Type} [DecidableEq K] {dict : Dict K V} {key other : K} {value : V}
    (bound : dict.get? other ≠ none) : (dict.set key value).get? other ≠ none := by
  rw [Dict.get?_set]
  split
  · exact Option.some_ne_none _
  · exact bound

section Restore

variable {rt : Runtime} {target : ExecutionTarget} {holds : ActionEventRecord -> Prop}
variable {service base : ActionService} {event : ActionEventRecord}

theorem holds_congr (events : base.events = service.events) {other : ActionEventRecord} :
    base.Holds other <-> service.Holds other := by
  unfold ActionService.Holds
  rw [eventsOf_congr events]

/-- A service that extends another one and holds one more event. -/
theorem LocalSound.pushed (sound : LocalSound target holds service)
    (events : base.events = service.events) (extends_ : service.Extends base) (held : holds event)
    (known : event.eventType = "policy_evaluated" -> base.actions.get? event.actionId ≠ none)
    (recorded : event.eventType = "provider_accepted" -> event.actionId = target.actionId ->
      base.executions.get? target.key ≠ none)
    (keyed : forall action, base.actions.get? target.actionId = some action ->
      action.tenantId = target.tenantId ∧ action.proposal.idempotencyKey = target.idempotencyKey) :
    LocalSound target holds (base.push event) := by
  have same : forall other, base.Holds other -> service.Holds other :=
    fun other => (holds_congr events).mp
  constructor
  · intro other member
    rcases ActionService.holds_push.mp member with earlier | rfl
    · exact sound.held other (same other earlier)
    · exact held
  · intro other member kind
    rcases ActionService.holds_push.mp member with earlier | rfl
    · exact extends_.actions _ (sound.known other (same other earlier) kind)
    · exact known kind
  · intro other member kind about
    rcases ActionService.holds_push.mp member with earlier | rfl
    · exact extends_.executions _ (sound.recorded other (same other earlier) kind about)
    · exact recorded kind about
  · exact keyed

theorem ActionService.Extends.pushed (events : base.events = service.events)
    (actions : forall actionId, service.actions.get? actionId ≠ none ->
      base.actions.get? actionId ≠ none)
    (executions : forall key, service.executions.get? key ≠ none ->
      base.executions.get? key ≠ none) : service.Extends (base.push event) where
  actions := actions
  executions := executions
  events := by
    intro actionId other member
    rw [ActionService.eventsOf_push, eventsOf_congr events]
    split
    · exact List.mem_append_left _ member
    · exact member

/-- Applying a restored event changes at most the status and the reason of its action. -/
theorem applyRestoredEvent_rebinds (rt : Runtime) (event : ActionEventRecord) {action : StoredAction}
    (stored : service.actions.get? event.actionId = some action) :
    Exists fun later : StoredAction =>
      Rebinds service (service.applyRestoredEvent rt action event) event.actionId later ∧
        later.tenantId = action.tenantId ∧ later.proposal = action.proposal := by
  unfold ActionService.applyRestoredEvent
  split
  · exact ⟨action, ⟨stored, fun _ _ => rfl⟩, rfl, rfl⟩
  · exact ⟨_, .of_set rfl, rfl, rfl⟩

theorem applyRestoredEvent_frame (rt : Runtime) (service : ActionService) (action : StoredAction)
    (event : ActionEventRecord) :
    (service.applyRestoredEvent rt action event).events = service.events ∧
      (service.applyRestoredEvent rt action event).executions = service.executions := by
  unfold ActionService.applyRestoredEvent
  split
  · exact ⟨rfl, rfl⟩
  · exact ⟨rfl, rfl⟩

/-- Applying a restored event loses nothing. -/
theorem applyRestoredEvent_extends (rt : Runtime) (event : ActionEventRecord) {action : StoredAction}
    (stored : service.actions.get? event.actionId = some action) :
    service.Extends (service.applyRestoredEvent rt action event) := by
  rcases applyRestoredEvent_rebinds rt event stored with ⟨later, rebinds, _, _⟩
  rcases applyRestoredEvent_frame rt service action event with ⟨events, executions⟩
  constructor
  · intro actionId known
    by_cases same : actionId = event.actionId
    · rw [same, rebinds.here]
      exact Option.some_ne_none _
    · rw [rebinds.elsewhere actionId same]
      exact known
  · rw [executions]
    exact fun _ => id
  · rw [eventsOf_congr events]
    exact fun _ _ => id

theorem LocalSound.keyed_applied (sound : LocalSound target holds service) {action found : StoredAction}
    (stored : service.actions.get? event.actionId = some action)
    (read : (service.applyRestoredEvent rt action event).actions.get? target.actionId = some found) :
    found.tenantId = target.tenantId ∧ found.proposal.idempotencyKey = target.idempotencyKey := by
  rcases applyRestoredEvent_rebinds rt event stored with ⟨later, rebinds, owner, proposal⟩
  by_cases same : target.actionId = event.actionId
  · rw [same, rebinds.here] at read
    cases read
    rw [← same] at stored
    rw [owner, proposal]
    exact sound.keyed action stored
  · rw [rebinds.elsewhere _ same] at read
    exact sound.keyed found read

/-- What one restored event leaves behind. A receipt is recorded only when the service knows
the target already: an acceptance of an unknown action is skipped. -/
structure Absorbed (target : ExecutionTarget) (holds : ActionEventRecord -> Prop)
    (service : ActionService) (event : ActionEventRecord) (next : ActionService) : Prop where
  sound : LocalSound target holds next
  extends_ : service.Extends next
  known : event.eventType = "policy_evaluated" -> next.actions.get? event.actionId ≠ none
  recorded : event.eventType = "provider_accepted" -> event.actionId = target.actionId ->
    service.actions.get? target.actionId ≠ none -> next.executions.get? target.key ≠ none

/-- A policy event registers the action that it carries. -/
theorem LocalSound.restorePolicy (sound : LocalSound target holds service)
    (archive : Archive target holds) (held : holds event)
    (policy : event.eventType = "policy_evaluated") :
    Exists fun next => service.restorePolicy event = .returns next () ∧
      Absorbed target holds service event next := by
  rcases (archive.readable event held).policy policy with
      ⟨proposal, decision, ⟨⟨data, proposed, read⟩, ⟨data', decided, read'⟩⟩, about⟩
  have other : event.eventType ≠ "provider_accepted" := by
    rw [policy]
    decide
  unfold ActionService.restorePolicy
  simp only [proposed, decided, Option.bind_some, Json.entries?, read, read']
  have registered : (service.register event.actionId
      ⟨proposal, decision, event.actorRole, event.tenantId⟩).actions.get? event.actionId = some _ :=
    Dict.get?_set_self _ _ _
  have grows : service.Extends (service.register event.actionId
      ⟨proposal, decision, event.actorRole, event.tenantId⟩) :=
    ⟨fun _ => Dict.set_bound, fun _ => id, fun _ _ => id⟩
  refine ⟨_, rfl, ?_, .pushed rfl (fun _ => Dict.set_bound) (fun _ => id), ?_, ?_⟩
  · refine sound.pushed rfl grows held (fun _ => by rw [registered]; exact Option.some_ne_none _)
      (fun kind => absurd kind other) ?_
    intro action stored
    by_cases same : target.actionId = event.actionId
    · rw [same, registered] at stored
      cases stored
      exact about same.symm
    · rw [ActionService.register, Dict.get?_set_of_ne _ _ same] at stored
      exact sound.keyed action stored
  · intro _
    rw [ActionService.push_actions, registered]
    exact Option.some_ne_none _
  · intro kind
    exact absurd kind other

/-- Restoring an event in circulation never raises. -/
theorem LocalSound.restore (sound : LocalSound target holds service) (archive : Archive target holds)
    (held : holds event) :
    Exists fun next => service.restore rt event = .returns next () ∧
      Absorbed target holds service event next := by
  unfold ActionService.restore
  by_cases seen : event.eventId ∈ service.eventIds
  · -- The identifier tells events apart, so the service already holds this very event.
    rcases ActionService.mem_eventIds_iff.mp seen with ⟨copy, member, same⟩
    have equal := archive.unique copy event (sound.held copy member) held same
    subst equal
    rw [if_pos seen]
    exact ⟨service, rfl, sound, .refl service, sound.known copy member,
      fun kind about _ => sound.recorded copy member kind about⟩
  rw [if_neg seen]
  by_cases policy : event.eventType = "policy_evaluated"
  · rw [if_neg (not_not.mpr policy)]
    exact sound.restorePolicy archive held policy
  rw [if_pos policy]
  cases stored : service.actions.get? event.actionId with
  | none =>
      refine ⟨service, rfl, sound, .refl service, fun kind => absurd kind policy, ?_⟩
      intro _ about bound
      rw [← about, stored] at bound
      exact absurd rfl bound
  | some action =>
      simp only
      have grows := applyRestoredEvent_extends rt event stored
      have events := (applyRestoredEvent_frame rt service action event).1
      by_cases accepted : event.eventType = "provider_accepted"
      · rcases (archive.readable event held).receipt accepted with ⟨receipt, read, about⟩
        rw [if_pos accepted, read]
        let base : ActionService := { service.applyRestoredEvent rt action event with
          executions := (service.applyRestoredEvent rt action event).executions.set
            (event.tenantId, receipt.idempotencyKey) receipt }
        have extends_ : service.Extends base :=
          ⟨grows.actions, fun key known => Dict.set_bound (grows.executions key known), grows.events⟩
        have recorded : event.actionId = target.actionId -> base.executions.get? target.key ≠ none := by
          intro same
          have key : target.key = (event.tenantId, receipt.idempotencyKey) :=
            Prod.ext (about same).1.symm (about same).2.symm
          rw [key]
          change (Dict.set _ _ _).get? _ ≠ none
          rw [Dict.get?_set_self]
          exact Option.some_ne_none _
        exact ⟨base.push event, rfl,
          sound.pushed events extends_ held (fun kind => absurd kind policy) (fun _ => recorded)
            (fun _ => sound.keyed_applied stored),
          .pushed events extends_.actions extends_.executions, fun kind => absurd kind policy,
          fun _ same _ => recorded same⟩
      · rw [if_neg accepted]
        exact ⟨_, rfl,
          sound.pushed events grows held (fun kind => absurd kind policy)
            (fun kind => absurd kind accepted) (fun _ => sound.keyed_applied stored),
          .pushed events grows.actions grows.executions, fun kind => absurd kind policy,
          fun kind => absurd kind accepted⟩

/-- What restoring a list of rows leaves behind, in whatever order the rows come. The receipt
of an acceptance among them is guaranteed only to a service that knew the target before. -/
structure CaughtUp (target : ExecutionTarget) (holds : ActionEventRecord -> Prop)
    (service : ActionService) (rows : List ActionEventRecord) (next : ActionService) : Prop where
  sound : LocalSound target holds next
  extends_ : service.Extends next
  known : forall event, event ∈ rows -> event.eventType = "policy_evaluated" ->
    next.actions.get? event.actionId ≠ none
  recorded : service.actions.get? target.actionId ≠ none -> forall event, event ∈ rows ->
    event.eventType = "provider_accepted" -> event.actionId = target.actionId ->
      next.executions.get? target.key ≠ none

/-- Restoring rows in circulation never raises, in whatever order they come. Rows of an
unknown action are skipped on the way. -/
theorem LocalSound.restoreAll (sound : LocalSound target holds service)
    (archive : Archive target holds) {rows : List ActionEventRecord}
    (held : forall event, event ∈ rows -> holds event) :
    Exists fun next => service.restoreAll rt rows = .returns next () ∧
      CaughtUp target holds service rows next := by
  induction rows generalizing service with
  | nil => exact ⟨service, rfl, sound, .refl service, nofun, nofun⟩
  | cons event rest ih =>
      have first : Exists fun middle => service.restore rt event = .returns middle () ∧
          Absorbed target holds service event middle :=
        sound.restore archive (held event List.mem_cons_self)
      rcases first with ⟨middle, restored, absorbed⟩
      rcases ih absorbed.sound (fun other member => held other (List.mem_cons_of_mem _ member)) with
          ⟨next, further, caughtUp⟩
      refine ⟨next, ?_, caughtUp.sound, absorbed.extends_.trans caughtUp.extends_, ?_, ?_⟩
      · unfold ActionService.restoreAll at further ⊢
        rw [Outcome.forEach, restored]
        exact further
      · intro other member kind
        rcases List.mem_cons.mp member with rfl | later
        · exact caughtUp.extends_.actions _ (absorbed.known kind)
        · exact caughtUp.known other later kind
      · intro bound other member kind about
        rcases List.mem_cons.mp member with rfl | later
        · exact caughtUp.extends_.executions _ (absorbed.recorded kind about bound)
        · exact caughtUp.recorded (absorbed.extends_.actions _ bound) other later kind about

/-- The rows name the target's policy event before each of its acceptance events. A service
that restores them in this order never drops an acceptance as an event of an unknown action. -/
def ExecutionTarget.InOrder (target : ExecutionTarget) (rows : List ActionEventRecord) : Prop :=
  forall (front : List ActionEventRecord) (event : ActionEventRecord) (back : List ActionEventRecord),
    rows = front ++ event :: back -> event.eventType = "provider_accepted" ->
    event.actionId = target.actionId ->
      Exists fun policy : ActionEventRecord => policy ∈ front ∧ policy.eventType = "policy_evaluated" ∧
        policy.actionId = target.actionId

/-- Rows that come in order leave a receipt for an acceptance row of the target. With it the
service answers the next execution itself. -/
theorem LocalSound.restoreAll_recorded (sound : LocalSound target holds service)
    (archive : Archive target holds) {rows : List ActionEventRecord}
    (held : forall event, event ∈ rows -> holds event) (ordered : target.InOrder rows)
    {next : ActionService} (restored : service.restoreAll rt rows = .returns next ())
    (member : event ∈ rows) (kind : event.eventType = "provider_accepted")
    (about : event.actionId = target.actionId) : next.executions.get? target.key ≠ none := by
  rcases List.append_of_mem member with ⟨front, back, rfl⟩
  rcases ordered front event back rfl kind about with ⟨policy, earlier, evaluates, names⟩
  have opening : Exists fun middle => service.restoreAll rt front = .returns middle () ∧
      CaughtUp target holds service front middle :=
    sound.restoreAll archive (fun other listed => held other (List.mem_append_left _ listed))
  rcases opening with ⟨middle, opened, caughtUp⟩
  have known := caughtUp.known policy earlier evaluates
  rw [names] at known
  have closing : Exists fun last => middle.restoreAll rt (event :: back) = .returns last () ∧
      CaughtUp target holds middle (event :: back) last :=
    caughtUp.sound.restoreAll archive (fun other listed => held other (List.mem_append_right _ listed))
  rcases closing with ⟨last, closed, finished⟩
  have same : service.restoreAll rt (front ++ event :: back) = .returns last () := by
    unfold ActionService.restoreAll at opened closed ⊢
    rw [Outcome.forEach_append _ opened]
    exact closed
  cases restored.symm.trans same
  exact finished.recorded known event List.mem_cons_self kind about

end Restore

/-! ## Executing on a caught-up service -/

/-- The events in circulation once an entry is logged. They are the ones that were held
before, and the entry if there is one. -/
def WithEntry (holds : ActionEventRecord -> Prop) (entry : Option ActionEventRecord)
    (event : ActionEventRecord) : Prop :=
  holds event ∨ entry = some event

theorem withEntry_none (holds : ActionEventRecord -> Prop) : WithEntry holds none = holds := by
  funext event
  simp [WithEntry]

/-- What one service does to the events in circulation: it may add the entry of its call to
them, and it keeps what it had. -/
structure Advances (target : ExecutionTarget) (holds : ActionEventRecord -> Prop)
    (service : ActionService) (entry : Option ActionEventRecord) (after : ActionService) : Prop where
  extends_ : service.Extends after
  archive : Archive target (WithEntry holds entry)
  sound : LocalSound target (WithEntry holds entry) after
  logged : forall event, entry = some event -> after.Holds event

section Execute

variable {rt : Runtime} {target : ExecutionTarget} {holds wider : ActionEventRecord -> Prop}
variable {service after base : ActionService} {entry : Option ActionEventRecord}

theorem LocalSound.mono (sound : LocalSound target holds service)
    (widens : forall event, holds event -> wider event) : LocalSound target wider service where
  held := fun event member => widens event (sound.held event member)
  known := sound.known
  recorded := sound.recorded
  keyed := sound.keyed

theorem Archive.withEntry {event : ActionEventRecord} (archive : Archive target holds)
    (readable : Readable target event)
    (fresh : forall other, holds other -> other.eventId ≠ event.eventId) :
    Archive target (WithEntry holds (some event)) where
  readable := by
    rintro other (held | same)
    · exact archive.readable other held
    · cases same
      exact readable
  unique := by
    rintro first second (held | logged) (known | same) ids
    · exact archive.unique first second held known ids
    · cases same
      exact absurd ids (fresh first held)
    · cases logged
      exact absurd ids.symm (fresh second known)
    · exact Option.some.inj (logged.symm.trans same)

/-- Appending a draft to a service that extends a sound one.  The draft's event
is no policy event; as an acceptance event of the target it finds its receipt. -/
theorem LocalSound.appends {draft : EventDraft} {hashed : Prop} (sound : LocalSound target holds service)
    (archive : Archive target holds) (appends : Appends rt base draft hashed entry after)
    (events : base.events = service.events)
    (actions : forall actionId, service.actions.get? actionId ≠ none ->
      base.actions.get? actionId ≠ none)
    (executions : forall key, service.executions.get? key ≠ none -> base.executions.get? key ≠ none)
    (keyed : forall action, base.actions.get? target.actionId = some action ->
      action.tenantId = target.tenantId ∧ action.proposal.idempotencyKey = target.idempotencyKey)
    (later : draft.eventType ≠ "policy_evaluated")
    (recorded : draft.eventType = "provider_accepted" -> base.executions.get? target.key ≠ none)
    (readable : forall event, entry = some event -> Readable target event)
    (fresh : forall other, holds other -> other.eventId ≠ draft.eventId) :
    Advances target holds service entry after := by
  have grows : service.Extends base := by
    refine ⟨actions, executions, ?_⟩
    rw [eventsOf_congr events]
    exact fun _ _ => id
  cases appends with
  | unhashable broken =>
      refine ⟨grows, ?_, ?_, fun _ absent => by cases absent⟩
      · rw [withEntry_none]
        exact archive
      · rw [withEntry_none]
        have same : forall other, after.Holds other -> service.Holds other :=
          fun other => (holds_congr events).mp
        exact ⟨fun event held => sound.held event (same event held),
          fun event held kind => actions _ (sound.known event (same event held) kind),
          fun event held kind about => executions _ (sound.recorded event (same event held) kind about),
          keyed⟩
  | logged eventHash genuine =>
      have widens : forall event, holds event ->
          WithEntry holds (some (draft.record base eventHash)) event := fun event => Or.inl
      refine ⟨.pushed events actions executions,
        archive.withEntry (readable _ rfl) fresh,
        (sound.mono widens).pushed events grows (Or.inr rfl) (fun kind => absurd kind later)
          (fun kind _ => recorded kind) keyed, ?_⟩
      rintro event logged
      exact ActionService.holds_push.mpr (Or.inr (Option.some.inj logged).symm)

/-- Executing the target on a sound service logs at most a readable event. -/
theorem LocalSound.execute {draws : Draws} {cancelOrder : CancelOrderExecutor}
    {currentState : Option OrderState} {hashed : Prop} (sound : LocalSound target holds service)
    (archive : Archive target holds)
    (effect : Effect rt service hashed
      (.execute draws target.actionId target.tenantId cancelOrder currentState) entry after)
    (echoes : cancelOrder.Echoes)
    (fresh : forall other, holds other -> other.eventId ≠ ActionService.newEventId draws 0) :
    Advances target holds service entry after := by
  cases effect with
  | idle =>
      refine ⟨.refl service, ?_, ?_, fun _ absent => by cases absent⟩
      · rw [withEntry_none]
        exact archive
      · rw [withEntry_none]
        exact sound
  | settled call actionId tenantId action verdict _ _ found owner decides appends => cases decides
  | refused draws actionId tenantId cancelOrder currentState action reason _ _ found owner approved
      ineligible appends =>
      have neither : ("precondition_failed" : Text) ≠ "policy_evaluated" ∧
          ("precondition_failed" : Text) ≠ "provider_accepted" := by
        decide
      refine sound.appends archive appends rfl (fun _ => id) (fun _ => id) sound.keyed neither.1
        (fun kind => absurd kind neither.2) ?_ fresh
      rintro event rfl
      rcases appends.of_entry with ⟨eventHash, rfl, _, _⟩
      exact ⟨fun kind => absurd kind neither.1, fun kind => absurd kind neither.2⟩
  | accepted draws actionId tenantId cancelOrder currentState action receipt _ _ reaches accepts
      appends =>
      have other : ("provider_accepted" : Text) ≠ "policy_evaluated" := by
        decide
      rcases sound.keyed action reaches.found with ⟨tenant, key⟩
      refine sound.appends archive appends rfl (fun _ => Dict.set_bound) (fun _ => Dict.set_bound) ?_
        other ?_ ?_ fresh
      · intro stored held
        rw [ActionService.accept, ActionService.withDecision, Dict.get?_set_self] at held
        cases held
        exact ⟨tenant, key⟩
      · intro _
        change (Dict.set _ (target.tenantId, action.proposal.idempotencyKey) _).get? _ ≠ none
        rw [key, ExecutionTarget.key, Dict.get?_set_self]
        exact Option.some_ne_none _
      · rintro event rfl
        rcases appends.of_entry with ⟨eventHash, rfl, _, _⟩
        refine ⟨fun kind => absurd kind other, fun _ => ⟨receipt, ?_, fun _ => ⟨rfl, ?_⟩⟩⟩
        · have entries : (Dict.ofList receipt.dump).entries = receipt.dump :=
            Dict.entries_ofList _ (by simp [ExecutionReceipt.dump])
          exact entries ▸ ExecutionReceipt.modelValidate_dump receipt
        · exact (echoes _ receipt accepts).trans key

end Execute

/-! ## The events of an approved action -/

/-- What a live service keeps about the events it holds. Their payloads are what the
operations wrote, so that another service can read them back. -/
structure EventsGenuine (service : ActionService) : Prop where
  unique : forall first second, service.Holds first -> service.Holds second ->
    first.eventId = second.eventId -> first = second
  policy : forall event, service.Holds event -> event.eventType = "policy_evaluated" ->
    Exists fun action => Exists fun decision =>
      service.actions.get? event.actionId = some action ∧ action.tenantId = event.tenantId ∧
        event.payload = ActionService.policyPayload decision action.proposal
  receipt : forall event, service.Holds event -> event.eventType = "provider_accepted" ->
    Exists fun receipt : ExecutionReceipt => event.payload = Dict.ofList receipt.dump

section Genuine

variable {rt : Runtime} {service after : ActionService} {hashed : Prop} {call : Call}
variable {entry : Option ActionEventRecord}

theorem Effect.holds_iff (effect : Effect rt service hashed call entry after)
    (event : ActionEventRecord) : after.Holds event <-> service.Holds event ∨ entry = some event := by
  constructor
  · rintro ⟨actionId, member⟩
    rcases (effect.grows.mem_iff actionId event).mp member with earlier | ⟨logged, _⟩
    · exact Or.inl ⟨actionId, earlier⟩
    · exact Or.inr logged
  · rintro (⟨actionId, member⟩ | logged)
    · exact ⟨actionId, (effect.grows.mem_iff actionId event).mpr (Or.inl member)⟩
    · exact ⟨event.actionId, (effect.grows.mem_iff _ event).mpr (Or.inr ⟨logged, rfl⟩)⟩

/-- A logged policy event carries the proposal of its action, and a logged
acceptance event carries a receipt. -/
theorem Effect.entry_payload {event : ActionEventRecord}
    (effect : Effect rt service hashed call (some event) after) :
    (event.eventType = "policy_evaluated" -> Exists fun action => Exists fun decision =>
      after.actions.get? event.actionId = some action ∧ action.tenantId = event.tenantId ∧
        event.payload = ActionService.policyPayload decision action.proposal) ∧
      (event.eventType = "provider_accepted" ->
        Exists fun receipt : ExecutionReceipt => event.payload = Dict.ofList receipt.dump) := by
  cases effect with
  | created draws proposal tenantId context _ _ unclaimed appends =>
      rcases appends.of_entry with ⟨eventHash, rfl, genuine, rfl⟩
      refine ⟨fun _ => ⟨_, _, Dict.get?_set_self _ _ _, rfl, rfl⟩, fun kind => ?_⟩
      exact absurd kind (by decide : ("policy_evaluated" : Text) ≠ "provider_accepted")
  | settled call actionId tenantId action verdict _ _ found owner decides appends =>
      rcases appends.of_entry with ⟨eventHash, rfl, genuine, rfl⟩
      rcases decides.sets with ⟨_, later, plain⟩
      exact ⟨fun kind => absurd kind later, fun kind => absurd kind plain⟩
  | refused draws actionId tenantId cancelOrder currentState action reason _ _ found owner approved
      ineligible appends =>
      rcases appends.of_entry with ⟨eventHash, rfl, genuine, rfl⟩
      exact ⟨fun kind => absurd kind (by decide : ("precondition_failed" : Text) ≠ "policy_evaluated"),
        fun kind => absurd kind (by decide : ("precondition_failed" : Text) ≠ "provider_accepted")⟩
  | accepted draws actionId tenantId cancelOrder currentState action receipt _ _ reaches accepts
      appends =>
      rcases appends.of_entry with ⟨eventHash, rfl, genuine, rfl⟩
      exact ⟨fun kind => absurd kind (by decide : ("provider_accepted" : Text) ≠ "policy_evaluated"),
        fun _ => ⟨receipt, rfl⟩⟩

theorem EventsGenuine.step (genuine : EventsGenuine service)
    (effect : Effect rt service hashed call entry after) (fresh : service.DrawsFresh call) :
    EventsGenuine after := by
  have unseen : forall event other, entry = some event -> service.Holds other ->
      event.eventId ≠ other.eventId := by
    rintro event other rfl held same
    refine fresh.1 (ActionService.mem_eventIds_iff.mpr ⟨other, held, ?_⟩)
    exact same.symm.trans effect.entry_genuine.2.1
  constructor
  · intro first second one two same
    rcases (effect.holds_iff first).mp one with earlier | logged
    · rcases (effect.holds_iff second).mp two with before | now
      · exact genuine.unique first second earlier before same
      · exact absurd same.symm (unseen second first now earlier)
    · rcases (effect.holds_iff second).mp two with before | now
      · exact absurd same (unseen first second logged before)
      · exact Option.some.inj (logged.symm.trans now)
  · intro event held kind
    rcases (effect.holds_iff event).mp held with earlier | rfl
    · rcases genuine.policy event earlier kind with ⟨action, decision, stored, owner, payload⟩
      rcases effect.keeps fresh stored with ⟨later, kept, continues⟩
      exact ⟨later, decision, kept, continues.tenantId.trans owner, continues.proposal ▸ payload⟩
    · exact effect.entry_payload.1 kind
  · intro event held kind
    rcases (effect.holds_iff event).mp held with earlier | rfl
    · exact genuine.receipt event earlier kind
    · exact effect.entry_payload.2 kind

theorem EventsGenuine.of_run {history : List (Step ActionService Call)}
    (run : (actionSystem rt).Run history service) : EventsGenuine service := by
  apply run.invariant
  · rintro _ rfl
    have empty : forall event, ¬ ActionService.Holds .fresh event := by
      rintro event ⟨actionId, member⟩
      cases member
    exact ⟨fun first _ held => absurd held (empty first),
      fun event held => absurd held (empty event), fun event held => absurd held (empty event)⟩
  · intro service call genuine fresh
    rcases perform_effect rt service call with ⟨entry, effect⟩
    exact genuine.step effect fresh

end Genuine

/-- The target is an approved action of the service, of the target's own tenant and key.
Nothing is said of its events. -/
def ExecutionTarget.ApprovedIn (target : ExecutionTarget) (service : ActionService) : Prop :=
  Exists fun action => service.actions.get? target.actionId = some action ∧
    action.tenantId = target.tenantId ∧ action.proposal.idempotencyKey = target.idempotencyKey ∧
    action.decision.status = .approved

section Approved

variable {rt : Runtime} {target : ExecutionTarget} {history : List (Step ActionService Call)}
variable {service : ActionService}

/-- An approved action has no acceptance event yet. -/
theorem ExecutionTarget.ApprovedIn.not_accepted (approved : target.ApprovedIn service)
    (run : (hashedActionSystem rt).Run history service) {event : ActionEventRecord}
    (held : service.Holds event) (kind : event.eventType = "provider_accepted") :
    event.actionId ≠ target.actionId := by
  intro about
  rcases held with ⟨actionId, member⟩
  have names := (AuditSound.of_run run.ofRestrict).named actionId event member
  rcases approved with ⟨action, stored, _, _, status⟩
  rcases LifecycleSound.of_run run target.actionId action stored with ⟨initial, _, word⟩
  rcases word.of_approved status with ⟨_, refusals, types⟩
  have listed : ("provider_accepted" : Text) ∈ approvedWord refusals := by
    rw [← types, ← kind, ← about, names]
    exact List.mem_map_of_mem member
  simp only [approvedWord, List.mem_cons, List.mem_replicate] at listed
  rcases listed with same | same | ⟨_, same⟩ <;> exact absurd same (by decide)

theorem ExecutionTarget.ApprovedIn.archive (approved : target.ApprovedIn service)
    (run : (hashedActionSystem rt).Run history service) : Archive target service.Holds where
  unique := (EventsGenuine.of_run run.ofRestrict).unique
  readable := by
    intro event held
    have genuine := EventsGenuine.of_run run.ofRestrict
    constructor
    · intro kind
      rcases genuine.policy event held kind with ⟨action, decision, stored, owner, payload⟩
      refine ⟨action.proposal.jsonMode, decision, ⟨⟨action.proposal.dump, ?_, ?_⟩,
        decision.dump, ?_, ?_⟩, ?_⟩
      · rw [payload]
        rfl
      · exact ActionProposal.modelValidate_dump _
      · rw [payload]
        rfl
      · exact ActionDecision.modelValidate_dump _
      · intro about
        rcases approved with ⟨found, known, tenant, key, _⟩
        rw [about, known] at stored
        cases stored
        exact ⟨owner.symm.trans tenant, key⟩
    · intro kind
      rcases genuine.receipt event held kind with ⟨receipt, payload⟩
      refine ⟨receipt, ?_, fun about => absurd about (approved.not_accepted run held kind)⟩
      have entries : event.payload.entries = receipt.dump := by
        rw [payload]
        exact Dict.entries_ofList _ (by simp [ExecutionReceipt.dump])
      rw [entries]
      exact ExecutionReceipt.modelValidate_dump _

theorem ExecutionTarget.ApprovedIn.localSound (approved : target.ApprovedIn service)
    (run : (hashedActionSystem rt).Run history service) : LocalSound target service.Holds service where
  held := fun _ => id
  known := by
    intro event held kind
    rcases (EventsGenuine.of_run run.ofRestrict).policy event held kind with ⟨action, _, stored, _⟩
    rw [stored]
    exact Option.some_ne_none _
  recorded := fun event held kind about => absurd about (approved.not_accepted run held kind)
  keyed := by
    intro action stored
    rcases approved with ⟨found, known, tenant, key, _⟩
    cases stored.symm.trans known
    exact ⟨tenant, key⟩

end Approved

theorem LocalSound.fresh (target : ExecutionTarget) (holds : ActionEventRecord -> Prop) :
    LocalSound target holds .fresh := by
  have empty : forall event, ¬ ActionService.Holds .fresh event := by
    rintro event ⟨actionId, member⟩
    cases member
  exact ⟨fun event held => absurd held (empty event), fun event held => absurd held (empty event),
    fun event held => absurd held (empty event), fun action stored => nomatch stored⟩

end Actions
end RealityLayer
