import RealityLayer.Worker.Polling

namespace RealityLayer
namespace Worker

universe u

open Foundation Python RealityGit WorldState WorldStateService Actions Connectors

/-!
# One sweep

`run_once` verifies the pending actions one after the other, and catches nothing.  A call
changes its own action only, so an action that is still to come waits as before.  But when
a call raises, the sweep raises: no action after it is attempted, and the decisions before it
are not returned.

A sweep therefore treats every action on its own exactly when no call of it raises, or when
it has one action, and a read of that one fails.
-/

/-! ## The sweep -/

/-- What a sweep did: its calls, and how it ended. When it raised, the decisions of its
earlier calls are not answered, although they are stored. -/
structure Sweep (S : Type u) where
  calls : List ((Text × Text) × TimedVerification S)
  outcome : Outcome PyError Services (List ActionDecision)

section Loop

variable {S : Type u} [LinearOrder S] [Zero S] [Add S] [Sub S] [Mul S]
variable (rt : Runtime) (fromisoformat : Text -> Except PyError Timestamp)
variable (settings : VerifierSettings S)
variable (monotonic : Text × Text -> Nat -> S) (inputs : Text × Text -> Nat -> Attempt)

/-- The call for one pair of a tenant and an action. Each call has a clock and reads of its own. -/
def sweptCall (pair : Text × Text) (services : Services) : TimedVerification S :=
  verifyTimed rt fromisoformat settings (monotonic pair) (inputs pair) services pair.1 pair.2

/-- The loop over the pending actions. A call that raises ends it, and the actions after it
are left waiting. -/
def sweep : List (Text × Text) -> Services -> Sweep S
  | [], services => ⟨[], .returns services []⟩
  | pair :: rest, services =>
      let verification := sweptCall rt fromisoformat settings monotonic inputs pair services
      match verification.outcome.result with
      | .error error => ⟨[(pair, verification)], .raises verification.outcome.state error⟩
      | .ok decision =>
          let later := sweep rest verification.outcome.state
          ⟨(pair, verification) :: later.calls, later.outcome.map (decision :: ·)⟩

/-- `run_once`. The pending actions are listed once, before the first call. -/
def runOnce (services : Services) : Sweep S :=
  sweep rt fromisoformat settings monotonic inputs (pendingVerifications services.actions) services

end Loop

/-! ## What a call leaves alone -/

section Calls

variable {rt : Runtime} {fromisoformat : Text -> Except PyError Timestamp} {services : Services}
variable {tenantId actionId other : Text} {attempt : Attempt} {rest : List Attempt}

/-- The read of a round is taken in. It was normalized, and `ingest` answered. -/
def ReadTaken (rt : Runtime) (fromisoformat : Text -> Except PyError Timestamp) (tenantId : Text)
    (made : Services × Attempt) : Prop :=
  Exists fun state : OrderState =>
    (ingestVerificationRead rt fromisoformat made.1.world tenantId made.2).result = .ok state

instance (rt : Runtime) (fromisoformat : Text -> Except PyError Timestamp) (tenantId : Text)
    (made : Services × Attempt) : Decidable (ReadTaken rt fromisoformat tenantId made) :=
  match read : (ingestVerificationRead rt fromisoformat made.1.world tenantId made.2).result with
  | .ok state => isTrue ⟨state, read⟩
  | .error _ => isFalse (fun taken => by obtain ⟨_, again⟩ := taken; cases read.symm.trans again)

theorem verify_elsewhere (service : ActionService) (draws : Draws) (tenantId : Text)
    (state : Option OrderState) (isFinal : Bool) (different : other ≠ actionId) :
    (service.verify rt draws actionId tenantId state isFinal).state.actions.get? other =
      service.actions.get? other := by
  rcases verify_effect rt service draws actionId tenantId state isFinal False
    (fun impossible => impossible.elim) with ⟨entry, effect⟩
  generalize (service.verify rt draws actionId tenantId state isFinal).state = after at effect ⊢
  cases effect with
  | idle => rfl
  | settled _ target owner action verdict entry after found owned decides appends =>
      cases decides with
      | verification =>
          rw [appends.actions]
          exact Dict.get?_set_of_ne _ _ different

theorem attemptOnce_elsewhere (isFinal : Bool) (different : other ≠ actionId) :
    (attemptOnce rt fromisoformat tenantId actionId attempt isFinal services).state.actions.actions.get?
        other = services.actions.actions.get? other := by
  unfold attemptOnce
  dsimp only
  cases (ingestVerificationRead rt fromisoformat services.world tenantId attempt).result with
  | error error => rfl
  | ok state => exact verify_elsewhere _ _ _ _ _ different

theorem poll_elsewhere (different : other ≠ actionId) :
    (poll rt fromisoformat tenantId actionId attempt rest services).outcome.state.actions.actions.get?
        other = services.actions.actions.get? other := by
  induction rest generalizing attempt services with
  | nil => exact attemptOnce_elsewhere true different
  | cons next rest ih =>
      rcases poll_step tenantId actionId attempt next rest services with ⟨stopped, _⟩ | ⟨continued, _⟩
      · rw [stopped]
        exact attemptOnce_elsewhere _ different
      · rw [continued]
        exact ih.trans (attemptOnce_elsewhere _ different)

theorem attemptOnce_taken {isFinal : Bool} {decision : ActionDecision}
    (answered : (attemptOnce rt fromisoformat tenantId actionId attempt isFinal services).result =
      .ok decision) : ReadTaken rt fromisoformat tenantId (services, attempt) := by
  unfold attemptOnce at answered
  dsimp only at answered
  cases read : (ingestVerificationRead rt fromisoformat services.world tenantId attempt).result with
  | error error =>
      rw [read] at answered
      cases answered
  | ok state => exact ⟨state, read⟩

/-- A call that returns has taken in every read that it made. -/
theorem poll_taken {decision : ActionDecision}
    (answered : (poll rt fromisoformat tenantId actionId attempt rest services).outcome.result =
      .ok decision) :
    forall made, made ∈ (poll rt fromisoformat tenantId actionId attempt rest services).made ->
      ReadTaken rt fromisoformat tenantId made := by
  induction rest generalizing attempt services with
  | nil => exact List.forall_mem_singleton.mpr (attemptOnce_taken answered)
  | cons next rest ih =>
      rcases poll_step tenantId actionId attempt next rest services with
        ⟨stopped, _⟩ | ⟨continued, _, other, first, _⟩
      · rw [stopped] at answered ⊢
        exact List.forall_mem_singleton.mpr (attemptOnce_taken answered)
      · rw [continued] at answered ⊢
        exact List.forall_mem_cons.mpr ⟨attemptOnce_taken first, ih answered⟩

end Calls

/-! ## Where a sweep stops -/

section Sweeps

variable {S : Type u} [LinearOrder S] [Zero S] [Add S] [Sub S] [Mul S]
variable {rt : Runtime} {fromisoformat : Text -> Except PyError Timestamp}
variable {settings : VerifierSettings S}
variable {monotonic : Text × Text -> Nat -> S} {inputs : Text × Text -> Nat -> Attempt}
variable {services : Services} {pair : Text × Text}

/-- Every read of a call is taken in, and its rounds are clear. Then the call answers instead
of raising. -/
def CallClear (rt : Runtime) (fromisoformat : Text -> Except PyError Timestamp)
    (call : (Text × Text) × TimedVerification S) : Prop :=
  forall made, made ∈ call.2.made ->
    ReadTaken rt fromisoformat call.1.1 made ∧ RoundClear rt fromisoformat call.1.1 made

instance (rt : Runtime) (fromisoformat : Text -> Except PyError Timestamp)
    (call : (Text × Text) × TimedVerification S) : Decidable (CallClear rt fromisoformat call) :=
  inferInstanceAs (Decidable (forall made, made ∈ call.2.made -> _ ∧ _))

/-- The action of a pair waits for its verification. -/
def Waits (services : Services) (pair : Text × Text) : Prop :=
  Exists fun action : StoredAction => services.actions.getAction pair.2 pair.1 = .ok action ∧
    ActionService.verifiable action.decision.status = true

/-- The action of a pair has this decision, and it is final. No later call of the sweep
changes it. -/
def Settled (services : Services) (pair : Text × Text) (decision : ActionDecision) : Prop :=
  terminal decision.status = true ∧ Exists fun action : StoredAction =>
    services.actions.getAction pair.2 pair.1 = .ok action ∧ action.decision = decision

theorem getAction_congr {first second : ActionService} {actionId : Text}
    (same : first.actions.get? actionId = second.actions.get? actionId) (tenantId : Text) :
    first.getAction actionId tenantId = second.getAction actionId tenantId := by
  unfold ActionService.getAction
  rw [same]

theorem sweptCall_elsewhere {other : Text} (different : other ≠ pair.2) :
    (sweptCall rt fromisoformat settings monotonic inputs pair services).outcome.state.actions.actions.get?
        other = services.actions.actions.get? other := by
  cases stored : services.actions.getAction pair.2 pair.1 with
  | error error =>
      unfold sweptCall verifyTimed
      rw [stored]
      rfl
  | ok action =>
      rcases @verifyTimed_poll S _ _ _ _ _ rt fromisoformat settings
        (monotonic pair) services pair.1 pair.2 action (inputs pair) stored with
          ⟨first, rest, _, polled⟩
      unfold sweptCall
      rw [polled]
      exact poll_elsewhere different

/-- A sweep changes the actions of its pairs only. -/
theorem sweep_elsewhere {other : Text} (pairs : List (Text × Text))
    (different : forall pair, pair ∈ pairs -> other ≠ pair.2) :
    (sweep rt fromisoformat settings monotonic inputs pairs services).outcome.state.actions.actions.get?
        other = services.actions.actions.get? other := by
  induction pairs generalizing services with
  | nil => rfl
  | cons pair rest ih =>
      have apart := List.forall_mem_cons.mp different
      have called := @sweptCall_elsewhere S _ _ _ _ _ rt fromisoformat settings monotonic inputs services
        pair other apart.1
      rw [sweep]
      dsimp only
      cases (sweptCall rt fromisoformat settings monotonic inputs pair services).outcome.result with
      | error error => exact called
      | ok decision => exact (ih apart.2).trans called

/-- The call for a waiting action makes a round.  It ends with a final decision, or one of its reads
is not taken in or not clear, and it raises. -/
theorem sweptCall_cases (printable : PrintableTexts rt) (sound : SoundServices rt services)
    (waits : Waits services pair) :
    let call := sweptCall rt fromisoformat settings monotonic inputs pair services
    call.made ≠ [] ∧
      ((CallClear rt fromisoformat (pair, call) ∧ SoundServices rt call.outcome.state ∧
          Exists fun decision : ActionDecision => call.outcome.result = .ok decision ∧
            Settled call.outcome.state pair decision) ∨
        (¬ CallClear rt fromisoformat (pair, call) ∧ Exists fun error : PyError =>
          call.outcome.result = .error error)) := by
  rcases waits with ⟨action, stored, waiting⟩
  rcases @verifyTimed_poll S _ _ _ _ _ rt fromisoformat settings
    (monotonic pair) services pair.1 pair.2 action (inputs pair) stored with ⟨first, rest, _, polled⟩
  have rounds := (@poll_length rt fromisoformat pair.1 pair.2 first rest services).1
  have answers := @poll_taken rt fromisoformat services pair.1 pair.2 first rest
  have cases := @poll_cases rt fromisoformat services pair.1 pair.2 action first rest printable sound
    stored waiting
  dsimp only [sweptCall, CallClear]
  rw [← polled] at rounds answers cases
  generalize (verifyTimed rt fromisoformat settings (monotonic pair) (inputs pair) services pair.1
    pair.2).toVerification = call at *
  refine ⟨List.ne_nil_of_length_pos rounds, ?_⟩
  by_cases taken : forall made, made ∈ call.made -> ReadTaken rt fromisoformat pair.1 made
  · rcases cases taken with ⟨clear, decision, polled, sound'⟩ | ⟨⟨made, member, unclear⟩, raised⟩
    · exact Or.inl ⟨fun made member => ⟨taken made member, clear made member⟩, sound', decision,
        polled.answered, polled.final, polled.stored⟩
    · exact Or.inr ⟨fun clear => unclear (clear made member).2, raised⟩
  · refine Or.inr ⟨fun clear => taken (fun made member => (clear made member).1), ?_⟩
    cases result : call.outcome.result with
    | error error => exact ⟨error, rfl⟩
    | ok decision => exact absurd (answers result) taken

/-- A sweep that called every action, and decided it. No call of it was cut short. -/
structure SweptThrough (rt : Runtime) (fromisoformat : Text -> Except PyError Timestamp)
    (pairs : List (Text × Text)) (swept : Sweep S) : Prop where
  called : swept.calls.map Prod.fst = pairs
  made : forall call, call ∈ swept.calls -> call.2.made ≠ []
  clear : forall call, call ∈ swept.calls -> CallClear rt fromisoformat call
  decided : Exists fun results : List ActionDecision => swept.outcome.result = .ok results ∧
    forall pair, pair ∈ pairs -> Exists fun decision : ActionDecision =>
      decision ∈ results ∧ Settled swept.outcome.state pair decision

/-- A sweep that raised in the call after these. The actions behind that one were not called
at all. -/
structure SweptUpTo (rt : Runtime) (fromisoformat : Text -> Except PyError Timestamp)
    (front : List (Text × Text)) (pair : Text × Text) (swept : Sweep S) : Prop where
  called : swept.calls.map Prod.fst = front ++ [pair]
  made : forall call, call ∈ swept.calls -> call.2.made ≠ []
  clear : forall call, call ∈ swept.calls -> call.1 ≠ pair -> CallClear rt fromisoformat call
  failed : forall call, call ∈ swept.calls -> call.1 = pair -> ¬ CallClear rt fromisoformat call
  raised : Exists fun error : PyError => swept.outcome.result = .error error

/-- A sweep either decides every action, or stops at the first call that is not clear. -/
theorem sweep_cases (printable : PrintableTexts rt) (pairs : List (Text × Text))
    (ids : (pairs.map Prod.snd).Nodup) (sound : SoundServices rt services)
    (waits : forall pair, pair ∈ pairs -> Waits services pair) :
    let swept := sweep rt fromisoformat settings monotonic inputs pairs services
    SweptThrough rt fromisoformat pairs swept ∨
      Exists fun front : List (Text × Text) => Exists fun pair : Text × Text =>
        Exists fun back : List (Text × Text) => pairs = front ++ pair :: back ∧
          SweptUpTo rt fromisoformat front pair swept := by
  induction pairs generalizing services with
  | nil => exact Or.inl ⟨rfl, nofun, nofun, [], rfl, nofun⟩
  | cons pair rest ih =>
      rw [List.map_cons, List.nodup_cons, List.mem_map] at ids
      rcases ids with ⟨alone, ids⟩
      rcases List.forall_mem_cons.mp waits with ⟨waits, waitsLater⟩
      have apart : forall later, later ∈ rest -> later.2 ≠ pair.2 :=
        fun later member same => alone ⟨later, member, same⟩
      rcases @sweptCall_cases S _ _ _ _ _ rt fromisoformat settings monotonic inputs
        services pair printable sound waits with ⟨made, cases⟩
      have frame := @sweptCall_elsewhere S _ _ _ _ _ rt fromisoformat settings monotonic inputs services
        pair
      dsimp only
      rw [sweep]
      dsimp only
      generalize sweptCall rt fromisoformat settings monotonic inputs pair services = call at *
      rcases cases with ⟨clear, sound', decision, answered, settled⟩ | ⟨unclear, error, raised⟩
      · rw [answered]
        dsimp only
        have waits' : forall later, later ∈ rest -> Waits call.outcome.state later := by
          intro later member
          rcases waitsLater later member with ⟨action, stored, waiting⟩
          exact ⟨action, (getAction_congr (frame (apart later member)) later.1).trans stored, waiting⟩
        have kept := @sweep_elsewhere S _ _ _ _ _ rt fromisoformat settings monotonic inputs
          call.outcome.state pair.2 rest (fun later member same => apart later member same.symm)
        rcases ih ids sound' waits' with through | ⟨front, stopped, back, split, upTo⟩
        · rcases through.decided with ⟨results, returned, decided⟩
          refine Or.inl ⟨congrArg (pair :: ·) through.called,
            List.forall_mem_cons.mpr ⟨made, through.made⟩,
            List.forall_mem_cons.mpr ⟨clear, through.clear⟩, decision :: results, ?_,
            List.forall_mem_cons.mpr ⟨⟨decision, List.mem_cons_self, settled.1, ?_⟩, ?_⟩⟩
          · unfold Outcome.map
            rw [returned]
            rfl
          · rcases settled.2 with ⟨action, stored, same⟩
            exact ⟨action, (getAction_congr kept pair.1).trans stored, same⟩
          · intro later member
            rcases decided later member with ⟨last, listed, settled⟩
            exact ⟨last, List.mem_cons_of_mem _ listed, settled⟩
        · have different : pair ≠ stopped := by
            rintro rfl
            exact apart pair (split ▸ List.mem_append_right _ List.mem_cons_self) rfl
          refine Or.inr ⟨pair :: front, stopped, back, congrArg (pair :: ·) split,
            congrArg (pair :: ·) upTo.called, List.forall_mem_cons.mpr ⟨made, upTo.made⟩,
            List.forall_mem_cons.mpr ⟨fun _ => clear, upTo.clear⟩,
            List.forall_mem_cons.mpr ⟨fun same => absurd same different, upTo.failed⟩, ?_⟩
          rcases upTo.raised with ⟨error, raised⟩
          exact ⟨error, (Outcome.map_result_error _ _ _).mpr raised⟩
      · rw [raised]
        exact Or.inr ⟨[], pair, rest, rfl, rfl, List.forall_mem_singleton.mpr made,
          List.forall_mem_singleton.mpr (fun different => absurd rfl different),
          List.forall_mem_singleton.mpr (fun _ => unclear), error, rfl⟩

section Stopped

variable {front back : List (Text × Text)} {swept : Sweep S}

omit [LinearOrder S] [Zero S] [Add S] [Sub S] [Mul S]

theorem SweptUpTo.visited (upTo : SweptUpTo rt fromisoformat front pair swept) {other : Text × Text}
    (member : other ∈ front ++ [pair]) :
    Exists fun call : TimedVerification S => (other, call) ∈ swept.calls := by
  rw [← upTo.called, List.mem_map] at member
  rcases member with ⟨call, member, rfl⟩
  exact ⟨call.2, member⟩

theorem SweptUpTo.calls_single (upTo : SweptUpTo rt fromisoformat [] pair swept)
    {call : (Text × Text) × TimedVerification S} (member : call ∈ swept.calls) :
    swept.calls = [call] := by
  have length := congrArg List.length upTo.called
  rw [List.length_map] at length
  rcases List.length_eq_one_iff.mp length with ⟨sole, alone⟩
  rw [alone, List.mem_singleton] at member
  rw [alone, member]

/-- A sweep that raised can attempt every pair, with a result for each whose reads are all taken in,
only where there is one pair, and a read of it is not. -/
theorem SweptUpTo.sole (upTo : SweptUpTo rt fromisoformat front pair swept)
    (distinct : (front ++ pair :: back).Nodup)
    (attempted : forall other, other ∈ front ++ pair :: back ->
      Exists fun call : TimedVerification S => (other, call) ∈ swept.calls ∧ call.made ≠ [])
    (decided : forall call, call ∈ swept.calls ->
      (forall made, made ∈ call.2.made -> ReadTaken rt fromisoformat call.1.1 made) ->
        Exists fun results : List ActionDecision => swept.outcome.result = .ok results) :
    front = [] ∧ back = [] ∧ Exists fun call : (Text × Text) × TimedVerification S =>
      call ∈ swept.calls ∧ Exists fun made : Services × Attempt => made ∈ call.2.made ∧
        ¬ ReadTaken rt fromisoformat call.1.1 made := by
  rcases upTo.raised with ⟨error, raised⟩
  rcases upTo.visited (List.mem_append_right _ List.mem_cons_self) with ⟨last, member⟩
  -- the sweep raised, so a call whose reads are all taken in is not decided
  have unread : forall call, call ∈ swept.calls ->
      ¬ forall made, made ∈ call.2.made -> ReadTaken rt fromisoformat call.1.1 made := by
    intro call member taken
    rcases decided call member taken with ⟨results, returned⟩
    cases raised.symm.trans returned
  have first : front = [] := by
    rw [List.eq_nil_iff_forall_not_mem]
    intro earlier inside
    rcases upTo.visited (List.mem_append_left _ inside) with ⟨call, member⟩
    have different : earlier ≠ pair := by
      rintro rfl
      exact (List.nodup_append.mp distinct).2.2 earlier inside earlier List.mem_cons_self rfl
    exact unread _ member (fun made inside => (upTo.clear _ member different made inside).1)
  have only : back = [] := by
    rw [List.eq_nil_iff_forall_not_mem]
    intro later inside
    rcases attempted later (List.mem_append_right _ (List.mem_cons_of_mem _ inside)) with ⟨call, member, _⟩
    have reached : later ∈ front ++ [pair] := upTo.called ▸ List.mem_map_of_mem member
    rw [first, List.nil_append, List.mem_singleton] at reached
    subst reached
    exact (List.nodup_cons.mp (List.nodup_append.mp distinct).2.1).1 inside
  have some := unread _ member
  push Not at some
  exact ⟨first, only, _, member, some⟩

end Stopped

/-- Every pending action is attempted, and one whose reads are all taken in ends with a final
decision that is among the results. -/
structure SweepIsolated (rt : Runtime) (fromisoformat : Text -> Except PyError Timestamp)
    (services : Services) (swept : Sweep S) : Prop where
  attempted : forall pair, pair ∈ pendingVerifications services.actions ->
    Exists fun call : TimedVerification S => (pair, call) ∈ swept.calls ∧ call.made ≠ []
  decided : forall call, call ∈ swept.calls ->
    (forall made, made ∈ call.2.made -> ReadTaken rt fromisoformat call.1.1 made) ->
    Exists fun results : List ActionDecision => swept.outcome.result = .ok results ∧
      Exists fun decision : ActionDecision =>
        decision ∈ results ∧ Settled swept.outcome.state call.1 decision

theorem pendingVerifications_ids (service : ActionService) :
    ((pendingVerifications service).map Prod.snd).Nodup := by
  unfold pendingVerifications
  rw [List.map_map]
  exact service.actions.distinct.sublist (List.filter_sublist.map _)

omit [LinearOrder S] [Zero S] [Add S] [Sub S] [Mul S] in
theorem SweptThrough.isolated {swept : Sweep S}
    (through : SweptThrough rt fromisoformat (pendingVerifications services.actions) swept) :
    SweepIsolated rt fromisoformat services swept where
  attempted := by
    intro pair pending
    rw [← through.called, List.mem_map] at pending
    rcases pending with ⟨call, member, rfl⟩
    exact ⟨call.2, member, through.made call member⟩
  decided := by
    intro call member _
    rcases through.decided with ⟨results, returned, decided⟩
    have pending : call.1 ∈ pendingVerifications services.actions :=
      through.called ▸ List.mem_map_of_mem member
    exact ⟨results, returned, decided call.1 pending⟩

/-- In every run, a sweep isolates its actions exactly when every read of it is taken in and its
rounds are clear, or when there is one action and a read of it is not taken in. -/
theorem sweep_isolated_iff (printable : PrintableTexts rt)
    (settings : VerifierSettings S) (monotonic : Text × Text -> Nat -> S)
    (inputs : Text × Text -> Nat -> Attempt) {services : Services}
    {worldHistory : List (Step WorldStateService ServiceCall)} {actionHistory : List (Step ActionService Call)}
    (world : (serviceSystem rt).Run worldHistory services.world)
    (actions : (actionSystem rt).Run actionHistory services.actions) :
    let swept := runOnce rt fromisoformat settings monotonic inputs services
    SweepIsolated rt fromisoformat services swept <->
      (forall call, call ∈ swept.calls -> CallClear rt fromisoformat call) ∨
        (Exists fun pair : Text × Text => pendingVerifications services.actions = [pair]) ∧
          Exists fun call : (Text × Text) × TimedVerification S => call ∈ swept.calls ∧
            Exists fun made : Services × Attempt => made ∈ call.2.made ∧
              ¬ ReadTaken rt fromisoformat call.1.1 made := by
  have waits : forall pair, pair ∈ pendingVerifications services.actions -> Waits services pair :=
    fun pair pending => mem_pendingVerifications.mp pending
  have ids := pendingVerifications_ids services.actions
  have cases := @sweep_cases S _ _ _ _ _ rt fromisoformat settings monotonic inputs services printable
    (pendingVerifications services.actions) ids (.of_runs printable world actions) waits
  dsimp only
  change SweptThrough rt fromisoformat _ (runOnce rt fromisoformat settings monotonic inputs services) ∨
    (Exists fun front => Exists fun pair => Exists fun back => _ ∧ SweptUpTo rt fromisoformat front pair
      (runOnce rt fromisoformat settings monotonic inputs services)) at cases
  generalize runOnce rt fromisoformat settings monotonic inputs services = swept at cases ⊢
  rcases cases with through | ⟨front, pair, back, split, upTo⟩
  · exact ⟨fun _ => Or.inl through.clear, fun _ => through.isolated⟩
  rcases upTo.visited (List.mem_append_right _ List.mem_cons_self) with ⟨last, member⟩
  constructor
  · intro isolated
    rcases upTo.sole (split ▸ ids.of_map) (fun other listed => isolated.attempted other (split ▸ listed))
      (fun call inside taken => (isolated.decided call inside taken).imp (fun _ => And.left)) with
        ⟨rfl, rfl, unread⟩
    exact Or.inr ⟨⟨pair, split⟩, unread⟩
  · rintro (clear | ⟨⟨single, pending⟩, call, inside, made, round, unread⟩)
    · exact absurd (clear _ member) (upTo.failed _ member rfl)
    rw [split] at pending
    have alone : front = [] ∧ pair :: back = [single] := by
      rcases List.append_eq_singleton_iff.mp pending with ⟨nil, rest⟩ | ⟨_, nil⟩
      · exact ⟨nil, rest⟩
      · cases nil
    rcases alone with ⟨rfl, rest⟩
    rcases List.cons.inj rest with ⟨rfl, rfl⟩
    have listed := upTo.calls_single member
    refine ⟨?_, ?_⟩
    · intro other pending
      rw [split, List.nil_append, List.mem_singleton] at pending
      subst pending
      exact ⟨last, member, upTo.made _ member⟩
    · intro other inside' taken
      rw [listed, List.mem_singleton] at inside inside'
      subst inside inside'
      exact absurd (taken made round) unread

end Sweeps

/-! ## Two actions -/

def secondProposal : ActionProposal :=
  { sampleProposal with
    targetEntity := "order:1002"
    idempotencyKey := "cancel-1002"
    valid := by decide +kernel }

def secondOrder : OrderState := { sampleOrder 1 "open" with entityId := "1002" }

def secondId : Text := ActionService.newActionId (.numbered 11)

/-- Two orders are cancelled at the provider, and neither cancellation is verified yet. -/
def sweptCalls : List Call :=
  executedCalls ++
    [.propose (.numbered 11) secondProposal "demo" sampleContext,
      .approve (.numbered 13) secondId sampleApproval "operations" "demo" (some secondOrder),
      .execute (.numbered 14) secondId "demo" sampleExecutor (some secondOrder)]

def sweptServices : Services := ⟨sampleService sweptCalls, .fresh⟩

theorem swept_runs : (Exists fun history => (serviceSystem .plain).Run history sweptServices.world) ∧
    Exists fun history => (actionSystem .plain).Run history sweptServices.actions := by
  have admitted : (actionSystem .plain).AdmitsAll .fresh sweptCalls := by decide +kernel
  have run := System.run_trace sweptCalls rfl admitted
  have actions : sweptServices.actions = ((actionSystem .plain).trace .fresh sweptCalls).2 := by
    rw [sweptServices, sampleService]
  have blank : sweptServices.world = .fresh := by rw [sweptServices]
  rw [actions]
  exact ⟨⟨[], .begin blank⟩, _, run⟩

/-- The provider answers with this payload for the first order, and cancelled for the second. -/
def sweepInputs (first : Payload) (pair : Text × Text) (number : Nat) : Attempt where
  read := .ok (if pair.2 = sampleId then first
    else Dict.ofList [("id", .str "1002"), ("status", .str "cancelled")])
  now := tenMinutes
  nonce := (Draws.numbered (50 + number)).uuid 0
  ingestDraws := drawsAt ((if pair.2 = sampleId then 100 else 200) + 10 * number) tenMinutes
  verifyDraws := .numbered ((if pair.2 = sampleId then 100 else 200) + 10 * number)
  outOfTime := false

/-- The sweep of the two actions. -/
def sweepReading (first : Payload) : Sweep Int :=
  runOnce .plain noDatetime pollSettings (fun _ => steadyClock) (sweepInputs first) sweptServices

/-- Both reads say cancelled, and the sweep returns two decisions. -/
theorem sweep_isolated_sample :
    SweepIsolated .plain noDatetime sweptServices (sweepReading (statusPayload "cancelled")) ∧
      (sweepReading (statusPayload "cancelled")).outcome.result.toOption.map List.length = some 2 := by
  have facts : (forall call, call ∈ (sweepReading (statusPayload "cancelled")).calls ->
        CallClear .plain noDatetime call) ∧
      (sweepReading (statusPayload "cancelled")).outcome.result.toOption.map List.length = some 2 := by
    decide +kernel
  rcases swept_runs with ⟨⟨_, world⟩, _, actions⟩
  refine ⟨?_, facts.2⟩
  unfold sweepReading at *
  exact (sweep_isolated_iff plain_printableTexts pollSettings (fun _ => steadyClock) _ world actions).mpr
    (Or.inl facts.1)

def firstPair : Text × Text := ("demo", sampleId)

def secondPair : Text × Text := ("demo", secondId)

/-- An order payload without a status. The connector refuses it, so that its call raises. -/
def statuslessPayload : Payload := Dict.ofList [("id", .str "1001")]

/-- The first read cannot be normalized, and the second action is never attempted. -/
theorem bad_read_stops_sweep :
    (Exists fun history => (serviceSystem .plain).Run history sweptServices.world) ∧
      (Exists fun history => (actionSystem .plain).Run history sweptServices.actions) ∧
      pendingVerifications sweptServices.actions = [firstPair, secondPair] ∧
      (sweepReading statuslessPayload).calls.map Prod.fst = [firstPair] ∧
      (sweepReading statuslessPayload).outcome.result.toOption = none ∧
      ¬ SweepIsolated .plain noDatetime sweptServices (sweepReading statuslessPayload) := by
  have facts : pendingVerifications sweptServices.actions = [firstPair, secondPair] ∧
      (sweepReading statuslessPayload).calls.map Prod.fst = [firstPair] ∧
      (sweepReading statuslessPayload).outcome.result.toOption = none ∧ secondPair ≠ firstPair := by
    decide +kernel
  rcases facts with ⟨pending, called, raised, different⟩
  refine ⟨swept_runs.1, swept_runs.2, pending, called, raised, fun isolated => ?_⟩
  rcases isolated.attempted secondPair
    (pending ▸ List.mem_cons_of_mem _ List.mem_cons_self) with ⟨call, member, _⟩
  have reached : (secondPair, call).1 ∈ (sweepReading statuslessPayload).calls.map Prod.fst :=
    List.mem_map_of_mem member
  rw [called, List.mem_singleton] at reached
  exact different reached

end Worker
end RealityLayer
