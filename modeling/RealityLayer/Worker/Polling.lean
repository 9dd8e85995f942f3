import Mathlib.Algebra.Order.Ring.Int
import RealityLayer.WorldState.Aging
import RealityLayer.Worker.Rounds

namespace RealityLayer
namespace Worker

universe u

open Foundation Python RealityGit WorldState WorldStateService Actions Connectors

/-!
# Two budgets

`verify_action` polls with two budgets, a number of attempts and a deadline.  Each round
reads the clock once after the read, and once more before it sleeps.  The sleep is clipped
to the time that is left, and the next one grows from the clipped one and is capped.

What the rounds do to the services does not depend on the sleeps: the loop with a clock is
the loop of `poll`, with the clock checks as inputs.

Numbers of seconds are any linearly ordered type with the operations that the code uses.
Nothing is asked of them but that a product of two that are not negative is not negative.
-/

/-! ## The loop with a clock -/

/-- The settings of the verifier. Durations are of any ordered type with the arithmetic that
the loop uses, since floats have no exact laws. -/
structure VerifierSettings (S : Type u) where
  maxAttempts : Int
  initialIntervalSeconds : S
  backoffFactor : S
  maxIntervalSeconds : S
  timeoutSeconds : S

/-- A sleep, with the clock reading that it was computed from. It is never longer than what
that reading leaves of the time to the deadline. -/
structure Sleep (S : Type u) where
  interval : S
  reading : S
deriving DecidableEq

/-- What a call did, with its sleeps. One stands between two reads, and none after the last. -/
structure TimedVerification (S : Type u) extends Verification where
  sleeps : List (Sleep S)

/-- `pending_verifications`. Actions of all tenants are in it, in the order in which they
were stored. -/
def pendingVerifications (service : ActionService) : List (Text × Text) :=
  (service.actions.entries.filter (fun entry =>
    ActionService.verifiable entry.2.decision.status)).map (fun entry => (entry.2.tenantId, entry.1))

section Loop

variable {S : Type u} [LinearOrder S] [Zero S] [Sub S] [Mul S]

/-- No duration and no factor is negative. The settings are read from the environment, and
nothing checks them there. -/
structure VerifierSettings.NonNegative (settings : VerifierSettings S) : Prop where
  initialIntervalSeconds : 0 ≤ settings.initialIntervalSeconds
  backoffFactor : 0 ≤ settings.backoffFactor
  maxIntervalSeconds : 0 ≤ settings.maxIntervalSeconds
  timeoutSeconds : 0 ≤ settings.timeoutSeconds

variable (rt : Runtime) (fromisoformat : Text -> Except PyError Timestamp)
variable (settings : VerifierSettings S) (monotonic : Nat -> S) (deadline : S) (inputs : Nat -> Attempt)

/-- The inputs of a round, with what its clock check finds. The clock is read after the read
was ingested. -/
def timedAttempt (number : Nat) : Attempt :=
  { inputs number with outOfTime := decide (deadline ≤ monotonic (2 * number + 1)) }

/-- The loop from one round on, when so many are left after it. It ends with the first
conclusive answer, or with the final round. -/
def pollTimed (tenantId actionId : Text) : Nat -> Nat -> S -> Services -> TimedVerification S
  | 0, number, _, services =>
      let attempt := timedAttempt monotonic deadline inputs number
      ⟨⟨[(services, attempt)], attemptOnce rt fromisoformat tenantId actionId attempt true services⟩, []⟩
  | later + 1, number, interval, services =>
      let attempt := timedAttempt monotonic deadline inputs number
      let done := attemptOnce rt fromisoformat tenantId actionId attempt attempt.outOfTime services
      match done.result with
      | .error _ => ⟨⟨[(services, attempt)], done⟩, []⟩
      | .ok decision =>
          if terminal decision.status || attempt.outOfTime then ⟨⟨[(services, attempt)], done⟩, []⟩
          else
            let reading := monotonic (2 * number + 2)
            let slept := min interval (max 0 (deadline - reading))
            let rest := pollTimed tenantId actionId later (number + 1)
              (min (slept * settings.backoffFactor) settings.maxIntervalSeconds) done.state
            ⟨⟨(services, attempt) :: rest.made, rest.outcome⟩, ⟨slept, reading⟩ :: rest.sleeps⟩

/-- The deadline, from the first reading of the clock. It is computed once and never moved. -/
def deadlineOf [Add S] : S := monotonic 0 + settings.timeoutSeconds

/-- `verify_action`, with its clock. There is always a first round, even when no attempt is
configured or no time is left. -/
def verifyTimed [Add S] (services : Services) (tenantId actionId : Text) : TimedVerification S :=
  match services.actions.getAction actionId tenantId with
  | .error error => ⟨⟨[], .raises services error⟩, []⟩
  | .ok _ =>
      pollTimed rt fromisoformat settings monotonic (deadlineOf settings monotonic) inputs tenantId
        actionId ((max 1 settings.maxAttempts).toNat - 1) 0 settings.initialIntervalSeconds services

end Loop

/-! ## The loop without its clock -/

section Timed

variable {S : Type u} [LinearOrder S] [Zero S] [Sub S] [Mul S]
variable {rt : Runtime} {fromisoformat : Text -> Except PyError Timestamp}
variable {settings : VerifierSettings S} {monotonic : Nat -> S} {deadline : S} {inputs : Nat -> Attempt}
variable {tenantId actionId : Text}

/-- The rounds and the outcome are those of the loop whose clock checks are inputs. What is
proved of that loop holds under every clock. -/
theorem pollTimed_poll (later number : Nat) (interval : S) (services : Services) :
    (pollTimed rt fromisoformat settings monotonic deadline inputs tenantId actionId later number
        interval services).toVerification =
      poll rt fromisoformat tenantId actionId (timedAttempt monotonic deadline inputs number)
        ((List.range' (number + 1) later).map (timedAttempt monotonic deadline inputs)) services := by
  induction later generalizing number interval services with
  | zero => rfl
  | succ later ih =>
      rw [pollTimed, List.range'_succ, List.map_cons, poll]
      dsimp only
      cases (attemptOnce rt fromisoformat tenantId actionId (timedAttempt monotonic deadline inputs number)
          (timedAttempt monotonic deadline inputs number).outOfTime services).result with
      | error error => rfl
      | ok decision =>
          dsimp only
          split
          · rfl
          · rw [← ih (number + 1)]

/-- A round that is not the last ends the loop, or is in time and followed by a sleep. -/
theorem pollTimed_step (later number : Nat) (interval : S) (services : Services) :
    let attempt := timedAttempt monotonic deadline inputs number
    let done := attemptOnce rt fromisoformat tenantId actionId attempt attempt.outOfTime services
    let reading := monotonic (2 * number + 2)
    let slept := min interval (max 0 (deadline - reading))
    let rest := pollTimed rt fromisoformat settings monotonic deadline inputs tenantId actionId later
      (number + 1) (min (slept * settings.backoffFactor) settings.maxIntervalSeconds) done.state
    let timed := pollTimed rt fromisoformat settings monotonic deadline inputs tenantId actionId
      (later + 1) number interval services
    timed = ⟨⟨[(services, attempt)], done⟩, []⟩ ∨
      monotonic (2 * number + 1) < deadline ∧
        timed = ⟨⟨(services, attempt) :: rest.made, rest.outcome⟩, ⟨slept, reading⟩ :: rest.sleeps⟩ := by
  dsimp only
  rw [pollTimed]
  dsimp only
  cases (attemptOnce rt fromisoformat tenantId actionId (timedAttempt monotonic deadline inputs number)
      (timedAttempt monotonic deadline inputs number).outOfTime services).result with
  | error error => exact Or.inl rfl
  | ok decision =>
      dsimp only
      split
      · exact Or.inl rfl
      · rename_i goes
        rw [Bool.not_eq_true, Bool.or_eq_false_iff] at goes
        exact Or.inr ⟨not_le.mp (of_decide_eq_false goes.2), rfl⟩

/-- A read is followed by another one only when its clock check was in time. The check comes
after the read, so a read may still end late. -/
theorem pollTimed_in_time (later number : Nat) (interval : S) (services : Services) {place : Nat}
    (followed : place + 1 < (pollTimed rt fromisoformat settings monotonic deadline inputs tenantId
      actionId later number interval services).made.length) :
    monotonic (2 * (number + place) + 1) < deadline := by
  induction later generalizing number interval services place with
  | zero =>
      rw [pollTimed] at followed
      exact absurd followed (by simp)
  | succ later ih =>
      rcases pollTimed_step later number interval services with stopped | ⟨early, continued⟩
      · rw [stopped] at followed
        exact absurd followed (by simp)
      · rw [continued] at followed
        cases place with
        | zero => exact early
        | succ place =>
            have further := ih (number + 1) _ _ (Nat.lt_of_succ_lt_succ followed)
            rw [Nat.add_right_comm] at further
            exact further

/-- The loop sleeps after each round but the last. -/
theorem pollTimed_sleeps_length (later number : Nat) (interval : S) (services : Services) :
    let timed := pollTimed rt fromisoformat settings monotonic deadline inputs tenantId actionId later
      number interval services
    timed.made.length = timed.sleeps.length + 1 := by
  induction later generalizing number interval services with
  | zero => rfl
  | succ later ih =>
      dsimp only at ih ⊢
      rcases pollTimed_step later number interval services with stopped | ⟨_, continued⟩
      · rw [stopped]
        rfl
      · rw [continued, List.length_cons, List.length_cons, ih]

/-- Every sleep is computed after its round, is not negative, and is clipped to the time
left. The clock is read once more for it. -/
theorem pollTimed_sleeps (products : forall first second : S, 0 ≤ first -> 0 ≤ second -> 0 ≤ first * second)
    (nonNegative : settings.NonNegative) (later number : Nat) {interval : S} (positive : 0 ≤ interval)
    (services : Services) {place : Nat} {sleep : Sleep S}
    (taken : (pollTimed rt fromisoformat settings monotonic deadline inputs tenantId actionId later number
      interval services).sleeps[place]? = some sleep) :
    sleep.reading = monotonic (2 * (number + place) + 2) ∧ 0 ≤ sleep.interval ∧
      sleep.interval ≤ max 0 (deadline - sleep.reading) := by
  induction later generalizing number interval services place with
  | zero =>
      rw [pollTimed] at taken
      cases taken
  | succ later ih =>
      rcases pollTimed_step later number interval services with stopped | ⟨_, continued⟩
      · rw [stopped] at taken
        cases taken
      · rw [continued] at taken
        have clipped : 0 ≤ min interval (max 0 (deadline - monotonic (2 * number + 2))) :=
          le_min positive (le_max_left _ _)
        cases place with
        | zero =>
            cases taken
            exact ⟨rfl, clipped, min_le_right _ _⟩
        | succ place =>
            have grown := le_min (products _ _ clipped nonNegative.backoffFactor)
              nonNegative.maxIntervalSeconds
            have further := ih (number + 1) grown _ taken
            rw [Nat.add_right_comm] at further
            exact further

end Timed

/-! ## The budgets of a call -/

theorem mem_pendingVerifications {service : ActionService} {tenantId actionId : Text} :
    (tenantId, actionId) ∈ pendingVerifications service <->
      Exists fun action : StoredAction => service.getAction actionId tenantId = .ok action ∧
        ActionService.verifiable action.decision.status = true := by
  unfold pendingVerifications
  rw [List.mem_map]
  constructor
  · rintro ⟨⟨id, action⟩, member, same⟩
    cases same
    rcases List.mem_filter.mp member with ⟨stored, waiting⟩
    exact ⟨action, (service.getAction_ok_iff id action.tenantId action).mpr
      ⟨(Dict.mem_entries_iff _ _ _).mp stored, rfl⟩, waiting⟩
  · rintro ⟨action, stored, waiting⟩
    rcases (service.getAction_ok_iff actionId tenantId action).mp stored with ⟨found, owner⟩
    exact ⟨(actionId, action), List.mem_filter.mpr ⟨(Dict.mem_entries_iff _ _ _).mpr found, waiting⟩,
      Prod.ext owner rfl⟩

theorem not_verifiable_of_terminal {status : ActionStatus} (final : terminal status = true) :
    ActionService.verifiable status = false := by
  cases status <;> first | rfl | cases final

section Budgets

variable {S : Type u} [LinearOrder S] [Zero S] [Add S] [Sub S] [Mul S]
variable {rt : Runtime} {fromisoformat : Text -> Except PyError Timestamp}
variable {settings : VerifierSettings S} {monotonic : Nat -> S}

/-- A call that keeps to both budgets, ends with a final decision, and logs it. Its log has
one pending event for each read before the last. -/
structure BoundedPolling (settings : VerifierSettings S) (monotonic : Nat -> S) (services : Services)
    (tenantId actionId : Text) (verification : TimedVerification S) : Prop where
  reads : 1 ≤ verification.made.length ∧
    (verification.made.length : Int) ≤ max 1 settings.maxAttempts
  decided : Exists fun decision : ActionDecision => verification.outcome.result = .ok decision ∧
    terminal decision.status = true ∧ Exists fun events : List ActionEventRecord =>
      verification.outcome.state.actions.eventsOf actionId =
          services.actions.eventsOf actionId ++ events ∧
        events.map ActionEventRecord.eventType =
          List.replicate (verification.made.length - 1) ActionStatus.verificationPending.value ++
            [decision.status.value]
  sleeps : verification.made.length = verification.sleeps.length + 1 ∧
    forall place sleep, verification.sleeps[place]? = some sleep ->
      sleep.reading = monotonic (2 * place + 2) ∧ 0 ≤ sleep.interval ∧
        sleep.interval ≤ max 0 (deadlineOf settings monotonic - sleep.reading)
  inTime : forall place, place + 1 < verification.made.length ->
    monotonic (2 * place + 1) < deadlineOf settings monotonic
  cleared : (tenantId, actionId) ∉ pendingVerifications verification.outcome.state.actions

/-- What holds of the two services in every run. -/
theorem SoundServices.of_runs (printable : PrintableTexts rt) {services : Services}
    {worldHistory : List (Step WorldStateService ServiceCall)} {actionHistory : List (Step ActionService Call)}
    (world : (serviceSystem rt).Run worldHistory services.world)
    (actions : (actionSystem rt).Run actionHistory services.actions) : SoundServices rt services where
  log := .of_run printable.digests actions
  kept := .of_run printable.toPlainTexts world

/-- What the rounds of a call are, and how it ends, without the clock. -/
theorem verifyTimed_poll {services : Services} {tenantId actionId : Text} {action : StoredAction}
    (inputs : Nat -> Attempt)
    (stored : services.actions.getAction actionId tenantId = .ok action) :
    Exists fun first : Attempt => Exists fun rest : List Attempt =>
      rest.length = (max 1 settings.maxAttempts).toNat - 1 ∧
        (verifyTimed rt fromisoformat settings monotonic inputs services tenantId
          actionId).toVerification = poll rt fromisoformat tenantId actionId first rest services := by
  unfold verifyTimed
  rw [stored]
  exact ⟨_, _, by rw [List.length_map, List.length_range'], pollTimed_poll _ 0 _ services⟩

/-- In every run, a call whose reads are all taken in keeps to its budgets, whatever they are,
and ends with a final decision, exactly when its rounds are clear. -/
theorem bounded_polling_iff (printable : PrintableTexts rt)
    (products : forall first second : S, 0 ≤ first -> 0 ≤ second -> 0 ≤ first * second)
    (nonNegative : settings.NonNegative) (inputs : Nat -> Attempt) {services : Services}
    {worldHistory : List (Step WorldStateService ServiceCall)} {actionHistory : List (Step ActionService Call)}
    (world : (serviceSystem rt).Run worldHistory services.world)
    (actions : (actionSystem rt).Run actionHistory services.actions)
    {tenantId actionId : Text} {action : StoredAction}
    (stored : services.actions.getAction actionId tenantId = .ok action)
    (waiting : ActionService.verifiable action.decision.status = true)
    (taken : forall made, made ∈ (verifyTimed rt fromisoformat settings monotonic inputs services tenantId
        actionId).made -> Exists fun state : OrderState =>
      (ingestVerificationRead rt fromisoformat made.1.world tenantId made.2).result = .ok state) :
    BoundedPolling settings monotonic services tenantId actionId
        (verifyTimed rt fromisoformat settings monotonic inputs services tenantId actionId) <->
      forall made, made ∈ (verifyTimed rt fromisoformat settings monotonic inputs services tenantId
        actionId).made -> RoundClear rt fromisoformat tenantId made := by
  rcases @verifyTimed_poll S _ _ _ _ _ rt fromisoformat settings monotonic
    services tenantId actionId action inputs stored with ⟨first, rest, budget, polled⟩
  have cases := @poll_cases rt fromisoformat services tenantId actionId action first rest printable
    (.of_runs printable world actions) stored waiting (by rw [← polled]; exact taken)
  rw [← polled] at cases
  constructor
  · intro bounded
    rcases cases with ⟨clear, _⟩ | ⟨_, error, raised⟩
    · exact clear
    · rcases bounded.decided with ⟨decision, answered, _⟩
      cases raised.symm.trans answered
  · intro clear
    obtain ⟨_, decision, ended, _⟩ := cases.resolve_right (fun unclear => by
      obtain ⟨⟨made, member, wrong⟩, _⟩ := unclear
      exact wrong (clear made member))
    have lengths := @poll_length rt fromisoformat tenantId actionId first rest services
    rw [← polled] at lengths
    have timed : verifyTimed rt fromisoformat settings monotonic inputs services tenantId actionId =
        pollTimed rt fromisoformat settings monotonic (deadlineOf settings monotonic) inputs tenantId
          actionId ((max 1 settings.maxAttempts).toNat - 1) 0 settings.initialIntervalSeconds services := by
      unfold verifyTimed
      rw [stored]
    exact {
      reads := by
        refine ⟨lengths.1, ?_⟩
        have most := lengths.2
        have least : 1 ≤ max 1 settings.maxAttempts := le_max_left _ _
        omega
      decided := ⟨decision, ended.answered, ended.final, ended.logged⟩
      sleeps := by
        rw [timed]
        refine ⟨pollTimed_sleeps_length _ _ _ _, ?_⟩
        intro place sleep slept
        have bounds := pollTimed_sleeps products nonNegative _ 0 nonNegative.initialIntervalSeconds services
          slept
        rw [Nat.zero_add] at bounds
        exact bounds
      inTime := by
        rw [timed]
        intro place followed
        have early := pollTimed_in_time _ 0 _ services followed
        rw [Nat.zero_add] at early
        exact early
      cleared := by
        rw [mem_pendingVerifications]
        rintro ⟨other, found, waits⟩
        rcases ended.stored with ⟨last, held, same⟩
        cases held.symm.trans found
        rw [same, not_verifiable_of_terminal ended.final] at waits
        cases waits }

end Budgets

/-! ## Two calls -/

def pollSettings : VerifierSettings Int := ⟨3, 2, 2, 10, 30⟩

/-- A clock that moves on by a second at each reading. -/
def steadyClock (number : Nat) : Int := number

/-- The provider answers open at first, and cancelled from then on. -/
def pollInputs (number : Nat) : Attempt where
  read := .ok (statusPayload (if number = 0 then "open" else "cancelled"))
  now := tenMinutes
  nonce := (Draws.numbered (50 + number)).uuid 0
  ingestDraws := drawsAt (60 + 10 * number) tenMinutes
  verifyDraws := .numbered (60 + 10 * number)
  outOfTime := false

def executedCalls : List Call := [samplePropose, sampleApprove, sampleExecute]

theorem executed_run {service : ActionService} (executed : service = sampleService executedCalls) :
    Exists fun history : List (Step ActionService Call) => (actionSystem .plain).Run history service :=
  ⟨_, executed ▸ (sample_run executedCalls ⟨[sampleVerify], rfl⟩).ofRestrict⟩

theorem executed_waits {service : ActionService} (executed : service = sampleService executedCalls) :
    Exists fun action : StoredAction => service.getAction sampleId "demo" = .ok action ∧
      ActionService.verifiable action.decision.status = true := by
  rw [executed]
  have facts : ((sampleService executedCalls).getAction sampleId "demo").toOption.any (fun action =>
      ActionService.verifiable action.decision.status) = true := by
    decide +kernel
  rcases (Option.any_eq_true _ _).mp facts with ⟨action, stored, waiting⟩
  exact ⟨action, ok_of_toOption stored, waiting⟩

/-- The reads of a call were all taken in. -/
def readsTaken (verification : TimedVerification Int) : Bool :=
  verification.made.all (fun made =>
    (ingestVerificationRead .plain noDatetime made.1.world "demo" made.2).result.toOption.isSome)

theorem readsTaken_iff (verification : TimedVerification Int) (taken : readsTaken verification = true) :
    forall made, made ∈ verification.made -> Exists fun state : OrderState =>
      (ingestVerificationRead .plain noDatetime made.1.world "demo" made.2).result = .ok state := by
  intro made member
  rcases Option.isSome_iff_exists.mp (List.all_eq_true.mp taken made member) with ⟨state, answered⟩
  exact ⟨state, ok_of_toOption answered⟩

/-- The call of the sample action. -/
def polledCall (services : Services) : TimedVerification Int :=
  verifyTimed .plain noDatetime pollSettings steadyClock pollInputs services "demo" sampleId

def freshlyExecuted : Services := ⟨sampleService executedCalls, .fresh⟩

/-- A pending round and a final one, of three that the settings allow. -/
theorem bounded_polling_sample :
    BoundedPolling pollSettings steadyClock freshlyExecuted "demo" sampleId (polledCall freshlyExecuted) ∧
      (polledCall freshlyExecuted).sleeps = [⟨2, 2⟩] := by
  have facts : readsTaken (polledCall freshlyExecuted) = true ∧
      (forall made, made ∈ (polledCall freshlyExecuted).made ->
        RoundClear .plain noDatetime "demo" made) ∧
      (polledCall freshlyExecuted).sleeps = [⟨2, 2⟩] := by
    decide +kernel
  rcases facts with ⟨taken, clear, slept⟩
  have executed : freshlyExecuted.actions = sampleService executedCalls := by rw [freshlyExecuted]
  rcases executed_run executed with ⟨history, run⟩
  rcases executed_waits executed with ⟨action, stored, waiting⟩
  have blank : freshlyExecuted.world = .fresh := by rw [freshlyExecuted]
  have world : (serviceSystem .plain).Run [] freshlyExecuted.world := .begin blank
  have nonNegative : pollSettings.NonNegative := ⟨by decide, by decide, by decide, by decide⟩
  refine ⟨?_, slept⟩
  unfold polledCall at *
  exact (bounded_polling_iff plain_printableTexts (fun _ _ => Int.mul_nonneg) nonNegative pollInputs
    world run stored waiting (readsTaken_iff _ taken)).mpr clear

/-- The back office reports a status that is not a number. -/
def unwritableReading : Observation where
  observationId := "obs_backoffice_1001"
  connector := "backoffice"
  objectType := "order"
  objectId := "1001"
  observedAt := .utc tenMinutes
  payload := Dict.ofList [("status", .float ⟨0x7ff8000000000000⟩)]
  valid := by decide +kernel

def staleCall : WorldCall := .ingest (drawsAt 10 tenMinutes) "demo" openReading "observation" "observed"

/-- It replaces a status that was stale when it was observed. A stale status disputes nothing. -/
def unwritableCall : WorldCall :=
  .ingest (drawsAt 20 tenMinutes) "demo" unwritableReading "observation" "observed"

def unwritableServices : Services where
  actions := sampleService executedCalls
  world := ((serviceSystem .plain).trace .fresh [.call staleCall, .call unwritableCall]).2

/-- Every read is taken in, and the call raises: the held status cannot be hashed.  It has stored
a decision by then that no event tells of. -/
theorem unwritable_status_raises :
    (Exists fun history => (actionSystem .plain).Run history unwritableServices.actions) ∧
      (Exists fun history => (serviceSystem .plain).Run history unwritableServices.world) ∧
      (Exists fun action : StoredAction =>
        unwritableServices.actions.getAction sampleId "demo" = .ok action ∧
          ActionService.verifiable action.decision.status = true) ∧
      readsTaken (polledCall unwritableServices) = true ∧
      (polledCall unwritableServices).outcome.result = .error (.hashing .nonFiniteFloat) ∧
      ((polledCall unwritableServices).outcome.state.actions.getAction sampleId "demo").toOption.map
        (fun action => action.decision.status) = some .verificationPending ∧
      (polledCall unwritableServices).outcome.state.actions.eventsOf sampleId =
        unwritableServices.actions.eventsOf sampleId ∧
      ¬ BoundedPolling pollSettings steadyClock unwritableServices "demo" sampleId
        (polledCall unwritableServices) := by
  have facts : (WorldStateService.fresh.DrawsFresh staleCall ∧ staleCall.FreshConflicts .fresh) ∧
      ((WorldStateService.fresh.perform .plain staleCall).DrawsFresh unwritableCall ∧
        unwritableCall.FreshConflicts (WorldStateService.fresh.perform .plain staleCall)) ∧
      readsTaken (polledCall unwritableServices) = true ∧
      (polledCall unwritableServices).outcome.result = .error (.hashing .nonFiniteFloat) ∧
      ((polledCall unwritableServices).outcome.state.actions.getAction sampleId "demo").toOption.map
        (fun action => action.decision.status) = some .verificationPending ∧
      (polledCall unwritableServices).outcome.state.actions.eventsOf sampleId =
        unwritableServices.actions.eventsOf sampleId := by
    decide +kernel
  rcases facts with ⟨first, second, taken, raised, stored, logged⟩
  have admitted : (serviceSystem .plain).AdmitsAll .fresh [.call staleCall, .call unwritableCall] := by
    dsimp only [System.AdmitsAll, serviceSystem, ServiceCall.Admitted, ServiceCall.perform]
    exact ⟨first, second, trivial⟩
  have executed : unwritableServices.actions = sampleService executedCalls := by rw [unwritableServices]
  have world : unwritableServices.world =
      ((serviceSystem .plain).trace .fresh [.call staleCall, .call unwritableCall]).2 := by
    rw [unwritableServices]
  have run := System.run_trace _ rfl admitted
  refine ⟨executed_run executed, ⟨_, world ▸ run⟩, executed_waits executed, taken, raised, stored, logged,
    fun bounded => ?_⟩
  rcases bounded.decided with ⟨decision, answered, _⟩
  cases raised.symm.trans answered

end Worker
end RealityLayer
