import RealityLayer.Actions.Failure
import RealityLayer.WorldState.Decoders
import RealityLayer.Worker.Soundness

namespace RealityLayer
namespace Worker

open Foundation Python RealityGit WorldState WorldStateService Actions Connectors

/-!
# Rounds of polling

A round reads, ingests and judges.  When the read is taken in, one thing can still fail:
the event of the verdict is hashed, and it carries the status that World State answers
with.  A read brings a text.  But where the read does not replace the held status, the
answer has the status that another source reported, and a NaN or an infinity in it
cannot be hashed.  Then `verify` has stored the decision already, and raises.

A call whose rounds are all free of that ends with a final verdict, and leaves one
pending event for each round before the last.
-/

/-- The texts of verdicts are valid Unicode too. A verdict quotes the observed status with
`repr`, which escapes what cannot be printed. -/
structure PrintableTexts (rt : Runtime) : Prop extends PlainTexts rt where
  reprs : forall value, (rt.repr value).encodable = true

theorem plain_printableTexts : PrintableTexts .plain where
  toPlainTexts := plain_plainTexts
  reprs := fun _ => Text.encodable_ofString _

/-- A status that the read does not replace has no NaN and no infinity. The event of the
verdict holds the status as it was observed. -/
def StatusWritable (world : WorldStateService) (tenantId : Text) (observation : Observation) : Prop :=
  world.observations.contains (tenantId, observation.observationId) = true ∨
      disputesStatus (heldFor world tenantId observation) observation = true ->
    ((heldFor world tenantId observation).get? "status").all (fun existing =>
      existing.value.finite) = true

instance (world : WorldStateService) (tenantId : Text) (observation : Observation) :
    Decidable (StatusWritable world tenantId observation) :=
  inferInstanceAs (Decidable (_ -> _))

/-- What a round reads meets such a status, or replaces it. A round whose read raises has
nothing to write. -/
def RoundClear (rt : Runtime) (fromisoformat : Text -> Except PyError Timestamp) (tenantId : Text)
    (made : Services × Attempt) : Prop :=
  forall observation : Observation, made.2.observation rt fromisoformat = .ok observation ->
    StatusWritable made.1.world tenantId (renamed observation made.2.nonce)

instance (rt : Runtime) (fromisoformat : Text -> Except PyError Timestamp) (tenantId : Text)
    (made : Services × Attempt) : Decidable (RoundClear rt fromisoformat tenantId made) :=
  match read : made.2.observation rt fromisoformat with
  | .ok observation =>
      decidable_of_iff (StatusWritable made.1.world tenantId (renamed observation made.2.nonce))
        ⟨fun writable other again => by cases read.symm.trans again; exact writable,
          fun clear => clear observation read⟩
  | .error _ => isTrue (fun _ again => by cases read.symm.trans again)

/-! ## Logs that can be continued -/

/-- What the next event of an action repeats can be hashed again: the action's identifier,
and the hash of the newest event. -/
structure LogWritable (service : ActionService) : Prop where
  named : forall actionId action, service.actions.get? actionId = some action ->
    actionId.encodable = true
  hashes : forall actionId event, event ∈ service.eventsOf actionId -> event.eventHash.encodable = true

section Logs

variable {rt : Runtime} {service after : ActionService} {hashed : Prop} {call : Call}
variable {entry : Option ActionEventRecord}

theorem LogWritable.fresh : LogWritable .fresh := ⟨nofun, nofun⟩

theorem LogWritable.stored (writable : LogWritable service) {actionId target : Text}
    {action stored : StoredAction} (target' : target.encodable = true)
    (found : (service.actions.set target stored).get? actionId = some action) :
    actionId.encodable = true := by
  rw [Dict.get?_set] at found
  split at found
  · rename_i same
    exact same ▸ target'
  · exact writable.named actionId action found

theorem LogWritable.step (digests : DigestsEncodable rt) (writable : LogWritable service)
    (effect : Effect rt service hashed call entry after) : LogWritable after := by
  refine ⟨?_, ?_⟩
  · intro actionId action found
    cases effect with
    | idle => exact writable.named actionId action found
    | created draws proposal tenantId context entry after unclaimed appends =>
        rw [appends.actions] at found
        exact writable.stored (ActionService.newActionId_encodable draws) found
    | settled call target tenantId held verdict entry after known owner decides appends =>
        rw [appends.actions] at found
        exact writable.stored (writable.named target held known) found
    | refused draws target tenantId cancelOrder currentState held reason entry after known owner
        approved ineligible appends =>
        rw [appends.actions] at found
        exact writable.named actionId action found
    | accepted draws target tenantId cancelOrder currentState held receipt entry after reaches
        accepts appends =>
        rw [appends.actions] at found
        exact writable.stored (writable.named target held reaches.found) found
  · intro actionId event member
    rcases (effect.grows.mem_iff actionId event).mp member with earlier | ⟨rfl, _⟩
    · exact writable.hashes actionId event earlier
    · have sealed := ((hashJson_ok_iff _ _).mp effect.entry_genuine.1.2).2
      rw [sealed, Text.encodable_append, Text.encodable_ofString, digests]
      rfl

theorem LogWritable.of_run (digests : DigestsEncodable rt) {history : List (Step ActionService Call)}
    (run : (actionSystem rt).Run history service) : LogWritable service := by
  apply System.Run.invariant run
  · rintro _ rfl
    exact .fresh
  · intro service call writable _
    rcases perform_effect rt service call with ⟨entry, effect⟩
    exact writable.step digests effect

end Logs

/-! ## The event of a verdict -/

section Verdicts

variable {rt : Runtime} {service : ActionService} {draws : Draws} {tenantId actionId : Text}
variable {action : StoredAction} {state : OrderState} {isFinal : Bool}

theorem verificationReason_encodable (printable : PrintableTexts rt) (observed : Json) (isFinal : Bool) :
    (ActionService.verificationReason rt observed isFinal).encodable = true := by
  unfold ActionService.verificationReason
  split
  · exact Text.encodable_ofString _
  · split
    · split
      · exact Text.encodable_ofString _
      · exact Text.encodable_ofString _
    · split
      · exact Text.encodable_ofString _
      · rw [Text.encodable_append, Text.encodable_append, Text.encodable_ofString, printable.reprs,
          Text.encodable_ofString]
        rfl

theorem statusValue_encodable (status : ActionStatus) : status.value.encodable = true := by
  cases status <;> exact Text.encodable_ofString _

/-- The draft of a verdict on a state. It names the commit of the state and the status that
the state holds. -/
def verdictDraft (rt : Runtime) (draws : Draws) (tenantId actionId : Text) (state : OrderState)
    (isFinal : Bool) : EventDraft :=
  (ActionService.verificationVerdict rt (some state) isFinal).draft (ActionService.newEventId draws 0)
    tenantId actionId

/-- The event of a verdict on a persisted state can be hashed exactly when the observed status
has no NaN and no infinity. -/
theorem verdict_sealable_iff (printable : PrintableTexts rt) (writable : LogWritable service)
    (owner : tenantId.encodable = true) (named : actionId.encodable = true)
    (persisted : Persisted rt state) :
    (verdictDraft rt draws tenantId actionId state isFinal).Sealable rt service <->
      (ActionService.observedStatus (some state)).finite = true := by
  have last : ((service.eventsOf actionId).getLast?.map ActionEventRecord.eventHash).all
      Text.encodable = true := by
    cases newest : (service.eventsOf actionId).getLast? with
    | none => rfl
    | some event => exact writable.hashes actionId event (List.mem_of_getLast? newest)
  have texts : (ActionService.observedStatus (some state)).finite = true ->
      encodableJson rt (ActionService.observedStatus (some state)) = true := by
    unfold ActionService.observedStatus OrderState.value?
    rw [Option.bind_some]
    cases held : state.attributes.get? "status" with
    | none => exact fun _ => rfl
    | some attr =>
        intro finite
        have value := (recordable_iff.mp (persisted.fit.attributes _ attr held).2.1).2
        change attr.value.finite = true at finite
        rw [Json.jsonMode_of_finite _ finite] at value
        unfold RealityGit.hashable at value
        rw [Bool.and_eq_true] at value
        exact value.2
  have sealable : (verdictDraft rt draws tenantId actionId state isFinal).Sealable rt service <->
      hashable rt (ActionService.eventBody (ActionService.newEventId draws 0) tenantId actionId
        (ActionService.verificationVerdict rt (some state) isFinal).status.value "verifier"
        (ActionService.verificationVerdict rt (some state) isFinal).payload
        ((service.eventsOf actionId).getLast?.map ActionEventRecord.eventHash)) = true := by
    constructor
    · rintro ⟨hash, sealed⟩
      exact ((hashJson_ok_iff _ _).mp sealed).1
    · intro accepted
      exact hashJson_ok_of_hashable accepted
  rw [sealable]
  unfold ActionService.eventBody RealityGit.hashable ActionService.verificationVerdict
  dsimp only
  rw [ActionService.verificationPayload_entries]
  simp only [Json.finite, Json.finiteEntries, encodableJson, encodableEntries,
    ActionService.newEventId_encodable, owner, named, statusValue_encodable,
    verificationReason_encodable printable, encodableJson_ofText?,
    Json.finite_ofText?, Option.map_some, Option.all_some, persisted.commitId, last, Text.encodable_ofString,
    Bool.true_and, Bool.and_true, Bool.and_eq_true]
  exact ⟨fun both => both.1, fun finite => ⟨finite, texts finite⟩⟩

/-- A verification either appends the event of its verdict, or stores the decision and raises. -/
theorem verify_cases (isFinal : Bool) (stored : service.getAction actionId tenantId = .ok action)
    (waiting : ActionService.verifiable action.decision.status = true) :
    let verdict := ActionService.verificationVerdict rt (some state) isFinal
    let written := service.withDecision actionId action verdict.status verdict.reason
    let draft := verdictDraft rt draws tenantId actionId state isFinal
    (draft.Sealable rt service ∧ Exists fun hash : Text =>
      service.verify rt draws actionId tenantId (some state) isFinal =
        .returns (written.push (draft.record written hash))
          { action.decision with status := verdict.status, reason := verdict.reason }) ∨
    (¬ draft.Sealable rt service ∧ Exists fun cause : HashError =>
      service.verify rt draws actionId tenantId (some state) isFinal =
        .raises written (.hashing cause)) := by
  unfold ActionService.verify ActionService.settle ActionService.appendEvent EventDraft.Sealable
  rw [stored]
  dsimp only [verdictDraft, Verdict.draft, ActionService.withDecision_eventsOf]
  rw [waiting, if_neg Bool.true_eq_false_eq_False]
  generalize hashJson rt _ = hashed
  cases hashed with
  | error cause =>
      refine Or.inr ⟨?_, cause, rfl⟩
      rintro ⟨hash, same⟩
      cases same
  | ok hash => exact Or.inl ⟨⟨hash, rfl⟩, hash, rfl⟩

end Verdicts

/-! ## The status that is judged -/

section Statuses

variable {rt : Runtime} {world : WorldStateService} {draws : Draws} {tenantId : Text}
variable {observation : Observation} {cause assuranceLevel : Text} {state : OrderState}

theorem observedStatus_finite (state : OrderState) :
    (ActionService.observedStatus (some state)).finite =
      (state.attributes.get? "status").all (fun existing => existing.value.finite) := by
  unfold ActionService.observedStatus OrderState.value?
  rw [Option.bind_some]
  cases state.attributes.get? "status" with
  | none => rfl
  | some attr => rfl

theorem heldFor_stored (stored : world.states.get?
      (tenantId, observation.objectType, observation.objectId) = some state) :
    heldFor world tenantId observation = state.attributes := by
  unfold heldFor
  rw [stored]
  rfl

/-- A value whose dump equals a text is that text. -/
theorem finite_of_dumped_text {held : Dict Text StateAttribute} {name text : Text}
    (same : (dumpedValue held name).pyEq (.str text) = true) :
    (held.get? name).all (fun existing => existing.value.finite) = true := by
  unfold dumpedValue at same
  rw [Json.pyEq_str_iff] at same
  cases found : held.get? name with
  | none => rfl
  | some attr =>
      rw [found] at same
      change attr.value.jsonMode = .str text at same
      change attr.value.finite = true
      cases value : attr.value with
      | float number =>
          rw [value, Json.jsonMode] at same
          split at same
          · cases same
          · cases same
      | list items => rw [value, Json.jsonMode] at same; cases same
      | dict entries => rw [value, Json.jsonMode] at same; cases same
      | null => rfl
      | bool flag => rfl
      | int number => rfl
      | str other => rfl

/-- A read that is taken in is answered with a status that can be written exactly when the
status that it does not replace can. -/
theorem ingest_status_finite {status : Text}
    (read : observation.payload.get? "status" = some (.str status))
    (returned : (world.ingest rt draws tenantId observation cause assuranceLevel).result = .ok state) :
    (ActionService.observedStatus (some state)).finite = true <->
      StatusWritable world tenantId observation := by
  unfold StatusWritable
  rw [observedStatus_finite]
  cases known : world.observations.contains (tenantId, observation.observationId) with
  | true =>
      have way := ingest_ingestion rt world draws tenantId observation cause assuranceLevel
      generalize stored : world.states.get? (tenantId, observation.objectType, observation.objectId) =
        previous at way
      generalize world.ingest rt draws tenantId observation cause assuranceLevel = outcome at way returned
      cases way with
      | repeated held found _ =>
          cases returned
          subst found
          rw [heldFor_stored stored]
          exact ⟨fun finite _ => finite, fun finite => finite (Or.inl rfl)⟩
      | stateless absent _ => cases returned
      | unprojected error new failed => cases known.symm.trans new
      | unchanged incoming held found new projected same dumped => cases known.symm.trans new
      | undumped incoming new projected undumpable => cases known.symm.trans new
      | refused incoming error new projected changes failed dumped => cases known.symm.trans new
      | committed incoming commit new projected changes continues answers dumped =>
          cases known.symm.trans new
  | false =>
      rcases ingest_merged known returned with ⟨label, merged⟩
      generalize world.ingest rt draws tenantId observation cause assuranceLevel = outcome at *
      cases disputed : disputesStatus (heldFor world tenantId observation) observation with
      | true =>
          have kept : state.attributes.get? "status" =
              (heldFor world tenantId observation).get? "status" := by
            cases merged with
            | unchanged held stored same after states =>
                cases returned
                rw [heldFor_stored stored]
            | advanced next attributes after states =>
                cases returned
                rw [attributes]
                exact compiled_status_disputed read disputed
          rw [kept]
          exact ⟨fun finite _ => finite, fun finite => finite (Or.inr rfl)⟩
      | false =>
          refine iff_of_true ?_ (fun either => ?_)
          · cases merged with
            | unchanged held stored same after states =>
                cases returned
                refine @finite_of_dumped_text _ "status" status ?_
                have nothing := nothingNew_of_quiet rt (some state) label same "status" (.str status) read
                unfold disputesStatus at disputed
                rw [read, Option.any_some, heldFor_stored stored] at disputed
                refine nothing.resolve_left (fun disputes => ?_)
                exact absurd (disputed.symm.trans disputes) Bool.false_ne_true
            | advanced next attributes after states =>
                cases returned
                have value := @compiled_status observation
                  (world.states.get? (tenantId, observation.objectType, observation.objectId)) label status
                  read disputed
                rw [← attributes] at value
                rcases Option.map_eq_some_iff.mp value with ⟨attr, found, same⟩
                rw [found, Option.all_some, same]
                rfl
          · rcases either with impossible | impossible
            · cases impossible
            · cases impossible

/-- A call that is answered answers with the state that is held afterwards. -/
theorem ingest_answered
    (returned : (world.ingest rt draws tenantId observation cause assuranceLevel).result = .ok state) :
    (world.ingest rt draws tenantId observation cause assuranceLevel).state.states.get?
      (tenantId, observation.objectType, observation.objectId) = some state := by
  have way := ingest_ingestion rt world draws tenantId observation cause assuranceLevel
  generalize stored : world.states.get? (tenantId, observation.objectType, observation.objectId) =
    previous at way
  generalize world.ingest rt draws tenantId observation cause assuranceLevel = outcome at way returned ⊢
  cases way with
  | repeated held found _ =>
      cases returned
      exact stored.trans found
  | stateless absent _ => cases returned
  | unprojected error new failed => cases returned
  | unchanged incoming held found new projected same dumped =>
      cases returned
      rw [Outcome.returns_state, (merged_same _ _ _ _ _ _).states]
      exact stored.trans found
  | undumped incoming new projected undumpable => cases returned
  | refused incoming error new projected changes failed dumped => cases returned
  | committed incoming commit new projected changes continues answers dumped =>
      cases returned
      exact Dict.get?_set_self _ _ _

end Statuses

/-! ## One round -/

/-- Two services that calls lead to. The log can go on and the states can be recorded, so
only what a round brings can stop it. -/
structure SoundServices (rt : Runtime) (services : Services) : Prop where
  log : LogWritable services.actions
  kept : Kept rt services.world

/-- What a round leaves that is answered with a decision: the decision is stored, one event
tells it, and the services are still sound. -/
structure Judged (rt : Runtime) (before : Services) (tenantId actionId : Text) (isFinal : Bool)
    (outcome : Outcome PyError Services ActionDecision) (decision : ActionDecision) : Prop where
  answered : outcome.result = .ok decision
  sound : SoundServices rt outcome.state
  stored : Exists fun action : StoredAction =>
    outcome.state.actions.getAction actionId tenantId = .ok action ∧ action.decision = decision
  logged : Exists fun event : ActionEventRecord => event.eventType = decision.status.value ∧
    outcome.state.actions.eventsOf actionId = before.actions.eventsOf actionId ++ [event]
  status : terminal decision.status = true ∨ isFinal = false ∧ decision.status = .verificationPending

section Round

variable {rt : Runtime} {fromisoformat : Text -> Except PyError Timestamp} {services : Services}
variable {tenantId actionId : Text} {action : StoredAction} {attempt : Attempt}

theorem verificationStatus_cases (observed : Json) (isFinal : Bool) :
    terminal (ActionService.verificationStatus observed isFinal) = true ∨
      isFinal = false ∧ ActionService.verificationStatus observed isFinal = .verificationPending := by
  unfold ActionService.verificationStatus
  split
  · exact Or.inl rfl
  · cases isFinal with
    | false => exact Or.inr ⟨rfl, rfl⟩
    | true =>
        rw [if_neg (by decide)]
        split
        · exact Or.inl rfl
        · exact Or.inl rfl

/-- Where the read is taken in, a round is clear when the status that the verdict is about can be
hashed. -/
theorem roundClear_iff {observation : Observation} {state : OrderState}
    (read : attempt.observation rt fromisoformat = .ok observation)
    (taken : (services.world.ingest rt attempt.ingestDraws tenantId (renamed observation attempt.nonce)
      "verification" "verified").result = .ok state) :
    RoundClear rt fromisoformat tenantId (services, attempt) <->
      (ActionService.observedStatus (some state)).finite = true := by
  rcases Attempt.status read with ⟨status, text⟩
  rw [@ingest_status_finite rt services.world attempt.ingestDraws tenantId
    (renamed observation attempt.nonce) "verification" "verified" state status text taken]
  constructor
  · intro clear
    exact clear observation read
  · intro writable other again
    cases read.symm.trans again
    exact writable

/-- The state that a round is judged by is held afterwards, and was recorded under a tenant whose
name is valid Unicode. -/
theorem taken_persisted {world : WorldStateService} {key : Text × Text} {state : OrderState}
    (kept : Kept rt world) (placed : world.states.get? (tenantId, key) = some state) :
    Persisted rt state ∧ tenantId.encodable = true := by
  have persisted := kept.persisted _ state placed
  have fit := persisted.fit
  rw [(kept.placed _ state placed).key] at fit
  exact ⟨persisted, fit.tenant⟩

/-- A verification of a waiting action on a recorded state answers exactly when the status that it
observes can be hashed. -/
theorem verify_judged (printable : PrintableTexts rt) (sound : SoundServices rt services)
    (stored : services.actions.getAction actionId tenantId = .ok action)
    (waiting : ActionService.verifiable action.decision.status = true)
    {world : WorldStateService} {state : OrderState} (kept : Kept rt world)
    (persisted : Persisted rt state) (owner : tenantId.encodable = true) (draws : Draws)
    (isFinal : Bool) :
    let verified := services.actions.verify rt draws actionId tenantId (some state) isFinal
    let done : Outcome PyError Services ActionDecision := ⟨⟨verified.state, world⟩, verified.result⟩
    ((ActionService.observedStatus (some state)).finite = true ∧ Exists fun decision : ActionDecision =>
      Judged rt services tenantId actionId isFinal done decision) ∨
    (¬ (ActionService.observedStatus (some state)).finite = true ∧ Exists fun error : PyError =>
      done.result = .error error) := by
  dsimp only
  rcases (services.actions.getAction_ok_iff actionId tenantId action).mp stored with ⟨found, tenant⟩
  have sealable_iff := @verdict_sealable_iff rt services.actions draws tenantId actionId state isFinal
    printable sound.log owner (sound.log.named actionId action found) persisted
  rcases verify_effect rt services.actions draws actionId tenantId (some state) isFinal False
    (fun impossible => impossible.elim) with ⟨entry, effect⟩
  have log := sound.log.step printable.digests effect
  rcases @verify_cases rt services.actions draws tenantId actionId action state isFinal stored waiting
    with ⟨sealable, hash, verified⟩ | ⟨unsealable, cause, verified⟩
  · refine Or.inl ⟨sealable_iff.mp sealable, ?_⟩
    rw [verified] at log ⊢
    have status := verificationStatus_cases (ActionService.observedStatus (some state)) isFinal
    generalize met : ActionService.verificationVerdict rt (some state) isFinal = verdict at *
    have same : verdict.status =
        ActionService.verificationStatus (ActionService.observedStatus (some state)) isFinal := by
      rw [← met]
      rfl
    rw [← same] at status
    refine ⟨_, rfl, ⟨log, kept⟩, ⟨{ action with decision :=
      { action.decision with status := verdict.status, reason := verdict.reason } }, ?_, rfl⟩,
      ⟨(verdictDraft rt draws tenantId actionId state isFinal).record
        (services.actions.withDecision actionId action verdict.status verdict.reason) hash, ?_, ?_⟩,
      status⟩
    · exact (ActionService.getAction_ok_iff _ actionId tenantId _).mpr
        ⟨Dict.get?_set_self _ _ _, tenant⟩
    · exact congrArg ActionStatus.value same.symm
    · exact (ActionService.eventsOf_push _ _ _).trans (if_pos rfl)
  · refine Or.inr ⟨fun finite => unsealable (sealable_iff.mpr finite), ?_⟩
    rw [verified]
    exact ⟨_, rfl⟩

/-- A round whose read is taken in is answered exactly when it is clear. -/
theorem attemptOnce_cases (printable : PrintableTexts rt) (sound : SoundServices rt services)
    (stored : services.actions.getAction actionId tenantId = .ok action)
    (waiting : ActionService.verifiable action.decision.status = true)
    {state : OrderState} (taken : (ingestVerificationRead rt fromisoformat services.world tenantId
      attempt).result = .ok state) (isFinal : Bool) :
    let done := attemptOnce rt fromisoformat tenantId actionId attempt isFinal services
    (RoundClear rt fromisoformat tenantId (services, attempt) ∧ Exists fun decision : ActionDecision =>
      Judged rt services tenantId actionId isFinal done decision) ∨
    (¬ RoundClear rt fromisoformat tenantId (services, attempt) ∧ Exists fun error : PyError =>
      done.result = .error error) := by
  have judged : attemptOnce rt fromisoformat tenantId actionId attempt isFinal services =
      let verified := services.actions.verify rt attempt.verifyDraws actionId tenantId (some state) isFinal
      ⟨⟨verified.state, (ingestVerificationRead rt fromisoformat services.world tenantId attempt).state⟩,
        verified.result⟩ := by
    unfold attemptOnce
    dsimp only
    rw [taken]
  dsimp only
  rw [judged]
  unfold ingestVerificationRead at taken ⊢
  cases read : attempt.observation rt fromisoformat with
  | error error =>
      rw [read] at taken
      cases taken
  | ok observation =>
      rw [read] at taken
      dsimp only at taken ⊢
      rw [roundClear_iff read taken]
      have kept := sound.kept.perform printable.toPlainTexts (.ingest attempt.ingestDraws tenantId
        (renamed observation attempt.nonce) "verification" "verified")
      rcases taken_persisted kept (ingest_answered taken) with ⟨persisted, owner⟩
      exact verify_judged printable sound stored waiting kept persisted owner attempt.verifyDraws isFinal

end Round

/-! ## The whole loop -/

/-- What a call leaves that ends with a decision: it is final, it is stored, and every round
before the last left a pending event. -/
structure PolledOut (before : Services) (tenantId actionId : Text) (verification : Verification)
    (decision : ActionDecision) : Prop where
  answered : verification.outcome.result = .ok decision
  final : terminal decision.status = true
  stored : Exists fun action : StoredAction =>
    verification.outcome.state.actions.getAction actionId tenantId = .ok action ∧
      action.decision = decision
  logged : Exists fun events : List ActionEventRecord =>
    verification.outcome.state.actions.eventsOf actionId = before.actions.eventsOf actionId ++ events ∧
      events.map ActionEventRecord.eventType =
        List.replicate (verification.made.length - 1) ActionStatus.verificationPending.value ++
          [decision.status.value]

section Loop

variable {rt : Runtime} {fromisoformat : Text -> Except PyError Timestamp} {services : Services}
variable {tenantId actionId : Text} {action : StoredAction} {attempt : Attempt} {rest : List Attempt}

/-- A call makes a round, and no more than it has inputs for. -/
theorem poll_length (tenantId actionId : Text) (attempt : Attempt) (rest : List Attempt)
    (services : Services) :
    1 ≤ (poll rt fromisoformat tenantId actionId attempt rest services).made.length ∧
      (poll rt fromisoformat tenantId actionId attempt rest services).made.length ≤ rest.length + 1 := by
  induction rest generalizing attempt services with
  | nil => exact ⟨le_rfl, le_rfl⟩
  | cons next rest ih =>
      rcases poll_step tenantId actionId attempt next rest services with ⟨stopped, _⟩ | ⟨continued, _, _⟩
      · rw [stopped]
        exact ⟨le_rfl, Nat.le_add_left 1 _⟩
      · rw [continued, List.length_cons, List.length_cons]
        exact ⟨Nat.le_add_left 1 _, Nat.succ_le_succ (ih _ _).2⟩

theorem waiting_of_pending {decision : ActionDecision} (pending : decision.status = .verificationPending) :
    ActionService.verifiable decision.status = true := by
  rw [pending]
  rfl

/-- A call that ends with its first round leaves what that round left. -/
theorem Judged.polledOut {isFinal : Bool} {verification : Verification} {decision : ActionDecision}
    (judged : Judged rt services tenantId actionId isFinal verification.outcome decision)
    (final : terminal decision.status = true) (sole : verification.made.length = 1) :
    PolledOut services tenantId actionId verification decision := by
  rcases judged.logged with ⟨event, type, events⟩
  refine ⟨judged.answered, final, judged.stored, [event], events, ?_⟩
  rw [sole]
  exact congrArg (fun text => [text]) type

/-- A pending round before the rounds of a call adds its event in front of theirs. -/
theorem PolledOut.continued {isFinal : Bool} {done : Outcome PyError Services ActionDecision}
    {decision last : ActionDecision} {verification : Verification} (made : Services × Attempt)
    (judged : Judged rt services tenantId actionId isFinal done decision)
    (waits : decision.status = .verificationPending)
    (polled : PolledOut done.state tenantId actionId verification last)
    (some_ : 1 ≤ verification.made.length) :
    PolledOut services tenantId actionId ⟨made :: verification.made, verification.outcome⟩ last := by
  rcases judged.logged with ⟨event, type, events⟩
  rcases polled.logged with ⟨later, logged, types⟩
  refine ⟨polled.answered, polled.final, polled.stored, event :: later, ?_, ?_⟩
  · rw [logged, events, List.append_assoc, List.singleton_append]
  · rw [List.map_cons, types, type, waits, List.length_cons, Nat.add_sub_cancel, ← List.cons_append,
      ← List.replicate_succ, Nat.sub_add_cancel some_]

/-- A call whose reads are all taken in ends with a final decision exactly when its rounds are
clear. -/
theorem poll_cases (printable : PrintableTexts rt) (sound : SoundServices rt services)
    (stored : services.actions.getAction actionId tenantId = .ok action)
    (waiting : ActionService.verifiable action.decision.status = true)
    (taken : forall made, made ∈ (poll rt fromisoformat tenantId actionId attempt rest services).made ->
      Exists fun state : OrderState =>
        (ingestVerificationRead rt fromisoformat made.1.world tenantId made.2).result = .ok state) :
    let polled := poll rt fromisoformat tenantId actionId attempt rest services
    ((forall made, made ∈ polled.made -> RoundClear rt fromisoformat tenantId made) ∧
      Exists fun decision : ActionDecision => PolledOut services tenantId actionId polled decision ∧
        SoundServices rt polled.outcome.state) ∨
    ((Exists fun made : Services × Attempt => made ∈ polled.made ∧
        ¬ RoundClear rt fromisoformat tenantId made) ∧
      Exists fun error : PyError => polled.outcome.result = .error error) := by
  induction rest generalizing attempt services action with
  | nil =>
      rcases taken _ (List.mem_singleton_self _) with ⟨state, read⟩
      rcases attemptOnce_cases printable sound stored waiting read true with
        ⟨clear, decision, judged⟩ | ⟨unclear, error, raised⟩
      · have final := judged.status.resolve_right
          (fun pending => absurd pending.1 Bool.true_eq_false_eq_False)
        exact Or.inl ⟨List.forall_mem_singleton.mpr clear, decision,
          Judged.polledOut judged final rfl, judged.sound⟩
      · exact Or.inr ⟨⟨_, List.mem_singleton_self _, unclear⟩, error, raised⟩
  | cons next rest ih =>
      have read : Exists fun state : OrderState => (ingestVerificationRead rt fromisoformat
          services.world tenantId attempt).result = .ok state := by
        rcases poll_step tenantId actionId attempt next rest services with
          ⟨stopped, _⟩ | ⟨continued, _, _⟩
        · exact taken (services, attempt) (by rw [stopped]; exact List.mem_singleton_self _)
        · exact taken (services, attempt) (by rw [continued]; exact List.mem_cons_self)
      rcases read with ⟨state, read⟩
      rcases attemptOnce_cases printable sound stored waiting read attempt.outOfTime with
        ⟨clear, decision, judged⟩ | ⟨unclear, error, raised⟩
      · rcases poll_step tenantId actionId attempt next rest services with
          ⟨stopped, ends⟩ | ⟨continued, early, other, answered, pending⟩
        · have final : terminal decision.status = true := by
            rcases ends decision judged.answered with final | late
            · exact final
            · exact judged.status.resolve_right (fun pending => absurd (late.symm.trans pending.1) nofun)
          dsimp only
          rw [stopped]
          exact Or.inl ⟨List.forall_mem_singleton.mpr clear, decision,
            Judged.polledOut judged final rfl, judged.sound⟩
        · cases judged.answered.symm.trans answered
          have waits := (judged.status.resolve_left (fun final =>
            absurd (final.symm.trans pending) Bool.true_eq_false_eq_False)).2
          rcases judged.stored with ⟨stored', held, same⟩
          rw [continued] at taken
          dsimp only
          rw [continued]
          rcases ih judged.sound held (by rw [same]; exact waiting_of_pending waits)
              (fun made member => taken made (List.mem_cons_of_mem _ member)) with
            ⟨clears, last, polled, sound'⟩ | ⟨⟨made, member, unclear⟩, error, raised⟩
          · exact Or.inl ⟨List.forall_mem_cons.mpr ⟨clear, clears⟩, last,
              polled.continued _ judged waits (poll_length tenantId actionId next rest _).1, sound'⟩
          · exact Or.inr ⟨⟨made, List.mem_cons_of_mem _ member, unclear⟩, error, raised⟩
      · have stopped : poll rt fromisoformat tenantId actionId attempt (next :: rest) services =
            ⟨[(services, attempt)],
              attemptOnce rt fromisoformat tenantId actionId attempt attempt.outOfTime services⟩ := by
          rcases poll_step tenantId actionId attempt next rest services with
            ⟨stopped, _⟩ | ⟨_, _, decision, answered, _⟩
          · exact stopped
          · cases raised.symm.trans answered
        dsimp only
        rw [stopped]
        exact Or.inr ⟨⟨_, List.mem_singleton_self _, unclear⟩, error, raised⟩

end Loop

end Worker
end RealityLayer
