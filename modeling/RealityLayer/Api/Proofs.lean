import RealityLayer.Actions.Proof
import RealityLayer.Actions.Provenance
import RealityLayer.Actions.Verifiers
import RealityLayer.Api.Application
import RealityLayer.WorldState.Clocks
import RealityLayer.WorldState.Entities
import RealityLayer.WorldState.Reads

namespace RealityLayer
namespace Api

open Foundation Python RealityGit WorldState WorldStateService Actions Connectors Worker

/-!
# The proofs that the application serves

A proof is put together from two services.  The action service has the events, and the
last conclusive verification among them names a commit.  The endpoint looks that commit up
in World State and adds what it changed.  A commit that is not found is left out without
an error, so a proof could say that an order was verified and show nothing for it.

It never does.  A verification is given a state that World State has just answered with,
and a state that World State holds is what its newest commit records.  Commits stay, and a
concluded action stays as it is.  So the proof of a concluded action shows the sealed
commit that its verification was judged by, with the status that was observed, and is the
same at any later time.
-/

/-! ## The endpoint -/

/-- The commit that a conclusive verification names. A verification that failed, and so read
no status, names none here. -/
def namedCommit? (event : ActionEventRecord) : Option Text :=
  if event.eventType ∈ (["verified", "state_diverged"] : List Text) then
    (event.payload.get? "commit_id").bind Json.text?
  else none

/-- The commit named last. The source goes through all events and keeps the last one. -/
def judgedCommit? (events : List ActionEventRecord) : Option Text :=
  events.foldl (fun commitId event => (namedCommit? event).or commitId) none

/-- `action_proof`, without a session. A named commit that World State does not have is left
out of the proof. -/
def actionProof (rt : Runtime) (services : Services) (actionId tenantId : Text) :
    Except PyError ProofBundle := do
  let events <- services.actions.listEvents actionId tenantId
  let commit := (judgedCommit? events).bind (fun commitId =>
    (services.world.getCommit tenantId commitId).toOption)
  services.actions.proof rt actionId tenantId commit

/-! ## Verifications and their commits -/

/-- The event names one of the commits, and that commit records the status that the event
says was observed. -/
structure GroundedIn (created : List CommitRecord) (event : ActionEventRecord) (commit : CommitRecord) :
    Prop where
  member : commit ∈ created
  owner : commit.tenantId = event.tenantId
  named : event.payload.get? "commit_id" = some (.str commit.commitId)
  observed : Exists fun observed => event.payload.get? "observed_status" = some observed ∧
    attributeValue (commit.after.get? "status") = observed.jsonMode

/-- Every verification in a log is grounded, and at most one of them is conclusive. A
grounded one names a commit that was made, with the status that it observed. -/
structure LogsGrounded (created : List CommitRecord) (service : ActionService) : Prop where
  grounded : forall actionId event, event ∈ service.eventsOf actionId -> event.isVerification = true ->
    Exists fun commit => GroundedIn created event commit
  sole : forall actionId first second, first ∈ service.eventsOf actionId ->
    second ∈ service.eventsOf actionId -> first.isTerminal = true -> second.isTerminal = true ->
      first = second

section Ingesting

variable {rt : Runtime} {world : WorldStateService} {draws : Draws} {tenantId : Text}
variable {observation : Observation} {cause assuranceLevel : Text} {state : OrderState}

/-- The state that an ingestion answers with is held after it. -/
theorem ingest_held
    (returned : (world.ingest rt draws tenantId observation cause assuranceLevel).result = .ok state) :
    (world.ingest rt draws tenantId observation cause assuranceLevel).state.states.get?
      (tenantId, observation.objectType, observation.objectId) = some state := by
  have effect := ingest_cases rt world draws tenantId observation cause assuranceLevel
  generalize world.ingest rt draws tenantId observation cause assuranceLevel = outcome
    at effect returned ⊢
  cases effect with
  | repeated held seen stored =>
      cases returned
      exact stored
  | raised error after states commits head => cases returned
  | unchanged incoming held after projected stored same states commits head =>
      cases returned
      rw [Outcome.returns_state, states]
      exact stored
  | committed incoming commit base previous projected stored states commits head continues named tenant =>
      cases returned
      exact Dict.get?_set_self _ _ _

end Ingesting

/-- The value that a commit records for an attribute is the held one. -/
theorem recorded_value {rt : Runtime} {history : List (Step WorldStateService WorldCall)}
    {world : WorldStateService} (run : (worldSystem rt).Run history world) {key : Text × Text × Text}
    {state : OrderState} (held : world.states.get? key = some state) :
    Exists fun commit => commit ∈ createdBy history ∧ commit.entityKey = key ∧
      commit.commitId = state.commitId ∧
      forall name, attributeValue (commit.after.get? name) =
        ((state.value? name).map Json.jsonMode).getD .null := by
  have recorded := (EntitiesSound.of_run run).recorded key
  rw [held] at recorded
  have contents := recorded.entityHistory.contents
  have named := recorded.entityHistory.commitId
  cases newest : (ofEntity key (createdBy history)).getLast? with
  | none =>
      rw [newest] at named
      cases named
  | some commit =>
      rw [newest] at contents named
      rcases List.mem_filter.mp (List.mem_of_getLast? newest) with ⟨member, about⟩
      refine ⟨commit, member, of_decide_eq_true about, Option.some.inj named, fun name => ?_⟩
      have after : commit.after = dumpAttributes rt state.attributes := Option.some.inj contents
      rw [after, attributeValue_dump]
      rfl

section Logging

variable {rt : Runtime} {service after : ActionService} {hashed : Prop} {call : Call}
variable {entry : Option ActionEventRecord}

/-- A log that has a conclusive event gets no other event. -/
theorem sole_step {first second : ActionEventRecord} {actionId : Text} (settled : LogsSettled service)
    (sole : forall first second, first ∈ service.eventsOf actionId ->
      second ∈ service.eventsOf actionId -> first.isTerminal = true -> second.isTerminal = true ->
        first = second)
    (effect : Effect rt service hashed call entry after) (fresh : service.DrawsFresh call)
    (member : first ∈ after.eventsOf actionId) (member' : second ∈ after.eventsOf actionId)
    (terminal : first.isTerminal = true) (terminal' : second.isTerminal = true) : first = second := by
  have closed : forall event, event ∈ service.eventsOf actionId -> event.isTerminal = true ->
      after.eventsOf actionId = service.eventsOf actionId := by
    intro event held final
    rcases settled.concluded actionId event held final with ⟨action, stored, ended, _⟩
    exact (effect.terminal fresh stored ended).2
  rcases (effect.grows.mem_iff actionId first).mp member with earlier | ⟨new, _⟩
  · rw [closed first earlier terminal] at member'
    exact sole first second earlier member' terminal terminal'
  · rcases (effect.grows.mem_iff actionId second).mp member' with earlier | ⟨new', _⟩
    · rw [closed second earlier terminal'] at member
      exact sole first second member earlier terminal terminal'
    · exact Option.some.inj (new.symm.trans new')

end Logging

section Runs

variable {host : MemoryHost} {history : List (Step Services ApplicationRequest)} {services : Services}

theorem GroundedIn.mono {created more : List CommitRecord} {event : ActionEventRecord}
    {commit : CommitRecord} (grounded : GroundedIn created event commit) :
    GroundedIn (created ++ more) event commit :=
  ⟨List.mem_append_left _ grounded.member, grounded.owner, grounded.named, grounded.observed⟩

/-- The commits that World State has made in a run of the application. -/
def commitsMade (host : MemoryHost) (history : List (Step Services ApplicationRequest)) :
    List CommitRecord :=
  createdBy ((worldPart host).steps history)

theorem commitsMade_snoc (host : MemoryHost) (history : List (Step Services ApplicationRequest))
    (last : Step Services ApplicationRequest) :
    Exists fun more => commitsMade host (history ++ [last]) = commitsMade host history ++ more := by
  unfold commitsMade
  rw [(worldPart host).steps_snoc]
  unfold createdBy System.logOf
  rw [List.flatMap_append]
  exact ⟨_, rfl⟩

/-- The event of a verification names the commit of the state that World State answered
with. -/
theorem verification_grounded {tenantId : Text} {state : OrderState} {key : Text × Text}
    (run : (application host).Run history services)
    (held : services.world.states.get? (tenantId, key.1, key.2) = some state) {isFinalAttempt : Bool}
    {event : ActionEventRecord} (owner : event.tenantId = tenantId)
    (payload : event.payload =
      (ActionService.verificationVerdict host.rt (some state) isFinalAttempt).payload) :
    Exists fun commit => GroundedIn (commitsMade host history) event commit := by
  rcases recorded_value ((worldPart host).run run) held with ⟨commit, member, about, named, values⟩
  refine ⟨commit, member, (congrArg Prod.fst about).trans owner.symm, ?_,
    ActionService.observedStatus (some state), ?_, ?_⟩
  · rw [payload, named]
    rfl
  · rw [payload]
    rfl
  · rw [values]
    unfold ActionService.observedStatus
    rw [Option.bind_some]
    cases state.value? "status" with
    | none => rfl
    | some value => rfl

/-- A request that verifies in the action service gives it the state that it leaves in World
State. -/
theorem verifies_of_call {request : ApplicationRequest} {draws : Draws} {actionId tenantId : Text}
    {state : Option OrderState} {isFinalAttempt : Bool}
    (called : request.actionCall? host services =
      some (.verify draws actionId tenantId state isFinalAttempt)) :
    Exists fun answered => Exists fun key : Text × Text => state = some answered ∧
      (request.perform host services).world.states.get? (tenantId, key.1, key.2) = some answered := by
  cases request with
  | world call => cases called
  | verify tenantId' actionId' attempt =>
      rcases Option.bind_eq_some_iff.mp called with ⟨observation, read, called⟩
      rcases Option.map_eq_some_iff.mp called with ⟨answered, returned, same⟩
      cases same
      have world := verify_world read
      refine ⟨answered, (observation.objectType, observation.objectId), rfl, ?_⟩
      unfold ApplicationRequest.perform
      dsimp only
      rw [world]
      exact ingest_held (ok_of_toOption returned)
  | propose draws' proposal role tenantId' =>
      rcases Option.map_eq_some_iff.mp called with ⟨orderValue, priced, other⟩
      cases other
  | approve draws' actionId' approval role tenantId' =>
      rcases Option.map_eq_some_iff.mp called with ⟨action, stored, other⟩
      cases other
  | reject draws' actionId' rejection tenantId' => cases called
  | execute draws' actionId' tenantId' cancelOrder =>
      rcases Option.map_eq_some_iff.mp called with ⟨action, stored, other⟩
      cases other

theorem LogsGrounded.of_run (run : (application host).Run history services) :
    LogsGrounded (commitsMade host history) services.actions := by
  induction run with
  | begin initial =>
      cases initial
      exact ⟨nofun, nofun⟩
  | @extend history services request earlier admitted grounded =>
      rcases commitsMade_snoc host history
        ⟨services, request, (application host).next services request⟩ with ⟨more, made⟩
      have kept : LogsGrounded (commitsMade host history ++ more) services.actions := by
        refine ⟨fun actionId event member verification => ?_, grounded.sole⟩
        rcases grounded.grounded actionId event member verification with ⟨commit, named⟩
        exact ⟨commit, named.mono⟩
      cases called : request.actionCall? host services with
      | none =>
          have stayed : ((application host).next services request).actions = services.actions :=
            (actionPart host).stays services request admitted called
          rw [made, stayed]
          exact kept
      | some call =>
          have fresh := actionCall_fresh admitted called
          have moved : ((application host).next services request).actions =
              (services.actions.perform host.rt call).state :=
            ((actionPart host).moves services request call admitted called).2
          rcases Actions.perform_effect host.rt services.actions call with ⟨entry, effect⟩
          have settled := LogsSettled.of_run ((actionPart host).run earlier)
          refine ⟨?_, ?_⟩
          · intro actionId event member verification
            rw [moved] at member
            rcases (effect.grows.mem_iff actionId event).mp member with old | ⟨rfl, names⟩
            · rw [made]
              exact kept.grounded actionId event old verification
            · rcases effect.verification_of_type verification with
                ⟨draws, target, state, isFinalAttempt, rfl, payload⟩
              rcases verifies_of_call called with ⟨answered, key, rfl, held⟩
              exact verification_grounded (.extend request earlier admitted) held rfl payload
          · intro actionId first second member member' terminal terminal'
            rw [moved] at member member'
            exact sole_step settled (grounded.sole actionId) effect fresh member member' terminal terminal'

end Runs

/-! ## What a served proof shows -/

theorem jsonMode_eq_str_iff (value : Json) (text : Text) :
    value.jsonMode = .str text <-> value = .str text := by
  cases value with
  | float number =>
      rw [Json.jsonMode]
      split
      · simp
      · simp
  | null => simp [Json.jsonMode]
  | bool value => simp [Json.jsonMode]
  | int value => simp [Json.jsonMode]
  | str other => rw [Json.jsonMode]
  | list items => simp [Json.jsonMode]
  | dict entries => simp [Json.jsonMode]

/-- A dump keeps texts, and makes none. -/
theorem jsonMode_text? (value : Json) : Json.text? value.jsonMode = Json.text? value := by
  cases read : Json.text? value with
  | some text =>
      cases value with
      | str other => exact read
      | null | bool value | int value | float number | list items | dict entries => cases read
  | none =>
      cases dumped : Json.text? value.jsonMode with
      | none => rfl
      | some text =>
          have same : value.jsonMode = .str text := by
            generalize value.jsonMode = image at dumped
            cases image with
            | str other => exact congrArg Json.str (Option.some.inj dumped)
            | null | bool value | int value | float number | list items | dict entries => cases dumped
          rw [(jsonMode_eq_str_iff value text).mp same] at read
          cases read

/-- The verification found the order in some status. One that failed has found none, and one
that waits may have. -/
def FindsStatus (result : ActionStatus) : Prop := result = .verified ∨ result = .stateDiverged

theorem judgedCommit?_eq (events : List ActionEventRecord) :
    judgedCommit? events = (events.filterMap namedCommit?).getLast? := by
  have general : forall start : Option Text,
      events.foldl (fun commitId event => (namedCommit? event).or commitId) start =
        (events.filterMap namedCommit?).getLast?.or start := by
    induction events with
    | nil => exact fun start => rfl
    | cons event rest ih =>
        intro start
        rw [List.foldl_cons, ih]
        cases named : namedCommit? event with
        | none => rw [List.filterMap_cons_none named, Option.none_or]
        | some commitId =>
            rw [List.filterMap_cons_some named, Option.some_or, List.getLast?_cons, Option.some_or]
            cases (rest.filterMap namedCommit?).getLast? with
            | none => rfl
            | some other => rfl
  unfold judgedCommit?
  rw [general, Option.or_none]

/-- An event that names a commit is a conclusive verification. -/
theorem terminal_of_named {event : ActionEventRecord} (named : (namedCommit? event).isSome = true) :
    event.isTerminal = true ∧ event.eventType ∈ (["verified", "state_diverged"] : List Text) := by
  unfold namedCommit? at named
  split at named
  · rename_i kind
    refine ⟨(isTerminal_iff event).mpr ?_, kind⟩
    simp only [List.mem_cons, List.not_mem_nil, or_false] at kind
    rcases kind with same | same
    · rw [same]; decide
    · rw [same]; decide
  · cases named

theorem judgedCommit?_none {events : List ActionEventRecord}
    (unnamed : forall event, event ∈ events -> namedCommit? event = none) : judgedCommit? events = none := by
  rw [judgedCommit?_eq, List.getLast?_eq_none_iff, List.filterMap_eq_nil_iff]
  exact unnamed

theorem judgedCommit?_sole {events : List ActionEventRecord} {last : ActionEventRecord} {commitId : Text}
    (member : last ∈ events) (named : namedCommit? last = some commitId)
    (sole : forall event, event ∈ events -> (namedCommit? event).isSome = true -> event = last) :
    judgedCommit? events = some commitId := by
  rw [judgedCommit?_eq]
  cases newest : (events.filterMap namedCommit?).getLast? with
  | none =>
      rw [List.getLast?_eq_none_iff, List.filterMap_eq_nil_iff] at newest
      exact absurd (named.symm.trans (newest last member)) (Option.some_ne_none _)
  | some other =>
      rcases List.mem_filterMap.mp (List.mem_of_getLast? newest) with ⟨event, inside, names⟩
      rw [sole event inside (by rw [names]; rfl)] at names
      exact names.symm.trans named

/-- A report has the result that its event is named after, and what the event says was
observed. -/
theorem reportedBy_result {rt : Runtime} {attempts : Nat} {event : ActionEventRecord}
    {report : VerificationEvidence} (reported : reportedBy rt attempts event = .ok report) :
    event.eventType = report.result.value ∧
      report.verificationCommitId = (event.payload.get? "commit_id").bind Json.text? ∧
      report.observedStatus = (event.payload.get? "observed_status").bind Json.text? := by
  unfold reportedBy at reported
  cases read : statusFrom rt (.str event.eventType) with
  | error error =>
      rw [read] at reported
      cases reported
  | ok status =>
      rw [read] at reported
      cases reported
      refine ⟨?_, rfl, rfl⟩
      unfold statusFrom at read
      rw [Json.text?, Option.bind_some] at read
      cases found : ActionStatus.ofValue? event.eventType with
      | none =>
          rw [found] at read
          cases read
      | some other =>
          rw [found] at read
          cases read
          have same := List.find?_some found
          exact (of_decide_eq_true same).symm

theorem findsStatus_iff {event : ActionEventRecord} {status : ActionStatus}
    (named : event.eventType = status.value) :
    event.eventType ∈ (["verified", "state_diverged"] : List Text) <-> FindsStatus status := by
  rw [named]
  unfold FindsStatus
  cases status <;> decide

/-- A verification is called verified exactly when it observed a cancelled order. -/
theorem verified_iff_observed {rt : Runtime} {action : StoredAction} {event : ActionEventRecord}
    {observed : Json} (testifies : Testifies rt action event) (verification : event.isVerification = true)
    (payload : event.payload.get? "observed_status" = some observed) :
    event.eventType = ActionStatus.verified.value <-> observed = .str "cancelled" := by
  have kind : event.eventType ∈ verificationEventTypes := of_decide_eq_true verification
  cases testifies with
  | verification state isFinalAttempt other recorded =>
      have same : observed = ActionService.observedStatus state := by
        rw [recorded] at payload
        exact (Option.some.inj payload).symm
      rw [other, same, ← Json.pyEq_str_iff]
      unfold ActionService.verificationStatus
      constructor
      · intro verified
        by_contra different
        rw [if_neg different] at verified
        split at verified
        · exact absurd verified (by decide)
        · split at verified
          · exact absurd verified (by decide)
          · exact absurd verified (by decide)
      · intro cancelled
        rw [if_pos cancelled]
  | evaluation decision other actor required recorded =>
      exact absurd (other ▸ kind) (by decide)
  | approval reason other actor recorded => exact absurd (other ▸ kind) (by decide)
  | refusal reason other recorded =>
      simp only [List.mem_cons, List.not_mem_nil, or_false] at other
      rcases other with other | other | other
      · exact absurd (other ▸ kind) (by decide)
      · exact absurd (other ▸ kind) (by decide)
      · exact absurd (other ▸ kind) (by decide)
  | ineligibility reason other recorded => exact absurd (other ▸ kind) (by decide)
  | acceptance receipt other recorded => exact absurd (other ▸ kind) (by decide)

/-- What a commit has to be, for a proof to show it with a report.  World State lists it, it
carries its own hash, and it records the status that the reported event says was observed.
The proof has the status of the report, and calls the action verified exactly when the
commit records the order as cancelled. -/
structure ShownCommit (rt : Runtime) (services : Services) (tenantId : Text) (bundle : ProofBundle)
    (report : VerificationEvidence) (commit : CommitRecord) : Prop where
  listed : Exists fun commits =>
    services.world.listCommits tenantId none = .ok commits ∧ commit ∈ commits
  sealed : SealedCommit rt commit
  named : bundle.verificationCommitId = some commit.commitId
  projected : bundle.projection = some (projectionOf commit)
  observed : Exists fun event => event ∈ bundle.events ∧ event.eventType = report.result.value ∧
    event.payload.get? "commit_id" = some (.str commit.commitId) ∧
    Exists fun observed => event.payload.get? "observed_status" = some observed ∧
      attributeValue (commit.after.get? "status") = observed.jsonMode
  reported : report.observedStatus = Json.text? (attributeValue (commit.after.get? "status"))
  result : report.result = bundle.status
  verified : bundle.status = .verified <-> attributeValue (commit.after.get? "status") = .str "cancelled"

/-- What a served proof shows of the verification that it reports. One that found no status
at all reports no order, and its proof shows no commit. -/
structure ProofGrounded (rt : Runtime) (services : Services) (tenantId : Text) (bundle : ProofBundle) :
    Prop where
  judged : forall report, bundle.verification = some report -> FindsStatus report.result ->
    Exists fun commit => ShownCommit rt services tenantId bundle report commit
  unjudged : (forall report, bundle.verification = some report -> ¬ FindsStatus report.result) ->
    bundle.projection = none

section Serving

variable {host : MemoryHost} {history : List (Step Services ApplicationRequest)} {services : Services}
variable {actionId tenantId : Text} {bundle : ProofBundle}

/-- A verification in a log names a commit that World State lists, and that records the
status which was observed. -/
theorem verification_commit (run : (application host).Run history services) {action : StoredAction}
    (stored : services.actions.getAction actionId tenantId = .ok action) {last : ActionEventRecord}
    (member : last ∈ services.actions.eventsOf actionId) (verification : last.isVerification = true) :
    Exists fun commit => Exists fun commits =>
      services.world.listCommits tenantId none = .ok commits ∧ commit ∈ commits ∧
      SealedCommit host.rt commit ∧ services.world.getCommit tenantId commit.commitId = .ok commit ∧
      last.payload.get? "commit_id" = some (.str commit.commitId) ∧
      (Exists fun observed => last.payload.get? "observed_status" = some observed ∧
        attributeValue (commit.after.get? "status") = observed.jsonMode) ∧
      (last.eventType = ActionStatus.verified.value <->
        attributeValue (commit.after.get? "status") = .str "cancelled") := by
  rcases (services.actions.getAction_ok_iff _ _ _).mp stored with ⟨held, owner⟩
  have world := (worldPart host).run run
  have part := (actionPart host).run run
  have sound := HistorySound.of_run world
  rcases (LogsGrounded.of_run run).grounded actionId last member verification with ⟨commit, grounded⟩
  rcases grounded.observed with ⟨observed, payload, recorded⟩
  have tenant : commit.tenantId = tenantId := by
    rcases (AuditSound.of_run part).owned actionId last member with ⟨action', held', owner'⟩
    cases held.symm.trans held'
    exact grounded.owner.trans (owner'.symm.trans owner)
  have listed : commit ∈ ofTenant tenantId (commitsMade host history) :=
    mem_ofTenant.mpr ⟨grounded.member, tenant⟩
  refine ⟨commit, _, sound.listCommits tenantId, listed,
    Linked.genuine_of_mem _ _ _ (sound.hashes tenantId) listed, ?_, grounded.named,
    ⟨observed, payload, recorded⟩, ?_⟩
  · unfold getCommit
    have found := sound.stored commit grounded.member
    rw [tenant] at found
    exact found ▸ rfl
  · rw [recorded, jsonMode_eq_str_iff]
    exact verified_iff_observed (Evidenced.of_run part actionId action held last member) verification
      payload

/-- The report of a log's conclusive verification has the status of the action. -/
theorem reported_status (run : (application host).Run history services) {action : StoredAction}
    (stored : services.actions.getAction actionId tenantId = .ok action) {last : ActionEventRecord}
    (member : last ∈ services.actions.eventsOf actionId) (terminal : last.isTerminal = true)
    {status : ActionStatus} (named : last.eventType = status.value) (finds : FindsStatus status) :
    status = action.decision.status := by
  rcases (services.actions.getAction_ok_iff _ _ _).mp stored with ⟨held, _⟩
  rcases (LogsSettled.of_run ((actionPart host).run run)).concluded actionId last member terminal with
    ⟨other, held', _, restored⟩
  cases held.symm.trans held'
  rw [named] at restored
  rcases finds with rfl | rfl
  · exact Option.some.inj restored
  · exact Option.some.inj restored

/-- In every run of the application, a served proof whose report found the order in some
status shows the sealed commit that the verification was judged by.  World State lists
that commit, it records the status that was observed, and it records the order as
cancelled exactly when the proof's own status is verified.  A proof without such a report
shows no commit. -/
theorem proof_grounded (host : MemoryHost) (run : (application host).Run history services)
    (served : actionProof host.rt services actionId tenantId = .ok bundle) :
    ProofGrounded host.rt services tenantId bundle := by
  rcases bind_ok served with ⟨events, listed, proved⟩
  rcases (proof_ok_iff _ _ _ _ _ _).mp proved with
    ⟨action, policy, provider, verification, stored, _, _, verified, rfl⟩
  have log : events = services.actions.eventsOf actionId := by
    unfold ActionService.listEvents at listed
    rw [stored] at listed
    cases listed
    rfl
  subst log
  rcases verificationEvidence_cases host.rt (services.actions.eventsOf actionId) with
    ⟨evidence, unverified⟩ | ⟨report, last, evidence, member, verification', reported, _, final⟩
  · cases evidence.symm.trans verified
    refine ⟨nofun, fun _ => ?_⟩
    rw [judgedCommit?_none (fun event inside => ?_)]
    · rfl
    · by_contra named
      have terminal := (terminal_of_named (Option.isSome_iff_ne_none.mpr named)).1
      rw [ActionEventRecord.isTerminal, unverified event inside] at terminal
      cases terminal
  · cases evidence.symm.trans verified
    rcases reportedBy_result reported with ⟨result, named, seen⟩
    -- Every event that names a commit is the reported one.
    have sole : forall event, event ∈ services.actions.eventsOf actionId ->
        (namedCommit? event).isSome = true -> event = last := by
      intro event inside names
      have terminal := (terminal_of_named names).1
      exact (LogsGrounded.of_run run).sole actionId event last inside member terminal
        (final ⟨event, inside, terminal⟩)
    refine ⟨?_, ?_⟩
    · rintro _ ⟨⟩ judged
      have kind := (findsStatus_iff result).mpr judged
      rcases verification_commit run stored member verification' with
        ⟨commit, commits, lists, inside, sealed, found, names, ⟨observed, saw, recorded⟩, cancelled⟩
      have carried : (last.payload.get? "commit_id").bind Json.text? = some commit.commitId := by
        rw [names]
        rfl
      have chosen : namedCommit? last = some commit.commitId := by
        unfold namedCommit?
        rw [if_pos kind, carried]
      have status := reported_status run stored member
        (terminal_of_named (Option.isSome_iff_exists.mpr ⟨_, chosen⟩)).1 result judged
      refine ⟨commit, {
        listed := ⟨commits, lists, inside⟩
        sealed := sealed
        named := named.trans carried
        projected := ?_
        observed := ⟨last, member, result, names, observed, saw, recorded⟩
        reported := ?_
        result := status
        verified := ?_ }⟩
      · rw [judgedCommit?_sole member chosen sole, Option.bind_some, found]
        rfl
      · rw [seen, saw, recorded, jsonMode_text?, Option.bind_some]
      · change action.decision.status = .verified <-> _
        rw [← cancelled, result, ← status]
        generalize report.result = status
        cases status <;> decide
    · intro unjudged
      rw [judgedCommit?_none (fun event inside => ?_)]
      · rfl
      · by_contra names
        have some_ := Option.isSome_iff_ne_none.mpr names
        have kind := (terminal_of_named some_).2
        rw [sole event inside some_] at kind
        exact unjudged report rfl ((findsStatus_iff result).mp kind)

/-- A served proof is a function of the action, its events, and the commit they name. So
whatever leaves these three alone leaves the proof. -/
theorem actionProof_congr {rt : Runtime} {before after : Services} {action : StoredAction}
    (stored : before.actions.getAction actionId tenantId = .ok action)
    (stored' : after.actions.getAction actionId tenantId = .ok action)
    (events : after.actions.eventsOf actionId = before.actions.eventsOf actionId)
    (commits : forall commitId, judgedCommit? (before.actions.eventsOf actionId) = some commitId ->
      after.world.getCommit tenantId commitId = before.world.getCommit tenantId commitId) :
    actionProof rt after actionId tenantId = actionProof rt before actionId tenantId := by
  unfold actionProof ActionService.listEvents ActionService.proof
  rw [stored, stored']
  dsimp only [Except.map, bind, Except.bind]
  rw [events]
  cases judged : judgedCommit? (before.actions.eventsOf actionId) with
  | none => rfl
  | some commitId => rw [Option.bind_some, Option.bind_some, commits commitId judged]

/-- A request keeps every commit. -/
theorem request_keeps {request : ApplicationRequest}
    (admitted : (application host).admits services request) {commitId : Text} {commit : CommitRecord}
    (found : services.world.getCommit tenantId commitId = .ok commit) :
    ((application host).next services request).world.getCommit tenantId commitId = .ok commit := by
  have held : services.world.commits.get? (tenantId, commitId) = some commit := by
    unfold getCommit at found
    split at found
    · rename_i stored
      cases found
      exact stored
    · cases found
  cases called : request.worldCall? host services with
  | none =>
      have stayed : ((application host).next services request).world = services.world :=
        (worldPart host).stays services request admitted called
      rw [stayed]
      exact found
  | some call =>
      have moved : ((application host).next services request).world =
          services.world.perform host.rt call :=
        ((worldPart host).moves services request call admitted called).2
      rcases perform_commits host.rt services.world call with ⟨entry, effect⟩
      have kept := effect.keeps (worldCall_fresh admitted called).absent held
      rw [moved, getCommit, kept]

/-- One more request leaves a concluded action and its proof as they are. Observations still
come in, but the named commit is never rewritten in memory. -/
theorem concluded_step (run : (application host).Run history services) {action : StoredAction}
    (stored : services.actions.getAction actionId tenantId = .ok action)
    (terminal : action.decision.status.Terminal) {request : ApplicationRequest}
    (admitted : (application host).admits services request) :
    ((application host).next services request).actions.getAction actionId tenantId = .ok action ∧
      actionProof host.rt ((application host).next services request) actionId tenantId =
        actionProof host.rt services actionId tenantId := by
  rcases (services.actions.getAction_ok_iff _ _ _).mp stored with ⟨held, owner⟩
  have kept : ((application host).next services request).actions.actions.get? actionId = some action ∧
      ((application host).next services request).actions.eventsOf actionId =
        services.actions.eventsOf actionId := by
    cases called : request.actionCall? host services with
    | none =>
        have stayed : ((application host).next services request).actions = services.actions :=
          (actionPart host).stays services request admitted called
        rw [stayed]
        exact ⟨held, rfl⟩
    | some call =>
        have moved : ((application host).next services request).actions =
            (services.actions.perform host.rt call).state :=
          ((actionPart host).moves services request call admitted called).2
        rcases Actions.perform_effect host.rt services.actions call with ⟨entry, effect⟩
        rw [moved]
        exact effect.terminal (actionCall_fresh admitted called) held terminal
  have stored' := (ActionService.getAction_ok_iff _ _ tenantId _).mpr ⟨kept.1, owner⟩
  refine ⟨stored', actionProof_congr stored stored' kept.2 ?_⟩
  intro commitId judged
  rw [judgedCommit?_eq] at judged
  rcases List.mem_filterMap.mp (List.mem_of_getLast? judged) with ⟨event, member, named⟩
  have conclusive := terminal_of_named (Option.isSome_iff_exists.mpr ⟨_, named⟩)
  rcases verification_commit run stored member (Bool.and_eq_true_iff.mp conclusive.1).1 with
    ⟨commit, commits, _, _, _, found, names, _, _⟩
  unfold namedCommit? at named
  rw [if_pos conclusive.2, names] at named
  cases named
  rw [found, request_keeps admitted found]

/-- The proof of an action in a terminal status never changes: whatever the application is
asked later, the endpoint answers the same. -/
theorem concluded_proof_permanent (host : MemoryHost) (run : (application host).Run history services)
    {action : StoredAction} (stored : services.actions.getAction actionId tenantId = .ok action)
    (terminal : action.decision.status.Terminal) (requests : List ApplicationRequest)
    (admitted : (application host).AdmitsAll services requests) :
    actionProof host.rt ((application host).trace services requests).2 actionId tenantId =
      actionProof host.rt services actionId tenantId := by
  induction requests generalizing history services with
  | nil => rfl
  | cons request rest ih =>
      rcases concluded_step run stored terminal admitted.1 with ⟨kept, same⟩
      rw [System.trace, ih (.extend request run admitted.1) kept admitted.2, same]

end Serving

/-- The sample cancellation, executed and verified. -/
def concluded : List ApplicationRequest :=
  proposed importedReading ++ executed ++ [.verify "demo" sampleId (attemptReading "cancelled")]

theorem concluded_run : Exists fun history =>
    (application memoryHost).Run history (memoryHost.after concluded) :=
  ⟨_, System.run_trace concluded rfl (by decide +kernel)⟩

/-- The proof of the sample cancellation reports its verification and shows a commit. -/
theorem proof_grounded_sample :
    Exists fun bundle => actionProof .plain (memoryHost.after concluded) sampleId "demo" = .ok bundle ∧
      bundle.status = .verified ∧
      bundle.verification.map VerificationEvidence.result = some .verified ∧
      bundle.projection.isSome = true ∧
      ProofGrounded .plain (memoryHost.after concluded) "demo" bundle := by
  rcases concluded_run with ⟨history, run⟩
  have sampled : (actionProof .plain (memoryHost.after concluded) sampleId "demo").toOption.map
      (fun bundle => (bundle.status, bundle.verification.map VerificationEvidence.result,
        bundle.projection.isSome)) = some (.verified, some ActionStatus.verified, true) := by
    decide +kernel
  rcases Option.map_eq_some_iff.mp sampled with ⟨bundle, served, both⟩
  rcases Prod.mk.inj both with ⟨status, both⟩
  rcases Prod.mk.inj both with ⟨verified, shown⟩
  exact ⟨bundle, ok_of_toOption served, status, verified, shown,
    proof_grounded memoryHost run (ok_of_toOption served)⟩

/-- The order is observed again after its cancellation was verified. -/
def laterReading : ApplicationRequest :=
  .world (.ingest (.numbered 20) "demo" openReading "observation" "observed")

theorem concluded_proof_permanent_sample :
    actionProof .plain ((application memoryHost).trace (memoryHost.after concluded) [laterReading]).2
        sampleId "demo" =
      actionProof .plain (memoryHost.after concluded) sampleId "demo" := by
  rcases concluded_run with ⟨history, run⟩
  have sampled : ((memoryHost.after concluded).actions.getAction sampleId "demo").toOption.map
      (fun action => action.decision.status) = some .verified ∧
        (application memoryHost).AdmitsAll (memoryHost.after concluded) [laterReading] := by
    decide +kernel
  rcases Option.map_eq_some_iff.mp sampled.1 with ⟨action, stored, verified⟩
  exact concluded_proof_permanent memoryHost run (ok_of_toOption stored)
    (Or.inr (Or.inr (Or.inr (Or.inl verified)))) [laterReading] sampled.2

end Api
end RealityLayer
