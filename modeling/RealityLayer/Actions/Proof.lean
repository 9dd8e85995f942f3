import RealityLayer.Actions.Evidence
import RealityLayer.RealityGit.Acceptance

namespace RealityLayer
namespace Actions

open Foundation Python RealityGit WorldState

/-!
# The proof bundle

`proof` reads three things of an action: its current status, the newest event of each
type, and the list of verification events.  It raises where the source does: a policy
event whose decision cannot be read, an event type that is no status, and a fingerprint
that `hash_json` refuses.

`LifecycleWord` says which types the log of an action has, and `Testifies` what the events
of each type carry.  The three views agree because both hold in every run.
-/

/-! ## The records of a bundle -/

structure ActorIdentity where
  role : Text
  reason : Option Text
  eventId : Text
  eventHash : Text
deriving DecidableEq

structure PolicyEvidence where
  status : ActionStatus
  matchedRule : Option Text
  reason : Text
  policyVersion : Text
  requiredRole : Option Text
deriving DecidableEq

structure ProviderEvidence where
  provider : Text
  providerRequestId : Text
  requestFingerprint : Text
  idempotencyKey : Text
  acceptedStatus : Text
deriving DecidableEq

structure VerificationEvidence where
  result : ActionStatus
  reason : Text
  observedStatus : Option Text
  attempts : Nat
  verificationCommitId : Option Text
deriving DecidableEq

structure ProjectionDelta where
  commitId : Text
  commitHash : Text
  previousHash : Option Text
  before : Dict Text Json
  after : Dict Text Json
  semanticDiff : Dict Text Json
deriving DecidableEq

structure HashChainLink where
  eventId : Text
  eventType : Text
  previousEventHash : Option Text
  eventHash : Text
deriving DecidableEq

structure ProofBundle where
  actionId : Text
  tenantId : Text
  status : ActionStatus
  assuranceLevel : Text
  proposal : ActionProposal
  proposer : Option ActorIdentity
  approver : Option ActorIdentity
  policy : Option PolicyEvidence
  idempotencyKey : Text
  provider : Option ProviderEvidence
  verification : Option VerificationEvidence
  projection : Option ProjectionDelta
  hashChain : List HashChainLink
  warnings : List Text
  events : List ActionEventRecord
  verificationCommitId : Option Text
deriving DecidableEq

def ActionEventRecord.link (event : ActionEventRecord) : HashChainLink where
  eventId := event.eventId
  eventType := event.eventType
  previousEventHash := event.previousEventHash
  eventHash := event.eventHash

def projectionOf (commit : CommitRecord) : ProjectionDelta where
  commitId := commit.commitId
  commitHash := commit.hash
  previousHash := commit.previousHash
  before := commit.before
  after := commit.after
  semanticDiff := commit.semanticDiff

/-! ## The parts of a bundle -/

/-- `latest_by_type.get(event_type)`. A later event of a type replaces the earlier one, as in
the dict comprehension of the source. -/
def latestByType (events : List ActionEventRecord) (eventType : Text) : Option ActionEventRecord :=
  (Dict.ofList (events.map (fun event => (event.eventType, event)))).get? eventType

/-- `str(payload.get(key, default))`. A value that is not a string is printed as Python
prints it, null included. -/
def payloadText (rt : Runtime) (payload : Dict Text Json) (key default : Text) : Text :=
  match payload.get? key with
  | none => default
  | some (.str text) => text
  | some other => rt.str other

/-- `_actor_from`. A reason that is not a string is left out and not printed, unlike those of
the evidence. -/
def actorFrom (event : ActionEventRecord) : ActorIdentity where
  role := event.actorRole
  reason := (event.payload.get? "reason").bind Json.text?
  eventId := event.eventId
  eventHash := event.eventHash

/-- `data[key]`. Restored decisions have been validated, but the proof reads the payload of
the event and not the restored decision. -/
def requiredField (data : List (Text × Json)) (key : Text) : Except PyError Json :=
  match Dict.lookup key data with
  | some value => .ok value
  | none => .error (.keyError key)

/-- `ActionStatus(value)`. A value that no member has raises, and the message prints it. -/
def statusFrom (rt : Runtime) (value : Json) : Except PyError ActionStatus :=
  match value.text?.bind ActionStatus.ofValue? with
  | some status => .ok status
  | none => .error (.valueError (rt.repr value ++ " is not a valid ActionStatus"))

/-- A field of `PolicyEvidence` as pydantic reads it. -/
def evidenceField {A : Type} (read : Option A) : Except PyError A :=
  match read with
  | some value => .ok value
  | none => .error (.validation "PolicyEvidence")

/-- `_policy_evidence` of a decision that is an object. The fields are read in the order of
the source, so that the first missing one names the error. -/
def policyEvidenceFrom (rt : Runtime) (decision : List (Text × Json)) :
    Except PyError PolicyEvidence := do
  let status <- (requiredField decision "status").bind (statusFrom rt)
  let reasonData <- requiredField decision "reason"
  let versionData <- requiredField decision "policy_version"
  let matchedRule <- evidenceField (readOr decision "matched_rule" Json.optionalText? (some none))
  let reason <- evidenceField reasonData.text?
  let policyVersion <- evidenceField versionData.text?
  let requiredRole <- evidenceField (readOr decision "required_role" Json.optionalText? (some none))
  return { status, matchedRule, reason, policyVersion, requiredRole }

/-- `_policy_evidence`. An event whose decision is no object gives no evidence, where
`restore` would have refused it. -/
def policyEvidence (rt : Runtime) (event : Option ActionEventRecord) :
    Except PyError (Option PolicyEvidence) :=
  match event.bind (fun event => (event.payload.get? "decision").bind Json.entries?) with
  | none => .ok none
  | some decision => (policyEvidenceFrom rt decision).map some

/-- The record whose hash fingerprints a request. It holds the parameters as they were
proposed, before any dump. -/
def requestDocument (proposal : ActionProposal) : Json :=
  .dict [
    ("action_type", .str proposal.actionType.value),
    ("target_entity", .str proposal.targetEntity),
    ("idempotency_key", .str proposal.idempotencyKey),
    ("parameters", .dict proposal.parameters.entries)]

/-- `_provider_evidence`. The fingerprint is made again for each proof, so that a proof
raises where the parameters cannot be hashed. -/
def providerEvidence (rt : Runtime) (proposal : ActionProposal) (event : Option ActionEventRecord) :
    Except PyError (Option ProviderEvidence) :=
  match event with
  | none => .ok none
  | some event =>
      match hashJson rt (requestDocument proposal) with
      | .error cause => .error (.hashing cause)
      | .ok fingerprint => .ok (some {
          provider := payloadText rt event.payload "provider" ""
          providerRequestId := payloadText rt event.payload "provider_request_id" ""
          requestFingerprint := fingerprint
          idempotencyKey := proposal.idempotencyKey
          acceptedStatus := payloadText rt event.payload "status" "" })

/-- `_VERIFICATION_EVENT_TYPES`. A pending attempt counts as one, although it concludes nothing. -/
def verificationEventTypes : List Text :=
  ["verified", "verification_failed", "state_diverged", "verification_pending"]

def ActionEventRecord.isVerification (event : ActionEventRecord) : Bool :=
  decide (event.eventType ∈ verificationEventTypes)

def ActionEventRecord.isTerminal (event : ActionEventRecord) : Bool :=
  event.isVerification && decide (event.eventType ≠ "verification_pending")

/-- The verification that an event reports, after a number of attempts. An observed status
that is not a string is left out. -/
def reportedBy (rt : Runtime) (attempts : Nat) (event : ActionEventRecord) :
    Except PyError VerificationEvidence :=
  (statusFrom rt (.str event.eventType)).map (fun result => {
    result
    reason := payloadText rt event.payload "reason" ""
    observedStatus := (event.payload.get? "observed_status").bind Json.text?
    attempts
    verificationCommitId := (event.payload.get? "commit_id").bind Json.text? })

/-- `_verification_evidence`. The last conclusive attempt is reported, or the last pending
one where none has concluded. -/
def verificationEvidence (rt : Runtime) (events : List ActionEventRecord) :
    Except PyError (Option VerificationEvidence) :=
  let attempts := events.filter ActionEventRecord.isVerification
  let terminal := attempts.filter ActionEventRecord.isTerminal
  match terminal.getLast?.or attempts.getLast? with
  | none => .ok none
  | some last => (reportedBy rt attempts.length last).map some

def assuranceLevel (status : ActionStatus) (provider : Option ProviderEvidence) : Text :=
  if status = .verified then "verified"
  else if provider.isSome then "accepted"
  else "observed"

def sameRoleWarning (role : Text) : Text :=
  "Same role (" ++ role ++ ") proposed and approved this action " ++
    "(demo-mode separation-of-duties exception)."

def unreachedWarning (status : ActionStatus) : Text :=
  "Action did not reach 'verified'; current status is '" ++ status.value ++ "'."

def preconditionWarning (rt : Runtime) (event : ActionEventRecord) : Text :=
  "A precondition failed at " ++ payloadText rt event.payload "stage" "lifecycle" ++ ": " ++
    payloadText rt event.payload "reason" "unspecified"

/-- The role of two actors, when it is the same. The bundle warns of it and is given all the
same. -/
def sharedRole (proposer approver : Option ActorIdentity) : Option Text :=
  match proposer, approver with
  | some proposer, some approver =>
      if proposer.role = approver.role then some proposer.role else none
  | _, _ => none

def proofWarnings (rt : Runtime) (status : ActionStatus) (proposer approver : Option ActorIdentity)
    (precondition : Option ActionEventRecord) : List Text :=
  ((sharedRole proposer approver).map sameRoleWarning).toList ++
    (if status = .verified then [] else [unreachedWarning status]) ++
      (precondition.map (preconditionWarning rt)).toList

def proposerOf (events : List ActionEventRecord) : Option ActorIdentity :=
  (latestByType events "policy_evaluated").map actorFrom

def approverOf (events : List ActionEventRecord) : Option ActorIdentity :=
  ((latestByType events "approved").or (latestByType events "rejected")).map actorFrom

/-- The bundle that `proof` puts together. Its status is that of the stored action, and
everything else comes from the events and the commit. -/
def proofBundle (rt : Runtime) (actionId tenantId : Text) (action : StoredAction)
    (events : List ActionEventRecord) (commit : Option CommitRecord) (policy : Option PolicyEvidence)
    (provider : Option ProviderEvidence) (verification : Option VerificationEvidence) :
    ProofBundle where
  actionId := actionId
  tenantId := tenantId
  status := action.decision.status
  assuranceLevel := assuranceLevel action.decision.status provider
  proposal := action.proposal
  proposer := proposerOf events
  approver := approverOf events
  policy := policy
  idempotencyKey := action.proposal.idempotencyKey
  provider := provider
  verification := verification
  projection := commit.map projectionOf
  hashChain := events.map ActionEventRecord.link
  warnings := proofWarnings rt action.decision.status (proposerOf events) (approverOf events)
    (latestByType events "precondition_failed")
  events := events
  verificationCommitId := verification.bind VerificationEvidence.verificationCommitId

/-- `proof`. It raises for a foreign tenant as for an unknown action and, once the provider
has accepted, for parameters that cannot be hashed. -/
def ActionService.proof (rt : Runtime) (service : ActionService) (actionId tenantId : Text)
    (commit : Option CommitRecord) : Except PyError ProofBundle := do
  let action <- service.getAction actionId tenantId
  let events := service.eventsOf actionId
  let policy <- policyEvidence rt (latestByType events "policy_evaluated")
  let provider <- providerEvidence rt action.proposal (latestByType events "provider_accepted")
  let verification <- verificationEvidence rt events
  return proofBundle rt actionId tenantId action events commit policy provider verification

/-- A proof is assembled from parts that were read without an exception. -/
theorem proof_ok_iff (rt : Runtime) (service : ActionService) (actionId tenantId : Text)
    (commit : Option CommitRecord) (bundle : ProofBundle) :
    service.proof rt actionId tenantId commit = .ok bundle <->
      Exists fun action => Exists fun policy => Exists fun provider => Exists fun verification =>
        service.getAction actionId tenantId = .ok action ∧
        policyEvidence rt (latestByType (service.eventsOf actionId) "policy_evaluated") = .ok policy ∧
        providerEvidence rt action.proposal
          (latestByType (service.eventsOf actionId) "provider_accepted") = .ok provider ∧
        verificationEvidence rt (service.eventsOf actionId) = .ok verification ∧
        bundle = proofBundle rt actionId tenantId action (service.eventsOf actionId) commit policy
          provider verification := by
  unfold ActionService.proof
  constructor
  · intro returned
    rcases bind_ok returned with ⟨action, found, returned⟩
    rcases bind_ok returned with ⟨policy, evaluated, returned⟩
    rcases bind_ok returned with ⟨provider, accepted, returned⟩
    rcases bind_ok returned with ⟨verification, verified, returned⟩
    cases returned
    exact ⟨action, policy, provider, verification, found, evaluated, accepted, verified, rfl⟩
  · rintro ⟨action, policy, provider, verification, found, evaluated, accepted, verified, rfl⟩
    rw [found]
    dsimp only [bind, Except.bind]
    rw [evaluated, accepted]
    dsimp only
    rw [verified]
    rfl

/-! ## The newest event of a type -/

theorem latestByType_snoc (events : List ActionEventRecord) (event : ActionEventRecord)
    (eventType : Text) : latestByType (events ++ [event]) eventType =
      if eventType = event.eventType then some event else latestByType events eventType := by
  unfold latestByType
  rw [List.map_append, List.map_singleton, Dict.ofList_snoc, Dict.get?_set]

theorem latestByType_mem {events : List ActionEventRecord} {eventType : Text}
    {event : ActionEventRecord} (latest : latestByType events eventType = some event) :
    event ∈ events ∧ event.eventType = eventType := by
  induction events using List.reverseRec with
  | nil => cases latest
  | append_singleton front last ih =>
      rw [latestByType_snoc] at latest
      split at latest
      · rename_i same
        cases latest
        exact ⟨List.mem_append_right _ (List.mem_singleton_self _), same.symm⟩
      · rcases ih latest with ⟨member, kind⟩
        exact ⟨List.mem_append_left _ member, kind⟩

theorem latestByType_isSome (events : List ActionEventRecord) (eventType : Text) :
    (latestByType events eventType).isSome = true <->
      eventType ∈ events.map ActionEventRecord.eventType := by
  induction events using List.reverseRec with
  | nil => exact iff_of_false (fun found => by cases found) (fun member => by cases member)
  | append_singleton front last ih =>
      rw [latestByType_snoc, List.map_append, List.mem_append, List.map_singleton, List.mem_singleton]
      split
      · exact iff_of_true rfl (Or.inr ‹_›)
      · rw [ih, or_iff_left ‹_›]

/-- A type that only the first event has. -/
theorem latestByType_first (first : ActionEventRecord) (rest : List ActionEventRecord)
    (only : first.eventType ∉ rest.map ActionEventRecord.eventType) :
    latestByType (first :: rest) first.eventType = some first := by
  induction rest using List.reverseRec with
  | nil => exact (latestByType_snoc [] first _).trans (if_pos rfl)
  | append_singleton front last ih =>
      rw [List.map_append, List.mem_append, not_or] at only
      rw [← List.cons_append, latestByType_snoc, if_neg, ih only.1]
      intro same
      exact only.2 (List.mem_singleton.mpr same)

/-! ## The types of a log -/

/-- The types of the conclusive verification events. After one of them the action can no
longer be verified. -/
def conclusiveTypes : List Text := ["verified", "verification_failed", "state_diverged"]

namespace LifecycleWord

variable {initial status : ActionStatus} {types : List Text}

theorem mem_acceptedWord {refusals pending : Nat} {letter : Text}
    (member : letter ∈ acceptedWord refusals pending) :
    letter = "policy_evaluated" ∨ letter = "approved" ∨ letter = "precondition_failed" ∨
      letter = "provider_accepted" ∨ letter = "verification_pending" := by
  rcases List.mem_append.mp member with before | after
  · rcases List.mem_cons.mp before with same | before
    · exact Or.inl same
    · rcases List.mem_cons.mp before with same | before
      · exact Or.inr (Or.inl same)
      · exact Or.inr (Or.inr (Or.inl (List.mem_replicate.mp before).2))
  · rcases List.mem_cons.mp after with same | after
    · exact Or.inr (Or.inr (Or.inr (Or.inl same)))
    · exact Or.inr (Or.inr (Or.inr (Or.inr (List.mem_replicate.mp after).2)))

/-- Only the first letter is the policy's. -/
theorem opens (word : LifecycleWord initial types status) :
    Exists fun tail : List Text => types = ("policy_evaluated" : Text) :: tail ∧
      ("policy_evaluated" : Text) ∉ tail := by
  have refusals : forall count, ("policy_evaluated" : Text) ∉
      ("approved" : Text) :: List.replicate count "precondition_failed" := by
    intro count member
    rcases List.mem_cons.mp member with same | later
    · exact absurd same (by decide)
    · exact absurd (List.mem_replicate.mp later).2 (by decide)
  have accepted : forall count pending, ("policy_evaluated" : Text) ∉
      ("approved" : Text) :: (List.replicate count ("precondition_failed" : Text) ++
        ("provider_accepted" : Text) :: List.replicate pending "verification_pending") := by
    intro count pending member
    rw [← List.cons_append] at member
    rcases List.mem_append.mp member with before | after
    · exact refusals count before
    · rcases List.mem_cons.mp after with same | later
      · exact absurd same (by decide)
      · exact absurd (List.mem_replicate.mp later).2 (by decide)
  cases word with
  | evaluated known => exact ⟨[], rfl, List.not_mem_nil⟩
  | rejected waited => exact ⟨_, rfl, by decide⟩
  | denied waited => exact ⟨_, rfl, by decide⟩
  | preconditionFailed waited => exact ⟨_, rfl, by decide⟩
  | approved waited count => exact ⟨_, rfl, refusals count⟩
  | accepted waited count => exact ⟨_, rfl, accepted count 0⟩
  | pending waited count pending => exact ⟨_, rfl, accepted count (pending + 1)⟩
  | concluded waited count pending verdict final =>
      refine ⟨_, rfl, ?_⟩
      intro member
      rcases List.mem_append.mp member with before | after
      · exact accepted count pending before
      · have same := List.mem_singleton.mp after
        rcases final with rfl | rfl | rfl <;> exact absurd same (by decide)

/-- A conclusive letter is the last one and names the status. -/
theorem conclusions (word : LifecycleWord initial types status) :
    (status.Conclusive ∧ Exists fun front : List Text => types = front ++ [status.value] ∧
        forall letter, letter ∈ front -> letter ∉ conclusiveTypes) ∨
      ¬ status.Conclusive ∧ forall letter, letter ∈ types -> letter ∉ conclusiveTypes := by
  have accepted : forall refusals pending letter, letter ∈ acceptedWord refusals pending ->
      letter ∉ conclusiveTypes := by
    intro refusals pending letter member
    rcases mem_acceptedWord member with rfl | rfl | rfl | rfl | rfl <;> decide
  have unconcluded : forall {other : ActionStatus}, other ≠ .verified -> other ≠ .verificationFailed ->
      other ≠ .stateDiverged -> ¬ other.Conclusive := by
    intro other first second third final
    rcases final with same | same | same
    · exact first same
    · exact second same
    · exact third same
  cases word with
  | evaluated known =>
      refine Or.inr ⟨?_, by decide⟩
      rcases known with rfl | rfl <;> exact unconcluded (by decide) (by decide) (by decide)
  | rejected waited => exact Or.inr ⟨unconcluded (by decide) (by decide) (by decide), by decide⟩
  | denied waited => exact Or.inr ⟨unconcluded (by decide) (by decide) (by decide), by decide⟩
  | preconditionFailed waited =>
      exact Or.inr ⟨unconcluded (by decide) (by decide) (by decide), by decide⟩
  | approved waited refusals =>
      refine Or.inr ⟨unconcluded (by decide) (by decide) (by decide), ?_⟩
      intro letter member
      exact accepted refusals 0 letter (List.mem_append_left _ member)
  | accepted waited refusals =>
      exact Or.inr ⟨unconcluded (by decide) (by decide) (by decide), accepted refusals 0⟩
  | pending waited refusals pending =>
      exact Or.inr ⟨unconcluded (by decide) (by decide) (by decide), accepted refusals (pending + 1)⟩
  | concluded waited refusals pending verdict final =>
      exact Or.inl ⟨final, _, rfl, accepted refusals pending⟩

/-- What a verified action has been through. -/
theorem of_verified (word : LifecycleWord initial types .verified) :
    initial = .approvalRequired ∧ ("approved" : Text) ∈ types ∧ ("provider_accepted" : Text) ∈ types ∧
      ("verified" : Text) ∈ types := by
  cases word with
  | evaluated known => rcases known with same | same <;> cases same
  | concluded waited refusals pending verdict final =>
      refine ⟨waited, ?_, ?_, List.mem_append_right _ List.mem_cons_self⟩
      · exact List.mem_append_left _ (List.mem_append_left _
          (List.mem_cons_of_mem _ List.mem_cons_self))
      · exact List.mem_append_left _ (List.mem_append_right _ List.mem_cons_self)

end LifecycleWord

/-! ## The evidence of an action -/

section Parts

variable {rt : Runtime} {action : StoredAction} {event : ActionEventRecord}
variable {events : List ActionEventRecord}

theorem statusFrom_value (rt : Runtime) (status : ActionStatus) :
    statusFrom rt (.str status.value) = .ok status := by
  unfold statusFrom
  rw [Json.text?, Option.bind_some, ActionStatus.ofValue?_value]

/-- A dumped decision is read back. -/
theorem policyEvidenceFrom_dump (rt : Runtime) (decision : ActionDecision) :
    policyEvidenceFrom rt decision.dump = .ok {
      status := decision.status
      matchedRule := decision.matchedRule
      reason := decision.reason
      policyVersion := decision.policyVersion
      requiredRole := decision.requiredRole } := by
  have status := statusFrom_value rt decision.status
  simp [policyEvidenceFrom, ActionDecision.dump, requiredField, Dict.lookup, Except.bind, bind, status,
    evidenceField, readOr, Json.text?, pure, Except.pure]

theorem policyEvidence_of_decision {decision : ActionDecision}
    (payload : event.payload.get? "decision" = some (.dict decision.dump)) :
    policyEvidence rt (some event) = .ok (some {
      status := decision.status
      matchedRule := decision.matchedRule
      reason := decision.reason
      policyVersion := decision.policyVersion
      requiredRole := decision.requiredRole }) := by
  unfold policyEvidence
  rw [Option.bind_some, payload, Option.bind_some, Json.entries?]
  dsimp only
  rw [policyEvidenceFrom_dump]
  rfl

/-- An event of a verification type reports a verification. -/
theorem reportedBy_ok (rt : Runtime) (attempts : Nat) (verification : event.isVerification = true) :
    Exists fun report : VerificationEvidence => reportedBy rt attempts event = .ok report ∧
      report.attempts = attempts := by
  have kind : event.eventType ∈ verificationEventTypes := of_decide_eq_true verification
  have read : Exists fun status : ActionStatus => event.eventType = status.value := by
    unfold verificationEventTypes at kind
    simp only [List.mem_cons, List.not_mem_nil, or_false] at kind
    rcases kind with same | same | same | same
    · exact ⟨.verified, same⟩
    · exact ⟨.verificationFailed, same⟩
    · exact ⟨.stateDiverged, same⟩
    · exact ⟨.verificationPending, same⟩
  rcases read with ⟨status, same⟩
  unfold reportedBy
  rw [same, statusFrom_value]
  exact ⟨_, rfl, rfl⟩

/-- The number of verification events. -/
def verificationCount (events : List ActionEventRecord) : Nat :=
  (events.filter ActionEventRecord.isVerification).length

/-- Verification evidence is the report of one of the verification events, if there are any, and of
the last terminal one, if there is one. -/
theorem verificationEvidence_cases (rt : Runtime) (events : List ActionEventRecord) :
    (verificationEvidence rt events = .ok none ∧
        forall event, event ∈ events -> event.isVerification = false) ∨
      Exists fun report : VerificationEvidence => Exists fun last : ActionEventRecord =>
        verificationEvidence rt events = .ok (some report) ∧
        last ∈ events ∧ last.isVerification = true ∧
        reportedBy rt (verificationCount events) last = .ok report ∧
        report.attempts = verificationCount events ∧
        ((Exists fun event => event ∈ events ∧ event.isTerminal = true) -> last.isTerminal = true) := by
  unfold verificationEvidence
  dsimp only
  generalize chosen : ((events.filter ActionEventRecord.isVerification).filter
      ActionEventRecord.isTerminal).getLast?.or
    (events.filter ActionEventRecord.isVerification).getLast? = choice
  cases choice with
  | none =>
      refine Or.inl ⟨rfl, ?_⟩
      rcases Option.or_eq_none_iff.mp chosen with ⟨_, none⟩
      rw [List.getLast?_eq_none_iff, List.filter_eq_nil_iff] at none
      exact fun event member => Bool.eq_false_iff.mpr (none event member)
  | some last =>
      have source : last ∈ events ∧ last.isVerification = true ∧
          ((Exists fun event => event ∈ events ∧ event.isTerminal = true) ->
            last.isTerminal = true) := by
        rcases Option.or_eq_some_iff.mp chosen with terminal | ⟨none, newest⟩
        · rcases List.mem_filter.mp (List.mem_of_getLast? terminal) with ⟨inside, final⟩
          rcases List.mem_filter.mp inside with ⟨member, verification⟩
          exact ⟨member, verification, fun _ => final⟩
        · rcases List.mem_filter.mp (List.mem_of_getLast? newest) with ⟨member, verification⟩
          refine ⟨member, verification, ?_⟩
          rintro ⟨event, held, final⟩
          rw [List.getLast?_eq_none_iff, List.filter_eq_nil_iff] at none
          refine absurd final (none event (List.mem_filter.mpr ⟨held, ?_⟩))
          exact (Bool.and_eq_true_iff.mp final).1
      rcases source with ⟨member, verification, final⟩
      rcases reportedBy_ok rt (verificationCount events) verification with ⟨report, reported, attempts⟩
      refine Or.inr ⟨report, last, ?_, member, verification, reported, attempts, final⟩
      dsimp only
      unfold verificationCount at reported
      rw [reported]
      rfl

theorem isTerminal_iff (event : ActionEventRecord) :
    event.isTerminal = true <-> event.eventType ∈ conclusiveTypes := by
  unfold ActionEventRecord.isTerminal ActionEventRecord.isVerification verificationEventTypes
    conclusiveTypes
  simp only [Bool.and_eq_true, decide_eq_true_eq, List.mem_cons, List.not_mem_nil, or_false]
  constructor
  · rintro ⟨same | same | same | same, pending⟩
    · exact Or.inl same
    · exact Or.inr (Or.inl same)
    · exact Or.inr (Or.inr same)
    · exact absurd same pending
  · rintro (same | same | same)
    · exact ⟨Or.inl same, by rw [same]; decide⟩
    · exact ⟨Or.inr (Or.inl same), by rw [same]; decide⟩
    · exact ⟨Or.inr (Or.inr (Or.inl same)), by rw [same]; decide⟩

theorem ActionProposal.encodable (proposal : ActionProposal) :
    proposal.targetEntity.encodable = true ∧ proposal.idempotencyKey.encodable = true := by
  have valid := proposal.valid
  unfold ProposalFields.accepted at valid
  simp only [Bool.and_eq_true] at valid
  exact ⟨valid.1.1.1.1.1.1, valid.1.1.2.1.1⟩

/-- The request of a proposal has a fingerprint exactly when its parameters can be hashed.
Its other fields are strings that the model has accepted. -/
theorem hashable_requestDocument (rt : Runtime) (proposal : ActionProposal) :
    hashable rt (requestDocument proposal) = hashable rt (.dict proposal.parameters.entries) := by
  have kind : proposal.actionType.value.encodable = true := by
    cases proposal.actionType <;> exact Text.encodable_ofString _
  rcases proposal.encodable with ⟨target, key⟩
  unfold hashable requestDocument
  simp only [Json.finite, Json.finiteEntries, encodableJson, encodableEntries, kind, target, key,
    Text.encodable_ofString, Bool.true_and, Bool.and_true]

theorem providerEvidence_some (event : ActionEventRecord) (proposal : ActionProposal) :
    (Exists fun provider : ProviderEvidence =>
      providerEvidence rt proposal (some event) = .ok (some provider)) <->
      hashable rt (.dict proposal.parameters.entries) = true := by
  rw [← hashable_requestDocument]
  unfold providerEvidence
  cases hashed : hashJson rt (requestDocument proposal) with
  | ok fingerprint =>
      exact iff_of_true ⟨_, rfl⟩ ((hashJson_ok_iff _ _).mp hashed).1
  | error cause =>
      refine iff_of_false ?_ ?_
      · rintro ⟨provider, returned⟩
        cases returned
      · intro accepted
        rcases hashJson_ok_of_hashable accepted with ⟨fingerprint, hashed'⟩
        rw [hashed] at hashed'
        cases hashed'

end Parts

/-! ## A bundle that never overstates -/

/-- What the bundle of a verified action contains: the proposer, the approver whose role was
required, and evidence of the policy, the provider and the verification. -/
structure CompleteProof (action : StoredAction) (bundle : ProofBundle) : Prop where
  proposer : bundle.proposer.isSome = true
  approver : Exists fun event : ActionEventRecord => event ∈ bundle.events ∧
    event.eventType = "approved" ∧ bundle.approver = some (actorFrom event) ∧
    some event.actorRole = action.decision.requiredRole
  policy : Exists fun policy : PolicyEvidence => bundle.policy = some policy ∧
    policy.status = .approvalRequired ∧ policy.requiredRole = action.decision.requiredRole
  provider : bundle.provider.isSome = true
  verification : Exists fun report : VerificationEvidence => bundle.verification = some report ∧
    report.result = .verified ∧ report.observedStatus = some "cancelled"
  reached : forall warning, warning ∈ bundle.warnings ->
    Text.startsWith "Action did not reach" warning = false

/-- The bundle of an action states what its log and its status say. The assurance level is
derived from the two, so no field of the bundle says more than they do. -/
structure FaithfulProof (rt : Runtime) (log : List ActionEventRecord) (action : StoredAction)
    (bundle : ProofBundle) : Prop where
  status : bundle.status = action.decision.status
  verified : bundle.assuranceLevel = "verified" <-> action.decision.status = .verified
  accepted : bundle.assuranceLevel = "accepted" <->
    ("provider_accepted" : Text) ∈ log.map ActionEventRecord.eventType ∧
      action.decision.status ≠ .verified
  observed : bundle.assuranceLevel = "observed" <->
    ("provider_accepted" : Text) ∉ log.map ActionEventRecord.eventType
  complete : action.decision.status = .verified -> CompleteProof action bundle
  events : bundle.events = log
  hashChain : bundle.hashChain = log.map ActionEventRecord.link
  validated : validateEventChain rt log = .ok ()
  attempted : bundle.verification.isSome = true <->
    Exists fun event : ActionEventRecord => event ∈ log ∧ event.isVerification = true
  attempts : forall report, bundle.verification = some report ->
    report.attempts = verificationCount log
  terminal : forall report, bundle.verification = some report -> forall event, event ∈ log ->
    event.isTerminal = true -> reportedBy rt (verificationCount log) event = .ok report

section Faithful

variable {rt : Runtime} {service : ActionService} {actionId : Text} {action : StoredAction}

theorem verificationStatus_type (observed : Json) (isFinalAttempt : Bool) :
    (ActionService.verificationStatus observed isFinalAttempt).value ∈ verificationEventTypes := by
  unfold ActionService.verificationStatus
  split
  · decide
  · split
    · decide
    · split
      · decide
      · decide

theorem verificationVerdict_verified {state : Option OrderState} {isFinalAttempt : Bool}
    (verified : (ActionService.verificationStatus (ActionService.observedStatus state)
      isFinalAttempt).value = ActionStatus.verified.value) :
    (ActionService.verificationVerdict rt state isFinalAttempt).payload.get? "observed_status" =
      some (.str "cancelled") := by
  have observed : (ActionService.observedStatus state).pyEq (.str "cancelled") = true := by
    by_contra different
    unfold ActionService.verificationStatus at verified
    rw [if_neg different] at verified
    split at verified
    · exact absurd verified (by decide)
    · split at verified
      · exact absurd verified (by decide)
      · exact absurd verified (by decide)
  rw [Json.pyEq_str_iff] at observed
  unfold ActionService.verificationVerdict
  rw [observed]
  rfl

/-- A verified event records that the order was read as cancelled. -/
theorem Testifies.observed {event : ActionEventRecord} (testifies : Testifies rt action event)
    (kind : event.eventType = "verified") :
    event.payload.get? "observed_status" = some (.str "cancelled") := by
  cases testifies with
  | evaluation decision other actor required payload => exact absurd (kind.symm.trans other) (by decide)
  | approval reason other actor payload => exact absurd (kind.symm.trans other) (by decide)
  | refusal reason other payload =>
      rw [kind] at other
      exact absurd other (by decide)
  | ineligibility reason other payload => exact absurd (kind.symm.trans other) (by decide)
  | acceptance receipt other payload => exact absurd (kind.symm.trans other) (by decide)
  | verification state isFinalAttempt other payload =>
      rw [payload]
      exact verificationVerdict_verified (other.symm.trans kind)

/-- A policy event records a decision with the action's required role, and its proposal. -/
theorem Testifies.evaluated {event : ActionEventRecord} (testifies : Testifies rt action event)
    (kind : event.eventType = "policy_evaluated") :
    Exists fun decision : ActionDecision => decision.requiredRole = action.decision.requiredRole ∧
      event.payload = ActionService.policyPayload decision action.proposal := by
  cases testifies with
  | evaluation decision other actor required payload => exact ⟨decision, required, payload⟩
  | approval reason other actor payload => exact absurd (kind.symm.trans other) (by decide)
  | refusal reason other payload =>
      rw [kind] at other
      exact absurd other (by decide)
  | ineligibility reason other payload => exact absurd (kind.symm.trans other) (by decide)
  | acceptance receipt other payload => exact absurd (kind.symm.trans other) (by decide)
  | verification state isFinalAttempt other payload =>
      have listed := verificationStatus_type (ActionService.observedStatus state) isFinalAttempt
      rw [← other, kind] at listed
      exact absurd listed (by decide)

theorem ActionDecision.dump_injective {first second : ActionDecision}
    (same : first.dump = second.dump) : first = second := by
  have read := ActionDecision.modelValidate_dump first
  rw [same, ActionDecision.modelValidate_dump] at read
  exact (Except.ok.inj read).symm

/-- An approved event names the required role. -/
theorem Testifies.approver {event : ActionEventRecord} (testifies : Testifies rt action event)
    (kind : event.eventType = "approved") : some event.actorRole = action.decision.requiredRole := by
  cases testifies with
  | evaluation decision other actor required payload => exact absurd (kind.symm.trans other) (by decide)
  | approval reason other actor payload => exact actor
  | refusal reason other payload =>
      rw [kind] at other
      exact absurd other (by decide)
  | ineligibility reason other payload => exact absurd (kind.symm.trans other) (by decide)
  | acceptance receipt other payload => exact absurd (kind.symm.trans other) (by decide)
  | verification state isFinalAttempt other payload =>
      have listed := verificationStatus_type (ActionService.observedStatus state) isFinalAttempt
      rw [← other, kind] at listed
      exact absurd listed (by decide)

theorem assuranceLevel_verified (status : ActionStatus) (provider : Option ProviderEvidence) :
    assuranceLevel status provider = "verified" <-> status = .verified := by
  unfold assuranceLevel
  by_cases verified : status = .verified
  · rw [if_pos verified]
    exact iff_of_true rfl verified
  · rw [if_neg verified]
    refine iff_of_false ?_ verified
    cases provider with
    | none => decide
    | some provider =>
        rw [Option.isSome_some, if_pos rfl]
        decide

theorem assuranceLevel_accepted (status : ActionStatus) (provider : Option ProviderEvidence) :
    assuranceLevel status provider = "accepted" <->
      provider.isSome = true ∧ status ≠ .verified := by
  unfold assuranceLevel
  by_cases verified : status = .verified
  · rw [if_pos verified]
    exact iff_of_false (by decide) (fun both => both.2 verified)
  · rw [if_neg verified]
    cases provider with
    | none => exact iff_of_false (by decide) (fun both => by cases both.1)
    | some provider => exact iff_of_true rfl ⟨rfl, verified⟩

theorem assuranceLevel_observed (status : ActionStatus) (provider : Option ProviderEvidence) :
    assuranceLevel status provider = "observed" <->
      provider.isSome = false ∧ status ≠ .verified := by
  unfold assuranceLevel
  by_cases verified : status = .verified
  · rw [if_pos verified]
    exact iff_of_false (by decide) (fun both => both.2 verified)
  · rw [if_neg verified]
    cases provider with
    | none => exact iff_of_true rfl ⟨rfl, verified⟩
    | some provider =>
        rw [Option.isSome_some, if_pos rfl]
        exact iff_of_false (by decide) (fun both => by cases both.1)

/-- The warnings of a verified action do not speak of a missing verification. -/
theorem proofWarnings_verified (rt : Runtime) (proposer approver : Option ActorIdentity)
    (precondition : Option ActionEventRecord) (warning : Text)
    (member : warning ∈ proofWarnings rt .verified proposer approver precondition) :
    Text.startsWith "Action did not reach" warning = false := by
  unfold proofWarnings at member
  rw [if_pos rfl, List.append_nil] at member
  rcases List.mem_append.mp member with shared | failed
  · rcases Option.map_eq_some_iff.mp (Option.mem_toList.mp shared) with ⟨role, _, rfl⟩
    rfl
  · rcases Option.map_eq_some_iff.mp (Option.mem_toList.mp failed) with ⟨event, _, rfl⟩
    rfl

/-- Provider evidence that was read is present when its event is. -/
theorem providerEvidence_isSome {proposal : ActionProposal} {event : Option ActionEventRecord}
    {provider : Option ProviderEvidence} (read : providerEvidence rt proposal event = .ok provider) :
    provider.isSome = event.isSome := by
  unfold providerEvidence at read
  split at read
  · cases read
    rfl
  · split at read
    · cases read
    · cases read
      rfl

/-- The provider evidence of a log can be read exactly when it has no accepted write or the
parameters of the proposal can be hashed. -/
theorem providerEvidence_ok_iff (rt : Runtime) (proposal : ActionProposal)
    (log : List ActionEventRecord) :
    (Exists fun provider : Option ProviderEvidence =>
      providerEvidence rt proposal (latestByType log "provider_accepted") = .ok provider) <->
      (("provider_accepted" : Text) ∈ log.map ActionEventRecord.eventType ->
        hashable rt (.dict proposal.parameters.entries) = true) := by
  rw [← latestByType_isSome]
  cases latestByType log "provider_accepted" with
  | none =>
      refine iff_of_true ⟨none, rfl⟩ ?_
      intro absent
      cases absent
  | some event =>
      rw [Option.isSome_some, imp_iff_right rfl, ← providerEvidence_some event proposal]
      constructor
      · rintro ⟨provider, read⟩
        rcases Option.isSome_iff_exists.mp (providerEvidence_isSome read) with ⟨evidence, rfl⟩
        exact ⟨evidence, read⟩
      · rintro ⟨provider, read⟩
        exact ⟨some provider, read⟩

/-- The newest approved event of a log that testifies is the approver of its proof. -/
theorem approver_of_log {log : List ActionEventRecord}
    (testifies : forall event, event ∈ log -> Testifies rt action event)
    (approved : ("approved" : Text) ∈ log.map ActionEventRecord.eventType) :
    Exists fun event : ActionEventRecord => event ∈ log ∧ event.eventType = "approved" ∧
      approverOf log = some (actorFrom event) ∧ some event.actorRole = action.decision.requiredRole := by
  rcases Option.isSome_iff_exists.mp ((latestByType_isSome _ _).mpr approved) with ⟨event, latest⟩
  rcases latestByType_mem latest with ⟨member, kind⟩
  refine ⟨event, member, kind, ?_, (testifies event member).approver kind⟩
  unfold approverOf
  rw [latest]
  rfl

/-- The policy evidence of a log is the decision that opened it. -/
theorem policy_of_log {log : List ActionEventRecord} {initial status : ActionStatus}
    (decided : PolicyDecided log initial)
    (word : LifecycleWord initial (log.map ActionEventRecord.eventType) status)
    (testifies : forall event, event ∈ log -> Testifies rt action event) :
    (proposerOf log).isSome = true ∧ Exists fun policy : PolicyEvidence =>
      policyEvidence rt (latestByType log "policy_evaluated") = .ok (some policy) ∧
        policy.status = initial ∧ policy.requiredRole = action.decision.requiredRole := by
  rcases decided with ⟨first, rest, decision, rfl, payload, rfl⟩
  rcases word.opens with ⟨tail, types, only⟩
  rcases List.cons.inj types with ⟨kind, later⟩
  have latest := latestByType_first first rest (by rw [kind, later]; exact only)
  rw [kind] at latest
  constructor
  · unfold proposerOf
    rw [latest]
    rfl
  · rw [latest, policyEvidence_of_decision payload]
    refine ⟨_, rfl, rfl, ?_⟩
    rcases (testifies first List.mem_cons_self).evaluated kind with ⟨other, required, recorded⟩
    rw [recorded] at payload
    have same : other.dump = decision.dump := Json.dict.inj (Option.some.inj payload)
    rw [← ActionDecision.dump_injective same]
    exact required

variable (rt) in
/-- The verification evidence of a log reports its terminal event, if it has one. -/
theorem verification_of_log {log : List ActionEventRecord} {initial status : ActionStatus}
    (word : LifecycleWord initial (log.map ActionEventRecord.eventType) status) :
    Exists fun verification : Option VerificationEvidence =>
      verificationEvidence rt log = .ok verification ∧
      (verification.isSome = true <->
        Exists fun event : ActionEventRecord => event ∈ log ∧ event.isVerification = true) ∧
      (forall report, verification = some report -> report.attempts = verificationCount log) ∧
      forall report, verification = some report -> forall event, event ∈ log ->
        event.isTerminal = true -> reportedBy rt (verificationCount log) event = .ok report := by
  -- two terminal events are the same event, the last one of the log
  have unique : forall first second, first ∈ log -> second ∈ log -> first.isTerminal = true ->
      second.isTerminal = true -> first = second := by
    intro first second member member' terminal terminal'
    rw [isTerminal_iff] at terminal terminal'
    rcases word.conclusions with ⟨_, front, types, open_⟩ | ⟨_, open_⟩
    · rcases List.map_eq_append_iff.mp types with ⟨before, last, rfl, rfl, single⟩
      rcases List.map_eq_singleton_iff.mp single with ⟨newest, rfl, _⟩
      have only : forall event, event ∈ before ++ [newest] -> event.eventType ∈ conclusiveTypes ->
          event = newest := by
        intro event inside final
        rcases List.mem_append.mp inside with earlier | last
        · exact absurd final (open_ _ (List.mem_map_of_mem earlier))
        · exact List.mem_singleton.mp last
      exact (only first member terminal).trans (only second member' terminal').symm
    · exact absurd terminal (open_ _ (List.mem_map_of_mem member))
  rcases verificationEvidence_cases rt log with ⟨evidence, unverified⟩ |
    ⟨report, last, evidence, member, verification, reported, attempts, final⟩
  · refine ⟨_, evidence, iff_of_false ?_ ?_, ?_, ?_⟩
    · intro present
      cases present
    · rintro ⟨event, member, verification⟩
      rw [unverified event member] at verification
      cases verification
    · rintro report ⟨⟩
    · rintro report ⟨⟩
  · refine ⟨_, evidence, iff_of_true rfl ⟨last, member, verification⟩, ?_, ?_⟩
    · rintro _ ⟨⟩
      exact attempts
    · rintro _ ⟨⟩ event inside terminal
      rw [unique event last inside member terminal (final ⟨event, inside, terminal⟩)]
      exact reported

/-- The proof of an action whose log is on course and testifies. Only the request's
fingerprint may still keep it from being made. -/
theorem faithful_of_log {tenantId : Text} {commit : Option CommitRecord}
    {policy : Option PolicyEvidence} {provider : Option ProviderEvidence}
    {verification : Option VerificationEvidence} {initial : ActionStatus}
    {log : List ActionEventRecord}
    (decided : PolicyDecided log initial)
    (word : LifecycleWord initial (log.map ActionEventRecord.eventType) action.decision.status)
    (testifies : forall event, event ∈ log -> Testifies rt action event)
    (chained : validateEventChain rt log = .ok ())
    (evaluated : policyEvidence rt (latestByType log "policy_evaluated") = .ok policy)
    (read : providerEvidence rt action.proposal (latestByType log "provider_accepted") = .ok provider)
    (verified : verificationEvidence rt log = .ok verification) :
    FaithfulProof rt log action
      (proofBundle rt actionId tenantId action log commit policy provider verification) := by
  have accepted : provider.isSome = true <->
      ("provider_accepted" : Text) ∈ log.map ActionEventRecord.eventType := by
    rw [providerEvidence_isSome read]
    exact latestByType_isSome _ _
  rcases policy_of_log decided word testifies with ⟨proposer, held, evaluated', waited, role⟩
  rcases verification_of_log rt word with ⟨found, verified', attempted, attempts, terminal⟩
  rw [evaluated] at evaluated'
  cases evaluated'
  rw [verified] at verified'
  cases verified'
  refine ⟨rfl, assuranceLevel_verified _ _, ?_, ?_, ?_, rfl, rfl, chained, attempted, attempts,
    terminal⟩
  · exact (assuranceLevel_accepted _ _).trans (and_congr accepted Iff.rfl)
  · apply (assuranceLevel_observed _ _).trans
    rw [← accepted, ← Bool.not_eq_true, and_iff_left_iff_imp]
    intro absent reached
    rw [reached] at word
    exact absent (accepted.mpr word.of_verified.2.2.1)
  · intro reached
    rw [reached] at word
    rcases word.of_verified with ⟨waiting, approved, written, concluded⟩
    refine ⟨proposer, approver_of_log testifies approved, ⟨held, rfl, waited.trans waiting, role⟩,
      accepted.mpr written, ?_, ?_⟩
    · rcases List.mem_map.mp concluded with ⟨event, member, kind⟩
      have final : event.isTerminal = true := (isTerminal_iff event).mpr (by rw [kind]; decide)
      rcases Option.isSome_iff_exists.mp
        (attempted.mpr ⟨event, member, (Bool.and_eq_true_iff.mp final).1⟩) with ⟨report, same⟩
      have reported := terminal report same event member final
      have status := statusFrom_value rt .verified
      unfold reportedBy at reported
      rw [kind] at reported
      change (statusFrom rt (.str ActionStatus.verified.value)).map _ = _ at reported
      rw [status] at reported
      cases reported
      refine ⟨_, same, rfl, ?_⟩
      dsimp only
      rw [(testifies event member).observed kind]
      rfl
    · change forall warning, warning ∈ proofWarnings rt action.decision.status _ _ _ -> _
      rw [reached]
      exact proofWarnings_verified rt _ _ _

end Faithful

/-- In every run whose events can be hashed, the proof of a stored action is faithful exactly
when the action has no accepted write or the parameters of its proposal can be hashed. -/
theorem proof_faithful_iff {rt : Runtime} {history : List (Step ActionService Call)}
    {service : ActionService} (run : (hashedActionSystem rt).Run history service) {actionId : Text}
    {action : StoredAction} (stored : service.actions.get? actionId = some action)
    (commit : Option CommitRecord) :
    (Exists fun bundle : ProofBundle =>
      service.proof rt actionId action.tenantId commit = .ok bundle ∧
        FaithfulProof rt (service.eventsOf actionId) action bundle) <->
      (("provider_accepted" : Text) ∈ (service.eventsOf actionId).map ActionEventRecord.eventType ->
        hashable rt (.dict action.proposal.parameters.entries) = true) := by
  rcases LifecycleSound.of_run run actionId action stored with ⟨initial, decided, word⟩
  have testifies := Evidenced.of_run run.ofRestrict actionId action stored
  have chained := (validateEventChain_ok_iff rt _).mpr ((AuditSound.of_run run.ofRestrict).linked actionId)
  have found := (service.getAction_ok_iff actionId action.tenantId action).mpr ⟨stored, rfl⟩
  rw [← providerEvidence_ok_iff]
  constructor
  · rintro ⟨bundle, proved, faithful⟩
    rcases (proof_ok_iff _ _ _ _ _ _).mp proved with
        ⟨action', policy, provider, verification, found', evaluated, accepted, verified, rfl⟩
    rw [found] at found'
    cases found'
    exact ⟨provider, accepted⟩
  · rintro ⟨provider, accepted⟩
    rcases policy_of_log decided word testifies with ⟨_, policy, evaluated, _⟩
    rcases verification_of_log rt word with ⟨verification, verified, _⟩
    refine ⟨_, (proof_ok_iff _ _ _ _ _ _).mpr
      ⟨action, _, provider, verification, found, evaluated, accepted, verified, rfl⟩, ?_⟩
    exact faithful_of_log decided word testifies chained evaluated accepted verified

/-- The verified cancellation of the sample run has a faithful proof. -/
theorem proof_faithful_sample :
    Exists fun action => (sampleService sampleCalls).actions.get? sampleId = some action ∧
      action.decision.status = .verified ∧
      Exists fun bundle : ProofBundle =>
        (sampleService sampleCalls).proof .plain sampleId action.tenantId none = .ok bundle ∧
          FaithfulProof .plain ((sampleService sampleCalls).eventsOf sampleId) action bundle := by
  have facts : ((sampleService sampleCalls).actions.get? sampleId).map (fun action =>
      (action.decision.status, hashable .plain (.dict action.proposal.parameters.entries))) =
        some (.verified, true) := by
    decide +kernel
  rcases Option.map_eq_some_iff.mp facts with ⟨action, stored, both⟩
  rcases Prod.mk.inj both with ⟨verified, accepted⟩
  have run := sample_run sampleCalls List.prefix_rfl
  exact ⟨action, stored, verified, (proof_faithful_iff run stored none).mpr (fun _ => accepted)⟩

/-- The sample proposal with a parameter that is not a number. -/
def unprintableProposal : ActionProposal where
  toProposalFields := { sampleProposal.toProposalFields with
    parameters := Dict.ofList [("refund", .float ⟨0x7ff8000000000000⟩)] }
  valid := by decide +kernel

def unprintableCalls : List Call :=
  [.propose (.numbered 1) unprintableProposal "demo" sampleContext, sampleApprove, sampleExecute,
    sampleVerify]

/-- The action is proposed, approved, executed and verified, and has no proof. A parameter
that is not a number is dumped as null for the event, and refused by the hash of the request. -/
theorem verified_without_proof :
    Exists fun history => Exists fun service => Exists fun action =>
      (hashedActionSystem .plain).Run history service ∧
      service.actions.get? sampleId = some action ∧ action.decision.status = .verified ∧
      service.proof .plain sampleId action.tenantId none = .error (.hashing .nonFiniteFloat) := by
  have facts : (hashedActionSystem .plain).AdmitsAll .fresh unprintableCalls ∧
      (((hashedActionSystem .plain).trace .fresh unprintableCalls).2.actions.get? sampleId).map
        (fun action => (action.decision.status, action.tenantId)) =
          some (ActionStatus.verified, ("demo" : Text)) ∧
      ((hashedActionSystem .plain).trace .fresh unprintableCalls).2.proof .plain sampleId "demo" none =
        .error (.hashing .nonFiniteFloat) := by
    decide +kernel
  rcases facts with ⟨admitted, held, raised⟩
  rcases Option.map_eq_some_iff.mp held with ⟨action, stored, both⟩
  rcases Prod.mk.inj both with ⟨verified, tenant⟩
  exact ⟨_, _, action, System.run_trace unprintableCalls rfl admitted, stored, verified, tenant ▸ raised⟩

end Actions
end RealityLayer
