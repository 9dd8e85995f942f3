import RealityLayer.Actions.Service
import RealityLayer.Connectors.Normalize
import RealityLayer.WorldState.Service

namespace RealityLayer
namespace Worker

open Foundation Python WorldState Actions Connectors

/-!
# The verifier's polling loop

`verify_action` reads the order from the provider, ingests the read as an observation
of its own, and hands the state that `ingest` answers with to the action service.  It
repeats this until the verdict is terminal or the budget is spent.  The services are in
memory and the normalizer is Shopify's.

Each attempt brings its own inputs: what `read_order` returned or raised, what was
drawn, and whether the deadline had passed.  The attempts are a nonempty list, because
the code makes at least one; the last of them is final by its number.
-/

/-- The inputs of one attempt: what the provider answers, the clock, what is drawn, and
whether the deadline has passed. -/
structure Attempt where
  read : Except PyError Payload
  now : Int
  nonce : Uuid
  ingestDraws : Draws
  verifyDraws : Draws
  outOfTime : Bool

/-- The two services an attempt works on. The worker has its own of each, apart from those of
the API. -/
structure Services where
  actions : ActionService
  world : WorldStateService

/-- `f"{observation.observation_id}_verify_{uuid4().hex[:12]}"`. It keeps a read from being
taken for one that was ingested before. -/
def verificationId (observationId : Text) (nonce : Uuid) : Text :=
  observationId ++ ("_verify_" ++ nonce.hex.take 12)

theorem nonce_tokenCode (nonce : Uuid) :
    ("_verify_" ++ nonce.hex.take 12).codes.all tokenCode = true := by
  rw [Text.codes_append, List.all_append]
  have literal : (Text.ofString "_verify_").codes.all tokenCode = true := by decide
  rw [literal, Bool.true_and, List.all_eq_true]
  intro code member
  have digit := List.all_eq_true.mp nonce.digits code (List.mem_of_mem_take member)
  simp only [Bool.or_eq_true, Bool.and_eq_true, decide_eq_true_eq] at digit
  simp only [tokenCode, Bool.or_eq_true, Bool.and_eq_true, decide_eq_true_eq]
  omega

theorem verificationId_pattern {observationId : Text} (nonce : Uuid)
    (pattern : observationIdPattern observationId = true) :
    observationIdPattern (verificationId observationId nonce) = true := by
  have codes : (verificationId observationId nonce).codes =
      observationId.codes ++ ("_verify_" ++ nonce.hex.take 12).codes := rfl
  unfold observationIdPattern at pattern ⊢
  rw [Bool.and_eq_true, Bool.and_eq_true, decide_eq_true_iff] at pattern ⊢
  rcases pattern with ⟨⟨starts, long⟩, tokens⟩
  unfold Text.startsWith Text.length at *
  rw [codes]
  refine ⟨⟨?_, ?_⟩, ?_⟩
  · exact List.isPrefixOf_iff_prefix.mpr
      ((List.isPrefixOf_iff_prefix.mp starts).trans (List.prefix_append _ _))
  · rw [List.length_append]
    omega
  · rw [List.drop_append_of_le_length (by omega), List.all_append, tokens, nonce_tokenCode]
    rfl

/-- `observation.model_copy` with a new identifier. The copy is not validated, but its
identifier meets the pattern. -/
def renamed (observation : Observation) (nonce : Uuid) : Observation where
  toObservationFields := { observation.toObservationFields with
    observationId := verificationId observation.observationId nonce }
  valid := by
    have valid := observation.valid
    simp only [ObservationFields.accepted, Bool.and_eq_true] at valid ⊢
    exact ⟨⟨⟨verificationId_pattern nonce valid.1.1.1, valid.1.1.2⟩, valid.1.2⟩, valid.2⟩

section Loop

variable (rt : Runtime) (fromisoformat : Text -> Except PyError Timestamp)

/-- The observation an attempt reads. It raises where the connector refuses the payload. -/
def Attempt.observation (attempt : Attempt) : Except PyError Observation := do
  let payload ← attempt.read
  shopifyNormalize rt fromisoformat attempt.now payload

/-- `_ingest_verification_read`, without a session. -/
def ingestVerificationRead (world : WorldStateService) (tenantId : Text) (attempt : Attempt) :
    Outcome PyError WorldStateService OrderState :=
  match attempt.observation rt fromisoformat with
  | .error error => .raises world error
  | .ok observation =>
      world.ingest rt attempt.ingestDraws tenantId (renamed observation attempt.nonce) "verification"
        "verified"

/-- One pass through the loop's body. The verdict is on the state that `ingest` answers,
whether or not it took the read in. -/
def attemptOnce (tenantId actionId : Text) (attempt : Attempt) (isFinal : Bool) (services : Services) :
    Outcome PyError Services ActionDecision :=
  let ingested := ingestVerificationRead rt fromisoformat services.world tenantId attempt
  match ingested.result with
  | .error error => .raises ⟨services.actions, ingested.state⟩ error
  | .ok state =>
      let verified := services.actions.verify rt attempt.verifyDraws actionId tenantId (some state)
        isFinal
      ⟨⟨verified.state, ingested.state⟩, verified.result⟩

/-- `TERMINAL_VERIFICATION_STATUSES`. The loop ends with one of these. -/
def terminal (status : ActionStatus) : Bool :=
  decide (status = .verified) || decide (status = .verificationFailed) ||
    decide (status = .stateDiverged)

/-- What a call of the loop did: the attempts it made, each with the services it
started from, and its outcome. -/
structure Verification where
  made : List (Services × Attempt)
  outcome : Outcome PyError Services ActionDecision

/-- The loop, from one attempt on. The last attempt of the list is the final one. -/
def poll (tenantId actionId : Text) : Attempt -> List Attempt -> Services -> Verification
  | attempt, [], services =>
      ⟨[(services, attempt)], attemptOnce rt fromisoformat tenantId actionId attempt true services⟩
  | attempt, next :: rest, services =>
      let done := attemptOnce rt fromisoformat tenantId actionId attempt attempt.outOfTime services
      match done.result with
      | .error _ => ⟨[(services, attempt)], done⟩
      | .ok decision =>
          if terminal decision.status || attempt.outOfTime then ⟨[(services, attempt)], done⟩
          else
            let later := poll tenantId actionId next rest done.state
            ⟨(services, attempt) :: later.made, later.outcome⟩

/-- `verify_action`. -/
def verifyAction (services : Services) (tenantId actionId : Text) (first : Attempt)
    (rest : List Attempt) : Verification :=
  match services.actions.getAction actionId tenantId with
  | .error error => ⟨[], .raises services error⟩
  | .ok _ => poll rt fromisoformat tenantId actionId first rest services

end Loop

end Worker
end RealityLayer
