import RealityLayer.Api.Agreement
import RealityLayer.Api.Cluster
import RealityLayer.WorldState.Failure

namespace RealityLayer
namespace Api

open Foundation Python RealityGit WorldState WorldStateService Actions Connectors Worker

/-!
# Verifications that come too early

`ActionService.verify` is where the status of an action is checked, and it is the last
step of the endpoint.  By then the provider has been read and the read has been
ingested, under an identifier that is the same for every read of the order.  So a
verification that is refused for its status can still record the read.  When the status
is right later, the read of that time is taken for a repetition, and the action is judged
by the state that was held before.

An unknown action is refused before the provider is read.
-/

/-! ## The application in memory -/

/-- A request to the application without a database. The order's state is not part of it: the
application resolves it from World State. -/
inductive ApplicationRequest where
  | world (call : WorldCall)
  | propose (draws : Draws) (proposal : ActionProposal) (role tenantId : Text)
  | approve (draws : Draws) (actionId : Text) (approval : ApprovalRequest) (role tenantId : Text)
  | reject (draws : Draws) (actionId : Text) (rejection : ApprovalRequest) (tenantId : Text)
  | execute (draws : Draws) (actionId tenantId : Text) (cancelOrder : CancelOrderExecutor)
  | verify (tenantId actionId : Text) (attempt : Attempt)

/-- A host whose workspace mode is a setting too, because there is no workspace row to read
it from. -/
structure MemoryHost extends Host where
  workspaceMode : Text

section Requests

variable (host : MemoryHost)

/-- `resolve_order_state`. An unknown order is no error here; what comes of it is for the caller. -/
def resolveOrderState (world : WorldStateService) (tenantId orderId : Text) : Option OrderState :=
  world.states.get? (tenantId, "order", orderId)

/-- `has_conflict_for`, without a session. It asks the index of open conflicts. -/
def conflictInMemory (world : WorldStateService) (tenantId targetEntity : Text) : Bool :=
  let parts := partitionColon targetEntity
  if parts.2.codes.isEmpty then false
  else world.hasOpenConflicts tenantId parts.1 parts.2

/-- The arguments of `evaluate_policy`. -/
def MemoryHost.context (world : WorldStateService) (proposal : ActionProposal) (role tenantId : Text)
    (orderValue : Option PyFloat) : PolicyContext where
  role := role
  workspaceMode := host.workspaceMode
  orderValue := orderValue
  valueLimit := host.settings.writeValueLimit
  hasConflict := conflictInMemory world tenantId proposal.targetEntity

/-- The call that a request makes to the action service, unless it raises before.  A
verification makes its own. -/
def ApplicationRequest.call? (services : Services) : ApplicationRequest -> Option Call
  | .world _ => none
  | .propose draws proposal role tenantId =>
      (orderValueFor host.float services.world tenantId proposal).toOption.map (fun orderValue =>
        .propose draws proposal tenantId
          (host.context services.world proposal role tenantId orderValue))
  | .approve draws actionId approval role tenantId =>
      (services.actions.getAction actionId tenantId).toOption.map (fun action =>
        .approve draws actionId approval role tenantId
          (resolveOrderState services.world tenantId action.proposal.orderId))
  | .reject draws actionId rejection tenantId => some (.reject draws actionId rejection tenantId)
  | .execute draws actionId tenantId cancelOrder =>
      (services.actions.getAction actionId tenantId).toOption.map (fun action =>
        .execute draws actionId tenantId cancelOrder
          (resolveOrderState services.world tenantId action.proposal.orderId))
  | .verify _ _ _ => none

/-- `POST /v1/actions/{action_id}/verify` on this host. -/
def MemoryHost.verify (services : Services) (tenantId actionId : Text) (attempt : Attempt) :
    Outcome PyError Services ActionDecision :=
  verifyInMemory host.rt host.fromisoformat services tenantId actionId attempt

/-- What a request leaves. -/
def ApplicationRequest.perform (services : Services) (request : ApplicationRequest) : Services :=
  match request with
  | .world call => { services with world := services.world.perform host.rt call }
  | .verify tenantId actionId attempt => (host.verify services tenantId actionId attempt).state
  | other =>
      match other.call? host services with
      | some call => { services with actions := (services.actions.perform host.rt call).state }
      | none => services

/-- The identifiers that a request draws are new. -/
def ApplicationRequest.DrawsFresh (services : Services) (request : ApplicationRequest) : Prop :=
  match request with
  | .world call => services.world.DrawsFresh call
  | .verify _ _ attempt =>
      ActionService.newEventId attempt.verifyDraws 0 ∉ services.actions.eventIds ∧
        newCommitId attempt.ingestDraws ∉ services.world.commits.keys.map Prod.snd
  | other => forall call, call ∈ other.call? host services -> services.actions.DrawsFresh call

instance (services : Services) (request : ApplicationRequest) :
    Decidable (request.DrawsFresh host services) :=
  match request with
  | .world call => inferInstanceAs (Decidable (services.world.DrawsFresh call))
  | .verify _ _ _ => inferInstanceAs (Decidable (_ ∧ _))
  | .propose _ _ _ _ => Option.decidableForallMem _
  | .approve _ _ _ _ _ => Option.decidableForallMem _
  | .reject _ _ _ _ => Option.decidableForallMem _
  | .execute _ _ _ _ => Option.decidableForallMem _

/-- The application, from its start on. -/
def application : System Services ApplicationRequest where
  start := fun services => services = ⟨.fresh, .fresh⟩
  admits := fun services request => request.DrawsFresh host services
  next := fun services request => request.perform host services

instance (services : Services) (request : ApplicationRequest) :
    Decidable ((application host).admits services request) :=
  inferInstanceAs (Decidable (request.DrawsFresh host services))

/-- The services after some requests. -/
def MemoryHost.after (requests : List ApplicationRequest) : Services :=
  ((application host).trace ⟨.fresh, .fresh⟩ requests).2

end Requests

/-! ## A refusal that leaves nothing -/

/-- The action is unknown to the tenant, or it does not wait for a verification. The request
should then leave everything as it is. -/
def Unverifiable (services : Services) (tenantId actionId : Text) : Prop :=
  forall action, services.actions.getAction actionId tenantId = .ok action ->
    ActionService.verifiable action.decision.status = false

/-- A verification after some requests is refused, and every run goes on as if it had not
been sent. -/
structure RefusedCleanly (host : MemoryHost) (before : List ApplicationRequest)
    (tenantId actionId : Text) (attempt : Attempt) : Prop where
  answered : Exists fun error : PyError =>
    (host.verify (host.after before) tenantId actionId attempt).result = .error error
  unchanged : host.after (before ++ [.verify tenantId actionId attempt]) = host.after before
  later : forall (requests : List ApplicationRequest) (attempt' : Attempt),
    host.verify (host.after (before ++ .verify tenantId actionId attempt :: requests)) tenantId
        actionId attempt' =
      host.verify (host.after (before ++ requests)) tenantId actionId attempt'

section Refusing

variable {host : MemoryHost} {services : Services} {tenantId actionId : Text} {attempt : Attempt}

theorem after_append (host : MemoryHost) (before requests : List ApplicationRequest) :
    host.after (before ++ requests) = ((application host).trace (host.after before) requests).2 := by
  unfold MemoryHost.after
  generalize (⟨.fresh, .fresh⟩ : Services) = start
  induction before generalizing start with
  | nil => rfl
  | cons request rest ih => exact ih _

/-- Such a verification is never answered with a decision. -/
theorem unverifiable_refused (refused : Unverifiable services tenantId actionId) :
    Exists fun error : PyError =>
      (host.verify services tenantId actionId attempt).result = .error error := by
  cases stored : services.actions.getAction actionId tenantId with
  | error error =>
      refine ⟨error, ?_⟩
      unfold MemoryHost.verify verifyInMemory
      rw [stored]
      rfl
  | ok action =>
      cases read : attempt.observation host.rt host.fromisoformat with
      | error error =>
          refine ⟨error, ?_⟩
          unfold MemoryHost.verify verifyInMemory
          rw [stored, read]
          rfl
      | ok observation =>
          unfold MemoryHost.verify
          rw [verifyInMemory_judged stored read]
          unfold judged
          cases ingested : (services.world.ingest host.rt attempt.ingestDraws tenantId observation
              "verified_action" "verified").result with
          | error error => exact ⟨error, rfl⟩
          | ok state =>
              refine ⟨.valueError "Only provider-accepted actions can be verified.", ?_⟩
              dsimp only
              unfold ActionService.verify
              rw [stored]
              dsimp only
              rw [refused action stored]
              rfl

/-- Such a verification can only change World State, and that by its ingestion. The read is
ingested before the status is looked at. -/
theorem unverifiable_state {action : StoredAction} {observation : Observation}
    (stored : services.actions.getAction actionId tenantId = .ok action)
    (closed : ActionService.verifiable action.decision.status = false)
    (read : attempt.observation host.rt host.fromisoformat = .ok observation) :
    (host.verify services tenantId actionId attempt).state =
      ⟨services.actions, (services.world.ingest host.rt attempt.ingestDraws tenantId observation
        "verified_action" "verified").state⟩ := by
  unfold MemoryHost.verify
  rw [verifyInMemory_judged stored read]
  unfold judged
  cases (services.world.ingest host.rt attempt.ingestDraws tenantId observation
      "verified_action" "verified").result with
  | error error => rfl
  | ok state =>
      dsimp only
      unfold ActionService.verify
      rw [stored]
      dsimp only
      rw [closed]
      rfl

/-- A request that changes nothing can be left out of a run. -/
theorem after_skip {before : List ApplicationRequest} {request : ApplicationRequest}
    (unchanged : host.after (before ++ [request]) = host.after before)
    (requests : List ApplicationRequest) :
    host.after (before ++ request :: requests) = host.after (before ++ requests) := by
  rw [List.append_cons, after_append host (before ++ [request]), unchanged, after_append]

theorem after_verify (before : List ApplicationRequest) :
    host.after (before ++ [.verify tenantId actionId attempt]) =
      (host.verify (host.after before) tenantId actionId attempt).state := by
  rw [after_append]
  rfl

/-- A verification that is refused for the action leaves nothing behind exactly when the
tenant has no such action, or World State knows the identifier of what is read. -/
theorem refused_cleanly_iff (host : MemoryHost) (before : List ApplicationRequest)
    (tenantId actionId : Text) (attempt : Attempt)
    (refused : Unverifiable (host.after before) tenantId actionId) :
    RefusedCleanly host before tenantId actionId attempt <->
      (Exists fun error : PyError =>
        (host.after before).actions.getAction actionId tenantId = .error error) ∨
      forall observation, attempt.observation host.rt host.fromisoformat = .ok observation ->
        (host.after before).world.observations.contains (tenantId, observation.observationId) =
          true := by
  have clean_iff : RefusedCleanly host before tenantId actionId attempt <->
      (host.verify (host.after before) tenantId actionId attempt).state = host.after before := by
    rw [← after_verify]
    constructor
    · intro clean
      exact clean.unchanged
    · intro unchanged
      exact ⟨unverifiable_refused refused, unchanged,
        fun requests _ => by rw [after_skip unchanged requests]⟩
  rw [clean_iff]
  generalize host.after before = services at *
  cases stored : services.actions.getAction actionId tenantId with
  | error error =>
      refine ⟨fun _ => Or.inl ⟨error, rfl⟩, fun _ => ?_⟩
      unfold MemoryHost.verify verifyInMemory
      rw [stored]
      rfl
  | ok action =>
      cases read : attempt.observation host.rt host.fromisoformat with
      | error error =>
          refine ⟨fun _ => Or.inr (fun observation accepted => by cases accepted), fun _ => ?_⟩
          unfold MemoryHost.verify verifyInMemory
          rw [stored, read]
          rfl
      | ok observation =>
          rw [unverifiable_state stored (refused action stored) read]
          constructor
          · intro same
            refine Or.inr (fun other accepted => ?_)
            cases accepted
            by_contra new
            exact ingest_new_ne _ _ _ _ _ _ _ (Bool.eq_false_iff.mpr new)
              (congrArg Services.world same)
          · rintro (⟨error, absent⟩ | known)
            · cases absent
            · rw [ingest_known (known observation rfl)]

end Refusing

/-! ## A read before the approval -/

/-- A host that knows no float, with the default mode and no limit. -/
def memoryHost : MemoryHost where
  rt := .plain
  fromisoformat := noDatetime
  float := fun _ => .error .typeError
  settings := ⟨none⟩
  workspaceMode := "demo_proposal"

/-- The order as it was imported, under an identifier that the connector does not use. A
later read by the connector is therefore new. -/
def importedReading : Observation where
  observationId := "obs_import_1001"
  connector := "shopify"
  objectType := "order"
  objectId := "1001"
  observedAt := .utc 0
  payload := Dict.ofList [("id", .str "1001"), ("status", .str "open")]
  valid := by decide +kernel

/-- The order is observed, and its cancellation proposed. -/
def proposed (reading : Observation) : List ApplicationRequest :=
  [.world (.ingest (.numbered 6) "demo" reading "observation" "observed"),
    .propose (.numbered 1) sampleProposal "operations" "demo"]

/-- The cancellation is approved, and sent to the provider. -/
def executed : List ApplicationRequest :=
  [.approve (.numbered 3) sampleId sampleApproval "operations" "demo",
    .execute (.numbered 4) sampleId "demo" sampleExecutor]

/-- A verification before the approval that reads the order open. -/
def earlyAttempt : Attempt :=
  { attemptReading "open" with ingestDraws := .numbered 7, verifyDraws := .numbered 7 }

/-- A second verification before the approval finds the read known. -/
theorem refused_cleanly_sample :
    RefusedCleanly memoryHost (proposed importedReading ++ [.verify "demo" sampleId earlyAttempt]) "demo"
      sampleId (attemptReading "open") := by
  have sampled : ((memoryHost.after (proposed importedReading ++
        [.verify "demo" sampleId earlyAttempt])).actions.getAction sampleId "demo").toOption.map
          (fun action => ActionService.verifiable action.decision.status) = some false ∧
      (memoryHost.after (proposed importedReading ++
        [.verify "demo" sampleId earlyAttempt])).world.observations.contains
          ("demo", "obs_shopify_1001") = true := by
    decide +kernel
  refine (refused_cleanly_iff memoryHost _ "demo" sampleId _ ?_).mpr (Or.inr ?_)
  · intro action stored
    rw [stored] at sampled
    exact Option.some.inj sampled.1
  · intro observation read
    rw [attemptReading_observation (by decide +kernel) read]
    exact sampled.2

def tooEarly : PyError := .valueError "Only provider-accepted actions can be verified."

/-- The refused verification records what it read, and the one that the executed action
gets later is answered `state_diverged`, although it reads the order cancelled. -/
theorem refused_verification_remembered :
    (application memoryHost).AdmitsAll ⟨.fresh, .fresh⟩
        (proposed importedReading ++ .verify "demo" sampleId earlyAttempt :: executed) ∧
      (memoryHost.verify (memoryHost.after (proposed importedReading)) "demo" sampleId
        earlyAttempt).result = .error tooEarly ∧
      (memoryHost.after (proposed importedReading ++
        [.verify "demo" sampleId earlyAttempt])).world.observations.contains
          ("demo", "obs_shopify_1001") = true ∧
      (memoryHost.after (proposed importedReading)).world.observations.contains
        ("demo", "obs_shopify_1001") = false ∧
      (memoryHost.verify (memoryHost.after (proposed importedReading ++
        .verify "demo" sampleId earlyAttempt :: executed)) "demo" sampleId
          (attemptReading "cancelled")).result.toOption.map ActionDecision.status =
            some .stateDiverged ∧
      (memoryHost.verify (memoryHost.after (proposed importedReading ++ executed)) "demo" sampleId
        (attemptReading "cancelled")).result.toOption.map ActionDecision.status = some .verified := by
  decide +kernel

end Api
end RealityLayer
