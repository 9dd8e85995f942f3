import RealityLayer.Python.Runtime

namespace RealityLayer
namespace Actions

open Foundation Python

/-!
# The records of the action service

A proposal, like an observation, is validated when it is built, so its type
carries the proof that its fields were accepted.  Decisions, receipts and event
records are built by the service and are plain data.

Event payloads carry proposals, decisions and receipts as JSON, and restoring a
service from its events reads them back.  Each of the three has a dump and a
reader, and the round-trip theorems say that reading a dump gives the record
again.  Pydantic would also coerce some other JSON shapes; the readers accept
exactly the shapes that a dump produces, with missing keys given their defaults.
-/

/-! ## Enumerations -/

inductive ActionType where
  | cancelOrder
  | holdOrder
  | updateShippingAddress
deriving DecidableEq, Repr

def ActionType.value : ActionType -> Text
  | .cancelOrder => "cancel_order"
  | .holdOrder => "hold_order"
  | .updateShippingAddress => "update_shipping_address"

def ActionType.all : List ActionType := [.cancelOrder, .holdOrder, .updateShippingAddress]

def ActionType.ofValue? (text : Text) : Option ActionType :=
  ActionType.all.find? (fun kind => kind.value = text)

inductive ActionStatus where
  | proposed
  | approvalRequired
  | approved
  | rejected
  | denied
  | preconditionFailed
  | providerAccepted
  | verificationPending
  | verified
  | verificationFailed
  | stateDiverged
deriving DecidableEq, Repr

def ActionStatus.value : ActionStatus -> Text
  | .proposed => "proposed"
  | .approvalRequired => "approval_required"
  | .approved => "approved"
  | .rejected => "rejected"
  | .denied => "denied"
  | .preconditionFailed => "precondition_failed"
  | .providerAccepted => "provider_accepted"
  | .verificationPending => "verification_pending"
  | .verified => "verified"
  | .verificationFailed => "verification_failed"
  | .stateDiverged => "state_diverged"

def ActionStatus.all : List ActionStatus :=
  [.proposed, .approvalRequired, .approved, .rejected, .denied, .preconditionFailed,
    .providerAccepted, .verificationPending, .verified, .verificationFailed, .stateDiverged]

def ActionStatus.ofValue? (text : Text) : Option ActionStatus :=
  ActionStatus.all.find? (fun status => status.value = text)

@[simp] theorem ActionType.ofValue?_value (kind : ActionType) :
    ActionType.ofValue? kind.value = some kind := by
  cases kind <;> decide

@[simp] theorem ActionStatus.ofValue?_value (status : ActionStatus) :
    ActionStatus.ofValue? status.value = some status := by
  cases status <;> decide

/-! ## Proposals -/

structure ProposalFields where
  actionType : ActionType
  targetEntity : Text
  parameters : Dict Text Json
  reason : Text
  evidenceRefs : List Text
  idempotencyKey : Text
  expectedStateVersion : Int
  expectedAttributes : Dict Text Json
deriving DecidableEq

/-- The pattern `^order:[^:]+$`. The class excludes a colon and nothing else, so that a slash
or a line break is accepted. -/
def targetEntityPattern (text : Text) : Bool :=
  Text.startsWith "order:" text && 6 < text.length && (text.codes.drop 6).all (fun code => code ≠ 58)

def sensitiveNames : List Text :=
  ["access_token", "api_key", "authorization", "password", "secret", "token"]

mutual

/-- Some object inside the value has a credential-like key, at any depth. Keys are compared
in lower case, and strings that are values are never looked at. -/
def containsSensitiveKey : Json -> Bool
  | .dict entries => containsSensitiveEntry entries
  | .list items => containsSensitiveItem items
  | .null => false
  | .bool _ => false
  | .int _ => false
  | .float _ => false
  | .str _ => false

def containsSensitiveItem : List Json -> Bool
  | [] => false
  | item :: rest => containsSensitiveKey item || containsSensitiveItem rest

def containsSensitiveEntry : List (Text × Json) -> Bool
  | [] => false
  | (key, nested) :: rest =>
      decide (key.lower ∈ sensitiveNames) || containsSensitiveKey nested ||
        containsSensitiveEntry rest

end

/-- The field constraints of `ActionProposal` and its model validator, which
looks for credential-like keys in the parameters. -/
def ProposalFields.accepted (fields : ProposalFields) : Bool :=
  (fields.targetEntity.encodable && targetEntityPattern fields.targetEntity) &&
  (fields.reason.encodable && 1 ≤ fields.reason.length && fields.reason.length ≤ 2000) &&
  decide (fields.evidenceRefs.length ≤ 50) &&
  (fields.idempotencyKey.encodable && 8 ≤ fields.idempotencyKey.length &&
    fields.idempotencyKey.length ≤ 255) &&
  decide (1 ≤ fields.expectedStateVersion) &&
  !containsSensitiveKey (.dict fields.parameters.entries)

/-- A proposal the model accepts. Its constraints and the screen of its parameters hold of
every value of this type, so no operation checks them again. -/
structure ActionProposal extends ProposalFields where
  valid : toProposalFields.accepted = true
deriving DecidableEq

/-- `proposal.target_entity.removeprefix("order:")`. The pattern of the field has made sure
that the prefix is there. -/
def ActionProposal.orderId (proposal : ActionProposal) : Text :=
  Text.removePrefix "order:" proposal.targetEntity

/-- The fields of a proposal under their names, as they are. Their JSON-mode dump has the
same shape, with the free-form fields rewritten. -/
def ActionProposal.contents (proposal : ActionProposal) : List (Text × Json) := [
  ("action_type", .str proposal.actionType.value),
  ("target_entity", .str proposal.targetEntity),
  ("parameters", .dict proposal.parameters.entries),
  ("reason", .str proposal.reason),
  ("evidence_refs", .list (proposal.evidenceRefs.map .str)),
  ("idempotency_key", .str proposal.idempotencyKey),
  ("expected_state_version", .int proposal.expectedStateVersion),
  ("expected_attributes", .dict proposal.expectedAttributes.entries)]

/-- The value of a key, read by `reader`; a missing key has the default. Without a default
the field is required, and a missing key refuses the record. -/
def readOr {A : Type} (data : List (Text × Json)) (key : Text) (reader : Json -> Option A)
    (default : Option A) : Option A :=
  match Dict.lookup key data with
  | some value => reader value
  | none => default

/-- Every key of the data is one of the model's: `extra="forbid"`. A field that a later
version adds to a record makes this one refuse it. -/
def onlyKeys (names : List Text) (data : List (Text × Json)) : Bool :=
  data.all (fun entry => decide (entry.1 ∈ names))

def ProposalFields.read (data : List (Text × Json)) : Option ProposalFields := do
  guard (onlyKeys ["action_type", "target_entity", "parameters", "reason", "evidence_refs",
    "idempotency_key", "expected_state_version", "expected_attributes"] data)
  let actionType ← readOr data "action_type" (fun value => value.text?.bind ActionType.ofValue?) none
  let targetEntity ← readOr data "target_entity" Json.text? none
  let parameters ← readOr data "parameters" Json.object? (some Dict.empty)
  let reason ← readOr data "reason" Json.text? none
  let evidenceRefs ← readOr data "evidence_refs" Json.texts? (some [])
  let idempotencyKey ← readOr data "idempotency_key" Json.text? none
  let expectedStateVersion ← readOr data "expected_state_version" Json.int? none
  let expectedAttributes ← readOr data "expected_attributes" Json.object? (some Dict.empty)
  return { actionType, targetEntity, parameters, reason, evidenceRefs, idempotencyKey,
           expectedStateVersion, expectedAttributes }

/-- `ActionProposal.model_validate`. It checks the patterns, the bounds and the sensitive
keys again, also on what a policy event carries. -/
def ActionProposal.modelValidate (data : List (Text × Json)) : Except PyError ActionProposal :=
  match ProposalFields.read data with
  | none => .error (.validation "ActionProposal")
  | some fields =>
      if valid : fields.accepted = true then .ok ⟨fields, valid⟩
      else .error (.validation "ActionProposal")

mutual

theorem containsSensitiveKey_jsonMode : (value : Json) ->
    containsSensitiveKey value.jsonMode = containsSensitiveKey value
  | .dict entries => by
      rw [Json.jsonMode, containsSensitiveKey, containsSensitiveKey,
        containsSensitiveEntry_jsonMode entries]
  | .list items => by
      rw [Json.jsonMode, containsSensitiveKey, containsSensitiveKey,
        containsSensitiveItem_jsonMode items]
  | .float value => by
      rw [Json.jsonMode]
      split <;> rfl
  | .null => by rw [Json.jsonMode]
  | .bool _ => by rw [Json.jsonMode]
  | .int _ => by rw [Json.jsonMode]
  | .str _ => by rw [Json.jsonMode]

theorem containsSensitiveItem_jsonMode : (items : List Json) ->
    containsSensitiveItem (Json.jsonModeList items) = containsSensitiveItem items
  | [] => by rw [Json.jsonModeList]
  | item :: rest => by
      rw [Json.jsonModeList, containsSensitiveItem, containsSensitiveItem,
        containsSensitiveKey_jsonMode item, containsSensitiveItem_jsonMode rest]

theorem containsSensitiveEntry_jsonMode : (entries : List (Text × Json)) ->
    containsSensitiveEntry (Json.jsonModeEntries entries) = containsSensitiveEntry entries
  | [] => by rw [Json.jsonModeEntries]
  | (key, value) :: rest => by
      rw [Json.jsonModeEntries, containsSensitiveEntry, containsSensitiveEntry,
        containsSensitiveKey_jsonMode value, containsSensitiveEntry_jsonMode rest]

end

theorem containsSensitiveItem_eq_any (items : List Json) :
    containsSensitiveItem items = items.any containsSensitiveKey := by
  induction items with
  | nil => rw [containsSensitiveItem, List.any_nil]
  | cons item rest ih => rw [containsSensitiveItem, List.any_cons, ih]

theorem containsSensitiveEntry_eq_any (entries : List (Text × Json)) :
    containsSensitiveEntry entries =
      entries.any (fun entry => decide (entry.1.lower ∈ sensitiveNames) ||
        containsSensitiveKey entry.2) := by
  induction entries with
  | nil => rw [containsSensitiveEntry, List.any_nil]
  | cons entry rest ih => rw [containsSensitiveEntry, List.any_cons, ih]

/-- A replacement does not make a key a credential's name: those are plain ASCII. -/
theorem sensitive_of_lossy {key : Text} (sensitive : key.lossy.lower ∈ sensitiveNames) :
    key.lower ∈ sensitiveNames := by
  cases written : key.encodable with
  | true =>
      rw [Text.lossy_of_encodable written] at sensitive
      exact sensitive
  | false =>
      have replaced : 0xFFFD ∈ key.lossy.lower.codes :=
        List.mem_map.mpr ⟨0xFFFD, Text.mem_lossy_of_unencodable written, rfl⟩
      have plain : forall name, name ∈ sensitiveNames -> 0xFFFD ∉ name.codes := by
        decide +kernel
      exact absurd replaced (plain _ sensitive)

/-- The dump of a screened field passes the screen again, so that a restored proposal is
accepted.  The converse fails: of two keys that become equal, one value is lost. -/
theorem containsSensitiveEntry_jsonModeDict {dict : Dict Text Json}
    (screened : containsSensitiveEntry dict.entries = false) :
    containsSensitiveEntry (Json.jsonModeDict dict).entries = false := by
  rw [containsSensitiveEntry_eq_any, List.any_eq_false] at screened ⊢
  have kept : (Json.jsonModeDict dict).All (fun key value =>
      ¬ (decide (key.lower ∈ sensitiveNames) || containsSensitiveKey value) = true) := by
    apply Dict.All.ofList
    intro entry member
    rcases List.mem_map.mp member with ⟨source, held, rfl⟩
    intro sensitive
    apply screened source held
    rw [Bool.or_eq_true, decide_eq_true_eq] at sensitive ⊢
    rcases sensitive with named | nested
    · exact Or.inl (sensitive_of_lossy named)
    · exact Or.inr ((containsSensitiveKey_jsonMode source.2).symm.trans nested)
  intro entry member
  exact kept entry.1 entry.2 ((Dict.mem_entries_iff _ _ _).mp member)

/-- A proposal as its JSON dump keeps it.  Non-finite numbers become null, and lone
surrogates in the keys of its two free-form fields are replaced. -/
def ActionProposal.jsonMode (proposal : ActionProposal) : ActionProposal where
  toProposalFields := { proposal.toProposalFields with
    parameters := Json.jsonModeDict proposal.parameters
    expectedAttributes := Json.jsonModeDict proposal.expectedAttributes }
  valid := by
    have valid := proposal.valid
    unfold ProposalFields.accepted at valid ⊢
    simp only [Bool.and_eq_true, Bool.not_eq_true', containsSensitiveKey] at valid ⊢
    exact ⟨valid.1, containsSensitiveEntry_jsonModeDict valid.2⟩

/-- `proposal.model_dump(mode="json")`, of a proposal that can be dumped. Whether it can is
`dumps`; the callers ask for that first. -/
def ActionProposal.dump (proposal : ActionProposal) : List (Text × Json) := proposal.jsonMode.contents

/-- pydantic gets through the free-form fields of the proposal. The other fields are strings
and numbers, whose dump never fails. -/
def ActionProposal.dumps (rt : Runtime) (proposal : ActionProposal) : Bool :=
  proposal.parameters.values.all rt.dumps && proposal.expectedAttributes.values.all rt.dumps

/-- Every number in the proposal's free-form fields is finite, and their keys are valid
Unicode, so that the dump is the proposal itself. -/
def ActionProposal.unaltered (proposal : ActionProposal) : Bool :=
  Json.unalteredDict proposal.parameters && Json.unalteredDict proposal.expectedAttributes

theorem ActionProposal.jsonMode_of_unaltered (proposal : ActionProposal)
    (same : proposal.unaltered = true) : proposal.jsonMode = proposal := by
  rcases Bool.and_eq_true_iff.mp same with ⟨parametersKept, expectedKept⟩
  have parameters := Json.jsonModeDict_of_unaltered parametersKept
  have expected := Json.jsonModeDict_of_unaltered expectedKept
  cases proposal
  simp only [jsonMode] at parameters expected ⊢
  simp only [parameters, expected]

/-- A proposal is read back from its dump in its JSON form. -/
theorem ActionProposal.modelValidate_dump (proposal : ActionProposal) :
    ActionProposal.modelValidate proposal.dump = .ok proposal.jsonMode := by
  have fields : ProposalFields.read proposal.dump = some proposal.jsonMode.toProposalFields := by
    unfold ProposalFields.read ActionProposal.dump ActionProposal.contents
    simp [onlyKeys, readOr, Dict.lookup, Json.text?, Json.int?, guard, jsonMode]
  unfold ActionProposal.modelValidate
  rw [fields]
  simp only [proposal.jsonMode.valid, dite_true]

/-! ## Decisions, requests, receipts and events -/

structure ActionDecision where
  actionId : Text
  status : ActionStatus
  reason : Text
  matchedRule : Option Text := none
  policyVersion : Text
  requiredRole : Option Text := none
deriving DecidableEq

def ActionDecision.dump (decision : ActionDecision) : List (Text × Json) := [
  ("action_id", .str decision.actionId),
  ("status", .str decision.status.value),
  ("reason", .str decision.reason),
  ("matched_rule", .ofText? decision.matchedRule),
  ("policy_version", .str decision.policyVersion),
  ("required_role", .ofText? decision.requiredRole)]

def ActionDecision.read (data : List (Text × Json)) : Option ActionDecision := do
  guard (onlyKeys ["action_id", "status", "reason", "matched_rule", "policy_version",
    "required_role"] data)
  let actionId ← readOr data "action_id" Json.text? none
  let status ← readOr data "status" (fun value => value.text?.bind ActionStatus.ofValue?) none
  let reason ← readOr data "reason" Json.text? none
  let matchedRule ← readOr data "matched_rule" Json.optionalText? (some none)
  let policyVersion ← readOr data "policy_version" Json.text? none
  let requiredRole ← readOr data "required_role" Json.optionalText? (some none)
  return { actionId, status, reason, matchedRule, policyVersion, requiredRole }

/-- `ActionDecision.model_validate`. -/
def ActionDecision.modelValidate (data : List (Text × Json)) : Except PyError ActionDecision :=
  match ActionDecision.read data with
  | none => .error (.validation "ActionDecision")
  | some decision => .ok decision

theorem ActionDecision.modelValidate_dump (decision : ActionDecision) :
    ActionDecision.modelValidate decision.dump = .ok decision := by
  have fields : ActionDecision.read decision.dump = some decision := by
    unfold ActionDecision.read ActionDecision.dump
    simp [onlyKeys, readOr, Dict.lookup, Json.text?, guard]
  unfold ActionDecision.modelValidate
  rw [fields]

/-- A reason given by a person: between 1 and 2000 characters of valid text. Approvals and
rejections take the same body. -/
structure ApprovalRequest where
  reason : Text
  valid : (reason.encodable && 1 ≤ reason.length && reason.length ≤ 2000) = true
deriving DecidableEq

structure ExecutionReceipt where
  actionId : Text
  status : ActionStatus
  provider : Text
  providerRequestId : Text
  idempotencyKey : Text
deriving DecidableEq

def ExecutionReceipt.dump (receipt : ExecutionReceipt) : List (Text × Json) := [
  ("action_id", .str receipt.actionId),
  ("status", .str receipt.status.value),
  ("provider", .str receipt.provider),
  ("provider_request_id", .str receipt.providerRequestId),
  ("idempotency_key", .str receipt.idempotencyKey)]

def ExecutionReceipt.read (data : List (Text × Json)) : Option ExecutionReceipt := do
  guard (onlyKeys ["action_id", "status", "provider", "provider_request_id", "idempotency_key"] data)
  let actionId ← readOr data "action_id" Json.text? none
  let status ← readOr data "status" (fun value => value.text?.bind ActionStatus.ofValue?) none
  let provider ← readOr data "provider" Json.text? none
  let providerRequestId ← readOr data "provider_request_id" Json.text? none
  let idempotencyKey ← readOr data "idempotency_key" Json.text? none
  return { actionId, status, provider, providerRequestId, idempotencyKey }

/-- `ExecutionReceipt.model_validate`. -/
def ExecutionReceipt.modelValidate (data : List (Text × Json)) : Except PyError ExecutionReceipt :=
  match ExecutionReceipt.read data with
  | none => .error (.validation "ExecutionReceipt")
  | some receipt => .ok receipt

theorem ExecutionReceipt.modelValidate_dump (receipt : ExecutionReceipt) :
    ExecutionReceipt.modelValidate receipt.dump = .ok receipt := by
  have fields : ExecutionReceipt.read receipt.dump = some receipt := by
    unfold ExecutionReceipt.read ExecutionReceipt.dump
    simp [onlyKeys, readOr, Dict.lookup, Json.text?, guard]
  unfold ExecutionReceipt.modelValidate
  rw [fields]

structure ActionEventRecord where
  eventId : Text
  tenantId : Text
  actionId : Text
  eventType : Text
  actorRole : Text
  payload : Dict Text Json
  previousEventHash : Option Text
  eventHash : Text
deriving DecidableEq

end Actions
end RealityLayer
