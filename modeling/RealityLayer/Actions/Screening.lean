import RealityLayer.Actions.Proof

namespace RealityLayer
namespace Actions

open Foundation Python RealityGit WorldState

/-!
# Credential-like fields in a proof

The model of a proposal screens its parameters for credential-like keys.  A proof carries the
whole proposal, and so does the policy event of its log.  `KeyWithin` says what it is for an
object at any depth to have a key; the screen decides it, and the expected attributes are
the one free-form field that is not screened.
-/

/-- Some object inside a value has a key. Lists are looked into, and texts are not: a key
name inside a text value is no key. -/
inductive KeyWithin : Json -> Text -> Prop
  | own {entries : List (Text × Json)} {key : Text} {value : Json} (member : (key, value) ∈ entries) :
      KeyWithin (.dict entries) key
  | nested {entries : List (Text × Json)} {name key : Text} {value : Json}
      (member : (name, value) ∈ entries) (within : KeyWithin value key) : KeyWithin (.dict entries) key
  | item {items : List Json} {value : Json} {key : Text} (member : value ∈ items)
      (within : KeyWithin value key) : KeyWithin (.list items) key

/-- Some object inside a value has a key that lower-cases to a credential's name. A
credential that stands in a value, under an innocent key, is not meant. -/
def CarriesCredential (value : Json) : Prop :=
  Exists fun key : Text => KeyWithin value key ∧ key.lower ∈ sensitiveNames

/-! ## The screen -/

mutual

theorem carries_of_contains : (value : Json) -> containsSensitiveKey value = true ->
    CarriesCredential value
  | .dict entries, found => by
      rw [containsSensitiveKey] at found
      rcases carries_of_containsEntry entries found with ⟨name, value, member, found⟩
      rcases found with named | ⟨key, within, sensitive⟩
      · exact ⟨name, .own member, named⟩
      · exact ⟨key, .nested member within, sensitive⟩
  | .list items, found => by
      rw [containsSensitiveKey] at found
      rcases carries_of_containsItem items found with ⟨value, member, key, within, sensitive⟩
      exact ⟨key, .item member within, sensitive⟩
  | .null, found => by
      rw [containsSensitiveKey] at found
      cases found
  | .bool _, found => by
      rw [containsSensitiveKey] at found
      cases found
  | .int _, found => by
      rw [containsSensitiveKey] at found
      cases found
  | .float _, found => by
      rw [containsSensitiveKey] at found
      cases found
  | .str _, found => by
      rw [containsSensitiveKey] at found
      cases found

theorem carries_of_containsItem : (items : List Json) -> containsSensitiveItem items = true ->
    Exists fun value => value ∈ items ∧ CarriesCredential value
  | [], found => by
      rw [containsSensitiveItem] at found
      cases found
  | item :: rest, found => by
      rw [containsSensitiveItem] at found
      rcases Bool.or_eq_true_iff.mp found with here | later
      · exact ⟨item, List.mem_cons_self, carries_of_contains item here⟩
      · rcases carries_of_containsItem rest later with ⟨value, member, carries⟩
        exact ⟨value, List.mem_cons_of_mem _ member, carries⟩

theorem carries_of_containsEntry : (entries : List (Text × Json)) ->
    containsSensitiveEntry entries = true ->
    Exists fun name => Exists fun value => (name, value) ∈ entries ∧
      (name.lower ∈ sensitiveNames ∨ CarriesCredential value)
  | [], found => by
      rw [containsSensitiveEntry] at found
      cases found
  | (name, value) :: rest, found => by
      rw [containsSensitiveEntry] at found
      rcases Bool.or_eq_true_iff.mp found with here | later
      · refine ⟨name, value, List.mem_cons_self, ?_⟩
        rcases Bool.or_eq_true_iff.mp here with named | nested
        · exact Or.inl (of_decide_eq_true named)
        · exact Or.inr (carries_of_contains value nested)
      · rcases carries_of_containsEntry rest later with ⟨other, inner, member, carries⟩
        exact ⟨other, inner, List.mem_cons_of_mem _ member, carries⟩

end

/-- The screen finds a credential-like key at any depth, and nothing else. -/
theorem containsSensitiveKey_iff (value : Json) :
    containsSensitiveKey value = true <-> CarriesCredential value := by
  refine ⟨carries_of_contains value, ?_⟩
  rintro ⟨key, within, sensitive⟩
  induction within with
  | own member =>
      rw [containsSensitiveKey, containsSensitiveEntry_eq_any, List.any_eq_true]
      exact ⟨_, member, Bool.or_eq_true_iff.mpr (Or.inl (decide_eq_true sensitive))⟩
  | nested member within ih =>
      rw [containsSensitiveKey, containsSensitiveEntry_eq_any, List.any_eq_true]
      exact ⟨_, member, Bool.or_eq_true_iff.mpr (Or.inr (ih sensitive))⟩
  | item member within ih =>
      rw [containsSensitiveKey, containsSensitiveItem_eq_any, List.any_eq_true]
      exact ⟨_, member, ih sensitive⟩

/-! ## What a proof carries -/

/-- Under plain names, only the values can carry a credential-like key. -/
theorem containsSensitiveEntry_of_plain {entries : List (Text × Json)}
    (plain : forall name, name ∈ entries.map Prod.fst -> name.lower ∉ sensitiveNames) :
    containsSensitiveEntry entries = entries.any (fun entry => containsSensitiveKey entry.2) := by
  induction entries with
  | nil => rw [containsSensitiveEntry, List.any_nil]
  | cons entry rest ih =>
      rw [List.map_cons, List.forall_mem_cons] at plain
      rw [containsSensitiveEntry, decide_eq_false plain.1, Bool.false_or, List.any_cons, ih plain.2]

/-- The names of the proposal's own fields are plain. -/
theorem contents_names_plain (proposal : ActionProposal) (name : Text)
    (member : name ∈ proposal.contents.map Prod.fst) : name.lower ∉ sensitiveNames := by
  have plain : forall name, name ∈ (["action_type", "target_entity", "parameters", "reason",
      "evidence_refs", "idempotency_key", "expected_state_version", "expected_attributes"] :
        List Text) -> name.lower ∉ sensitiveNames := by
    decide +kernel
  exact plain name member

/-- An accepted proposal carries a credential-like key exactly when its expected attributes
do. Its parameters were screened, and its other fields have plain names. -/
theorem contents_carries_iff (proposal : ActionProposal) :
    CarriesCredential (.dict proposal.contents) <->
      containsSensitiveKey (.dict proposal.expectedAttributes.entries) = true := by
  have screened : containsSensitiveEntry proposal.parameters.entries = false := by
    have valid := proposal.valid
    unfold ProposalFields.accepted at valid
    simp only [Bool.and_eq_true, Bool.not_eq_true', containsSensitiveKey] at valid
    exact valid.2
  have texts : containsSensitiveItem (proposal.evidenceRefs.map .str) = false := by
    rw [containsSensitiveItem_eq_any, List.any_map, List.any_eq_false]
    intro text _
    rw [Function.comp_apply, containsSensitiveKey]
    exact Bool.false_ne_true
  rw [← containsSensitiveKey_iff, containsSensitiveKey, containsSensitiveKey,
    containsSensitiveEntry_of_plain (contents_names_plain proposal)]
  unfold ActionProposal.contents
  simp only [List.any_cons, List.any_nil, containsSensitiveKey, texts, screened, Bool.false_or,
    Bool.or_false]

/-- The dump of a proposal brings no credential-like key that the proposal does not have. -/
theorem dump_carries {proposal : ActionProposal} (carries : CarriesCredential (.dict proposal.dump)) :
    CarriesCredential (.dict proposal.contents) := by
  have dumped := (contents_carries_iff proposal.jsonMode).mp carries
  rw [contents_carries_iff]
  rw [containsSensitiveKey] at dumped ⊢
  by_contra clean
  rw [Bool.not_eq_true] at clean
  exact Bool.false_ne_true ((containsSensitiveEntry_jsonModeDict clean).symm.trans dumped)

/-- Neither the proposal of a bundle nor a proposal in its events has a credential-like key.
The bundle has the proposal itself, and the events have its dump. -/
structure ScreenedProof (bundle : ProofBundle) : Prop where
  proposal : ¬ CarriesCredential (.dict bundle.proposal.contents)
  events : forall event, event ∈ bundle.events -> forall data,
    event.payload.get? "proposal" = some data -> ¬ CarriesCredential data

theorem Testifies.proposal {rt : Runtime} {action : StoredAction} {event : ActionEventRecord}
    (testifies : Testifies rt action event) {data : Json}
    (carried : event.payload.get? "proposal" = some data) : data = .dict action.proposal.dump := by
  cases testifies with
  | evaluation decision kind actor required payload =>
      rw [payload] at carried
      exact (Option.some.inj carried).symm
  | approval reason kind actor payload =>
      rw [payload] at carried
      cases carried
  | refusal reason kind payload =>
      rw [payload] at carried
      cases carried
  | ineligibility reason kind payload =>
      rw [payload] at carried
      cases carried
  | acceptance receipt kind payload =>
      rw [payload] at carried
      cases carried
  | verification state isFinalAttempt kind payload =>
      rw [payload] at carried
      cases carried

/-- In every run, a proof of an action carries no credential-like key through the proposal exactly
when the proposal's expected attributes have none. -/
theorem proof_screened_iff {rt : Runtime} {history : List (Step ActionService Call)}
    {service : ActionService} (run : (actionSystem rt).Run history service) {actionId tenantId : Text}
    {action : StoredAction} (stored : service.actions.get? actionId = some action)
    {commit : Option CommitRecord} {bundle : ProofBundle}
    (proved : service.proof rt actionId tenantId commit = .ok bundle) :
    ScreenedProof bundle <->
      containsSensitiveKey (.dict action.proposal.expectedAttributes.entries) = false := by
  have testifies := Evidenced.of_run run actionId action stored
  rcases (proof_ok_iff _ _ _ _ _ _).mp proved with
      ⟨held, policy, provider, verification, found, _, _, _, rfl⟩
  rcases (service.getAction_ok_iff actionId tenantId held).mp found with ⟨stored', _⟩
  rw [stored] at stored'
  cases stored'
  rw [← Bool.not_eq_true, ← contents_carries_iff]
  refine ⟨ScreenedProof.proposal, fun clean => ⟨clean, ?_⟩⟩
  intro event member data carried
  rw [(testifies event member).proposal carried]
  exact fun carries => clean (dump_carries carries)

/-- The proof of the sample cancellation, carried through to its verification, shows no
credential in its proposal and in its four events. -/
theorem proof_screened_sample :
    Exists fun bundle : ProofBundle =>
      (sampleService sampleCalls).proof .plain sampleId "demo" none = .ok bundle ∧
        bundle.status = .verified ∧ bundle.events.length = 4 ∧ ScreenedProof bundle := by
  have facts : ((sampleService sampleCalls).actions.get? sampleId).map (fun action =>
        containsSensitiveKey (.dict action.proposal.expectedAttributes.entries)) = some false ∧
      ((sampleService sampleCalls).proof .plain sampleId "demo" none).toOption.map (fun bundle =>
        (bundle.status, bundle.events.length)) = some (ActionStatus.verified, 4) := by
    decide +kernel
  rcases facts with ⟨held, returned⟩
  rcases Option.map_eq_some_iff.mp held with ⟨action, stored, screened⟩
  rcases Option.map_eq_some_iff.mp returned with ⟨bundle, proved, both⟩
  rcases Prod.mk.inj both with ⟨status, events⟩
  have proved := ok_of_toOption proved
  have run := (sample_run sampleCalls List.prefix_rfl).ofRestrict
  exact ⟨bundle, proved, status, events, (proof_screened_iff run stored proved).mpr screened⟩

/-- A proposal that expects an attribute named like a credential. -/
def tokenProposal : ActionProposal where
  toProposalFields := { sampleProposal.toProposalFields with
    expectedAttributes := Dict.ofList [("access_token", .str "shpat_1")] }
  valid := by decide +kernel

/-- The model accepts the proposal, and its proof carries the key. It stands in the expected
attributes, which nothing screens. -/
theorem token_in_proof :
    Exists fun history => Exists fun service => Exists fun bundle : ProofBundle =>
      (actionSystem .plain).Run history service ∧
      service.proof .plain sampleId "demo" none = .ok bundle ∧ bundle.proposal = tokenProposal ∧
      ¬ ScreenedProof bundle := by
  have facts : (actionSystem .plain).AdmitsAll .fresh
        [.propose (.numbered 1) tokenProposal "demo" sampleContext] ∧
      (((actionSystem .plain).trace .fresh
        [.propose (.numbered 1) tokenProposal "demo" sampleContext]).2.proof .plain sampleId "demo"
          none).toOption.map ProofBundle.proposal = some tokenProposal ∧
      containsSensitiveKey (.dict tokenProposal.expectedAttributes.entries) = true := by
    decide +kernel
  rcases facts with ⟨admitted, returned, sensitive⟩
  rcases Option.map_eq_some_iff.mp returned with ⟨bundle, proved, same⟩
  refine ⟨_, _, bundle, System.run_trace _ rfl admitted, ok_of_toOption proved, same, ?_⟩
  intro screened
  rw [← same] at sensitive
  exact screened.proposal ((contents_carries_iff bundle.proposal).mpr sensitive)

end Actions
end RealityLayer
