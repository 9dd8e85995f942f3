import RealityLayer.Actions.Authorization
import RealityLayer.Connectors.Reads
import RealityLayer.WorldState.Disputes

namespace RealityLayer
namespace Connectors

open Foundation Python RealityGit WorldState WorldStateService Actions

/-!
# Checking a demo order

Before a demonstration a live order is checked from its payload.  The action that cancels
it checks the order again, from what World State holds after the connector has normalized
the payload.

The two read the status in opposite orders: the first check prefers the financial status,
the connector the order's own.  The first check also compares identifiers as texts, and
says nothing of what the connector and the commit demand.
-/

/-! ## The check -/

structure DemoOrderCheck where
  eligible : Bool
  orderId : Text
  status : Json
  fulfillmentStatus : Json
  failures : List Text
deriving DecidableEq

def closedOrderStatuses : List Text := ["cancelled", "canceled", "closed", "voided"]

/-- A status of an order that can still be cancelled. -/
def openStatus : Json -> Bool
  | .str status => decide (status.lower ∉ closedOrderStatuses)
  | _ => false

def fulfilled : Json -> Bool
  | .str status => decide (status.lower = ("fulfilled" : Text))
  | _ => false

/-- `validate_demo_order`. It reads the payload that the provider sent, and not the
observation that the connector makes of it. -/
def validateDemoOrder (rt : Runtime) (payload : Payload) (orderId : Text) : DemoOrderCheck :=
  let status := (field payload "financial_status").orElse (field payload "status")
  let fulfillmentStatus := field payload "fulfillment_status"
  let failures : List Text :=
    (if str rt (field payload "id") ≠ orderId then ["order.id_mismatch"] else []) ++
      (if openStatus status then [] else ["order.not_open"]) ++
      (if fulfilled fulfillmentStatus then ["order.fulfilled"] else [])
  { eligible := failures.isEmpty
    orderId
    status
    fulfillmentStatus
    failures }

theorem validateDemoOrder_eligible_iff (rt : Runtime) (payload : Payload) (orderId : Text) :
    (validateDemoOrder rt payload orderId).eligible = true <->
      str rt (field payload "id") = orderId ∧
        openStatus ((field payload "financial_status").orElse (field payload "status")) = true ∧
        fulfilled (field payload "fulfillment_status") = false := by
  unfold validateDemoOrder
  dsimp only
  by_cases same : str rt (field payload "id") = orderId
  · cases openStatus ((field payload "financial_status").orElse (field payload "status")) with
    | true => cases fulfilled (field payload "fulfillment_status") <;> simp [same]
    | false => simp
  · simp [same]

/-! ## Normalized orders -/

section Normalized

variable {rt : Runtime} {fromisoformat : Text -> Except PyError Timestamp} {now : Int}
variable {payload : Payload} {orderId status : Text}

theorem requiredString_ok_iff (name : Text) {text : Text} :
    requiredString payload name = .ok text <-> field payload name = .str text ∧ text ≠ "" := by
  unfold requiredString
  constructor
  · intro read
    split at read
    · rename_i other found
      split at read
      · cases read
      · rename_i full
        cases read
        exact ⟨found, full⟩
    · cases read
  · rintro ⟨found, full⟩
    rw [found]
    exact if_neg full

theorem shopifyStatus_ok_iff :
    shopifyStatus payload = .ok status <->
      (field payload "status").orElse (field payload "financial_status") = .str status ∧
        status ≠ "" := by
  unfold shopifyStatus
  constructor
  · intro read
    split at read
    · rename_i other found
      split at read
      · cases read
      · rename_i full
        cases read
        exact ⟨found, full⟩
    · cases read
  · rintro ⟨found, full⟩
    rw [found]
    exact if_neg full

/-- The fields that the connector gives an order. They are not validated yet; that happens
when the observation is built. -/
def shopifyFields (rt : Runtime) (payload : Payload) (orderId status : Text) (observed : Timestamp) :
    ObservationFields where
  observationId := "obs_shopify_" ++ observationToken orderId
  connector := "shopify"
  objectType := "order"
  objectId := orderId
  observedAt := observed
  payload := shopifyAttributes rt payload orderId status

theorem length_of_full {text : Text} (full : text ≠ "") : 1 ≤ text.length := by
  rcases text with ⟨codes⟩
  cases codes with
  | nil => exact absurd rfl full
  | cons code rest => exact Nat.succ_pos _

/-- The identifier that is made from a token is well formed, whatever the token is. -/
theorem shopifyId_pattern (orderId : Text) :
    observationIdPattern ("obs_shopify_" ++ observationToken orderId) = true := by
  have token : (observationToken orderId).codes.all tokenCode = true := by
    unfold observationToken
    rw [List.all_map, List.all_eq_true]
    intro code _
    change tokenCode (if tokenCode code then code else 95) = true
    split
    · assumption
    · decide
  have front : (Text.ofString "obs_shopify_").codes.length = 12 := rfl
  unfold observationIdPattern Text.startsWith Text.length
  rw [Text.codes_append, List.length_append]
  simp only [Bool.and_eq_true, decide_eq_true_eq]
  refine ⟨⟨rfl, by omega⟩, ?_⟩
  exact List.all_append.trans (Bool.and_eq_true_iff.mpr ⟨by decide, token⟩)

theorem shopifyFields_accepted_iff (full : orderId ≠ "") (observed : Timestamp) :
    (shopifyFields rt payload orderId status observed).accepted = true <->
      orderId.encodable = true ∧ orderId.length ≤ 255 := by
  have long := length_of_full full
  have named : (Text.ofString "shopify").encodable = true ∧ (Text.ofString "shopify").length = 7 := by
    decide
  unfold ObservationFields.accepted shopifyFields
  dsimp only
  simp [shopifyId_pattern, named, long]

/-- The connector accepts an order with an identifier, a status and a timestamp. -/
theorem shopifyNormalize_ok_iff {observation : Observation} :
    shopifyNormalize rt fromisoformat now payload = .ok observation <->
      Exists fun orderId : Text => Exists fun status : Text => Exists fun observed : Timestamp =>
        (field payload "id" = .str orderId ∧ orderId ≠ "") ∧
          ((field payload "status").orElse (field payload "financial_status") = .str status ∧
            status ≠ "") ∧
          observedAt fromisoformat now payload = .ok observed ∧
          observation.toObservationFields = shopifyFields rt payload orderId status observed := by
  constructor
  · intro accepted
    rcases bind_ok accepted with ⟨orderId, named, accepted⟩
    rcases bind_ok accepted with ⟨status, read, accepted⟩
    rcases bind_ok accepted with ⟨observed, timed, accepted⟩
    exact ⟨orderId, status, observed, (requiredString_ok_iff "id").mp named,
      shopifyStatus_ok_iff.mp read, timed, validated_ok accepted⟩
  · rintro ⟨orderId, status, observed, named, read, timed, fields⟩
    unfold shopifyNormalize
    rw [(requiredString_ok_iff "id").mpr named, shopifyStatus_ok_iff.mpr read, timed]
    change validated (shopifyFields rt payload orderId status observed) = .ok observation
    rcases observation with ⟨_, valid⟩
    cases fields
    exact dif_pos valid

/-- An optional entry is listed when it has a value. -/
theorem mem_optionalEntry {name : Text} {value : Option Json} {entry : Text × Json} :
    entry ∈ optionalEntry name value <-> entry.1 = name ∧ value = some entry.2 := by
  unfold optionalEntry
  cases value with
  | none => simp
  | some value =>
      simp only [Option.toList_some, List.map_singleton, List.mem_singleton, Option.some.injEq]
      constructor
      · rintro rfl
        exact ⟨rfl, rfl⟩
      · rintro ⟨rfl, rfl⟩
        rfl

theorem optionalEntry_names (name : Text) (value : Option Json) :
    ((optionalEntry name value).map Prod.fst).Sublist [name] := by
  unfold optionalEntry
  cases value with
  | none => exact List.nil_sublist _
  | some value => exact List.Sublist.refl _

/-- The attributes of an order under their names. -/
theorem shopifyAttributes_get? (name : Text) (value : Json) :
    (shopifyAttributes rt payload orderId status).get? name = some value <->
      name = "id" ∧ value = .str orderId ∨ name = "status" ∧ value = .str status ∨
        name = "currency" ∧ payload.get? "currency" = some value ∨
        name = "total_price" ∧
          (present? payload "total_price").map (fun price => .str (str rt price)) = some value ∨
        name = "fulfillment_status" ∧ present? payload "fulfillment_status" = some value := by
  unfold shopifyAttributes
  rw [← Dict.mem_entries_iff, Dict.entries_ofList]
  · simp only [List.mem_cons, List.mem_append, mem_optionalEntry, Prod.mk.injEq, or_assoc]
  · have five : (["id", "status", "currency", "total_price", "fulfillment_status"] : List Text).Nodup := by
      decide
    refine five.sublist ?_
    rw [List.map_cons, List.map_cons, List.map_append, List.map_append]
    exact ((((optionalEntry_names _ _).append (optionalEntry_names _ _)).append
      (optionalEntry_names _ _)).cons_cons _).cons_cons _

end Normalized

/-! ## The first reading of an order -/

section Readable

variable {rt : Runtime} {tenantId cause assuranceLevel : Text} {draws : Draws}
variable {observation : Observation}

theorem projectedReading_recorded_iff (observation : Observation) {label : Text}
    (labelled : label.encodable = true) :
    HashableAttributes rt (projectedReading observation label) <->
      forall name value, observation.payload.get? name = some value ->
        name.encodable = true ∧ recordable rt value = true := by
  unfold HashableAttributes projectedReading
  constructor
  · intro all name value read
    have held := all name (projectedAttribute observation label name value)
      (by rw [Dict.get?_mapValues, read]; rfl)
    exact ⟨held.1, held.2.1⟩
  · intro all name attr held
    rw [Dict.get?_mapValues, Option.map_eq_some_iff] at held
    rcases held with ⟨value, read, rfl⟩
    rcases all name value read with ⟨named, value⟩
    exact ⟨named, value, projectedAttribute_fit observation labelled name _⟩

/-- What dumping and hashing the first commit of an entity ask for.  There is nothing held
before it, so only what the reading brings can stop it. -/
theorem firstCompilable_iff (plain : PlainTexts rt) (incoming : Dict Text StateAttribute) :
    compilable rt tenantId observation cause assuranceLevel none incoming = true <->
      tenantId.encodable = true ∧ cause.encodable = true ∧ HashableAttributes rt incoming := by
  have nothing : HashableAttributes rt (heldAttributes none) := fun _ _ absent => by cases absent
  constructor
  · unfold compilable CommitRequest.hashable ingestRequest ingestChanges
    dsimp only
    rw [compiledAttributes_none]
    simp only [Bool.and_eq_true]
    rintro ⟨dumped, ⟨⟨⟨⟨⟨⟨owner, _⟩, _⟩, caused⟩, _⟩, _⟩, after⟩, _⟩
    exact ⟨owner, caused, (recordedEntries_iff plain incoming).mp ⟨(Bool.and_eq_true_iff.mp dumped).2, after⟩⟩
  · rintro ⟨owner, caused, recorded⟩
    refine compilable_of_recorded plain owner caused nothing ?_
    rw [compiledAttributes_none]
    exact recorded

/-- A first observation can be compiled when it has a timezone and its texts are valid. -/
theorem firstReadable_iff (plain : PlainTexts rt) :
    FirstReadable rt tenantId cause assuranceLevel draws observation <->
      (Exists fun observed : Int => observation.observedAt.instant? = some observed) ∧
        tenantId.encodable = true ∧ cause.encodable = true ∧
        forall name value, observation.payload.get? name = some value ->
          name.encodable = true ∧ recordable rt value = true := by
  unfold FirstReadable
  cases aware : observation.observedAt.instant? with
  | none =>
      rcases project_naive draws aware with ⟨error, failed⟩
      rw [failed]
      simp
  | some observed =>
      have labelled := freshnessLabel_encodable draws observed
      have values := @projectedReading_recorded_iff rt observation _ labelled
      rw [project_eq draws aware]
      constructor
      · rintro ⟨incoming, projected, accepted⟩
        cases projected
        rcases (firstCompilable_iff plain _).mp accepted with ⟨owner, caused, held⟩
        exact ⟨⟨observed, rfl⟩, owner, caused, values.mp held⟩
      · rintro ⟨_, owner, caused, held⟩
        exact ⟨_, rfl, (firstCompilable_iff plain _).mpr ⟨owner, caused, values.mpr held⟩⟩

/-- What a fresh service takes in becomes the state of its object. -/
theorem ingest_fresh {service : WorldStateService} {state : OrderState}
    (returned : WorldStateService.fresh.ingest rt draws tenantId observation cause assuranceLevel =
      .returns service state) :
    FirstReadable rt tenantId cause assuranceLevel draws observation ∧
      Exists fun kept : OrderState =>
        service.states.get? (tenantId, observation.objectType, observation.objectId) = some kept ∧
          stateValues kept = observation.payload := by
  rcases @ingest_first .fresh tenantId observation rt draws cause assuranceLevel Linkable.fresh rfl rfl with
    ⟨readable, kept, after, returned', _, states, values⟩ | ⟨_, error, after, raised⟩
  · cases returned.symm.trans returned'
    refine ⟨readable, _, ?_, values⟩
    rw [states]
    exact Dict.get?_set_self _ _ _
  · cases returned.symm.trans raised

theorem ingest_fresh_returns (readable : FirstReadable rt tenantId cause assuranceLevel draws observation) :
    Exists fun service : WorldStateService => Exists fun state : OrderState =>
      WorldStateService.fresh.ingest rt draws tenantId observation cause assuranceLevel =
        .returns service state := by
  rcases @ingest_first .fresh tenantId observation rt draws cause assuranceLevel Linkable.fresh rfl rfl with
    ⟨_, kept, after, returned, _⟩ | ⟨refused, _⟩
  · exact ⟨after, kept, returned⟩
  · exact absurd readable refused

end Readable

/-! ## The check and the action -/

/-- Execution accepts an order: its payload is normalized and taken into a fresh service, and
the state that is kept does not make it ineligible. -/
def Executable (rt : Runtime) (fromisoformat : Text -> Except PyError Timestamp) (now : Int)
    (draws : Draws) (tenantId cause assuranceLevel : Text) (payload : Payload) (orderId : Text) : Prop :=
  Exists fun observation : Observation => Exists fun service : WorldStateService =>
    Exists fun state : OrderState =>
      shopifyNormalize rt fromisoformat now payload = .ok observation ∧
        WorldStateService.fresh.ingest rt draws tenantId observation cause assuranceLevel =
          .returns service state ∧
        ActionService.ineligibleReason (service.states.get? (tenantId, "order", orderId)) = none

/-- A payload whose identifier and status are texts that World State can keep, with a time
that has a timezone, and whose preferred status is not a closed one.  The price is kept as
a text, while the currency and the fulfillment status are kept as they come, and so must
themselves be dumped and hashed. -/
structure WellReported (rt : Runtime) (fromisoformat : Text -> Except PyError Timestamp) (now : Int)
    (tenantId cause : Text) (payload : Payload) (orderId : Text) : Prop where
  identifier : field payload "id" = .str orderId ∧ orderId ≠ "" ∧ orderId.length ≤ 255 ∧
    orderId.encodable = true
  status : Exists fun status : Text =>
    (field payload "status").orElse (field payload "financial_status") = .str status ∧
      status ≠ "" ∧ status.encodable = true ∧ status.lower ∉ closedOrderStatuses
  observed : Exists fun observed : Timestamp => Exists fun instant : Int =>
    observedAt fromisoformat now payload = .ok observed ∧ observed.instant? = some instant
  currency : forall value, payload.get? "currency" = some value -> recordable rt value = true
  price : forall value, present? payload "total_price" = some value ->
    (str rt value).encodable = true
  fulfillment : forall value, present? payload "fulfillment_status" = some value ->
    recordable rt value = true
  writer : tenantId.encodable = true ∧ cause.encodable = true

section Agreement

variable {rt : Runtime} {fromisoformat : Text -> Except PyError Timestamp} {now : Int}
variable {draws : Draws} {tenantId cause assuranceLevel : Text} {payload : Payload} {orderId : Text}

/-- What a commit asks of the attributes of an order. -/
theorem shopifyAttributes_recorded_iff {status : Text} :
    (forall name value, (shopifyAttributes rt payload orderId status).get? name = some value ->
        name.encodable = true ∧ recordable rt value = true) <->
      orderId.encodable = true ∧ status.encodable = true ∧
        (forall value, payload.get? "currency" = some value -> recordable rt value = true) ∧
        (forall value, present? payload "total_price" = some value ->
          (str rt value).encodable = true) ∧
        forall value, present? payload "fulfillment_status" = some value ->
          recordable rt value = true := by
  constructor
  · intro all
    have kept := fun name value found => (all name value (shopifyAttributes_get? name value |>.mpr found)).2
    refine ⟨?_, ?_, ?_, ?_, ?_⟩
    · exact (recordable_text _).symm.trans (kept _ _ (Or.inl ⟨rfl, rfl⟩))
    · exact (recordable_text _).symm.trans (kept _ _ (Or.inr (Or.inl ⟨rfl, rfl⟩)))
    · exact fun value found => kept _ value (Or.inr (Or.inr (Or.inl ⟨rfl, found⟩)))
    · intro value found
      refine (recordable_text _).symm.trans (kept _ _ (Or.inr (Or.inr (Or.inr (Or.inl ⟨rfl, ?_⟩)))))
      rw [found]
      rfl
    · exact fun value found => kept _ value (Or.inr (Or.inr (Or.inr (Or.inr ⟨rfl, found⟩))))
  · rintro ⟨named, reported, currency, price, fulfillment⟩ name value bound
    rcases (shopifyAttributes_get? name value).mp bound with ⟨rfl, rfl⟩ | ⟨rfl, rfl⟩ | ⟨rfl, found⟩ |
      ⟨rfl, found⟩ | ⟨rfl, found⟩
    · exact ⟨Text.encodable_ofString _, (recordable_text _).trans named⟩
    · exact ⟨Text.encodable_ofString _, (recordable_text _).trans reported⟩
    · exact ⟨Text.encodable_ofString _, currency value found⟩
    · rcases Option.map_eq_some_iff.mp found with ⟨amount, paid, rfl⟩
      exact ⟨Text.encodable_ofString _, (recordable_text _).trans (price amount paid)⟩
    · exact ⟨Text.encodable_ofString _, fulfillment value found⟩

/-- The second check reads the connector's status and the payload's fulfillment. The first
one prefers the payment to the status. -/
theorem eligibleTestOrder_iff {status : Text} {state : OrderState}
    (values : stateValues state = shopifyAttributes rt payload orderId status) :
    EligibleTestOrder state <->
      status.lower ∉ closedOrderStatuses ∧ fulfilled (field payload "fulfillment_status") = false := by
  have held : ActionService.heldText? state "status" = some status := by
    unfold ActionService.heldText?
    rw [value?_of_values values,
      (shopifyAttributes_get? "status" (.str status)).mpr (Or.inr (Or.inl ⟨rfl, rfl⟩))]
    rfl
  have shipped : forall text, ActionService.heldText? state "fulfillment_status" = some text <->
      field payload "fulfillment_status" = .str text := by
    intro text
    unfold ActionService.heldText?
    have kept : (shopifyAttributes rt payload orderId status).get? "fulfillment_status" =
        present? payload "fulfillment_status" := by
      refine Option.ext fun value => ?_
      rw [shopifyAttributes_get?]
      simp
    rw [value?_of_values values, kept]
    unfold present? field
    cases payload.get? "fulfillment_status" with
    | none => simp
    | some value => cases value <;> simp [Json.isNull, Json.text?, Option.filter]
  constructor
  · intro eligible
    refine ⟨eligible.status status held, ?_⟩
    cases found : field payload "fulfillment_status" with
    | str text => exact decide_eq_false (eligible.fulfillment text ((shipped text).mpr found))
    | _ => rfl
  · rintro ⟨openly, unshipped⟩
    constructor
    · intro text found
      cases held.symm.trans found
      exact openly
    · intro text found
      rw [(shipped text).mp found] at unshipped
      exact of_decide_eq_false unshipped

theorem Executable.wellReported (plain : PlainTexts rt)
    (same : str rt (field payload "id") = orderId)
    (executable : Executable rt fromisoformat now draws tenantId cause assuranceLevel payload orderId) :
    WellReported rt fromisoformat now tenantId cause payload orderId := by
  rcases executable with ⟨observation, service, state, normalized, returned, allowed⟩
  rcases shopifyNormalize_ok_iff.mp normalized with
      ⟨named, status, observed, ⟨identifier, full⟩, ⟨reported, present⟩, timed, fields⟩
  rw [identifier] at same
  cases same
  have valid := observation.valid
  rw [fields, shopifyFields_accepted_iff full] at valid
  rcases ingest_fresh returned with ⟨readable, kept, stored, values⟩
  rw [fields] at stored values
  rcases (ineligibleReason_none_iff _).mp allowed with ⟨_, found, test⟩
  cases stored.symm.trans found
  rcases (firstReadable_iff plain).mp readable with ⟨⟨instant, aware⟩, owner, caused, hashables⟩
  rw [fields] at aware hashables
  rcases shopifyAttributes_recorded_iff.mp hashables with ⟨_, written, currency, price, fulfillment⟩
  exact {
    identifier := ⟨identifier, full, valid.2, valid.1⟩
    status := ⟨status, reported, present, written, ((eligibleTestOrder_iff values).mp test).1⟩
    observed := ⟨observed, instant, timed, aware⟩
    currency
    price
    fulfillment
    writer := ⟨owner, caused⟩ }

theorem WellReported.executable (plain : PlainTexts rt)
    (unshipped : fulfilled (field payload "fulfillment_status") = false)
    (reported : WellReported rt fromisoformat now tenantId cause payload orderId) :
    Executable rt fromisoformat now draws tenantId cause assuranceLevel payload orderId := by
  rcases reported.identifier with ⟨identifier, full, long, written⟩
  rcases reported.status with ⟨status, preferred, present, legible, openly⟩
  rcases reported.observed with ⟨observed, instant, timed, aware⟩
  let observation : Observation := ⟨shopifyFields rt payload orderId status observed,
    (shopifyFields_accepted_iff full observed).mpr ⟨written, long⟩⟩
  have readable : FirstReadable rt tenantId cause assuranceLevel draws observation :=
    (firstReadable_iff plain).mpr ⟨⟨instant, aware⟩, reported.writer.1, reported.writer.2,
      shopifyAttributes_recorded_iff.mpr
        ⟨written, legible, reported.currency, reported.price, reported.fulfillment⟩⟩
  rcases ingest_fresh_returns readable with ⟨service, state, returned⟩
  rcases ingest_fresh returned with ⟨_, kept, stored, values⟩
  refine ⟨observation, service, state, ?_, returned, ?_⟩
  · exact shopifyNormalize_ok_iff.mpr ⟨orderId, status, observed, ⟨identifier, full⟩,
      ⟨preferred, present⟩, timed, rfl⟩
  · exact (ineligibleReason_none_iff _).mpr
      ⟨kept, stored, (eligibleTestOrder_iff values).mpr ⟨openly, unshipped⟩⟩

/-- An order that was found eligible can be executed exactly when it is well reported. The
condition is on the payload, and asks nothing of World State. -/
theorem preflight_holds_iff (plain : PlainTexts rt)
    (eligible : (validateDemoOrder rt payload orderId).eligible = true) :
    Executable rt fromisoformat now draws tenantId cause assuranceLevel payload orderId <->
      WellReported rt fromisoformat now tenantId cause payload orderId := by
  rcases (validateDemoOrder_eligible_iff rt payload orderId).mp eligible with ⟨same, _, unshipped⟩
  constructor
  · intro executable
    exact executable.wellReported plain same
  · intro reported
    exact reported.executable plain unshipped

end Agreement

/-! ## An order paid and open, and one that was cancelled -/

def paidOrder (status : Text) : Payload :=
  Dict.ofList [("id", .str "1001"), ("status", .str status), ("financial_status", .str "paid")]

theorem paidOrder_reported :
    WellReported .plain noDatetime 0 "demo" "observation" (paidOrder "open") "1001" where
  identifier := by decide +kernel
  status := ⟨"open", by decide +kernel⟩
  observed := ⟨.utc 0, 0, rfl, rfl⟩
  currency := fun value found => nomatch found
  price := fun value found => nomatch found
  fulfillment := fun value found => nomatch found
  writer := by decide +kernel

theorem preflight_holds_sample :
    (validateDemoOrder .plain (paidOrder "open") "1001").eligible = true ∧
      Executable .plain noDatetime 0 (.numbered 1) "demo" "observation" "observed" (paidOrder "open")
        "1001" := by
  have eligible : (validateDemoOrder .plain (paidOrder "open") "1001").eligible = true := by
    decide +kernel
  exact ⟨eligible, (preflight_holds_iff plain_plainTexts eligible).mpr paidOrder_reported⟩

/-- A cancelled order that was paid is eligible, and execution refuses it. The preflight
looks at the payment first, and the execution at the status. -/
theorem cancelled_order_eligible :
    (validateDemoOrder .plain (paidOrder "cancelled") "1001").eligible = true ∧
      ¬ Executable .plain noDatetime 0 (.numbered 1) "demo" "observation" "observed"
        (paidOrder "cancelled") "1001" := by
  have eligible : (validateDemoOrder .plain (paidOrder "cancelled") "1001").eligible = true := by
    decide +kernel
  refine ⟨eligible, fun executable => ?_⟩
  rcases (executable.wellReported plain_plainTexts (by decide +kernel)).status with
      ⟨status, preferred, _, _, openly⟩
  have cancelled : (field (paidOrder "cancelled") "status").orElse
      (field (paidOrder "cancelled") "financial_status") = .str "cancelled" := by
    decide +kernel
  cases cancelled.symm.trans preferred
  exact openly (by decide)

end Connectors
end RealityLayer
