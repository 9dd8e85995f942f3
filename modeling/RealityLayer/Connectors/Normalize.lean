import RealityLayer.Foundation.Transition
import RealityLayer.WorldState.Models

namespace RealityLayer
namespace Connectors

open Foundation Python WorldState

/-!
# Normalizing provider payloads

A connector turns a provider's JSON payload into an observation.  The two connectors
share their helpers: a required string, the timestamp, and the token that an external
identifier becomes inside the observation identifier.

`datetime.fromisoformat` is a parameter: it returns a datetime or raises.  The value of
`datetime.now(UTC)`, which stands in for a missing timestamp, is an argument.
-/

/-- A provider payload: a JSON object. -/
abbrev Payload := Dict Text Json

/-- `payload.get(field)`. -/
def field (payload : Payload) (name : Text) : Json := (payload.get? name).getD .null

/-- `payload.get(field)`, when it is not `None`. A field that is null is as good as a missing
one. -/
def present? (payload : Payload) (name : Text) : Option Json :=
  (payload.get? name).filter (fun value => !value.isNull)

/-- `str(value)`. Numbers and truth values become strings too, so that an identifier need not
arrive as one. -/
def str (rt : Runtime) : Json -> Text
  | .str text => text
  | other => rt.str other

/-- `required_string`. -/
def requiredString (payload : Payload) (name : Text) : Except PyError Text :=
  match field payload name with
  | .str text =>
      if text = "" then
        .error (.valueError ("Connector payload requires non-empty string field: " ++ name))
      else .ok text
  | _ => .error (.valueError ("Connector payload requires non-empty string field: " ++ name))

/-- `observation_token`: every character outside `[A-Za-z0-9_-]` becomes `_`. Different texts
can become the same token. -/
def observationToken (text : Text) : Text :=
  ⟨text.codes.map (fun code => if tokenCode code then code else 95)⟩

/-- `text.replace("Z", "+00:00")`. -/
def replaceZulu (text : Text) : Text :=
  ⟨text.codes.flatMap (fun code => if code = 90 then (Text.ofString "+00:00").codes else [code])⟩

/-- `observed_at`. A payload without a time is stamped with the clock of the read, which is
why reads of one order differ. -/
def observedAt (fromisoformat : Text -> Except PyError Timestamp) (now : Int) (payload : Payload) :
    Except PyError Timestamp :=
  match (field payload "updated_at").orElse (field payload "created_at") with
  | .null => .ok (.utc now)
  | .str text => fromisoformat (replaceZulu text)
  | _ => .error (.valueError "Connector timestamp must be an ISO-8601 string")

/-- Build an `Observation`, which validates its fields. An identifier that breaks the pattern
raises here. -/
def validated (fields : ObservationFields) : Except PyError Observation :=
  if valid : fields.accepted = true then .ok ⟨fields, valid⟩ else .error (.validation "Observation")

/-! ## Shopify orders -/

/-- The status of a Shopify payload, or its financial status. The first of the two that is
given decides, whatever the other says. -/
def shopifyStatus (payload : Payload) : Except PyError Text :=
  match (field payload "status").orElse (field payload "financial_status") with
  | .str text =>
      if text = "" then
        .error (.valueError "Shopify order payload requires status or financial_status")
      else .ok text
  | _ => .error (.valueError "Shopify order payload requires status or financial_status")

/-- An entry that is there only when it has a value. -/
def optionalEntry (name : Text) (value : Option Json) : List (Text × Json) :=
  value.toList.map (fun value => (name, value))

/-- The attributes of a Shopify order. Fields of the payload that are not named here never
reach World State. -/
def shopifyAttributes (rt : Runtime) (payload : Payload) (orderId status : Text) : Dict Text Json :=
  Dict.ofList (
    ("id", .str orderId) :: ("status", .str status) ::
    (optionalEntry "currency" (payload.get? "currency") ++
      optionalEntry "total_price"
        ((present? payload "total_price").map (fun price => .str (str rt price))) ++
      optionalEntry "fulfillment_status" (present? payload "fulfillment_status")))

/-- `ShopifyConnector.normalize`. The identifier is made from the order's, so that every read
of an order has the same one. -/
def shopifyNormalize (rt : Runtime) (fromisoformat : Text -> Except PyError Timestamp) (now : Int)
    (payload : Payload) : Except PyError Observation := do
  let orderId ← requiredString payload "id"
  let status ← shopifyStatus payload
  let observed ← observedAt fromisoformat now payload
  validated {
    observationId := "obs_shopify_" ++ observationToken orderId
    connector := "shopify"
    objectType := "order"
    objectId := orderId
    observedAt := observed
    payload := shopifyAttributes rt payload orderId status }

/-! ## EasyPost trackers -/

/-- `EasyPostConnector.normalize`. It asks for an identifier, a tracking code and a status,
and reads nothing else. -/
def easypostNormalize (fromisoformat : Text -> Except PyError Timestamp) (now : Int)
    (payload : Payload) : Except PyError Observation := do
  let shipmentId ← requiredString payload "id"
  let trackingCode ← requiredString payload "tracking_code"
  let status ← requiredString payload "status"
  let observed ← observedAt fromisoformat now payload
  validated {
    observationId := "obs_easypost_" ++ observationToken shipmentId
    connector := "easypost"
    objectType := "shipment"
    objectId := shipmentId
    observedAt := observed
    payload := Dict.ofList [("id", .str shipmentId), ("tracking_code", .str trackingCode),
      ("status", .str status)] }

/-! ## Both connectors -/

inductive Connector where
  | shopify
  | easypost
deriving DecidableEq

namespace Connector

def objectType : Connector -> Text
  | .shopify => "order"
  | .easypost => "shipment"

/-- What the observation identifiers of a connector start with. -/
def idFront : Connector -> Text
  | .shopify => "obs_shopify_"
  | .easypost => "obs_easypost_"

def normalize (rt : Runtime) (fromisoformat : Text -> Except PyError Timestamp) (now : Int)
    (payload : Payload) : Connector -> Except PyError Observation
  | .shopify => shopifyNormalize rt fromisoformat now payload
  | .easypost => easypostNormalize fromisoformat now payload

end Connector

theorem validated_ok {fields : ObservationFields} {observation : Observation}
    (accepted : validated fields = .ok observation) : observation.toObservationFields = fields := by
  unfold validated at accepted
  by_cases valid : fields.accepted = true
  · rw [dif_pos valid] at accepted
    cases accepted
    rfl
  · rw [dif_neg valid] at accepted
    cases accepted

/-- An observation's identifier is made from the identifier of its object. -/
theorem normalize_identifies {rt : Runtime} {fromisoformat : Text -> Except PyError Timestamp}
    {now : Int} {payload : Payload} {connector : Connector} {observation : Observation}
    (accepted : connector.normalize rt fromisoformat now payload = .ok observation) :
    observation.observationId = connector.idFront ++ observationToken observation.objectId ∧
      observation.objectType = connector.objectType := by
  cases connector with
  | shopify =>
      rcases bind_ok accepted with ⟨orderId, _, accepted⟩
      rcases bind_ok accepted with ⟨status, _, accepted⟩
      rcases bind_ok accepted with ⟨observed, _, accepted⟩
      rw [validated_ok accepted]
      exact ⟨rfl, rfl⟩
  | easypost =>
      rcases bind_ok accepted with ⟨shipmentId, _, accepted⟩
      rcases bind_ok accepted with ⟨trackingCode, _, accepted⟩
      rcases bind_ok accepted with ⟨status, _, accepted⟩
      rcases bind_ok accepted with ⟨observed, _, accepted⟩
      rw [validated_ok accepted]
      exact ⟨rfl, rfl⟩

end Connectors
end RealityLayer
