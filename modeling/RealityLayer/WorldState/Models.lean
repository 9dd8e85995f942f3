import RealityLayer.Python.Runtime

namespace RealityLayer
namespace WorldState

open Foundation Python

/-!
# The records of World State

An observation is validated when it is built, and an entity state, a commit and
a conflict are built by the service itself.  `Observation` therefore carries the
proof that its fields were accepted, while the other records are plain data.

`model_dump(mode="json")` of an attribute is what commits store and hash.  The
dump writes the value in pydantic's JSON mode and the time as text.
-/

/-! ## Observations -/

/-- `[A-Za-z0-9_-]`. -/
def tokenCode (code : Nat) : Bool :=
  (65 ≤ code && code ≤ 90) || (97 ≤ code && code ≤ 122) || (48 ≤ code && code ≤ 57) ||
    code == 95 || code == 45

/-- The pattern `^obs_[A-Za-z0-9_-]+$`. It is checked when the observation is built, whoever
builds it. -/
def observationIdPattern (text : Text) : Bool :=
  Text.startsWith "obs_" text && 4 < text.length && (text.codes.drop 4).all tokenCode

structure ObservationFields where
  observationId : Text
  connector : Text
  objectType : Text
  objectId : Text
  observedAt : Timestamp
  payload : Dict Text Json
deriving DecidableEq

/-- The field constraints of `Observation`.  A constrained string is also
refused when it is not valid Unicode. -/
def ObservationFields.accepted (fields : ObservationFields) : Bool :=
  observationIdPattern fields.observationId &&
  (fields.connector.encodable && 1 ≤ fields.connector.length && fields.connector.length ≤ 64) &&
  (fields.objectType = "order" || fields.objectType = "shipment") &&
  (fields.objectId.encodable && 1 ≤ fields.objectId.length && fields.objectId.length ≤ 255)

/-- An observation the model accepts. The time may lack a timezone: the model does not ask
for one, and the projection fails without it. -/
structure Observation extends ObservationFields where
  valid : toObservationFields.accepted = true
deriving DecidableEq

/-! ## Entity states -/

structure StateAttribute where
  value : Json
  confidence : PyFloat
  observedAt : Timestamp
  freshness : Text
  sourceObservationIds : List Text
  connector : Option Text
deriving DecidableEq

/-- `model_dump(mode="json")`. The value is rewritten as pydantic writes JSON, and the time
becomes a text. -/
def StateAttribute.dump (rt : Runtime) (attr : StateAttribute) : Json :=
  .dict [
    ("value", attr.value.jsonMode),
    ("confidence", .float attr.confidence),
    ("observed_at", .str (rt.isoformat attr.observedAt)),
    ("freshness", .str attr.freshness),
    ("source_observation_ids", .list (attr.sourceObservationIds.map .str)),
    ("connector", .ofText? attr.connector)]

/-- The dump of an attribute map, name by name. -/
def dumpAttributes (rt : Runtime) (attributes : Dict Text StateAttribute) : Dict Text Json :=
  attributes.mapValues (fun _ attr => attr.dump rt)

/-- The dump of an attribute map gets through all its values.  Where it does not, it raises
and `dumpAttributes` is not written. -/
def dumpsAll (rt : Runtime) (attributes : Dict Text StateAttribute) : Bool :=
  attributes.values.all (fun attr => rt.dumps attr.value)

theorem dumpsAll_iff {rt : Runtime} {attributes : Dict Text StateAttribute} :
    dumpsAll rt attributes = true <->
      forall name attr, attributes.get? name = some attr -> rt.dumps attr.value = true := by
  unfold dumpsAll
  rw [List.all_eq_true]
  constructor
  · exact fun all name attr stored => all attr ((Dict.mem_values_iff _ _).mpr ⟨name, stored⟩)
  · intro all attr member
    rcases (Dict.mem_values_iff _ _).mp member with ⟨name, stored⟩
    exact all name attr stored

theorem dumpsAll_values (rt : Runtime) (attributes : Dict Text StateAttribute) :
    dumpsAll rt attributes = (attributes.mapValues (fun _ attr => rt.dumps attr.value)).values.all id := by
  unfold dumpsAll Dict.values Dict.mapValues
  rw [List.map_map, List.all_map, List.all_map]
  rfl

/-- Attributes with the same values are dumped alike. -/
theorem dumpsAll_mapValues {rt : Runtime} (attributes : Dict Text StateAttribute)
    {change : Text -> StateAttribute -> StateAttribute}
    (same : forall name attr, rt.dumps (change name attr).value = rt.dumps attr.value) :
    dumpsAll rt (attributes.mapValues change) = dumpsAll rt attributes := by
  rw [Bool.eq_iff_iff, dumpsAll_iff, dumpsAll_iff]
  constructor
  · intro all name attr stored
    rw [← same name attr]
    exact all name _ (by rw [Dict.get?_mapValues, stored]; rfl)
  · intro all name attr stored
    rw [Dict.get?_mapValues, Option.map_eq_some_iff] at stored
    rcases stored with ⟨held, stored, rfl⟩
    rw [same name held]
    exact all name held stored

structure OrderState where
  tenantId : Text
  entityId : Text
  entityType : Text
  stateVersion : Int
  attributes : Dict Text StateAttribute
  commitId : Text
deriving DecidableEq

/-- The value an entity state holds for an attribute name. A value of null is a value here. -/
def OrderState.value? (state : OrderState) (name : Text) : Option Json :=
  (state.attributes.get? name).map StateAttribute.value

/-! ## Commits -/

structure CommitRecord where
  commitId : Text
  tenantId : Text
  parentCommitId : Option Text
  entityType : Text
  entityId : Text
  cause : Text
  observationIds : List Text
  before : Dict Text Json
  after : Dict Text Json
  semanticDiff : Dict Text Json
  assuranceLevel : Text
  previousHash : Option Text
  hash : Text
deriving DecidableEq

/-! ## Conflicts -/

structure ConflictCandidate where
  value : Json
  connector : Option Text
  observationId : Option Text
  observedAt : Timestamp
  confidence : PyFloat
deriving DecidableEq

/-- A disagreement between sources about one attribute of one entity.  The
source calls the attribute's name `attribute`, which is a keyword here. -/
structure Conflict where
  conflictId : Text
  tenantId : Text
  entityType : Text
  entityId : Text
  attributeName : Text
  candidates : List ConflictCandidate
  status : Text := "open"
  detectedAt : Timestamp
  resolvedValue : Json := .null
  resolvedBy : Option Text := none
  resolvedAt : Option Timestamp := none
  resolutionReason : Option Text := none
deriving DecidableEq

end WorldState
end RealityLayer
