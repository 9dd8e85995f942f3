import RealityLayer.WorldState.Calls
import RealityLayer.WorldState.History

namespace RealityLayer
namespace WorldState

open Foundation Python WorldStateService

/-!
# Failed ingestion

`ingest` records the observation before it projects it.  Every exception of the
projection, of the dump or of the hash comes after that write, so such a call leaves
the observation's identifier behind, and a corrected observation under the same
identifier is taken for a repetition.  The one exception raised before the write is
the `KeyError` for a known identifier of an entity without a state.
-/

section Failure

variable (rt : Runtime) (service : WorldStateService) (draws : Draws) (tenantId : Text)
variable (observation : Observation) (cause assuranceLevel : Text)

theorem seen_ne {tenantId : Text} {observation : Observation} {service after : WorldStateService}
    (new : service.observations.contains (tenantId, observation.observationId) = false)
    (written : after.observations = (service.seen tenantId observation).observations) :
    after ≠ service := by
  intro equal
  rw [equal] at written
  rw [written, seen, Dict.contains, Dict.get?_set_self] at new
  cases new

/-- A failed call leaves no trace exactly when the identifier was known before. A new one is
recorded first, and every later call with it is answered as a repetition. -/
theorem failed_ingest_traceless_iff {error : PyError}
    (failed : (service.ingest rt draws tenantId observation cause assuranceLevel).result =
      .error error) :
    (service.ingest rt draws tenantId observation cause assuranceLevel).state = service <->
      service.observations.contains (tenantId, observation.observationId) = true := by
  have ingestion := ingest_ingestion rt service draws tenantId observation cause assuranceLevel
  generalize service.ingest rt draws tenantId observation cause assuranceLevel = outcome at *
  cases ingestion with
  | repeated state stored known => cases failed
  | stateless absent known => exact ⟨fun _ => known, fun _ => rfl⟩
  | unprojected error new refused =>
      rw [new]
      exact ⟨fun same => absurd same (seen_ne new rfl),
        fun known => by cases known⟩
  | unchanged incoming state stored new projected same => cases failed
  | undumped incoming new projected undumpable =>
      rw [new]
      exact ⟨fun same => absurd same (seen_ne new (merged_same _ _ _ _ _ _).observations),
        fun known => by cases known⟩
  | refused incoming error new projected changes raised =>
      rw [new]
      exact ⟨fun same => absurd same (seen_ne new (merged_same _ _ _ _ _ _).observations),
        fun known => by cases known⟩
  | committed incoming commit new projected changes continues answers => cases failed

/-- Any call with a new identifier leaves a trace. -/
theorem ingest_new_ne
    (new : service.observations.contains (tenantId, observation.observationId) = false) :
    (service.ingest rt draws tenantId observation cause assuranceLevel).state ≠ service := by
  have ingestion := ingest_ingestion rt service draws tenantId observation cause assuranceLevel
  generalize service.ingest rt draws tenantId observation cause assuranceLevel = outcome at *
  have written := fun previous incoming =>
    (merged_same service draws tenantId observation previous incoming).observations
  cases ingestion with
  | repeated state stored known => rw [new] at known; cases known
  | stateless absent known => rw [new] at known; cases known
  | unprojected error _ failed => exact seen_ne new rfl
  | unchanged incoming state stored _ projected same => exact seen_ne new (written _ _)
  | undumped incoming _ projected undumpable => exact seen_ne new (written _ _)
  | refused incoming error _ projected changes raised => exact seen_ne new (written _ _)
  | committed incoming commit _ projected changes continues answers =>
      exact seen_ne new (written _ _)

end Failure

/-! ## A reading without a timezone -/

/-- The first reading of the order, with its timezone missing. The call raises once the
observation is recorded. -/
def naiveReading : Observation where
  observationId := "obs_shopify_1001"
  connector := "shopify"
  objectType := "order"
  objectId := "1001"
  observedAt := ⟨0, none⟩
  payload := Dict.ofList [("id", .str "1001"), ("status", .str "open")]
  valid := by decide +kernel

def ingestNaive : Outcome PyError WorldStateService OrderState :=
  fresh.ingest .plain (.numbered 1) "demo" naiveReading "observation" "observed"

def naiveTimeError : PyError := .typeError "can't subtract offset-naive and offset-aware datetimes"

theorem failed_ingest_traceless_sample :
    ingestNaive.state = fresh <->
      fresh.observations.contains ("demo", "obs_shopify_1001") = true := by
  have failed : ingestNaive.result = .error naiveTimeError := by decide +kernel
  exact failed_ingest_traceless_iff .plain fresh (.numbered 1) "demo" naiveReading "observation"
    "observed" failed

/-- The failed call changes the service, and the corrected reading is refused after
it, which would be accepted before. -/
theorem failed_ingest_leaves_trace :
    ingestNaive.result = .error naiveTimeError ∧ ingestNaive.state ≠ fresh ∧
      (ingestNaive.state.ingest .plain (.numbered 2) "demo" openReading "observation"
        "observed").result = .error (.keyError "1001") ∧
      (fresh.ingest .plain (.numbered 2) "demo" openReading "observation" "observed").result.toBool =
        true := by
  decide +kernel

end WorldState
end RealityLayer
