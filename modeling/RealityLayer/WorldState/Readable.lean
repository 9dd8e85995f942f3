import RealityLayer.WorldState.Disputes
import RealityLayer.WorldState.Loading
import RealityLayer.WorldState.Queries
import RealityLayer.WorldState.Records

namespace RealityLayer
namespace WorldState

open Foundation Python RealityGit WorldStateService

/-!
# Records that can be read back

An attribute and a candidate are stored as their dumps.  The dump of a value that is no
JSON loses it, validation refuses a confidence outside of the unit interval, and the text
of a naive time says nothing about an instant.  None of this happens to what the service
puts into its records, when the calls bring JSON.

A time may be read in another zone.  The records before and after are therefore `Alike`:
equal in every field, except that times only denote the same instants.
-/

/-! ## Records up to the zone of their times -/

def StateAttribute.Alike (attr other : StateAttribute) : Prop :=
  other.observedAt.instant? = attr.observedAt.instant? ∧
    other = { attr with observedAt := other.observedAt }

def ConflictCandidate.Alike (candidate other : ConflictCandidate) : Prop :=
  other.observedAt.instant? = candidate.observedAt.instant? ∧
    other = { candidate with observedAt := other.observedAt }

structure OrderState.Alike (state other : OrderState) : Prop where
  attributes : Dict.Matches (fun name attr name' attr' => name = name' ∧ attr.Alike attr')
    state.attributes other.attributes
  rest : other = { state with attributes := other.attributes }

structure Conflict.Alike (conflict other : Conflict) : Prop where
  candidates : List.Forall₂ ConflictCandidate.Alike conflict.candidates other.candidates
  detectedAt : other.detectedAt.instant? = conflict.detectedAt.instant?
  resolvedAt : other.resolvedAt.map Timestamp.instant? = conflict.resolvedAt.map Timestamp.instant?
  rest : other = { conflict with
    candidates := other.candidates
    detectedAt := other.detectedAt
    resolvedAt := other.resolvedAt }

/-- What is assumed of times: their text and a column of the database keep the instant. The
wall clock and the offset may change on the way. -/
structure TimesKept (rt : Runtime) (zone : Timestamp -> Timestamp) : Prop where
  text : forall time instant, time.instant? = some instant -> Exists fun other : Timestamp =>
    rt.parseIsoformat (rt.isoformat time) = some other ∧ other.instant? = some instant
  column : forall time instant, time.instant? = some instant -> (zone time).instant? = some instant

/-! ## What a dump keeps -/

/-- A value, a confidence and a time that can be read back from a dump. A value that is not
finite comes back as null, and a naive time not as an instant. -/
structure Legible (value : Json) (confidence : PyFloat) (time : Timestamp) : Prop where
  value : value.finite = true
  confidence : confidence.inUnit = true
  aware : Exists fun instant : Int => time.instant? = some instant

def StateAttribute.Legible (attr : StateAttribute) : Prop :=
  WorldState.Legible attr.value attr.confidence attr.observedAt

def ConflictCandidate.Legible (candidate : ConflictCandidate) : Prop :=
  WorldState.Legible candidate.value candidate.confidence candidate.observedAt

/-- The times of a conflict have a timezone. Both are read from the clock, and neither from
an observation. -/
structure Conflict.Timed (conflict : Conflict) : Prop where
  detected : Exists fun instant : Int => conflict.detectedAt.instant? = some instant
  resolved : forall time, conflict.resolvedAt = some time ->
    Exists fun instant : Int => time.instant? = some instant

structure Conflict.Legible (conflict : Conflict) : Prop where
  candidates : forall candidate, candidate ∈ conflict.candidates -> candidate.Legible
  times : conflict.Timed

section Dumps

variable {rt : Runtime} {zone : Timestamp -> Timestamp}

theorem StateAttribute.Legible.reread {attr : StateAttribute} (legible : attr.Legible)
    (times : TimesKept rt zone) :
    Exists fun other : StateAttribute => attr.reread rt = some other ∧ attr.Alike other := by
  rcases legible.aware with ⟨instant, aware⟩
  rcases times.text _ instant aware with ⟨time, parsed, same⟩
  refine ⟨{ attr with observedAt := time }, ?_, same.trans aware.symm, rfl⟩
  unfold StateAttribute.reread
  rw [if_pos legible.confidence, parsed, Json.jsonMode_of_finite _ legible.value]
  rfl

theorem ConflictCandidate.Legible.modelValidate_dump {candidate : ConflictCandidate}
    (legible : candidate.Legible) (times : TimesKept rt zone) :
    Exists fun other : ConflictCandidate =>
      ConflictCandidate.modelValidate rt (candidate.dump rt) = .ok other ∧ candidate.Alike other := by
  rcases legible.aware with ⟨instant, aware⟩
  rcases times.text _ instant aware with ⟨time, parsed, same⟩
  have bounded : candidate.confidence.inUnit = true := legible.confidence
  have plain : candidate.value.jsonMode = candidate.value := Json.jsonMode_of_finite _ legible.value
  refine ⟨{ candidate with observedAt := time }, ?_, same.trans aware.symm, rfl⟩
  unfold ConflictCandidate.modelValidate ConflictCandidate.dump
  simp [Actions.readOr, Actions.onlyKeys, Dict.lookup, Json.entries?, Json.float?, Json.text?, guard,
    bounded, parsed, plain]

/-- All attributes are read back, name by name. -/
theorem Reread.of_readable {state : OrderState} (times : TimesKept rt zone)
    (readable : state.attributes.All (fun _ => StateAttribute.Legible)) :
    Exists fun other : OrderState => Reread rt state other ∧ state.Alike other := by
  let other : OrderState := { state with
    attributes := state.attributes.mapValues (fun _ attr => (attr.reread rt).getD attr) }
  have entries : forall relates : StateAttribute -> StateAttribute -> Prop,
      (forall attr, attr.Legible -> relates attr ((attr.reread rt).getD attr)) ->
        Dict.Matches (fun name attr name' attr' => name = name' ∧ relates attr attr') state.attributes
          other.attributes := by
    intro relates related
    unfold Dict.Matches
    refine List.forall₂_map_right_iff.mpr (List.forall₂_same.mpr (fun entry member => ⟨rfl, ?_⟩))
    exact related entry.2 (readable entry.1 entry.2 ((Dict.mem_entries_iff _ _ _).mp member))
  refine ⟨other, ⟨rfl, rfl, rfl, rfl, rfl, entries _ ?_⟩, ⟨entries _ ?_, rfl⟩⟩
  · intro attr legible
    rcases legible.reread times with ⟨read, same, _⟩
    rw [same]
    rfl
  · intro attr legible
    rcases legible.reread times with ⟨read, same, alike⟩
    rw [same]
    exact alike

end Dumps

/-! ## What the service puts into its records -/

/-- The values that a call brings are JSON. -/
def WorldCall.jsonValued : WorldCall -> Bool
  | .ingest _ _ observation _ _ => (Json.dict observation.payload.entries).finite
  | .resolveConflict _ _ _ resolvedValue _ _ => resolvedValue.finite

/-- The World State service under calls that bring JSON. -/
def jsonSystem (rt : Runtime) : System WorldStateService WorldCall :=
  (worldSystem rt).restrict (fun _ call => call.jsonValued = true)

instance (rt : Runtime) (service : WorldStateService) (call : WorldCall) :
    Decidable ((jsonSystem rt).admits service call) :=
  inferInstanceAs (Decidable (service.DrawsFresh call ∧ call.jsonValued = true))

/-- Values, confidences and times come from observations with JSON and from resolutions. -/
def legibleReadings : Requirements := .ofReadings WorldState.Legible

/-- The times of conflicts come from the clock. -/
def timedConflicts : Requirements where
  state := fun _ _ => True
  commit := fun _ => True
  head := fun _ => True
  conflict := Conflict.Timed

section Calls

variable {rt : Runtime} {service : WorldStateService}

theorem legibleReadings_perform (met : legibleReadings.MetBy service) {call : WorldCall}
    (json : call.jsonValued = true) : legibleReadings.MetBy (service.perform rt call) := by
  cases call with
  | ingest draws tenantId observation cause assuranceLevel =>
      refine (met.ingest (Requirements.ofReadings_ingestible rt met cause assuranceLevel ?_)).1
      intro incoming projected name value read
      have member := (Dict.mem_entries_iff _ name value).mpr read
      have finite : (Json.dict observation.payload.entries).finite = true := json
      rw [Json.finite, finiteEntries_eq_all, List.all_eq_true] at finite
      exact ⟨finite _ member, projectedConfidence_inUnit name, aware_of_project projected⟩
  | resolveConflict draws tenantId conflictId resolvedValue resolvedBy reason =>
      refine (met.resolveConflict (Requirements.ofReadings_resolvable rt service draws tenantId conflictId
        resolvedBy reason ?_)).1
      intro conflict known
      exact ⟨json, resolved_inUnit (fun candidate member => (known candidate member).confidence) _ _,
        ⟨_, rfl⟩⟩

theorem timedConflicts_perform (met : timedConflicts.MetBy service) (call : WorldCall) :
    timedConflicts.MetBy (service.perform rt call) := by
  cases call with
  | ingest draws tenantId observation cause assuranceLevel =>
      refine (met.ingest ⟨fun incoming _ => ⟨?_, ?_⟩, fun _ _ _ _ _ _ => ⟨trivial, trivial, trivial⟩⟩).1
      · intro place entry existing _ _
        exact ⟨⟨_, rfl⟩, nofun⟩
      · intro conflict entry _ timed
        exact ⟨timed.detected, timed.resolved⟩
  | resolveConflict draws tenantId conflictId resolvedValue resolvedBy reason =>
      refine (met.resolveConflict ⟨?_, fun _ _ _ _ _ _ _ => ⟨trivial, trivial, trivial⟩⟩).1
      intro conflict timed
      refine ⟨timed.detected, fun time same => ?_⟩
      cases same
      exact ⟨_, rfl⟩

end Calls

/-! ## Runs -/

section Runs

variable {rt : Runtime} {history : List (Step WorldStateService WorldCall)}
variable {service moment : WorldStateService}

theorem legibleReadings_of_run (run : (jsonSystem rt).Run history service) :
    legibleReadings.MetBy service := by
  apply run.invariant
  · rintro _ rfl
    exact .fresh legibleReadings
  · intro service call met admitted
    exact legibleReadings_perform met admitted.2

theorem timedConflicts_of_run (run : (jsonSystem rt).Run history service) :
    timedConflicts.MetBy service := by
  apply run.invariant
  · rintro _ rfl
    exact .fresh timedConflicts
  · intro service call met _
    exact timedConflicts_perform met call

theorem Conflict.Legible.of_run (run : (jsonSystem rt).Run history service) {key : Text × Text}
    {conflict : Conflict} (held : service.conflictsById.get? key = some conflict) : conflict.Legible where
  candidates := (legibleReadings_of_run run).conflicts key conflict held
  times := (timedConflicts_of_run run).conflicts key conflict held

/-- A run visits what another run reaches. -/
theorem reaches_moment (run : (jsonSystem rt).Run history service) (member : moment ∈ moments history) :
    Exists fun front => (jsonSystem rt).Run front moment := by
  rcases List.mem_cons.mp member with rfl | later
  · exact ⟨[], .begin rfl⟩
  · rcases List.mem_map.mp later with ⟨step, taken, rfl⟩
    rcases run.reaches_step taken with ⟨⟨admitted, after⟩, front, earlier⟩
    rw [after]
    exact ⟨_, .extend step.label earlier admitted⟩

end Runs

end WorldState
end RealityLayer
