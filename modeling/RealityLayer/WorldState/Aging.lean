import RealityLayer.WorldState.Disputes

namespace RealityLayer
namespace WorldState

open Foundation Python RealityGit WorldStateService

/-!
# Values that outlive their window

A held value blocks another source while it is labelled fresh.  The label is given when
the value is projected or resolved, and nothing takes it back: `ingest` looks at the
label and not at the clock.  So a value can block long after its window has passed.

An aged value gives way exactly when its label does not say fresh, or when nothing has to
give way.
-/

/-! ## Old values at an instant -/

/-- The value is at most a window old. This asks the clock, where the service asks the label. -/
def FreshAt (now : Int) (existing : StateAttribute) : Prop :=
  forall observed, existing.observedAt.instant? = some observed -> now - observed ≤ freshnessWindow

instance (now : Int) (existing : StateAttribute) : Decidable (FreshAt now existing) :=
  decidable_of_iff (forall observed, observed ∈ existing.observedAt.instant? ->
    now - observed ≤ freshnessWindow) Iff.rfl

/-- The value is held, or one with the same dump is. Only dumps are compared when a reading
is taken in. -/
def Shows (held : Dict Text StateAttribute) (name : Text) (value : Json) : Prop :=
  (held.get? name).map StateAttribute.value = some value ∨
    (dumpedValue held name).pyEq value.jsonMode = true

/-- What a service holds of the object of an observation. An unknown object has no attributes. -/
def heldOf (service : WorldStateService) (tenantId : Text) (observation : Observation) :
    Dict Text StateAttribute :=
  heldAttributes (service.states.get? (tenantId, observation.objectType, observation.objectId))

/-- The open conflict about an attribute of that object. There is at most one, as the index
has one place for it. -/
def openOf (service : WorldStateService) (tenantId : Text) (observation : Observation) (name : Text) :
    Option Conflict :=
  service.openConflict? tenantId observation.objectType observation.objectId name

/-- Only values within their window are kept against a reading, and aged ones give way.
Freshness is measured here by the clock of the reading, where the code reads the label of the
value's own ingest. -/
structure OnlyFreshBlock (service after : WorldStateService) (now : Int) (tenantId : Text)
    (observation : Observation) : Prop where
  blocking : forall name value existing, observation.payload.get? name = some value ->
    (heldOf service tenantId observation).get? name = some existing ->
    (heldOf after tenantId observation).get? name = some existing ->
    openOf after tenantId observation name ≠ openOf service tenantId observation name ->
    FreshAt now existing
  aged : forall name value existing, observation.payload.get? name = some value ->
    (heldOf service tenantId observation).get? name = some existing -> ¬ FreshAt now existing ->
    Shows (heldOf after tenantId observation) name value ∧
      openOf after tenantId observation name = openOf service tenantId observation name

/-- Each value labelled fresh that another connector disagrees with is within its window, or
the disagreement is listed already and does not show in JSON. -/
def LabelsCurrent (service : WorldStateService) (now : Int) (tenantId : Text)
    (observation : Observation) : Prop :=
  forall name value existing, Blocked service tenantId observation name value ->
    (heldOf service tenantId observation).get? name = some existing -> FreshAt now existing ∨
      (openOf service tenantId observation name).any (fun conflict =>
          conflict.lists (readAttribute observation (name, value)).2) = true ∧
        Shows (heldOf service tenantId observation) name value

section Aging

variable {rt : Runtime} {service : WorldStateService} {draws : Draws} {tenantId : Text}
variable {observation : Observation} {cause assuranceLevel : Text}

theorem Shows.congr {held held' : Dict Text StateAttribute} {name : Text} {value : Json}
    (same : held'.get? name = held.get? name) (shown : Shows held name value) :
    Shows held' name value := by
  unfold Shows dumpedValue at shown ⊢
  rw [same]
  exact shown

theorem filed_of_run {history : List (Step WorldStateService WorldCall)}
    (run : (drawnSystem rt).Run history service) : Filed service := by
  have sound : Stored service ∧ IndexesAgree service := by
    apply System.Run.invariant run
    · rintro _ rfl
      exact ⟨.fresh, .of_covered .fresh .fresh .fresh⟩
    · rintro service call ⟨stored, agree⟩ admitted
      rcases @request_agree_iff rt service (.call call) stored admitted.2 with ⟨stored', step⟩
      exact ⟨stored', (step agree).mpr trivial⟩
  exact sound.2.filed sound.1

/-- What is not held back leaves the open conflict of its name, and so does what that
conflict lists. -/
theorem files_quiet {after : WorldStateService} {name : Text} {value : Json} {count : Nat}
    (files : Files (heldOf service tenantId observation) (readAttribute observation (name, value)) draws 0
      count (openOf service tenantId observation name) (openOf after tenantId observation name))
    (read : observation.payload.get? name = some value) :
    openOf after tenantId observation name = openOf service tenantId observation name <->
      (Blocked service tenantId observation name value ->
        (openOf service tenantId observation name).any (fun conflict =>
          conflict.lists (readAttribute observation (name, value)).2) = true) := by
  have disputed_iff : disputesReading (heldOf service tenantId observation) observation (name, value) =
      (disputed? (heldOf service tenantId observation) (readAttribute observation (name, value))).isSome :=
    (disputed?_projected _ observation "" (name, value)).symm
  have blocked_iff : Blocked service tenantId observation name value <->
      (disputed? (heldOf service tenantId observation)
        (readAttribute observation (name, value))).isSome = true := by
    rw [← disputed_iff]
    exact ⟨fun blocked => blocked.2, fun disputed => ⟨read, disputed⟩⟩
  rw [blocked_iff]
  generalize openOf service tenantId observation name = before at files ⊢
  generalize openOf after tenantId observation name = now at files ⊢
  cases files with
  | undisputed quiet => simp [quiet]
  | listed existing conflict disputed stored listed =>
      subst stored
      exact ⟨fun _ _ => listed, fun _ => rfl⟩
  | extended existing conflict disputed stored unlisted =>
      subst stored
      refine ⟨fun same => absurd same.symm (extended_ne conflict _), fun lists => ?_⟩
      have listed := lists (by rw [disputed]; rfl)
      rw [Option.any_some, unlisted] at listed
      cases listed
  | opened existing conflict disputed absent drawn =>
      subst absent
      refine ⟨fun same => (by cases same), fun lists => ?_⟩
      have listed := lists (by rw [disputed]; rfl)
      cases listed

/-- In every run, a reading is blocked by values within their window only, exactly when the
labels it meets are current. -/
theorem only_fresh_block_iff {history : List (Step WorldStateService WorldCall)}
    (run : (drawnSystem rt).Run history service)
    (fresh : FreshIds service tenantId draws 0 observation.payload.entries.length)
    (new : service.observations.contains (tenantId, observation.observationId) = false)
    {state : OrderState}
    (returned : (service.ingest rt draws tenantId observation cause assuranceLevel).result = .ok state) :
    OnlyFreshBlock service (service.ingest rt draws tenantId observation cause assuranceLevel).state
        (draws.clock 0) tenantId observation <->
      LabelsCurrent service (draws.clock 0) tenantId observation := by
  rcases ingest_merged new returned with ⟨label, merged⟩
  have files := (ingest_files (filed_of_run run) fresh new returned).1
  generalize service.ingest rt draws tenantId observation cause assuranceLevel = outcome at *
  have quiet := fun {name : Text} {value : Json} (read : observation.payload.get? name = some value) =>
    files_quiet (files (name, value) ((Dict.mem_entries_iff _ _ _).mpr read)) read
  have kept : forall {name value}, Blocked service tenantId observation name value ->
      (heldOf outcome.state tenantId observation).get? name =
        (heldOf service tenantId observation).get? name := by
    intro name value blocked
    refine merged.keeps (fun other read => ?_)
    cases blocked.1.symm.trans read
    exact blocked
  constructor
  · intro rule name value existing blocked held
    by_cases recent : FreshAt (draws.clock 0) existing
    · exact Or.inl recent
    · rcases rule.aged name value existing blocked.1 held recent with ⟨effect, same⟩
      exact Or.inr ⟨(quiet blocked.1).mp same blocked, effect.congr (kept blocked).symm⟩
  · intro current
    refine ⟨?_, ?_⟩
    · intro name value existing read held _ changed
      by_contra aged
      refine changed ((quiet read).mpr (fun blocked => ?_))
      exact ((current name value existing blocked held).resolve_left aged).1
    · intro name value existing read held aged
      by_cases blocked : Blocked service tenantId observation name value
      · rcases (current name value existing blocked held).resolve_left aged with ⟨listed, effect⟩
        exact ⟨effect.congr (kept blocked), (quiet read).mpr (fun _ => listed)⟩
      · refine ⟨?_, (quiet read).mpr (fun held => absurd held blocked)⟩
        rcases merged.value read blocked with taken | ⟨states, same⟩
        · exact Or.inl taken
        · refine Or.inr ?_
          unfold heldOf
          rw [states]
          exact same

end Aging

/-! ## A second source, ten minutes later -/

def tenMinutes : Int := 600000000

/-- The back office reports the order cancelled, as it is then. By that time the value held
has outlived its window, but not its label. -/
def lateReading : Observation where
  observationId := "obs_backoffice_1001"
  connector := "backoffice"
  objectType := "order"
  objectId := "1001"
  observedAt := .utc tenMinutes
  payload := Dict.ofList [("status", .str "cancelled")]
  valid := by decide +kernel

/-- The order as it was observed at the start. -/
def observedEarly : List WorldCall := [.ingest (drawsAt 10 0) "demo" openReading "observation" "observed"]

def servedEarly : WorldStateService := ((drawnSystem .plain).trace .fresh observedEarly).2

/-- A disagreement after a moment is kept against a value that is fresh. -/
theorem only_fresh_block_sample :
    OnlyFreshBlock servedEarly (servedEarly.ingest .plain (drawsAt 20 1) "demo" disagreeingReading
        "observation" "observed").state 1 "demo" disagreeingReading ∧
      Blocked servedEarly "demo" disagreeingReading "status" (.str "cancelled") := by
  have facts : (drawnSystem .plain).AdmitsAll .fresh observedEarly ∧
      FreshIds servedEarly "demo" (drawsAt 20 1) 0 disagreeingReading.payload.entries.length ∧
      servedEarly.observations.contains ("demo", disagreeingReading.observationId) = false ∧
      (servedEarly.ingest .plain (drawsAt 20 1) "demo" disagreeingReading "observation"
        "observed").result.toOption.isSome = true ∧
      (heldOf servedEarly "demo" disagreeingReading).values.all (fun existing =>
        decide (FreshAt 1 existing)) = true ∧
      Blocked servedEarly "demo" disagreeingReading "status" (.str "cancelled") := by
    decide +kernel
  rcases facts with ⟨admitted, fresh, new, answered, recent, blocked⟩
  rcases Option.isSome_iff_exists.mp answered with ⟨state, returned⟩
  have run := System.run_trace observedEarly rfl admitted
  refine ⟨(only_fresh_block_iff run fresh new (ok_of_toOption returned)).mpr ?_, blocked⟩
  intro name value existing _ held
  have member := (Dict.mem_values_iff _ _).mpr ⟨name, held⟩
  exact Or.inl (of_decide_eq_true (List.all_eq_true.mp recent existing member))

/-- After ten minutes the old value is out of its window, and still keeps a second source
out: the status stays open, and a conflict is opened. -/
theorem aged_value_blocks :
    (drawnSystem .plain).AdmitsAll .fresh
        (observedEarly ++ [.ingest (drawsAt 20 tenMinutes) "demo" lateReading "observation" "observed"]) ∧
      servedEarly.observations.contains ("demo", lateReading.observationId) = false ∧
      (forall existing, (heldOf servedEarly "demo" lateReading).get? "status" = some existing ->
        ¬ FreshAt tenMinutes existing) ∧
      let after := (servedEarly.ingest .plain (drawsAt 20 tenMinutes) "demo" lateReading "observation"
        "observed").state
      ((heldOf after "demo" lateReading).get? "status").map StateAttribute.value = some (.str "open") ∧
        (openOf servedEarly "demo" lateReading "status").isSome = false ∧
        (openOf after "demo" lateReading "status").isSome = true ∧
        ¬ OnlyFreshBlock servedEarly after tenMinutes "demo" lateReading := by
  have facts : (drawnSystem .plain).AdmitsAll .fresh
        (observedEarly ++ [.ingest (drawsAt 20 tenMinutes) "demo" lateReading "observation" "observed"]) ∧
      servedEarly.observations.contains ("demo", lateReading.observationId) = false ∧
      ((heldOf servedEarly "demo" lateReading).get? "status").any (fun existing =>
        !decide (FreshAt tenMinutes existing)) = true ∧
      let after := (servedEarly.ingest .plain (drawsAt 20 tenMinutes) "demo" lateReading "observation"
        "observed").state
      ((heldOf after "demo" lateReading).get? "status").map StateAttribute.value = some (.str "open") ∧
        (openOf servedEarly "demo" lateReading "status").isSome = false ∧
        (openOf after "demo" lateReading "status").isSome = true := by
    decide +kernel
  rcases facts with ⟨admitted, new, aged, open_, before, opened⟩
  rcases (Option.any_eq_true _ _).mp aged with ⟨existing, held, old⟩
  rw [Bool.not_eq_true', decide_eq_false_iff_not] at old
  refine ⟨admitted, new, ?_, open_, before, opened, fun rule => ?_⟩
  · intro other found
    cases held.symm.trans found
    exact old
  · have same := (rule.aged "status" (.str "cancelled") existing (by decide +kernel) held old).2
    rw [same, before] at opened
    cases opened

end WorldState
end RealityLayer
