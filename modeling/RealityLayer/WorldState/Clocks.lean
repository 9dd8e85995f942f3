import RealityLayer.WorldState.Compiling
import RealityLayer.WorldState.Entities

namespace RealityLayer
namespace WorldState

open Foundation Python RealityGit WorldStateService

/-!
# Replaying observations under two clocks

`ingest` reads the clock once, to label the new attributes fresh or stale.  The label
goes into the state, and the next disagreeing connector is held back or not according
to it.  Two replays of one list therefore part only where the labels of a held value
decide differently about a dispute.

`timeless` forgets the labels and the identifiers.  Two replays whose services agree
up to that are taken in lockstep: as long as the held values dispute the same readings
in both, the two services change alike and create the same commits.
-/

/-! ## What the clocks do not decide -/

/-- An attribute without its freshness label. The label is the only part of an ingested
attribute that depends on the clock. -/
def StateAttribute.timeless (attr : StateAttribute) : StateAttribute := { attr with freshness := "" }

def timelessAttributes (attributes : Dict Text StateAttribute) : Dict Text StateAttribute :=
  attributes.mapValues (fun _ attr => attr.timeless)

/-- A state without labels and without its generated identifier. This is what two runs of the
same readings should agree on. -/
def OrderState.timeless (state : OrderState) : OrderState :=
  { state with attributes := timelessAttributes state.attributes, commitId := "" }

/-- The values of a dumped attribute map, name by name. -/
def dumpedValues (dump : Dict Text Json) : Dict Text Json :=
  dump.mapValues (fun _ entry => attributeValue (some entry))

/-- What a commit says about its entity: the changed names, the values before and
after, and the observations behind them. -/
structure CommitAccount where
  entity : Text × Text × Text
  semanticDiff : Dict Text Json
  before : Dict Text Json
  after : Dict Text Json
  observationIds : List Text
deriving DecidableEq

def CommitRecord.account (commit : CommitRecord) : CommitAccount where
  entity := commit.entityKey
  semanticDiff := commit.semanticDiff
  before := dumpedValues commit.before
  after := dumpedValues commit.after
  observationIds := commit.observationIds

/-- Two services hold the same reality: the same observations were seen, and the
states agree up to labels and identifiers. -/
structure SameReality (first second : WorldStateService) : Prop where
  observations : first.observations = second.observations
  states : forall key, (first.states.get? key).map OrderState.timeless =
    (second.states.get? key).map OrderState.timeless

/-! ## Diffs and accounts -/

theorem attributeValue_eq (dump : Dict Text Json) (name : Text) :
    attributeValue (dump.get? name) = ((dumpedValues dump).get? name).getD .null := by
  rw [dumpedValues, Dict.get?_mapValues]
  cases dump.get? name with
  | none => rfl
  | some entry => rfl

theorem attributeValue_dump (rt : Runtime) (attributes : Dict Text StateAttribute) (name : Text) :
    attributeValue ((dumpAttributes rt attributes).get? name) =
      (((attributes.get? name).map StateAttribute.value).map Json.jsonMode).getD .null := by
  rw [dumpAttributes, Dict.get?_mapValues]
  cases attributes.get? name with
  | none => rfl
  | some attr => rfl

theorem changedNames_congr {before after before' after' : Dict Text Json}
    (same : dumpedValues before = dumpedValues before')
    (same' : dumpedValues after = dumpedValues after') :
    changedNames before after = changedNames before' after' := by
  have keys : before.keys = before'.keys := by
    rw [← Dict.keys_mapValues before (fun _ entry => attributeValue (some entry)),
      ← Dict.keys_mapValues before' (fun _ entry => attributeValue (some entry))]
    exact congrArg Dict.keys same
  have keys' : after.keys = after'.keys := by
    rw [← Dict.keys_mapValues after (fun _ entry => attributeValue (some entry)),
      ← Dict.keys_mapValues after' (fun _ entry => attributeValue (some entry))]
    exact congrArg Dict.keys same'
  unfold changedNames
  rw [keys, keys']
  refine congrArg sortedNames (List.filter_congr (fun name _ => ?_))
  rw [attributeValue_eq before, attributeValue_eq before', attributeValue_eq after,
    attributeValue_eq after', same, same']

theorem dumpedValues_dump (rt : Runtime) (attributes : Dict Text StateAttribute) :
    dumpedValues (dumpAttributes rt attributes) =
      (timelessAttributes attributes).mapValues (fun _ attr => attr.value.jsonMode) := by
  rw [dumpedValues, dumpAttributes, timelessAttributes, Dict.mapValues_mapValues,
    Dict.mapValues_mapValues]
  rfl

/-- Equal timeless attributes dump to equal values. -/
theorem dumpedValues_congr (rt : Runtime) {first second : Dict Text StateAttribute}
    (same : timelessAttributes first = timelessAttributes second) :
    dumpedValues (dumpAttributes rt first) = dumpedValues (dumpAttributes rt second) := by
  rw [dumpedValues_dump, dumpedValues_dump, same]

/-! ## Merging -/

/-- Merging keeps two attribute maps alike while the disputes are. -/
theorem timeless_mergeAttributes (observation : Observation) (label label' : Text)
    {held held' : Dict Text StateAttribute} (entries : List (Text × Json))
    (alike : forall entry, entry ∈ entries ->
      disputesReading held observation entry = disputesReading held' observation entry)
    {merged merged' : Dict Text StateAttribute}
    (same : timelessAttributes merged = timelessAttributes merged') :
    timelessAttributes (mergeAttributes held (entries.map (fun entry =>
        (entry.1, projectedAttribute observation label entry.1 entry.2))) merged) =
      timelessAttributes (mergeAttributes held' (entries.map (fun entry =>
        (entry.1, projectedAttribute observation label' entry.1 entry.2))) merged') := by
  induction entries generalizing merged merged' with
  | nil => exact same
  | cons entry rest ih =>
      have later := fun other member => alike other (List.mem_cons_of_mem entry member)
      have now := alike entry List.mem_cons_self
      rw [← disputed?_projected held observation label, ← disputed?_projected held' observation label']
        at now
      rw [List.map_cons, List.map_cons, mergeAttributes, mergeAttributes]
      cases first : disputed? held (entry.1, projectedAttribute observation label entry.1 entry.2) with
      | some existing =>
          rw [first] at now
          rcases Option.isSome_iff_exists.mp now.symm with ⟨existing', second⟩
          rw [second]
          exact ih later same
      | none =>
          rw [first] at now
          rw [Option.not_isSome_iff_eq_none.mp (Bool.eq_false_iff.mp now.symm)]
          apply ih later
          unfold timelessAttributes at same ⊢
          rw [Dict.mapValues_set, Dict.mapValues_set, same]
          rfl

/-! ## Hashing -/

section Hashing

variable (rt : Runtime)

theorem encodable_dump (attr : StateAttribute) (labelled : attr.freshness.encodable = true) :
    encodableJson rt (attr.dump rt) = encodableJson rt (attr.timeless.dump rt) := by
  have blank : Text.encodable "" = true := rfl
  simp only [StateAttribute.dump, StateAttribute.timeless, encodableJson, encodableEntries, labelled,
    blank]

theorem finite_dump (attr : StateAttribute) :
    (attr.dump rt).finite = (attr.timeless.dump rt).finite := by
  simp only [StateAttribute.dump, StateAttribute.timeless, Json.finite, Json.finiteEntries]

theorem hashableEntries_timeless {attributes : Dict Text StateAttribute}
    (labelled : Labelled attributes) :
    hashableEntries rt (dumpAttributes rt attributes).entries =
      hashableEntries rt (dumpAttributes rt (timelessAttributes attributes)).entries := by
  have known : forall entry, entry ∈ attributes.entries -> entry.2.freshness.encodable = true :=
    fun entry member => labelled entry.1 entry.2 ((attributes.mem_entries_iff entry.1 entry.2).mp member)
  unfold hashableEntries dumpAttributes timelessAttributes Dict.mapValues
  dsimp only
  rw [List.map_map]
  generalize attributes.entries = entries at known
  congr 1
  · clear known
    induction entries with
    | nil => rfl
    | cons entry rest ih =>
        rw [List.map_cons, List.map_cons, Json.finiteEntries, Function.comp_apply, Json.finiteEntries,
          finite_dump, ih]
  · induction entries with
    | nil => rfl
    | cons entry rest ih =>
        rw [List.map_cons, List.map_cons, encodableEntries, Function.comp_apply, encodableEntries,
          encodable_dump rt entry.2 (known entry List.mem_cons_self),
          ih (fun other member => known other (List.mem_cons_of_mem _ member))]

theorem hashableEntries_congr {first second : Dict Text StateAttribute} (left : Labelled first)
    (right : Labelled second) (same : timelessAttributes first = timelessAttributes second) :
    hashableEntries rt (dumpAttributes rt first).entries =
      hashableEntries rt (dumpAttributes rt second).entries := by
  rw [hashableEntries_timeless rt left, hashableEntries_timeless rt right, same]

theorem dumpsAll_timeless (attributes : Dict Text StateAttribute) :
    dumpsAll rt (timelessAttributes attributes) = dumpsAll rt attributes :=
  dumpsAll_mapValues attributes (fun _ _ => rfl)

theorem dumpsAll_congr {first second : Dict Text StateAttribute}
    (same : timelessAttributes first = timelessAttributes second) :
    dumpsAll rt first = dumpsAll rt second := by
  rw [← dumpsAll_timeless, ← dumpsAll_timeless rt second, same]

end Hashing

/-! ## Two services in lockstep -/

theorem heldAttributes_congr {previous previous' : Option OrderState}
    (same : previous.map OrderState.timeless = previous'.map OrderState.timeless) :
    timelessAttributes (heldAttributes previous) = timelessAttributes (heldAttributes previous') := by
  cases previous with
  | none =>
      cases previous' with
      | none => rfl
      | some state => cases same
  | some state =>
      cases previous' with
      | none => cases same
      | some state' => exact congrArg OrderState.attributes (Option.some.inj same)

section Pair

variable {rt : Runtime} {tenantId : Text} {observation : Observation} {cause assuranceLevel : Text}
variable {previous previous' : Option OrderState} {label label' : Text}

/-- The held values of two states dispute the same parts of a reading. Whether a value
disputes depends on its label, and so on the clock. -/
def StatesAlike (observation : Observation) (previous previous' : Option OrderState) : Prop :=
  forall entry, entry ∈ observation.payload.entries ->
    disputesReading (heldAttributes previous) observation entry =
      disputesReading (heldAttributes previous') observation entry

theorem compiledAttributes_congr
    (same : previous.map OrderState.timeless = previous'.map OrderState.timeless)
    (alike : StatesAlike observation previous previous') (label label' : Text) :
    timelessAttributes (compiledAttributes previous (projectedReading observation label)) =
      timelessAttributes (compiledAttributes previous' (projectedReading observation label')) :=
  timeless_mergeAttributes observation label label' observation.payload.entries alike
    (heldAttributes_congr same)

theorem ingestChanges_congr (rt : Runtime)
    (same : previous.map OrderState.timeless = previous'.map OrderState.timeless)
    (alike : StatesAlike observation previous previous') (label label' : Text) :
    ingestChanges rt previous (projectedReading observation label) =
      ingestChanges rt previous' (projectedReading observation label') := by
  unfold ingestChanges
  rw [attributesFor_held, attributesFor_held]
  exact changedNames_congr (dumpedValues_congr rt (heldAttributes_congr same))
    (dumpedValues_congr rt (compiledAttributes_congr same alike label label'))

theorem commits_congr (rt : Runtime) (tenantId cause assuranceLevel : Text)
    (same : previous.map OrderState.timeless = previous'.map OrderState.timeless)
    (alike : StatesAlike observation previous previous') (held : Labelled (heldAttributes previous))
    (held' : Labelled (heldAttributes previous')) (named : label.encodable = true)
    (named' : label'.encodable = true) :
    commits rt tenantId observation cause assuranceLevel previous (projectedReading observation label) =
      commits rt tenantId observation cause assuranceLevel previous'
        (projectedReading observation label') := by
  have present : previous.isNone = previous'.isNone := by
    rw [← Option.isNone_map (f := OrderState.timeless), same, Option.isNone_map]
  have before : hashableEntries rt (attributesFor rt previous).entries =
      hashableEntries rt (attributesFor rt previous').entries := by
    rw [attributesFor_held, attributesFor_held]
    exact hashableEntries_congr rt held held' (heldAttributes_congr same)
  have after : hashableEntries rt (dumpAttributes rt
        (compiledAttributes previous (projectedReading observation label))).entries =
      hashableEntries rt (dumpAttributes rt
        (compiledAttributes previous' (projectedReading observation label'))).entries :=
    hashableEntries_congr rt
      (labelled_mergeAttributes observation named observation.payload.entries held)
      (labelled_mergeAttributes observation named' observation.payload.entries held')
      (compiledAttributes_congr same alike label label')
  have dumps : dumpsChange rt previous (compiledAttributes previous (projectedReading observation label)) =
      dumpsChange rt previous'
        (compiledAttributes previous' (projectedReading observation label')) := by
    have heldDumps := dumpsAll_congr rt (heldAttributes_congr same)
    have compiledDumps := dumpsAll_congr rt (compiledAttributes_congr same alike label label')
    unfold heldAttributes at heldDumps
    unfold dumpsChange
    rw [heldDumps, compiledDumps]
  unfold commits compilable CommitRequest.hashable ingestRequest
  dsimp only
  rw [present, ingestChanges_congr rt same alike label label', before, after, dumps]

/-- The commits of two alike readings tell the same. -/
theorem account_congr {commit commit' : CommitRecord} {draws draws' : Draws}
    (same : previous.map OrderState.timeless = previous'.map OrderState.timeless)
    (alike : StatesAlike observation previous previous')
    (answers : Answers (ingestRequest rt tenantId observation cause assuranceLevel previous
      (projectedReading observation label)) draws commit)
    (answers' : Answers (ingestRequest rt tenantId observation cause assuranceLevel previous'
      (projectedReading observation label')) draws' commit') :
    commit.account = commit'.account := by
  have before : dumpedValues (attributesFor rt previous) = dumpedValues (attributesFor rt previous') := by
    rw [attributesFor_held, attributesFor_held]
    exact dumpedValues_congr rt (heldAttributes_congr same)
  have after := dumpedValues_congr rt (compiledAttributes_congr same alike label label')
  have changes := ingestChanges_congr rt same alike label label'
  unfold CommitRecord.account CommitRecord.entityKey
  rw [answers.tenantId, answers.entityType, answers.entityId, answers.semanticDiff, answers.before,
    answers.after, answers.observationIds, answers'.tenantId, answers'.entityType, answers'.entityId,
    answers'.semanticDiff, answers'.before, answers'.after, answers'.observationIds]
  unfold ingestRequest
  dsimp only
  rw [before, changes, after]

theorem compiledState_congr
    (same : previous.map OrderState.timeless = previous'.map OrderState.timeless)
    (alike : StatesAlike observation previous previous') (commitId commitId' : Text) :
    (compiledState tenantId observation previous (projectedReading observation label)
        commitId).timeless =
      (compiledState tenantId observation previous' (projectedReading observation label')
        commitId').timeless := by
  have version : (previous.map (fun state => state.stateVersion + 1)).getD 1 =
      (previous'.map (fun state => state.stateVersion + 1)).getD 1 := by
    have mapped := congrArg (Option.map (fun state : OrderState => state.stateVersion + 1)) same
    rw [Option.map_map, Option.map_map] at mapped
    exact congrArg (fun version : Option Int => version.getD 1) mapped
  unfold compiledState OrderState.timeless
  dsimp only
  rw [version, compiledAttributes_congr same alike label label']

end Pair

/-- Two services hold one reality, and both can go on writing commits. Their hashes and times
differ, so the second half is not implied by the first for either of them. -/
structure Lockstep (first second : WorldStateService) : Prop where
  same : SameReality first second
  left : Linkable first
  right : Linkable second

/-- The reading repeats one, has no timezone, or is disputed alike in both services. In the
first two cases nothing is compared at all. -/
def ReadsAlike (first second : WorldStateService) (tenantId : Text) (observation : Observation) :
    Prop :=
  first.observations.contains (tenantId, observation.observationId) = true ∨
    observation.observedAt.instant? = none ∨
    StatesAlike observation
      (first.states.get? (tenantId, observation.objectType, observation.objectId))
      (second.states.get? (tenantId, observation.objectType, observation.objectId))

instance (observation : Observation) (previous previous' : Option OrderState) :
    Decidable (StatesAlike observation previous previous') :=
  inferInstanceAs (Decidable (forall entry, entry ∈ observation.payload.entries -> _))

instance (first second : WorldStateService) (tenantId : Text) (observation : Observation) :
    Decidable (ReadsAlike first second tenantId observation) :=
  inferInstanceAs (Decidable (_ ∨ _ ∨ _))

section Step

variable {rt : Runtime} {tenantId : Text} {observation : Observation} {cause assuranceLevel : Text}
variable {service first second : WorldStateService} {draws draws' : Draws}

/-- Alike readings compiled to the same effect tell the same and lead to one reality. -/
theorem Compiled.pair {label label' : Text} {accepted : Bool} {entry entry' : Option CommitRecord}
    {after after' : WorldStateService} (same : SameReality first second)
    (alike : StatesAlike observation
      (first.states.get? (tenantId, observation.objectType, observation.objectId))
      (second.states.get? (tenantId, observation.objectType, observation.objectId)))
    (compiled : Compiled rt first draws tenantId observation cause assuranceLevel
      (first.states.get? (tenantId, observation.objectType, observation.objectId))
      (projectedReading observation label) accepted entry after)
    (compiled' : Compiled rt second draws' tenantId observation cause assuranceLevel
      (second.states.get? (tenantId, observation.objectType, observation.objectId))
      (projectedReading observation label') accepted entry' after') :
    entry.map CommitRecord.account = entry'.map CommitRecord.account ∧ SameReality after after' := by
  have states := same.states (tenantId, observation.objectType, observation.objectId)
  have kept := merged_same first draws tenantId observation
    (first.states.get? (tenantId, observation.objectType, observation.objectId))
    (projectedReading observation label)
  have kept' := merged_same second draws' tenantId observation
    (second.states.get? (tenantId, observation.objectType, observation.objectId))
    (projectedReading observation label')
  have base : SameReality
      (first.merged draws tenantId observation
        (first.states.get? (tenantId, observation.objectType, observation.objectId))
        (projectedReading observation label))
      (second.merged draws' tenantId observation
        (second.states.get? (tenantId, observation.objectType, observation.objectId))
        (projectedReading observation label')) := by
    refine ⟨?_, fun key => ?_⟩
    · rw [kept.observations, kept'.observations, seen, seen, same.observations]
    · rw [kept.states, kept'.states]
      exact same.states key
  cases compiled with
  | kept =>
      cases compiled' with
      | kept => exact ⟨rfl, base⟩
  | committed commit answers =>
      cases compiled' with
      | committed commit' answers' =>
          refine ⟨congrArg some (account_congr states alike answers answers'), base.observations, ?_⟩
          intro key
          rw [setState, setState, Dict.get?_set, Dict.get?_set]
          by_cases equal : key = (tenantId, observation.objectType, observation.objectId)
          · rw [if_pos equal, if_pos equal]
            exact congrArg some (compiledState_congr states alike commit.commitId commit'.commitId)
          · rw [if_neg equal, if_neg equal]
            exact base.states key

/-- One reading under two clocks: alike disputes lead to like commits and states. -/
theorem Lockstep.ingest (lockstep : Lockstep first second)
    (alike : ReadsAlike first second tenantId observation) :
    Exists fun entry : Option CommitRecord => Exists fun entry' : Option CommitRecord =>
      CommitEffect rt first (newCommitId draws) entry
        (first.ingest rt draws tenantId observation cause assuranceLevel).state ∧
      CommitEffect rt second (newCommitId draws') entry'
        (second.ingest rt draws' tenantId observation cause assuranceLevel).state ∧
      entry.map CommitRecord.account = entry'.map CommitRecord.account ∧
      SameReality (first.ingest rt draws tenantId observation cause assuranceLevel).state
        (second.ingest rt draws' tenantId observation cause assuranceLevel).state := by
  have observations := lockstep.same.observations
  by_cases known : first.observations.contains (tenantId, observation.observationId) = true
  · rw [ingest_known known, ingest_known (observations ▸ known)]
    exact ⟨none, none, .quiet _ rfl rfl, .quiet _ rfl rfl, rfl, lockstep.same⟩
  have new := Bool.eq_false_iff.mpr known
  have new' := new
  rw [observations] at new'
  cases aware : observation.observedAt.instant? with
  | none =>
      rw [ingest_naive new aware, ingest_naive new' aware]
      refine ⟨none, none, .quiet _ rfl rfl, .quiet _ rfl rfl, rfl, ?_, lockstep.same.states⟩
      rw [seen, seen, observations]
  | some observed =>
      have states := lockstep.same.states (tenantId, observation.objectType, observation.objectId)
      have statesAlike : StatesAlike observation
          (first.states.get? (tenantId, observation.objectType, observation.objectId))
          (second.states.get? (tenantId, observation.objectType, observation.objectId)) := by
        rcases alike with repeated | naive | disputes
        · exact absurd repeated known
        · rw [aware] at naive
          cases naive
        · exact disputes
      rcases lockstep.left.compiled rt cause assuranceLevel new
        (project_eq draws aware) rfl with ⟨entry, effect, compiled⟩
      rcases lockstep.right.compiled rt cause assuranceLevel new'
        (project_eq draws' aware) rfl with ⟨entry', effect', compiled'⟩
      have accepted := commits_congr rt tenantId cause assuranceLevel states statesAlike
        (lockstep.left.held _) (lockstep.right.held _) (freshnessLabel_encodable draws observed)
        (freshnessLabel_encodable draws' observed)
      rw [accepted] at compiled
      exact ⟨entry, entry', effect, effect', compiled.pair lockstep.same statesAlike compiled'⟩

end Step

/-! ## Replays -/

/-- One observation of a replayed list, with what the two runs draw for it. The runs read
different clocks and draw different identifiers, and everything else is shared. -/
structure Replay where
  tenantId : Text
  observation : Observation
  cause : Text
  assuranceLevel : Text
  draws : Draws
  draws' : Draws

def Replay.call (replay : Replay) : WorldCall :=
  .ingest replay.draws replay.tenantId replay.observation replay.cause replay.assuranceLevel

def Replay.call' (replay : Replay) : WorldCall :=
  .ingest replay.draws' replay.tenantId replay.observation replay.cause replay.assuranceLevel

/-- Two fresh services that ingest the same observations, each under its own clock. Their
generated identifiers differ as well. -/
def replaySystem (rt : Runtime) : System (WorldStateService × WorldStateService) Replay where
  start := fun pair => pair = (.fresh, .fresh)
  admits := fun pair replay => pair.1.DrawsFresh replay.call ∧ pair.2.DrawsFresh replay.call'
  next := fun pair replay => (pair.1.perform rt replay.call, pair.2.perform rt replay.call')

instance (rt : Runtime) (pair : WorldStateService × WorldStateService) (replay : Replay) :
    Decidable ((replaySystem rt).admits pair replay) :=
  inferInstanceAs (Decidable (pair.1.DrawsFresh replay.call ∧ pair.2.DrawsFresh replay.call'))

/-- The replays in which no dispute depends on the clock. -/
def alikeReplays (rt : Runtime) : System (WorldStateService × WorldStateService) Replay :=
  (replaySystem rt).restrict (fun pair replay =>
    ReadsAlike pair.1 pair.2 replay.tenantId replay.observation)

instance (rt : Runtime) (pair : WorldStateService × WorldStateService) (replay : Replay) :
    Decidable ((alikeReplays rt).admits pair replay) :=
  inferInstanceAs (Decidable ((replaySystem rt).admits pair replay ∧
    ReadsAlike pair.1 pair.2 replay.tenantId replay.observation))

/-- What the two runs of a replay have committed. -/
def replayed (history : List (Step (WorldStateService × WorldStateService) Replay)) :
    List CommitRecord × List CommitRecord :=
  (System.logOf (fun step => createdBetween step.before.1 step.after.1) history,
    System.logOf (fun step => createdBetween step.before.2 step.after.2) history)

/-- Both runs tell the same story: equal values and versions for every entity, and
commits that say the same, one by one. -/
structure SameStory (history : List (Step (WorldStateService × WorldStateService) Replay))
    (pair : WorldStateService × WorldStateService) : Prop where
  values : forall key name, ((pair.1.states.get? key).bind (fun state => state.value? name)) =
    ((pair.2.states.get? key).bind (fun state => state.value? name))
  versions : forall key, (pair.1.states.get? key).map OrderState.stateVersion =
    (pair.2.states.get? key).map OrderState.stateVersion
  commits : (replayed history).1.map CommitRecord.account =
    (replayed history).2.map CommitRecord.account

theorem value?_timeless (state : OrderState) (name : Text) :
    state.timeless.value? name = state.value? name := by
  unfold OrderState.value? OrderState.timeless timelessAttributes
  dsimp only
  rw [Dict.get?_mapValues, Option.map_map]
  rfl

section Runs

variable {rt : Runtime} {history : List (Step (WorldStateService × WorldStateService) Replay)}
variable {pair : WorldStateService × WorldStateService}

theorem Lockstep.of_run (digests : DigestsEncodable rt)
    (run : (alikeReplays rt).Run history pair) :
    Lockstep pair.1 pair.2 ∧ (replayed history).1.map CommitRecord.account =
      (replayed history).2.map CommitRecord.account := by
  apply System.Run.historyInvariant run
  · rintro _ rfl
    exact ⟨⟨⟨rfl, fun _ => rfl⟩, .fresh, .fresh⟩, rfl⟩
  · intro history pair replay earlier sound admitted
    rcases sound with ⟨lockstep, told⟩
    rcases lockstep.ingest admitted.2 with ⟨entry, entry', effect, effect', same, next⟩
    refine ⟨⟨next, lockstep.left.ingest digests, lockstep.right.ingest digests⟩, ?_⟩
    unfold replayed at told ⊢
    rw [System.logOf_snoc, System.logOf_snoc, List.map_append, List.map_append, told]
    congr 1
    change (createdBetween pair.1 (pair.1.perform rt replay.call)).map CommitRecord.account =
      (createdBetween pair.2 (pair.2.perform rt replay.call')).map CommitRecord.account
    have created : createdBetween pair.1 (pair.1.perform rt replay.call) = entry.toList :=
      effect.created admitted.1.1.absent
    have created' : createdBetween pair.2 (pair.2.perform rt replay.call') = entry'.toList :=
      effect'.created admitted.1.2.absent
    rw [created, created', ← Option.toList_map, same, Option.toList_map]

/-- A replay tells the same story under any two clocks, as long as no dispute depends
on them. -/
theorem replay_clock_free (rt : Runtime) (digests : DigestsEncodable rt)
    (run : (alikeReplays rt).Run history pair) : SameStory history pair := by
  rcases Lockstep.of_run digests run with ⟨lockstep, told⟩
  have states := lockstep.same.states
  refine ⟨?_, ?_, told⟩
  · intro key name
    have timeless := congrArg (Option.bind · (fun state : OrderState => state.value? name)) (states key)
    simp only [Option.bind_map, Function.comp_def, value?_timeless] at timeless
    exact timeless
  · intro key
    have timeless := congrArg (Option.map OrderState.stateVersion) (states key)
    rw [Option.map_map, Option.map_map] at timeless
    exact timeless

end Runs

/-! ## A list replayed later -/

/-- A second source reports the order of the first reading as cancelled. -/
def disagreeingReading : Observation where
  observationId := "obs_backoffice_1001"
  connector := "backoffice"
  objectType := "order"
  objectId := "1001"
  observedAt := .utc 0
  payload := Dict.ofList [("status", .str "cancelled")]
  valid := by decide +kernel

/-- The draws of a call made at an instant. -/
def drawsAt (start : Nat) (instant : Int) : Draws :=
  { Draws.numbered start with clock := fun _ => instant }

/-- The two readings, ingested within a second, and again from some instant on. The later the
instant, the staler the labels of the second run. -/
def replayedAt (instant : Int) : List Replay :=
  [⟨"demo", openReading, "observation", "observed", drawsAt 1 0, drawsAt 1 instant⟩,
    ⟨"demo", disagreeingReading, "observation", "observed", drawsAt 2 1000000,
      drawsAt 2 (instant + 1000000)⟩]

/-- A minute later the first reading is fresh as before. -/
theorem replay_clock_free_sample :
    Exists fun history => Exists fun pair : WorldStateService × WorldStateService =>
      (replayed history).2.length = 1 ∧ SameStory history pair := by
  have admitted : (alikeReplays .plain).AdmitsAll (.fresh, .fresh) (replayedAt 60000000) := by
    decide +kernel
  have run := System.run_trace (replayedAt 60000000) rfl admitted
  exact ⟨_, _, by decide +kernel, replay_clock_free .plain plain_digestsEncodable run⟩

/-- Ten minutes later it is stale, and the second source overwrites it. -/
theorem replay_depends_on_clock :
    ((replayedAt 600000000).map (fun replay => replay.draws.clock 0)).Pairwise (· ≤ ·) ∧
      ((replayedAt 600000000).map (fun replay => replay.draws'.clock 0)).Pairwise (· ≤ ·) ∧
      Exists fun history => Exists fun pair : WorldStateService × WorldStateService =>
        (replaySystem .plain).Run history pair ∧ ¬ SameStory history pair := by
  refine ⟨by decide, by decide, ?_⟩
  have admitted : (replaySystem .plain).AdmitsAll (.fresh, .fresh) (replayedAt 600000000) := by
    decide +kernel
  refine ⟨_, _, System.run_trace (replayedAt 600000000) rfl admitted, ?_⟩
  intro same
  have versions := same.versions ("demo", "order", "1001")
  revert versions
  decide +kernel

end WorldState
end RealityLayer
