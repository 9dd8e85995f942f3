import RealityLayer.RealityGit.Reordering
import RealityLayer.WorldState.Calls
import RealityLayer.WorldState.History

namespace RealityLayer
namespace WorldState

open Foundation Python RealityGit WorldStateService

/-!
# State and history of one entity

The service keeps an entity's state and the tenant's commits in different maps, and
a call updates both or neither.  `EntityEffect` says so for every call.  From it
`Recorded` follows along a run: the entity's commits are linked by their contents,
each starting where the one before ended, and the state is what the last of them
ends with, at a version that counts them.

An approval compares versions only.  `OnlyGrows` is what makes that comparison
enough: from one moment of a run to a later one a version never decreases, and
states with one version are the same state.
-/

/-! ## Changed names -/

theorem perm_sortedNames (names : List Text) : List.Perm (sortedNames names) names :=
  List.perm_insertionSort _ names

/-- Distinct names are listed in strictly ascending order. -/
theorem sortedNames_ascending {names : List Text} (distinct : names.Nodup) :
    (sortedNames names).Pairwise (fun first second => first.codes < second.codes) := by
  have total : Std.Total (fun first second : Text => first.le second = true) :=
    ⟨fun first second => by
      simp only [Text.le, decide_eq_true_eq]
      exact le_total _ _⟩
  have transitive : IsTrans Text (fun first second => first.le second = true) :=
    ⟨fun first second third left right => by
      simp only [Text.le, decide_eq_true_eq] at left right ⊢
      exact le_trans left right⟩
  have sorted := List.pairwise_insertionSort (fun first second : Text => first.le second = true) names
  have different := (perm_sortedNames names).nodup_iff.mpr distinct
  apply (sorted.and different).imp
  rintro first second ⟨below, unequal⟩
  simp only [Text.le, decide_eq_true_eq] at below
  exact lt_of_le_of_ne below (fun same => unequal (codes_injective same))

/-- The names of either map, each once. -/
theorem nodup_eitherNames (before after : Dict Text Json) :
    (before.keys ++ after.keys.filter (fun name => name ∉ before.keys)).Nodup := by
  refine List.nodup_append.mpr ⟨before.distinct, after.distinct.filter _, ?_⟩
  rintro first member second other rfl
  exact of_decide_eq_true (List.mem_filter.mp other).2 member

theorem attributeValue_absent {dict : Dict Text Json} {name : Text} (absent : name ∉ dict.keys) :
    attributeValue (dict.get? name) = .null := by
  rw [(dict.get?_eq_none_iff name).mpr absent]
  rfl

/-- The two maps hold different values under a name; a missing one counts as null. This is
the comparison that `_diff` makes. -/
def Differs (before after : Dict Text Json) (name : Text) : Prop :=
  (attributeValue (before.get? name)).pyEq (attributeValue (after.get? name)) = false

theorem mem_changedNames (before after : Dict Text Json) (name : Text) :
    name ∈ changedNames before after <-> Differs before after name := by
  unfold changedNames Differs
  rw [(perm_sortedNames _).mem_iff, List.mem_filter, Bool.not_eq_true', and_iff_right_iff_imp]
  intro differs
  by_cases first : name ∈ before.keys
  · exact List.mem_append_left _ first
  · refine List.mem_append_right _ (List.mem_filter.mpr ⟨?_, decide_eq_true first⟩)
    by_contra second
    rw [attributeValue_absent first, attributeValue_absent second] at differs
    cases differs

/-- A diff lists exactly the names whose values differ, sorted and each once. -/
def ExactDiff (before after diff : Dict Text Json) : Prop :=
  Exists fun names : List Text => diff = semanticDiff names ∧
    names.Pairwise (fun first second => first.codes < second.codes) ∧
    forall name, name ∈ names <-> Differs before after name

theorem exactDiff_changedNames (before after : Dict Text Json) :
    ExactDiff before after (semanticDiff (changedNames before after)) :=
  ⟨changedNames before after, rfl,
    sortedNames_ascending ((nodup_eitherNames before after).filter _),
    mem_changedNames before after⟩

/-! ## What one call does to an entity -/

/-- The key of the entity a commit is about. Tenants have entities of their own, also under
one identifier. -/
def CommitRecord.entityKey (commit : CommitRecord) : Text × Text × Text :=
  (commit.tenantId, commit.entityType, commit.entityId)

/-- The version that follows a state, if there is one. -/
def nextVersion (previous : Option OrderState) : Int :=
  (previous.map OrderState.stateVersion).getD 0 + 1

/-- A commit takes an entity from one state to the next. What it records as the contents
before is the dump of the state that was held, so consecutive commits of an entity meet. -/
structure Advances (rt : Runtime) (previous : Option OrderState) (commit : CommitRecord)
    (state : OrderState) : Prop where
  before : commit.before = attributesFor rt previous
  after : commit.after = dumpAttributes rt state.attributes
  diff : ExactDiff commit.before commit.after commit.semanticDiff
  commitId : state.commitId = commit.commitId
  version : state.stateVersion = nextVersion previous
  dumped : dumpsAll rt state.attributes = true

/-- What a call does to the states, with the commit it creates. A call changes the state of
one entity at most, and only together with a commit. -/
inductive EntityEffect (rt : Runtime) (service : WorldStateService) :
    Option CommitRecord -> WorldStateService -> Prop
  | quiet (after : WorldStateService) (states : after.states = service.states) :
      EntityEffect rt service none after
  | advanced (commit : CommitRecord) (state : OrderState) (after : WorldStateService)
      (advances : Advances rt (service.states.get? commit.entityKey) commit state)
      (states : after.states = service.states.set commit.entityKey state) :
      EntityEffect rt service (some commit) after

section Effects

variable (rt : Runtime) (service : WorldStateService)

theorem ingest_entity (draws : Draws) (tenantId : Text) (observation : Observation)
    (cause assuranceLevel : Text) :
    Exists fun entry : Option CommitRecord =>
      CommitEffect rt service (newCommitId draws) entry
        (service.ingest rt draws tenantId observation cause assuranceLevel).state ∧
      EntityEffect rt service entry
        (service.ingest rt draws tenantId observation cause assuranceLevel).state := by
  have ingestion := ingest_ingestion rt service draws tenantId observation cause assuranceLevel
  generalize stored : service.states.get? (tenantId, observation.objectType, observation.objectId) =
    previous at ingestion
  generalize service.ingest rt draws tenantId observation cause assuranceLevel = outcome at ingestion ⊢
  cases ingestion with
  | repeated state found known => exact ⟨none, .quiet _ rfl rfl, .quiet _ rfl⟩
  | stateless absent known => exact ⟨none, .quiet _ rfl rfl, .quiet _ rfl⟩
  | unprojected error new failed => exact ⟨none, .quiet _ rfl rfl, .quiet _ rfl⟩
  | unchanged incoming state found new projected same =>
      have kept := merged_same service draws tenantId observation previous incoming
      exact ⟨none, .quiet _ kept.commits kept.latestCommit, .quiet _ kept.states⟩
  | undumped incoming new projected undumpable =>
      have kept := merged_same service draws tenantId observation previous incoming
      exact ⟨none, .quiet _ kept.commits kept.latestCommit, .quiet _ kept.states⟩
  | refused incoming error new projected changes failed =>
      have kept := merged_same service draws tenantId observation previous incoming
      exact ⟨none, .quiet _ kept.commits kept.latestCommit, .quiet _ kept.states⟩
  | committed incoming commit new projected changes continues answers dumped =>
      have kept := merged_same service draws tenantId observation previous incoming
      have key : commit.entityKey = (tenantId, observation.objectType, observation.objectId) := by
        rw [CommitRecord.entityKey, answers.tenantId, answers.entityType, answers.entityId]
        rfl
      refine ⟨some commit, .committed commit _
        (continues.of_same rt service kept.commits kept.latestCommit) answers.commitId ?_ ?_,
        .advanced commit (compiledState tenantId observation previous incoming commit.commitId) _ ?_ ?_⟩
      · simp only [Outcome.returns_state, setState, record, kept.commits, seen]
      · simp only [Outcome.returns_state, setState, record, kept.latestCommit, seen]
      · rw [key, stored]
        refine ⟨answers.before, answers.after, ?_, rfl, ?_, (Bool.and_eq_true_iff.mp dumped).2⟩
        · rw [answers.before, answers.after, answers.semanticDiff]
          exact exactDiff_changedNames _ _
        · cases previous with
          | none => rfl
          | some state => rfl
      · rw [key]
        simp only [Outcome.returns_state, setState, record, kept.states, seen]

theorem resolveConflict_entity (draws : Draws) (tenantId conflictId : Text) (resolvedValue : Json)
    (resolvedBy reason : Text) :
    Exists fun entry : Option CommitRecord =>
      CommitEffect rt service (newCommitId draws) entry
        (service.resolveConflict rt draws tenantId conflictId resolvedValue resolvedBy reason).state ∧
      EntityEffect rt service entry
        (service.resolveConflict rt draws tenantId conflictId resolvedValue resolvedBy reason).state := by
  have resolution := resolveConflict_resolution rt service draws tenantId conflictId resolvedValue
    resolvedBy reason
  generalize service.resolveConflict rt draws tenantId conflictId resolvedValue resolvedBy reason =
    outcome at resolution ⊢
  cases resolution with
  | unknown error absent => exact ⟨none, .quiet _ rfl rfl, .quiet _ rfl⟩
  | settled conflict found resolved => exact ⟨none, .quiet _ rfl rfl, .quiet _ rfl⟩
  | stateless conflict found unresolved absent => exact ⟨none, .quiet _ rfl rfl, .quiet _ rfl⟩
  | undumped conflict state found unresolved stored undumpable =>
      exact ⟨none, .quiet _ rfl rfl, .quiet _ rfl⟩
  | refused conflict state error found unresolved stored failed =>
      exact ⟨none, .quiet _ rfl rfl, .quiet _ rfl⟩
  | committed conflict state commit found unresolved stored continues answers dumped =>
      have key : commit.entityKey = (tenantId, conflict.entityType, conflict.entityId) := by
        rw [CommitRecord.entityKey, answers.tenantId, answers.entityType, answers.entityId]
        rfl
      refine ⟨some commit, .committed commit _ continues answers.commitId rfl rfl,
        .advanced commit (resolvedState tenantId state conflict resolvedValue draws commit.commitId) _
          ?_ ?_⟩
      · rw [key, stored]
        refine ⟨answers.before, answers.after, ?_, rfl, rfl, (Bool.and_eq_true_iff.mp dumped).2⟩
        rw [answers.before, answers.after, answers.semanticDiff]
        exact exactDiff_changedNames _ _
      · rw [key]
        rfl

/-- Every call creates a commit and advances its entity, or does neither. A call that raises
halfway advances nothing. -/
theorem perform_entity (call : WorldCall) :
    Exists fun entry : Option CommitRecord =>
      CommitEffect rt service call.commitId entry (service.perform rt call) ∧
        EntityEffect rt service entry (service.perform rt call) := by
  cases call with
  | ingest draws tenantId observation cause assuranceLevel =>
      exact ingest_entity rt service draws tenantId observation cause assuranceLevel
  | resolveConflict draws tenantId conflictId resolvedValue resolvedBy reason =>
      exact resolveConflict_entity rt service draws tenantId conflictId resolvedValue resolvedBy reason

end Effects

/-! ## Runs -/

/-- The World State service under calls with fresh identifiers. Calls may raise halfway through. -/
def worldSystem (rt : Runtime) : System WorldStateService WorldCall where
  start := fun service => service = .fresh
  admits := fun service call => service.DrawsFresh call
  next := fun service call => service.perform rt call

instance (rt : Runtime) (service : WorldStateService) (call : WorldCall) :
    Decidable ((worldSystem rt).admits service call) :=
  inferInstanceAs (Decidable (service.DrawsFresh call))

/-- The commits a run creates, in the order of creation. -/
def createdBy (history : List (Step WorldStateService WorldCall)) : List CommitRecord :=
  System.logOf (fun step => createdBetween step.before step.after) history

/-- The commits about one entity. The order of the list is kept. -/
def ofEntity (key : Text × Text × Text) (commits : List CommitRecord) : List CommitRecord :=
  commits.filter (fun commit => decide (commit.entityKey = key))

theorem ofEntity_grows (commits : List CommitRecord) (entry : Option CommitRecord) :
    GrowsBy CommitRecord.entityKey entry (fun key => ofEntity key commits)
      (fun key => ofEntity key (commits ++ entry.toList)) :=
  fun _ => List.filter_append _ _

/-- Commits that start with nothing and each where the one before ended. -/
abbrev Continuous (commits : List CommitRecord) : Prop :=
  Linked (fun commit => some commit.before) CommitRecord.after
    (fun commit => ExactDiff commit.before commit.after commit.semanticDiff) (some Dict.empty) commits

/-- An entity's state, or its absence, is what its commits lead to. It is stated for absent
entities too, so that the first commit needs no case of its own. -/
structure Recorded (rt : Runtime) (commits : List CommitRecord) (state : Option OrderState) : Prop where
  continuous : Continuous commits
  contents : headAfter CommitRecord.after (some Dict.empty) commits = some (attributesFor rt state)
  commitId : headAfter CommitRecord.commitId none commits = state.map OrderState.commitId
  version : (commits.length : Int) = (state.map OrderState.stateVersion).getD 0

theorem Recorded.fresh (rt : Runtime) : Recorded rt [] none :=
  ⟨True.intro, rfl, rfl, rfl⟩

theorem Recorded.advance {rt : Runtime} {commits : List CommitRecord} {previous : Option OrderState}
    {commit : CommitRecord} {state : OrderState} (recorded : Recorded rt commits previous)
    (advances : Advances rt previous commit state) :
    Recorded rt (commits ++ [commit]) (some state) where
  continuous := by
    rw [Continuous, linked_snoc, recorded.contents, advances.before]
    exact ⟨recorded.continuous, rfl, advances.before ▸ advances.diff⟩
  contents := by
    rw [headAfter_snoc, advances.after]
    rfl
  commitId := by
    rw [headAfter_snoc, Option.map_some, advances.commitId]
  version := by
    rw [List.length_append, Int.natCast_add, recorded.version, Option.map_some, Option.getD_some,
      advances.version, nextVersion]
    rfl

/-! ## Versions over time -/

/-- What may happen to the states between two moments: an entity keeps its state or
goes on to a higher version. -/
def OnlyGrows (earlier later : WorldStateService) : Prop :=
  forall key first, earlier.states.get? key = some first ->
    Exists fun second : OrderState => later.states.get? key = some second ∧
      first.stateVersion ≤ second.stateVersion ∧
      (first.stateVersion = second.stateVersion -> first = second)

theorem OnlyGrows.of_same {earlier later : WorldStateService} (states : later.states = earlier.states) :
    OnlyGrows earlier later :=
  fun _ first stored => ⟨first, states ▸ stored, le_refl _, fun _ => rfl⟩

theorem OnlyGrows.trans {first second third : WorldStateService} (left : OnlyGrows first second)
    (right : OnlyGrows second third) : OnlyGrows first third := by
  intro key early stored
  rcases left key early stored with ⟨middle, found, below, fixed⟩
  rcases right key middle found with ⟨late, found', below', fixed'⟩
  refine ⟨late, found', le_trans below below', ?_⟩
  intro same
  have first := fixed (le_antisymm below (same ▸ below'))
  have second := fixed' (le_antisymm below' (same ▸ below))
  exact first.trans second

theorem EntityEffect.onlyGrows {rt : Runtime} {service after : WorldStateService}
    {entry : Option CommitRecord} (effect : EntityEffect rt service entry after) :
    OnlyGrows service after := by
  cases effect with
  | quiet _ states => exact .of_same states
  | advanced commit state _ advances states =>
      intro key first stored
      rw [states]
      by_cases same : key = commit.entityKey
      · subst same
        have later := advances.version
        rw [nextVersion, stored, Option.map_some, Option.getD_some] at later
        exact ⟨state, Dict.get?_set_self _ _ _, by omega, fun equal => by omega⟩
      · exact ⟨first, (Dict.get?_set_of_ne _ _ same).trans stored, le_refl _, fun _ => rfl⟩

/-- The service at every moment of a run, the first one included. What a caller can read is
read at one of them. -/
def moments (history : List (Step WorldStateService WorldCall)) : List WorldStateService :=
  .fresh :: history.map Step.after

theorem moments_snoc (history : List (Step WorldStateService WorldCall))
    (step : Step WorldStateService WorldCall) :
    moments (history ++ [step]) = moments history ++ [step.after] := by
  unfold moments
  rw [List.map_append]
  rfl

/-- A call with a fresh identifier adds the commit that it creates. -/
theorem CommitEffect.createdBy_snoc {rt : Runtime} {service after : WorldStateService} {call : WorldCall}
    {entry : Option CommitRecord} (effect : CommitEffect rt service call.commitId entry after)
    (fresh : service.DrawsFresh call) (history : List (Step WorldStateService WorldCall)) :
    createdBy (history ++ [⟨service, call, after⟩]) = createdBy history ++ entry.toList := by
  rw [createdBy, System.logOf_snoc]
  exact congrArg _ (effect.created fresh.absent)

/-! ## The invariant of a run -/

structure EntitiesSound (rt : Runtime) (history : List (Step WorldStateService WorldCall))
    (service : WorldStateService) : Prop where
  recorded : forall key, Recorded rt (ofEntity key (createdBy history)) (service.states.get? key)
  latest : forall moment, moment ∈ moments history -> OnlyGrows moment service
  ordered : (moments history).Pairwise OnlyGrows

section Runs

variable {rt : Runtime} {history : List (Step WorldStateService WorldCall)}
variable {service : WorldStateService}

theorem HistorySound.of_run (run : (worldSystem rt).Run history service) :
    HistorySound rt (createdBy history) service := by
  apply System.Run.historyInvariant run
  · rintro _ rfl
    exact .fresh rt
  · intro history service call earlier sound admitted
    rcases perform_commits rt service call with ⟨entry, effect⟩
    change HistorySound rt (createdBy (history ++ [⟨service, call, service.perform rt call⟩])) _
    rw [effect.createdBy_snoc admitted]
    exact sound.step effect admitted.absent call.commitId_nonempty

theorem EntitiesSound.step {call : WorldCall} (sound : EntitiesSound rt history service)
    (fresh : service.DrawsFresh call) :
    EntitiesSound rt (history ++ [⟨service, call, service.perform rt call⟩])
      (service.perform rt call) := by
  rcases perform_entity rt service call with ⟨entry, commits, effect⟩
  have created := commits.createdBy_snoc fresh history
  have visited := moments_snoc history ⟨service, call, service.perform rt call⟩
  have grows := ofEntity_grows (createdBy history) entry
  have further := effect.onlyGrows
  have later : forall moment, moment ∈ moments history ->
      OnlyGrows moment (service.perform rt call) :=
    fun moment member => (sound.latest moment member).trans further
  refine ⟨?_, ?_, ?_⟩
  · intro key
    rw [created]
    cases effect with
    | quiet _ states =>
        rw [Option.toList_none, List.append_nil, states]
        exact sound.recorded key
    | advanced commit state _ advances states =>
        rw [states]
        by_cases same : key = commit.entityKey
        · subst same
          rw [grows.at_key, Dict.get?_set_self]
          exact (sound.recorded _).advance advances
        · rw [grows.elsewhere same, Dict.get?_set_of_ne _ _ same]
          exact sound.recorded key
  · intro moment member
    rw [visited] at member
    rcases List.mem_append.mp member with earlier | last
    · exact later moment earlier
    · rw [List.mem_singleton.mp last]
      exact .of_same rfl
  · rw [visited, List.pairwise_append]
    refine ⟨sound.ordered, List.pairwise_singleton _ _, ?_⟩
    intro moment member last same
    rw [List.mem_singleton.mp same]
    exact later moment member

theorem EntitiesSound.of_run (run : (worldSystem rt).Run history service) :
    EntitiesSound rt history service := by
  apply System.Run.historyInvariant run
  · rintro _ rfl
    refine ⟨fun _ => .fresh rt, ?_, List.pairwise_singleton _ _⟩
    intro moment member
    rw [List.mem_singleton.mp member]
    exact .of_same rfl
  · intro history service call earlier sound admitted
    exact sound.step admitted

/-- What an entity's commits say about the state it has. The version is their number, so no
commit of the entity is missing and none is counted twice. -/
structure EntityHistory (rt : Runtime) (commits : List CommitRecord) (state : OrderState) : Prop where
  nonempty : commits ≠ []
  continuous : Continuous commits
  contents : commits.getLast?.map CommitRecord.after = some (dumpAttributes rt state.attributes)
  commitId : commits.getLast?.map CommitRecord.commitId = some state.commitId
  version : state.stateVersion = commits.length

theorem Recorded.entityHistory {commits : List CommitRecord} {state : OrderState}
    (recorded : Recorded rt commits (some state)) : EntityHistory rt commits state := by
  have newest := recorded.commitId
  have contents := recorded.contents
  have version := recorded.version
  cases commits using List.reverseRec with
  | nil => cases newest
  | append_singleton front last =>
      rw [headAfter_snoc] at newest contents
      refine ⟨List.append_ne_nil_of_right_ne_nil _ (List.cons_ne_nil _ _), recorded.continuous, ?_, ?_,
        version.symm⟩
      · rw [List.getLast?_concat, Option.map_some]
        exact contents
      · rw [List.getLast?_concat, Option.map_some]
        exact newest

/-- In every run, each state is what the entity's commits record, its version counts
them, and a version stands for one state at all moments. -/
theorem entity_history_agrees (rt : Runtime) (run : (worldSystem rt).Run history service) :
    (forall key state, service.states.get? key = some state ->
      EntityHistory rt (ofEntity key (createdBy history)) state) ∧
    (moments history).Pairwise OnlyGrows := by
  have sound := EntitiesSound.of_run run
  refine ⟨?_, sound.ordered⟩
  intro key state stored
  have recorded := sound.recorded key
  rw [stored] at recorded
  exact recorded.entityHistory

end Runs

/-- An order observed twice, by one connector, for one of two tenants. -/
def observedTwice : List WorldCall :=
  [sampleIngest 1 "demo" openReading, sampleIngest 2 "other" openReading,
    sampleIngest 3 "demo" cancelledReading]

theorem entity_history_agrees_sample :
    Exists fun history => Exists fun service : WorldStateService => Exists fun state =>
      service.states.get? ("demo", "order", "1001") = some state ∧
        EntityHistory .plain (ofEntity ("demo", "order", "1001") (createdBy history)) state ∧
        (moments history).Pairwise OnlyGrows := by
  have admitted : (worldSystem .plain).AdmitsAll .fresh observedTwice := by decide +kernel
  have run := System.run_trace observedTwice rfl admitted
  have agrees := entity_history_agrees .plain run
  have known : (((worldSystem .plain).trace .fresh observedTwice).2.states.get?
      ("demo", "order", "1001")).isSome = true := by decide +kernel
  rcases Option.isSome_iff_exists.mp known with ⟨state, stored⟩
  exact ⟨_, _, state, stored, agrees.1 _ state stored, agrees.2⟩

end WorldState
end RealityLayer
