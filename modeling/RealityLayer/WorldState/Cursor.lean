import RealityLayer.WorldState.Disputes
import RealityLayer.WorldState.Rewriting

namespace RealityLayer
namespace WorldState

open Foundation Python RealityGit WorldStateService

/-!
# The head of the chain

`hydrate` sets the head and the commit map independently.  The readers of the
database pass a commit's hash along when they find the commit; the helper that
looks up an order's state for a policy decision passes the state alone.  Then the
head can name a commit that the service has never stored, and the next commit of
the tenant, for whichever entity, stops at the missing record.

A call is anchored when it brings the commit along or the service has it.  The
head is sound in all states of a run exactly when all calls of the run are
anchored.
-/

/-- A request to a live service.  `hydrate` comes in the three shapes its callers use: with the
state alone, or with the state's commit and the commit's hash, if one was found. -/
inductive ServiceCall where
  | call (call : WorldCall)
  | hydrate (state : OrderState) (commitHash : Option (Option Text))

namespace ServiceCall

def perform (rt : Runtime) (service : WorldStateService) : ServiceCall -> WorldStateService
  | .call request => service.perform rt request
  | .hydrate state none => service.hydrate state none none
  | .hydrate state (some hash) => service.hydrate state (some state.commitId) hash

/-- The commit that the head may move to is brought along, or stored already. Without it the
head would name a commit that no one has. -/
def Anchored (service : WorldStateService) : ServiceCall -> Prop
  | .call _ => True
  | .hydrate state commitHash => (truthy? commitHash.join).isSome = true ∨
      (service.commits.get? (state.tenantId, state.commitId)).isSome = true

end ServiceCall

/-- A state as it is read back from its projection: everything in it was dumped and hashed
once, and its commit has a name. Whether that commit is stored here is left open. -/
structure Persisted (rt : Runtime) (state : OrderState) : Prop where
  fit : FitState rt (state.tenantId, state.entityType.lower, state.entityId.afterColon) state
  called : state.entityId = state.entityType.lower ++ ":" ++ state.entityId.afterColon
  commitId : state.commitId.encodable = true
  named : state.commitId ≠ ""

def ServiceCall.Admitted (rt : Runtime) (service : WorldStateService) : ServiceCall -> Prop
  | .call request => service.DrawsFresh request ∧ request.FreshConflicts service
  | .hydrate state commitHash => Persisted rt state ∧ commitHash.join.all Text.encodable = true

def serviceSystem (rt : Runtime) : System WorldStateService ServiceCall where
  start := fun service => service = .fresh
  admits := fun service request => request.Admitted rt service
  next := fun service request => request.perform rt service

/-! ## Sound heads -/

/-- Every head names a stored commit. Otherwise the next call raises when it asks for the
hash of the head. -/
def NoDangling (service : WorldStateService) : Prop :=
  forall tenantId latest, service.latestCommit.get? tenantId = some latest ->
    (service.commits.get? (tenantId, latest)).isSome = true

/-- Every parent of a stored commit is stored. A rebuilt commit names no parent, so it needs
none. -/
def ParentsStored (service : WorldStateService) : Prop :=
  forall tenantId commitId commit, service.commits.get? (tenantId, commitId) = some commit ->
    forall parent, commit.parentCommitId = some parent ->
      (service.commits.get? (tenantId, parent)).isSome = true

section Heads

variable {rt : Runtime} {service after : WorldStateService} {state : OrderState}

theorem NoDangling.latestHash (sound : NoDangling service) (tenantId : Text) :
    Exists fun hash : Option Text => service.latestHash tenantId = .ok hash ∧
      forall text, hash = some text -> Exists fun id : Text × Text => Exists fun commit : CommitRecord =>
        service.commits.get? id = some commit ∧ commit.hash = text := by
  unfold WorldStateService.latestHash
  cases head : truthy? (service.latestCommit.get? tenantId) with
  | none => exact ⟨none, rfl, nofun⟩
  | some latest =>
      rcases Option.isSome_iff_exists.mp
        (sound tenantId latest (Option.filter_eq_some_iff.mp head).1) with ⟨commit, stored⟩
      dsimp only
      rw [stored]
      refine ⟨some commit.hash, rfl, ?_⟩
      intro text same
      exact ⟨_, commit, stored, Option.some.inj same⟩

/-- A stored commit that the head leads to. -/
theorem stored_of_isAncestor (sound : NoDangling service) (parents : ParentsStored service)
    {tenantId candidateId latest : Text} (head : service.latestCommit.get? tenantId = some latest)
    (ancestor : service.isAncestor tenantId candidateId latest = true) :
    (service.commits.get? (tenantId, candidateId)).isSome = true := by
  refine walkMeets_stored candidateId _ _ _ ?_ ?_ ancestor
  · intro key same
    exact sound tenantId key (head.trans same)
  · intro key commit stored other parent
    exact parents tenantId key commit stored other parent

theorem hydrate_stored (state : OrderState) (parentCommitId parentHash : Option Text) {id : Text × Text}
    (stored : (service.commits.get? id).isSome = true) :
    ((service.hydrate state parentCommitId parentHash).commits.get? id).isSome = true := by
  rw [hydrate_commits]
  split
  · rw [Dict.get?_set]
    split
    · rfl
    · exact stored
  · exact stored

/-- Where the head can only move to the state's own commit, it is sound afterwards exactly when
that commit is stored. -/
theorem hydrate_noDangling_iff (sound : NoDangling service) (parents : ParentsStored service)
    {parentCommitId : Option Text} (parentHash : Option Text)
    (own : (truthy? parentCommitId).getD state.commitId = state.commitId) :
    NoDangling (service.hydrate state parentCommitId parentHash) <->
      ((service.hydrate state parentCommitId parentHash).commits.get?
        (state.tenantId, state.commitId)).isSome = true := by
  have settled : (Exists fun latest : Text => service.latestCommit.get? state.tenantId = some latest ∧
        service.isAncestor state.tenantId state.commitId latest = true ∧
        service.hydratedHead state parentCommitId = latest) ∨
      service.hydratedHead state parentCommitId = state.commitId := by
    unfold WorldStateService.hydratedHead
    rw [own]
    cases head : service.latestCommit.get? state.tenantId with
    | none => exact Or.inr rfl
    | some latest =>
        dsimp only
        split
        · rename_i ancestor
          exact Or.inl ⟨latest, rfl, ancestor, rfl⟩
        · exact Or.inr rfl
  constructor
  · intro sound'
    have named := sound' state.tenantId (service.hydratedHead state parentCommitId)
      (by rw [hydrate_latestCommit, Dict.get?_set_self])
    rcases settled with ⟨latest, head, ancestor, _⟩ | moved
    · exact hydrate_stored _ _ _ (stored_of_isAncestor sound parents head ancestor)
    · rw [moved] at named
      exact named
  · intro stored tenantId latest head
    rw [hydrate_latestCommit, Dict.get?_set] at head
    split at head
    · rename_i same
      cases head
      rw [same]
      rcases settled with ⟨latest, head, _, kept⟩ | moved
      · rw [kept]
        exact hydrate_stored _ _ _ (sound _ latest head)
      · rw [moved]
        exact stored
    · exact hydrate_stored _ _ _ (sound tenantId latest head)

/-- A call keeps the head sound exactly when it is anchored. -/
theorem hydrate_anchored_iff (rt : Runtime) (sound : NoDangling service)
    (parents : ParentsStored service) (named : state.commitId ≠ "") (commitHash : Option (Option Text)) :
    NoDangling ((ServiceCall.hydrate state commitHash).perform rt service) <->
      (ServiceCall.hydrate state commitHash).Anchored service := by
  have truthy : truthy? (some state.commitId) = some state.commitId := truthy?_some named
  cases commitHash with
  | none =>
      apply (hydrate_noDangling_iff sound parents none rfl).trans
      rw [hydrate_commits]
      exact ⟨Or.inr, fun anchored => anchored.resolve_left nofun⟩
  | some hash =>
      have own : (truthy? (some state.commitId)).getD state.commitId = state.commitId := by
        rw [truthy]
        rfl
      apply (hydrate_noDangling_iff sound parents hash own).trans
      rw [hydrate_commits, truthy]
      change _ <-> (truthy? hash).isSome = true ∨ _
      cases truthy? hash with
      | none => exact ⟨Or.inr, fun anchored => anchored.resolve_left nofun⟩
      | some text =>
          dsimp only
          rw [Dict.get?_set_self]
          exact ⟨fun _ => Or.inl rfl, fun _ => rfl⟩

end Heads

/-! ## What a sound head is good for -/

/-- New observations are taken in, and open conflicts are closed. What is asked of a reading
or a value is only that it can be dumped and hashed, and of a reading that it has a timezone. -/
structure Committing (rt : Runtime) (service : WorldStateService) : Prop where
  cursor : NoDangling service
  latest : forall tenantId, Exists fun hash : Option Text => service.latestHash tenantId = .ok hash
  ingests : forall draws tenantId (observation : Observation) cause assuranceLevel,
    service.observations.contains (tenantId, observation.observationId) = false ->
    observation.observedAt.instant?.isSome = true -> tenantId.encodable = true ->
    cause.encodable = true -> RecordablePayload rt observation ->
    Exists fun state : OrderState =>
      (service.ingest rt draws tenantId observation cause assuranceLevel).result = .ok state
  resolves : forall draws tenantId conflictId conflict resolvedValue resolvedBy reason,
    service.conflictsById.get? (tenantId, conflictId) = some conflict -> conflict.status = "open" ->
    recordable rt resolvedValue = true -> Exists fun closed : Conflict =>
      (service.resolveConflict rt draws tenantId conflictId resolvedValue resolvedBy reason).result =
        .ok closed

/-- Everything that the next commit continues or writes down is in place: a head with its
commit, parents that are stored, and contents that were recorded before. -/
structure Anchors (rt : Runtime) (service : WorldStateService) : Prop where
  ready : Ready rt service
  cursor : NoDangling service
  parents : ParentsStored service
  hashes : forall id commit, service.commits.get? id = some commit -> commit.hash.encodable = true

section Service

variable {rt : Runtime} {service : WorldStateService}

theorem Anchors.fresh (rt : Runtime) : Anchors rt .fresh := ⟨.fresh rt, nofun, nofun, nofun⟩

theorem Anchors.committing (plain : PlainTexts rt) (anchors : Anchors rt service) :
    Committing rt service where
  cursor := anchors.cursor
  latest := by
    intro tenantId
    rcases anchors.cursor.latestHash tenantId with ⟨hash, latest, _⟩
    exact ⟨hash, latest⟩
  ingests := by
    intro draws tenantId observation cause assuranceLevel new timed owner caused payload
    rcases Option.isSome_iff_exists.mp timed with ⟨observed, aware⟩
    have merged := @Ready.merged rt service draws tenantId observation cause assuranceLevel plain
      anchors.ready new observed aware owner caused payload
    generalize service.ingest rt draws tenantId observation cause assuranceLevel = outcome at merged ⊢
    cases merged with
    | unchanged state stored same after states => exact ⟨state, rfl⟩
    | advanced state attributes after states => exact ⟨state, rfl⟩
  resolves := by
    intro draws tenantId conflictId conflict resolvedValue resolvedBy reason found waits value
    have decided := @Ready.decision rt service draws tenantId conflictId resolvedValue resolvedBy reason
      conflict plain anchors.ready found waits
    rw [value] at decided
    generalize service.resolveConflict rt draws tenantId conflictId resolvedValue resolvedBy reason =
      outcome at decided ⊢
    cases decided with
    | committed state commit stored continues answers => exact ⟨_, rfl⟩

/-- A commit that continues a sound head is a sound head. -/
theorem NoDangling.step {commitId : Text} {entry : Option CommitRecord} {after : WorldStateService}
    (sound : NoDangling service) (effect : CommitEffect rt service commitId entry after) :
    NoDangling after := by
  intro tenantId latest head
  cases effect with
  | quiet _ commits heads =>
      rw [heads] at head
      rw [commits]
      exact sound tenantId latest head
  | committed commit _ continues named commits heads =>
      rw [heads, record, Dict.get?_set] at head
      rw [commits, record, Dict.get?_set]
      split
      · rfl
      · rename_i other
        split at head
        · rename_i same
          cases head
          exact absurd (congrArg (fun tenantId => (tenantId, commit.commitId)) same) other
        · exact sound tenantId latest head

theorem ParentsStored.step {commitId : Text} {entry : Option CommitRecord} {after : WorldStateService}
    (parents : ParentsStored service) (sound : NoDangling service)
    (effect : CommitEffect rt service commitId entry after) : ParentsStored after := by
  intro tenantId key stored found parent named
  cases effect with
  | quiet _ commits heads =>
      rw [commits] at found ⊢
      exact parents tenantId key stored found parent named
  | committed commit _ continues fresh commits heads =>
      rw [commits, record, Dict.get?_set] at found ⊢
      split
      · rfl
      split at found
      · rename_i same
        cases found
        rw [continues.parent] at named
        have owner : tenantId = stored.tenantId := congrArg Prod.fst same
        exact owner ▸ sound stored.tenantId parent named
      · exact parents tenantId key stored found parent named

theorem Anchors.perform (plain : PlainTexts rt) (anchors : Anchors rt service) {call : WorldCall}
    (fresh : call.FreshConflicts service) : Anchors rt (service.perform rt call) := by
  rcases perform_entity rt service call with ⟨entry, effect, _⟩
  refine ⟨anchors.ready.perform plain fresh, anchors.cursor.step effect,
    anchors.parents.step anchors.cursor effect, ?_⟩
  intro id commit stored
  cases effect with
  | quiet _ commits heads =>
      rw [commits] at stored
      exact anchors.hashes id commit stored
  | committed new _ continues named commits heads =>
      rw [commits, record, Dict.get?_set] at stored
      split at stored
      · cases stored
        exact sealed_hash_encodable plain.digests continues.genuine
      · exact anchors.hashes id commit stored

/-- Every commit after a hydration was there before, or is the one that was brought along. -/
theorem hydrate_commit {state : OrderState} {parentCommitId parentHash : Option Text} {id : Text × Text}
    {commit : CommitRecord}
    (stored : (service.hydrate state parentCommitId parentHash).commits.get? id = some commit) :
    service.commits.get? id = some commit ∨ Exists fun commitId : Text => Exists fun hash : Text =>
      truthy? parentHash = some hash ∧ commit = hydratedCommit state commitId hash := by
  rw [hydrate_commits] at stored
  split at stored
  · rename_i commitId hash _ brought
    rw [Dict.get?_set] at stored
    split at stored
    · exact Or.inr ⟨commitId, hash, brought, (Option.some.inj stored).symm⟩
    · exact Or.inl stored
  · exact Or.inl stored

/-- A service stays ready over a persisted state when its heads stay sound. -/
theorem Anchors.hydrate (anchors : Anchors rt service) {state : OrderState}
    (persisted : Persisted rt state) {parentCommitId parentHash : Option Text}
    (own : (truthy? parentCommitId).getD state.commitId = state.commitId)
    (hash : parentHash.all Text.encodable = true)
    (sound : NoDangling (service.hydrate state parentCommitId parentHash)) :
    Anchors rt (service.hydrate state parentCommitId parentHash) := by
  have same := hydrate_sameConflicts service state parentCommitId parentHash
  have states : forall key held,
      (service.hydrate state parentCommitId parentHash).states.get? key = some held ->
        FitState rt key held := by
    intro key held stored
    rw [hydrate_states, Dict.get?_set] at stored
    split at stored
    · rename_i placed
      cases stored
      exact placed ▸ persisted.fit
    · exact anchors.ready.states key held stored
  have hashes : forall id commit,
      (service.hydrate state parentCommitId parentHash).commits.get? id = some commit ->
        commit.hash.encodable = true := by
    intro id commit stored
    rcases hydrate_commit stored with before | ⟨commitId, brought, given, rfl⟩
    · exact anchors.hashes id commit before
    · rw [(Option.filter_eq_some_iff.mp given).1] at hash
      exact hash
  have parents : ParentsStored (service.hydrate state parentCommitId parentHash) := by
    intro tenantId commitId commit stored parent named
    rcases hydrate_commit stored with before | ⟨commitId, brought, given, rfl⟩
    · exact hydrate_stored _ _ _ (anchors.parents tenantId commitId commit before parent named)
    · cases named
  have linkable : Linkable (service.hydrate state parentCommitId parentHash) := by
    refine ⟨fun key held stored name attr found =>
      ((states key held stored).attributes name attr found).2.2.freshness, ?_, ?_⟩
    · intro tenantId
      rw [hydrate_latestCommit, Dict.get?_set]
      split
      · unfold hydratedHead
        rw [own]
        have before := anchors.ready.linkable.parent state.tenantId
        cases head : service.latestCommit.get? state.tenantId with
        | none => exact persisted.commitId
        | some latest =>
            rw [head] at before
            dsimp only
            split
            · exact before
            · exact persisted.commitId
      · exact anchors.ready.linkable.parent tenantId
    · intro tenantId
      rcases sound.latestHash tenantId with ⟨latest, found, brought⟩
      refine ⟨latest, found, ?_⟩
      cases latest with
      | none => rfl
      | some text =>
          rcases brought text rfl with ⟨id, commit, stored, same⟩
          exact same ▸ hashes id commit stored
  have conflicts : FitConflicts (service.hydrate state parentCommitId parentHash)
      (service.hydrate state parentCommitId parentHash) := by
    intro id conflict found
    rcases anchors.ready.conflicts.congr same id conflict found with ⟨fit, placed⟩
    refine ⟨fit, ?_⟩
    rw [hydrate_states, Dict.get?_set]
    split
    · rfl
    · exact placed
  exact ⟨⟨anchors.ready.stored.congr same.conflictsById, anchors.ready.filed.congr same,
    anchors.ready.covered.congr same, linkable, states, conflicts⟩, sound, parents, hashes⟩

/-- One call, in a service whose heads are sound. -/
theorem Anchors.step_iff (plain : PlainTexts rt) (anchors : Anchors rt service) {request : ServiceCall}
    (admitted : request.Admitted rt service) :
    (NoDangling (request.perform rt service) <-> request.Anchored service) ∧
      (request.Anchored service -> Anchors rt (request.perform rt service)) := by
  cases request with
  | call call =>
      have after := anchors.perform plain admitted.2
      exact ⟨iff_of_true after.cursor trivial, fun _ => after⟩
  | hydrate state commitHash =>
      rcases admitted with ⟨persisted, hash⟩
      have anchored := @hydrate_anchored_iff service state rt anchors.cursor anchors.parents
        persisted.named commitHash
      refine ⟨anchored, fun brought => ?_⟩
      have sound := anchored.mpr brought
      cases commitHash with
      | none => exact anchors.hydrate persisted rfl rfl sound
      | some hash =>
          refine anchors.hydrate persisted ?_ hash sound
          rw [truthy?_some persisted.named]
          rfl

end Service

/-- In every run, all services can go on committing exactly when all calls are anchored. -/
theorem cursor_sound_iff {rt : Runtime} (plain : PlainTexts rt)
    {history : List (Step WorldStateService ServiceCall)} {service : WorldStateService}
    (run : (serviceSystem rt).Run history service) :
    ((forall step, step ∈ history -> Committing rt step.before) ∧ Committing rt service) <->
      forall step, step ∈ history -> step.label.Anchored step.before := by
  have sound : ((forall step, step ∈ history -> step.label.Anchored step.before) ->
      Anchors rt service) ∧
      (((forall step, step ∈ history -> Committing rt step.before) ∧ Committing rt service) <->
        forall step, step ∈ history -> step.label.Anchored step.before) := by
    apply System.Run.historyInvariant run
    · rintro _ rfl
      refine ⟨fun _ => .fresh rt, iff_of_true ⟨?_, (Anchors.fresh rt).committing plain⟩ ?_⟩
      · intro step member
        cases member
      · intro step member
        cases member
    · intro history service request earlier ⟨anchors, committing⟩ admitted
      simp only [List.forall_mem_append, List.forall_mem_singleton]
      refine ⟨?_, ?_, ?_⟩
      · rintro ⟨before, last⟩
        exact ((anchors before).step_iff plain admitted).2 last
      · rintro ⟨⟨before, now⟩, after⟩
        have anchored := committing.mp ⟨before, now⟩
        exact ⟨anchored, ((anchors anchored).step_iff plain admitted).1.mp after.cursor⟩
      · rintro ⟨before, last⟩
        rcases committing.mpr before with ⟨earlier, now⟩
        exact ⟨⟨earlier, now⟩, (((anchors before).step_iff plain admitted).2 last).committing plain⟩
  exact sound.2

/-! ## A state without its commit -/

/-- An order as it is read back after a restart. -/
def restartedState : OrderState where
  tenantId := "demo"
  entityId := "order:1001"
  entityType := "Order"
  stateVersion := 1
  attributes := Dict.ofList [("status", {
    value := .str "open"
    confidence := projectedConfidence "status"
    observedAt := .utc 0
    freshness := "fresh"
    sourceObservationIds := ["obs_shopify_1001"]
    connector := some "shopify" })]
  commitId := "cmt_1"

theorem restartedState_persisted : Persisted .plain restartedState where
  fit := by
    have facts : (restartedState.tenantId.encodable = true ∧
        restartedState.entityType.lower.encodable = true ∧
        restartedState.entityId.afterColon.encodable = true) ∧
        dumpsAll .plain restartedState.attributes = true ∧
        hashableEntries .plain (dumpAttributes .plain restartedState.attributes).entries = true := by
      decide +kernel
    rcases facts with ⟨⟨tenant, entityType, entityId⟩, hashed⟩
    exact ⟨tenant, entityType, entityId, (recordedEntries_iff plain_plainTexts _).mp hashed⟩
  called := by decide +kernel
  commitId := Text.encodable_ofString _
  named := by decide +kernel

/-- The order is read back with its commit, and the next reading of it is taken in. -/
def restartedWithCommit : List ServiceCall :=
  [.hydrate restartedState (some (some "sha256:1")), .call (sampleIngest 10 "demo" cancelledReading)]

theorem cursor_sound_sample :
    Exists fun history : List (Step WorldStateService ServiceCall) => Exists fun service =>
      (serviceSystem .plain).Run history service ∧ history.length = 2 ∧ Committing .plain service := by
  have facts : let service := WorldStateService.fresh.hydrate restartedState (some "cmt_1") (some "sha256:1")
      service.DrawsFresh (sampleIngest 10 "demo" cancelledReading) ∧
        (sampleIngest 10 "demo" cancelledReading).FreshConflicts service := by
    decide +kernel
  have admitted : (serviceSystem .plain).AdmitsAll .fresh restartedWithCommit :=
    ⟨⟨restartedState_persisted, Text.encodable_ofString _⟩, facts, trivial⟩
  have run := System.run_trace restartedWithCommit rfl admitted
  refine ⟨_, _, run, rfl, ((cursor_sound_iff plain_plainTexts run).mpr ?_).2⟩
  intro step member
  rcases List.mem_cons.mp member with rfl | later
  · exact Or.inl (by decide +kernel)
  · rw [List.mem_singleton.mp later]
    exact trivial

/-- An order that another process has never stored a commit for. -/
def unrelatedReading : Observation where
  observationId := "obs_shopify_1003"
  connector := "shopify"
  objectType := "order"
  objectId := "1003"
  observedAt := .utc 0
  payload := Dict.ofList [("status", .str "open")]
  valid := by decide +kernel

/-- The order is read back for a policy decision, and no order of the tenant can be committed. -/
theorem cursor_dangles :
    Exists fun history => Exists fun service : WorldStateService =>
      (serviceSystem .plain).Run history service ∧
        service.latestCommit.get? "demo" = some "cmt_1" ∧
        service.commits.get? ("demo", "cmt_1") = none ∧
        service.latestHash "demo" = .error (.keyError "cmt_1") ∧
        (service.ingest .plain (.numbered 10) "demo" unrelatedReading "observation"
          "observed").result = .error (.keyError "cmt_1") := by
  have admitted : (serviceSystem .plain).AdmitsAll .fresh [.hydrate restartedState none] :=
    ⟨⟨restartedState_persisted, rfl⟩, trivial⟩
  refine ⟨_, _, System.run_trace [.hydrate restartedState none] rfl admitted, ?_⟩
  have facts : let service := (WorldStateService.fresh).hydrate restartedState none none
      service.latestCommit.get? "demo" = some "cmt_1" ∧
        service.commits.get? ("demo", "cmt_1") = none ∧
        service.latestHash "demo" = .error (.keyError "cmt_1") ∧
        (service.ingest .plain (.numbered 10) "demo" unrelatedReading "observation"
          "observed").result = .error (.keyError "cmt_1") := by
    decide +kernel
  exact facts

end WorldState
end RealityLayer
