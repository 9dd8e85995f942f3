import RealityLayer.WorldState.Readiness
import RealityLayer.WorldState.Tenancy

namespace RealityLayer
namespace WorldState

open Foundation Python RealityGit WorldStateService

/-!
# Resolving an open conflict

One call of `resolve_conflict` writes the entity's state, the commit map, the
head of the chain, the conflict and the index of open conflicts, one after the
other, and hashing may fail in between.  `Resolved` lists everything that is
different afterwards, and everything that is not.

In a ready service the only thing that can fail is the value itself: a value
whose dump can be hashed is always put in place, and for any other value the
call raises before its first write.
-/

/-! ## The attribute an operator sets -/

section Attribute

variable {conflict : Conflict}

/-- The highest confidence is one of the list, or the default. -/
theorem highestConfidence_keeps {property : PyFloat -> Prop} {confidences : List PyFloat}
    (default : property (highestConfidence []))
    (all : forall confidence, confidence ∈ confidences -> property confidence) :
    property (highestConfidence confidences) := by
  cases confidences with
  | nil => exact default
  | cons first rest =>
      change property (rest.foldl (fun best next => if next.gt best then next else best) first)
      have start := all first List.mem_cons_self
      have later := fun confidence member => all confidence (List.mem_cons_of_mem first member)
      clear all
      induction rest generalizing first with
      | nil => exact start
      | cons next rest ih =>
          refine ih _ ?_ (fun confidence member => later confidence (List.mem_cons_of_mem next member))
          dsimp only
          split
          · exact later next List.mem_cons_self
          · exact start

theorem observationIdsOf_encodable {candidates : List ConflictCandidate}
    (fit : forall candidate, candidate ∈ candidates -> candidate.Fit) :
    (observationIdsOf candidates).all Text.encodable = true := by
  rw [List.all_eq_true]
  intro observationId member
  rcases List.mem_filterMap.mp member with ⟨candidate, inside, named⟩
  have source := (fit candidate inside).source
  rw [(Option.filter_eq_some_iff.mp named).1] at source
  exact source

theorem Conflict.Fit.resolvedAttribute (fit : conflict.Fit) (resolvedValue : Json) (now : Timestamp) :
    (resolvedAttribute conflict resolvedValue now).Fit where
  confidence := by
    have default : (highestConfidence []).finite = true := by decide
    refine @highestConfidence_keeps (fun confidence => confidence.finite = true) _ default ?_
    intro confidence member
    rcases List.mem_map.mp member with ⟨candidate, inside, rfl⟩
    exact (fit.candidates candidate (List.mem_filter.mp inside).1).confidence
  freshness := Text.encodable_ofString _
  sources := by
    unfold WorldStateService.resolvedAttribute
    dsimp only
    split
    · exact observationIdsOf_encodable fit.candidates
    · exact observationIdsOf_encodable
        (fun candidate inside => fit.candidates candidate (List.mem_filter.mp inside).1)
  connector := Text.encodable_ofString _

end Attribute

section Committing

variable {rt : Runtime} {service : WorldStateService} {tenantId : Text} {state : OrderState}
variable {conflict : Conflict}

/-- With the resolution in place, an entity can be recorded exactly when the value can. -/
theorem resolvedAttributes_hashable (held : HashableAttributes rt state.attributes)
    (fit : conflict.Fit) (resolvedValue : Json) (draws : Draws) :
    HashableAttributes rt (resolvedAttributes state conflict resolvedValue draws) <->
      recordable rt resolvedValue = true := by
  unfold resolvedAttributes
  constructor
  · intro all
    exact (all conflict.attributeName _ (Dict.get?_set_self _ _ _)).2.1
  · intro value name attr found
    rw [Dict.get?_set] at found
    split at found
    · rename_i same
      cases found
      rw [same]
      exact ⟨fit.about, value, fit.resolvedAttribute resolvedValue _⟩
    · exact held name attr found

theorem resolveRequest_hashable (plain : PlainTexts rt)
    (held : FitState rt (tenantId, conflict.entityType, conflict.entityId) state) (fit : conflict.Fit)
    (resolvedValue : Json) (draws : Draws) :
    resolveDumps rt state conflict resolvedValue draws = true ∧
        (resolveRequest rt tenantId state conflict resolvedValue draws).hashable rt = true <->
      recordable rt resolvedValue = true := by
  have after := resolvedAttributes_hashable held.attributes fit resolvedValue draws
  unfold CommitRequest.hashable resolveRequest attributesFor
  dsimp only
  simp only [Bool.and_eq_true]
  constructor
  · rintro ⟨dumped, ⟨_, hashed⟩, _⟩
    exact after.mp ((recordedEntries_iff plain _).mp ⟨(Bool.and_eq_true_iff.mp dumped).2, hashed⟩)
  · intro value
    have hashed := after.mpr value
    refine ⟨@dumpsChange_of_recorded rt (some state) _ held.attributes hashed,
      ⟨⟨⟨⟨⟨⟨held.tenant, held.entityType⟩, held.entityId⟩, ?_⟩,
      (fit.resolvedAttribute resolvedValue _).sources⟩,
      ((recordedEntries_iff plain _).mpr held.attributes).2⟩,
      ((recordedEntries_iff plain _).mpr hashed).2⟩,
      changedNames_encodable held.attributes hashed⟩
    rw [Text.encodable_append, Text.encodable_ofString, fit.named, Bool.and_self]

end Committing

/-! ## What a resolution changes -/

/-- A run of `ingest` and `resolve_conflict` with fresh identifiers. -/
def drawnSystem (rt : Runtime) : System WorldStateService WorldCall :=
  (worldSystem rt).restrict (fun service call => call.FreshConflicts service)

instance (rt : Runtime) (service : WorldStateService) (call : WorldCall) :
    Decidable ((drawnSystem rt).admits service call) :=
  inferInstanceAs (Decidable (service.DrawsFresh call ∧ call.FreshConflicts service))

/-- The entity moved to its next version, where the operator's value is in place and nothing
else is different. -/
structure Overruled (conflict : Conflict) (resolvedValue : Json) (state next : OrderState) : Prop where
  version : next.stateVersion = state.stateVersion + 1
  value : Exists fun attr : StateAttribute =>
    next.attributes.get? conflict.attributeName = some attr ∧ attr.value = resolvedValue ∧
      attr.connector = some "operator"
  others : forall name, name ≠ conflict.attributeName ->
    next.attributes.get? name = state.attributes.get? name
  entity : next.entityId = state.entityId ∧ next.entityType = state.entityType

/-- The tenant's chain has one commit more, with the dumps of the entity before and after.
The commits that were listed before are listed unchanged. -/
structure Chained (rt : Runtime) (service after : WorldStateService) (tenantId : Text)
    (state next : OrderState) (commit : CommitRecord) : Prop where
  dumped : commit.before = dumpAttributes rt state.attributes
  dumpedNext : commit.after = dumpAttributes rt next.attributes
  named : next.commitId = commit.commitId
  chain : Exists fun commits : List CommitRecord => service.listCommits tenantId none = .ok commits ∧
    after.listCommits tenantId none = .ok (commits ++ [commit])
  stored : after.commits = service.commits.set (tenantId, commit.commitId) commit

/-- Everything one resolution does: to the entity, to the chain, to the conflict and the
index, and to the other tenants, whose part stays as it was. -/
structure Resolved (rt : Runtime) (service after : WorldStateService) (tenantId : Text)
    (conflict : Conflict) (resolvedValue : Json) (closed : Conflict) : Prop where
  entity : Exists fun state : OrderState => Exists fun next : OrderState => Exists fun commit =>
    service.states.get? conflict.entityKey = some state ∧
      after.states = service.states.set conflict.entityKey next ∧
      Overruled conflict resolvedValue state next ∧ Chained rt service after tenantId state next commit
  settled : closed.status = "resolved" ∧ closed.resolvedValue = resolvedValue ∧
    closed.key = conflict.key ∧ closed.candidates = conflict.candidates
  conflicts : after.conflictsById = service.conflictsById.set conflict.storedId closed
  index : forall key, after.openConflicts.get? key =
    if key = conflict.key then none else service.openConflicts.get? key
  observations : after.observations = service.observations
  tenants : forall other, tenantId ≠ other -> after.viewOf other = service.viewOf other
  gate : after.hasOpenConflicts tenantId conflict.entityType conflict.entityId = true <->
    Exists fun name : Text => name ≠ conflict.attributeName ∧ Exists fun other : Conflict =>
      service.openConflict? tenantId conflict.entityType conflict.entityId name = some other
  again : forall calls, (drawnSystem rt).AdmitsAll after calls ->
    let later := ((drawnSystem rt).trace after calls).2
    forall draws value resolvedBy reason,
      later.resolveConflict rt draws tenantId conflict.conflictId value resolvedBy reason =
        .returns later closed

/-- What `resolve_conflict` does in every case. It either does all that a resolution has to
do, or raises on a service that is unchanged. -/
structure ExactResolution (rt : Runtime) (service : WorldStateService) : Prop where
  resolves : forall draws tenantId conflictId conflict resolvedValue resolvedBy reason,
    service.conflictsById.get? (tenantId, conflictId) = some conflict -> conflict.status = "open" ->
    service.DrawsFresh (.resolveConflict draws tenantId conflictId resolvedValue resolvedBy reason) ->
    recordable rt resolvedValue = true ->
    let outcome := service.resolveConflict rt draws tenantId conflictId resolvedValue resolvedBy reason
    Exists fun closed : Conflict => outcome.result = .ok closed ∧
      Resolved rt service outcome.state tenantId conflict resolvedValue closed
  refuses : forall draws tenantId conflictId conflict resolvedValue resolvedBy reason,
    service.conflictsById.get? (tenantId, conflictId) = some conflict -> conflict.status = "open" ->
    recordable rt resolvedValue = false -> Exists fun error : PyError =>
      service.resolveConflict rt draws tenantId conflictId resolvedValue resolvedBy reason =
        .raises service error
  unknown : forall draws tenantId conflictId resolvedValue resolvedBy reason,
    service.conflictsById.get? (tenantId, conflictId) = none -> Exists fun error : PyError =>
      service.resolveConflict rt draws tenantId conflictId resolvedValue resolvedBy reason =
        .raises service error
  settled : forall draws tenantId conflictId conflict resolvedValue resolvedBy reason,
    service.conflictsById.get? (tenantId, conflictId) = some conflict ->
    conflict.status = "resolved" ->
    service.resolveConflict rt draws tenantId conflictId resolvedValue resolvedBy reason =
      .returns service conflict
  atomic : forall draws tenantId conflictId resolvedValue resolvedBy reason error,
    (service.resolveConflict rt draws tenantId conflictId resolvedValue resolvedBy reason).result =
      .error error ->
    (service.resolveConflict rt draws tenantId conflictId resolvedValue resolvedBy reason).state =
      service

/-! ## One resolution -/

section Resolving

variable {rt : Runtime} {service : WorldStateService} {draws : Draws} {tenantId conflictId : Text}
variable {resolvedValue : Json} {resolvedBy reason : Text} {conflict : Conflict}

variable (rt) in
/-- The guard of `resolve_conflict` for an open conflict of a ready service: the value alone.
Everything else that a commit needs is in place already. -/
inductive Decision (service : WorldStateService) (draws : Draws) (tenantId : Text)
    (conflict : Conflict) (resolvedValue : Json) (resolvedBy reason : Text) :
    Bool -> Outcome PyError WorldStateService Conflict -> Prop
  | refused (error : PyError) : Decision service draws tenantId conflict resolvedValue resolvedBy reason
      false (.raises service error)
  | committed (state : OrderState) (commit : CommitRecord)
      (stored : service.states.get? conflict.entityKey = some state)
      (continues : Continues rt service commit)
      (answers : Answers (resolveRequest rt tenantId state conflict resolvedValue draws) draws commit) :
      Decision service draws tenantId conflict resolvedValue resolvedBy reason true
        (((service.record commit).setState conflict.entityKey
          (resolvedState tenantId state conflict resolvedValue draws commit.commitId)).closeConflict
            tenantId conflict resolvedValue resolvedBy reason (.utc (draws.clock 0)))

theorem Ready.decision (plain : PlainTexts rt) (ready : Ready rt service)
    (found : service.conflictsById.get? (tenantId, conflictId) = some conflict)
    (waits : conflict.status = "open") :
    Decision rt service draws tenantId conflict resolvedValue resolvedBy reason
      (recordable rt resolvedValue)
      (service.resolveConflict rt draws tenantId conflictId resolvedValue resolvedBy reason) := by
  have owner : conflict.tenantId = tenantId := congrArg Prod.fst (ready.stored.named _ _ found)
  rcases ready.conflicts _ conflict found with ⟨fit, placed⟩
  rcases Option.isSome_iff_exists.mp placed with ⟨state, held⟩
  have about : conflict.entityKey = (tenantId, conflict.entityType, conflict.entityId) :=
    congrArg (fun tenantId => (tenantId, conflict.entityType, conflict.entityId)) owner
  have accepts := resolveRequest_hashable plain (about ▸ ready.states _ state held) fit resolvedValue draws
  have way := resolveConflict_resolution rt service draws tenantId conflictId resolvedValue resolvedBy
    reason
  have same : forall other, service.getConflict tenantId conflictId = .ok other -> other = conflict :=
    fun other found' => Option.some.inj ((getConflict_ok found').symm.trans found)
  generalize service.resolveConflict rt draws tenantId conflictId resolvedValue resolvedBy reason =
    outcome at way ⊢
  cases way with
  | unknown error absent =>
      unfold getConflict at absent
      rw [found] at absent
      cases absent
  | settled other found' resolved =>
      rw [same other found', waits] at resolved
      cases resolved
  | stateless other found' unresolved absent =>
      cases same other found'
      rw [← about, held] at absent
      cases absent
  | undumped other state' found' unresolved stored undumpable =>
      cases same other found'
      rw [← about, held] at stored
      cases stored
      have refused : recordable rt resolvedValue = false := by
        refine Bool.eq_false_iff.mpr (fun accepted => ?_)
        rw [(accepts.mpr accepted).1] at undumpable
        cases undumpable
      rw [refused]
      exact .refused dumpRefusal
  | refused other state' error found' unresolved stored failed =>
      cases same other found'
      rw [← about, held] at stored
      cases stored
      have made := ready.linkable.createCommit rt draws
        (resolveRequest rt tenantId state conflict resolvedValue draws)
      rw [failed] at made
      have refused : recordable rt resolvedValue = false := by
        refine Bool.eq_false_iff.mpr (fun accepted => ?_)
        rw [(accepts.mpr accepted).2] at made
        cases made
      rw [refused]
      exact .refused error
  | committed other state' commit found' unresolved stored continues answers dumped =>
      cases same other found'
      rw [← about, held] at stored
      cases stored
      rw [accepts.mp ⟨dumped, ready.linkable.answered continues answers⟩, ← about]
      exact .committed state commit held continues answers

/-- A resolved conflict is never touched again. Later resolutions of it are answered with the
first one. -/
theorem settled_kept (ready : Ready rt service) {call : WorldCall} (fresh : call.FreshConflicts service)
    {id : Text × Text} {closed : Conflict} (found : service.conflictsById.get? id = some closed)
    (settled : closed.status = "resolved") :
    (service.perform rt call).conflictsById.get? id = some closed := by
  cases call with
  | ingest draws tenantId observation cause assuranceLevel =>
      exact ingest_resolved ready.filed fresh found settled
  | resolveConflict draws tenantId conflictId resolvedValue resolvedBy reason =>
      have way := resolveConflict_resolution rt service draws tenantId conflictId resolvedValue
        resolvedBy reason
      change (service.resolveConflict rt draws tenantId conflictId resolvedValue resolvedBy
        reason).state.conflictsById.get? id = some closed
      generalize service.resolveConflict rt draws tenantId conflictId resolvedValue resolvedBy reason =
        outcome at way ⊢
      cases way with
      | unknown error absent => exact found
      | settled other found' resolved => exact found
      | undumped other state found' unresolved stored undumpable => exact found
      | refused other state error found' unresolved stored failed => exact found
      | stateless other found' unresolved absent =>
          exact closeConflict_resolved ready.stored (.refl service) (getConflict_ok found') unresolved
            found settled
      | committed other state commit found' unresolved stored continues answers =>
          exact closeConflict_resolved ready.stored ⟨rfl, rfl⟩ (getConflict_ok found') unresolved
            found settled

theorem settled_kept_along (plain : PlainTexts rt) {id : Text × Text} {closed : Conflict}
    (settled : closed.status = "resolved") (calls : List WorldCall) (ready : Ready rt service)
    (found : service.conflictsById.get? id = some closed)
    (admitted : (drawnSystem rt).AdmitsAll service calls) :
    ((drawnSystem rt).trace service calls).2.conflictsById.get? id = some closed := by
  induction calls generalizing service with
  | nil => exact found
  | cons call rest ih =>
      exact ih (ready.perform plain admitted.1.2) (settled_kept ready admitted.1.2 found settled)
        admitted.2

theorem resolve_settled (draws : Draws) (resolvedValue : Json) (resolvedBy reason : Text)
    (found : service.conflictsById.get? (tenantId, conflictId) = some conflict)
    (settled : conflict.status = "resolved") :
    service.resolveConflict rt draws tenantId conflictId resolvedValue resolvedBy reason =
      .returns service conflict := by
  unfold resolveConflict getConflict
  rw [found]
  dsimp only
  rw [if_pos settled]

/-- The entity still waits for an operator when another of its attributes does. Only the
resolved attribute leaves the index. -/
theorem gate_of_index {after : WorldStateService} (filed : Filed service)
    (owner : conflict.tenantId = tenantId)
    (index : forall key, after.openConflicts.get? key =
      if key = conflict.key then none else service.openConflicts.get? key) :
    after.hasOpenConflicts tenantId conflict.entityType conflict.entityId = true <->
      Exists fun name : Text => name ≠ conflict.attributeName ∧ Exists fun other : Conflict =>
        service.openConflict? tenantId conflict.entityType conflict.entityId name = some other := by
  rw [hasOpenConflicts_iff]
  have key : forall name, (tenantId, conflict.entityType, conflict.entityId, name) = conflict.key <->
      name = conflict.attributeName := by
    intro name
    unfold Conflict.key
    rw [owner]
    constructor
    · intro same
      exact congrArg (fun key => key.2.2.2) same
    · intro same
      rw [same]
  constructor
  · rintro ⟨name, otherId, indexed⟩
    rw [index] at indexed
    split at indexed
    · cases indexed
    · rename_i different
      rcases filed.indexed _ otherId indexed with ⟨other, stored, _⟩
      refine ⟨name, fun same => different ((key name).mpr same), other, ?_⟩
      unfold openConflict?
      rw [indexed]
      exact stored
  · rintro ⟨name, different, other, found⟩
    refine ⟨name, other.conflictId, ?_⟩
    rw [index, if_neg (fun same => different ((key name).mp same))]
    exact (filed.openConflict found).1

theorem HistorySound.chained {created : List CommitRecord} {after : WorldStateService}
    {commit : CommitRecord} {commitId : Text} (sound : HistorySound rt created service)
    (effect : CommitEffect rt service commitId (some commit) after)
    (absent : forall tenantId, service.commits.get? (tenantId, commitId) = none)
    (nonempty : commitId ≠ "") : Exists fun commits : List CommitRecord =>
      service.listCommits commit.tenantId none = .ok commits ∧
        after.listCommits commit.tenantId none = .ok (commits ++ [commit]) := by
  refine ⟨_, sound.listCommits commit.tenantId, ?_⟩
  rw [(sound.step effect absent nonempty).listCommits]
  exact congrArg Except.ok ((ofTenant_grows created (some commit)).at_key)

/-- The call that put the value in place did everything that a resolution does. -/
theorem Ready.resolved (plain : PlainTexts rt) (ready : Ready rt service)
    {created : List CommitRecord} (sound : HistorySound rt created service)
    (found : service.conflictsById.get? (tenantId, conflictId) = some conflict)
    (waits : conflict.status = "open")
    (fresh : service.DrawsFresh
      (.resolveConflict draws tenantId conflictId resolvedValue resolvedBy reason))
    (accepted : recordable rt resolvedValue = true) :
    let outcome := service.resolveConflict rt draws tenantId conflictId resolvedValue resolvedBy reason
    Exists fun closed : Conflict => outcome.result = .ok closed ∧
      Resolved rt service outcome.state tenantId conflict resolvedValue closed := by
  have id : conflict.storedId = (tenantId, conflictId) := ready.stored.named _ _ found
  have owner : conflict.tenantId = tenantId := congrArg Prod.fst id
  have next : Ready rt (service.perform rt
      (.resolveConflict draws tenantId conflictId resolvedValue resolvedBy reason)) :=
    ready.perform plain True.intro
  change Ready rt (service.resolveConflict rt draws tenantId conflictId resolvedValue resolvedBy
    reason).state at next
  have views := @resolveConflict_keeps service rt draws tenantId ready.stored.named conflictId
    resolvedValue resolvedBy reason
  have way := @Ready.decision rt service draws tenantId conflictId resolvedValue resolvedBy reason
    conflict plain ready found waits
  rw [accepted] at way
  dsimp only
  generalize service.resolveConflict rt draws tenantId conflictId resolvedValue resolvedBy reason =
    outcome at way next views ⊢
  cases way with
  | committed state commit stored continues answers =>
      have chained := sound.chained (CommitEffect.committed commit _ continues answers.commitId rfl rfl)
        fresh.absent (newCommitId_nonempty draws)
      rw [answers.tenantId] at chained
      refine ⟨conflict.closed resolvedValue resolvedBy reason (.utc (draws.clock 0)), rfl, ?_⟩
      have index : forall key, (service.openConflicts.erase (tenantId, conflict.entityType,
          conflict.entityId, conflict.attributeName)).get? key =
            if key = conflict.key then none else service.openConflicts.get? key := by
        intro key
        rw [Dict.get?_erase, Conflict.key, owner]
      exact {
        entity := by
          refine ⟨state, _, commit, stored, rfl, ?_, answers.before, answers.after, rfl, chained, ?_⟩
          · exact ⟨rfl, ⟨_, Dict.get?_set_self _ _ _, rfl, rfl⟩,
              fun name different => Dict.get?_set_of_ne _ _ different, rfl, rfl⟩
          · exact congrArg (fun tenantId => service.commits.set (tenantId, commit.commitId) commit)
              answers.tenantId
        settled := ⟨rfl, rfl, rfl, rfl⟩
        conflicts := rfl
        index := index
        observations := rfl
        tenants := views.views
        gate := gate_of_index ready.filed owner index
        again := by
          intro calls admitted
          dsimp only
          intro draws' value resolvedBy' reason'
          refine resolve_settled draws' value resolvedBy' reason' ?_ rfl
          refine settled_kept_along plain rfl calls next ?_ admitted
          have same : (tenantId, conflict.conflictId) = conflict.storedId :=
            congrArg (fun tenantId => (tenantId, conflict.conflictId)) owner.symm
          rw [same]
          exact Dict.get?_set_self _ _ _ }

end Resolving

/-! ## Runs -/

section Runs

variable {rt : Runtime} {history : List (Step WorldStateService WorldCall)}
variable {service : WorldStateService}

theorem Ready.of_run (plain : PlainTexts rt) (run : (drawnSystem rt).Run history service) :
    Ready rt service := by
  apply System.Run.invariant run
  · rintro _ rfl
    exact .fresh rt
  · intro service call ready admitted
    exact ready.perform plain admitted.2

/-- In every reachable service, resolving is exact, atomic and idempotent. A call that raises
leaves the service as it was. -/
theorem conflict_resolution_exact (rt : Runtime) (plain : PlainTexts rt)
    (run : (drawnSystem rt).Run history service) : ExactResolution rt service := by
  have ready := Ready.of_run plain run
  have sound := HistorySound.of_run run.ofRestrict
  exact {
    resolves := fun draws tenantId conflictId conflict resolvedValue resolvedBy reason found waits fresh
        accepted => ready.resolved plain sound found waits fresh accepted
    refuses := by
      intro draws tenantId conflictId conflict resolvedValue resolvedBy reason found waits refused
      have way := @Ready.decision rt service draws tenantId conflictId resolvedValue resolvedBy reason
        conflict plain ready found waits
      rw [refused] at way
      generalize service.resolveConflict rt draws tenantId conflictId resolvedValue resolvedBy reason =
        outcome at way ⊢
      cases way with
      | refused error => exact ⟨error, rfl⟩
    unknown := fun draws tenantId conflictId resolvedValue resolvedBy reason absent =>
      ⟨_, resolveConflict_foreign rt absent draws resolvedValue resolvedBy reason⟩
    settled := fun draws tenantId conflictId conflict resolvedValue resolvedBy reason found settled =>
      resolve_settled draws resolvedValue resolvedBy reason found settled
    atomic := by
      intro draws tenantId conflictId resolvedValue resolvedBy reason error raised
      have way := resolveConflict_resolution rt service draws tenantId conflictId resolvedValue
        resolvedBy reason
      generalize service.resolveConflict rt draws tenantId conflictId resolvedValue resolvedBy reason =
        outcome at way raised ⊢
      cases way with
      | unknown error absent => rfl
      | settled conflict found resolved => cases raised
      | stateless conflict found unresolved absent => cases raised
      | undumped conflict state found unresolved stored undumpable => rfl
      | refused conflict state error found unresolved stored failed => rfl
      | committed conflict state commit found unresolved stored continues answers => cases raised }

end Runs

/-- Two connectors disagree about the status of an order. -/
def disputedOnce : List WorldCall :=
  [sampleIngest 10 "demo" openReading, sampleIngest 20 "demo" disagreeingReading]

theorem conflict_resolution_exact_sample :
    Exists fun service : WorldStateService =>
      (service.conflictsOf "demo" (some "open")).length = 1 ∧ ExactResolution .plain service := by
  have facts : (drawnSystem .plain).AdmitsAll .fresh disputedOnce ∧
      (((drawnSystem .plain).trace .fresh disputedOnce).2.conflictsOf "demo"
        (some "open")).length = 1 := by
    decide +kernel
  exact ⟨_, facts.2,
    conflict_resolution_exact .plain plain_plainTexts (System.run_trace disputedOnce rfl facts.1)⟩

end WorldState
end RealityLayer
