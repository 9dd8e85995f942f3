import RealityLayer.WorldState.History
import RealityLayer.WorldState.Persistence

namespace RealityLayer
namespace WorldState

open Foundation Python RealityGit

/-!
# The persisted commit log

The log is one chain as long as each new commit is created on top of the newest row.
`hydrate` decides that: it sets the head to the commit of the entity at hand, unless
it can reach that commit from the current head by walking parents.  Both ways it can
be wrong.  After a restart there is no head, and the entity's last commit need not
be the newest row.  Within one process the walk can stop early, because `hydrate`
replaces stored commits by copies without a parent.

`KeepsHead` says, on the state before a request, that neither happens.  Runs of such
requests and restarts keep the log one chain.
-/

/-! ## Requests and restarts -/

inductive Request where
  | observe (draws : Draws) (observation : Observation)
  | restart

namespace Store

def fresh : Store := ⟨.fresh, .empty⟩

def next (rt : Runtime) (tenantId : Text) (store : Store) : Request -> Store
  | .observe draws observation => (ingestObservation rt store draws tenantId observation).state
  | .restart => ⟨.fresh, store.tables⟩

/-- The request returns, and draws an identifier that no row has. A request that raises is
rolled back, and leaves no row. -/
def Succeeds (rt : Runtime) (tenantId : Text) (store : Store) : Request -> Prop
  | .observe draws observation =>
      (ingestObservation rt store draws tenantId observation).result.toBool = true ∧
        newCommitId draws ∉ store.tables.commitLog.map CommitRecord.commitId
  | .restart => True

instance (rt : Runtime) (tenantId : Text) (store : Store) : (request : Request) ->
    Decidable (store.Succeeds rt tenantId request)
  | .observe _ _ => inferInstanceAs (Decidable (_ ∧ _))
  | .restart => isTrue trivial

/-- The identifier of the newest row. It is what the next row should name as its parent. -/
def newest? (store : Store) : Option Text :=
  headAfter CommitRecord.commitId none store.tables.commitLog

/-- The commit of the projection that a request loads. A process without a head starts from
there, and not from the newest row. -/
def projected? (store : Store) (tenantId : Text) (observation : Observation) : Option Text :=
  (store.tables.projections.get? (tenantId, entityIdOf observation)).bind
    StateProjection.producingCommitId

/-- The newest row is where the chain of an observation's entity is continued.
Without a head in the process that is the projection's commit, otherwise the head,
unless the projection's commit cannot be reached from it. -/
def ContinuesNewest (tenantId : Text) (store : Store) (observation : Observation) : Prop :=
  match store.service.latestCommit.get? tenantId, store.projected? tenantId observation with
  | none, projected => projected = store.newest?
  | some head, none => some head = store.newest?
  | some head, some commitId =>
      if store.service.isAncestor tenantId commitId head = true then some head = store.newest?
      else some commitId = store.newest?

instance (tenantId : Text) (store : Store) (observation : Observation) :
    Decidable (store.ContinuesNewest tenantId observation) := by
  unfold ContinuesNewest
  split
  · infer_instance
  · infer_instance
  · infer_instance

/-- A new observation continues the newest row, and a repeated one is about an
entity with a projection. -/
def KeepsHead (tenantId : Text) (store : Store) : Request -> Prop
  | .observe _ observation =>
      if store.tables.Logged (tenantId, observation.observationId) then
        (store.projected? tenantId observation).isSome = true
      else store.ContinuesNewest tenantId observation
  | .restart => True

instance (tenantId : Text) (store : Store) : (request : Request) ->
    Decidable (store.KeepsHead tenantId request)
  | .observe _ _ => by
      unfold KeepsHead
      infer_instance
  | .restart => isTrue trivial

end Store

/-- Requests for one tenant that succeed, and restarts. Requests do not overlap here. -/
def persistedSystem (rt : Runtime) (tenantId : Text) : System Store Request where
  start := fun store => store = .fresh
  admits := fun store request => store.Succeeds rt tenantId request
  next := fun store request => store.next rt tenantId request

instance (rt : Runtime) (tenantId : Text) (store : Store) (request : Request) :
    Decidable ((persistedSystem rt tenantId).admits store request) :=
  inferInstanceAs (Decidable (store.Succeeds rt tenantId request))

/-- The same requests, each keeping the head. This is the condition on the state before a step. -/
def headedSystem (rt : Runtime) (tenantId : Text) : System Store Request :=
  (persistedSystem rt tenantId).restrict (Store.KeepsHead tenantId)

instance (rt : Runtime) (tenantId : Text) (store : Store) (request : Request) :
    Decidable ((headedSystem rt tenantId).admits store request) :=
  inferInstanceAs (Decidable (_ ∧ _))

/-- The rows pass the validator, and each names the row before it as its parent. The
validator itself checks hashes only, so a fork of parents alone would pass it. -/
structure OneChain (rt : Runtime) (commits : List CommitRecord) : Prop where
  validated : validateCommitChain rt commits = .ok ()
  parents : Linked CommitRecord.parentCommitId CommitRecord.commitId (fun _ => True) none commits

/-! ## The invariant -/

/-- A stored commit carries its key, and the log has a row of its name and hash. The rest of
the record may differ, since a hydrated commit is a copy with two fields. -/
structure Backed (tenantId : Text) (log : List CommitRecord) (commitId : Text) (commit : CommitRecord) :
    Prop where
  tenant : commit.tenantId = tenantId
  named : commit.commitId = commitId
  row : Exists fun row => row ∈ log ∧ row.commitId = commitId ∧ row.hash = commit.hash

/-- The log is a chain, and the service holds nothing that contradicts it. Any service may be
behind the log; what it must not have is a head of its own. -/
structure LogSound (rt : Runtime) (tenantId : Text) (store : Store) : Prop where
  named : forall commit, commit ∈ store.tables.commitLog -> commit.commitId ≠ ""
  distinct : (store.tables.commitLog.map CommitRecord.commitId).Nodup
  parents : Linked CommitRecord.parentCommitId CommitRecord.commitId (fun _ => True) none
    store.tables.commitLog
  hashes : Linked CommitRecord.previousHash CommitRecord.hash (SealedCommit rt) none
    store.tables.commitLog
  owned : forall commit, commit ∈ store.tables.commitLog -> commit.tenantId = tenantId
  produced : forall entityId row, store.tables.projections.get? (tenantId, entityId) = some row ->
    row.producingCommitId ≠ none
  known : forall commitId commit, store.service.commits.get? (tenantId, commitId) = some commit ->
    Backed tenantId store.tables.commitLog commitId commit

/-- The service's head is the newest row, and its commits agree with the log. It is what a
request needs before it commits, and what its commit leaves behind. -/
structure Headed (tenantId : Text) (log : List CommitRecord) (service : WorldStateService) : Prop where
  known : forall commitId commit, service.commits.get? (tenantId, commitId) = some commit ->
    Backed tenantId log commitId commit
  head : service.latestCommit.get? tenantId = headAfter CommitRecord.commitId none log

section Heads

variable {rt : Runtime} {tenantId : Text} {log : List CommitRecord}
variable {service after : WorldStateService}

theorem Headed.same (headed : Headed tenantId log service) (same : service.SameRecords after) :
    Headed tenantId log after where
  known := by
    rw [same.commits]
    exact headed.known
  head := by
    rw [same.latestCommit]
    exact headed.head

/-- A commit on top of a headed service continues the log. -/
theorem Headed.continues (headed : Headed tenantId log service)
    (named : forall commit, commit ∈ log -> commit.commitId ≠ "")
    (distinct : (log.map CommitRecord.commitId).Nodup) {commit : CommitRecord}
    (continues : Continues rt service commit) (tenant : commit.tenantId = tenantId) :
    commit.parentCommitId = headAfter CommitRecord.commitId none log ∧
      commit.previousHash = headAfter CommitRecord.hash none log := by
  have parent := continues.parent
  have previous := continues.previous
  rw [tenant, headed.head] at parent
  refine ⟨parent, ?_⟩
  unfold WorldStateService.latestHash at previous
  rw [tenant, headed.head] at previous
  cases log using List.reverseRec with
  | nil => exact (Except.ok.inj previous).symm
  | append_singleton front last =>
      have member : last ∈ front ++ [last] := List.mem_append_right _ List.mem_cons_self
      rw [headAfter_snoc, truthy?, Option.filter_some,
        if_pos (decide_eq_true (named last member))] at previous
      rw [headAfter_snoc]
      dsimp only at previous
      cases found : service.commits.get? (tenantId, last.commitId) with
      | none =>
          rw [found] at previous
          cases previous
      | some stored =>
          rw [found] at previous
          rcases (headed.known last.commitId stored found).row with ⟨row, listed, sameId, sameHash⟩
          have sameRow : row = last := List.inj_on_of_nodup_map distinct listed member sameId
          rw [← sameRow, sameHash]
          exact (Except.ok.inj previous).symm

theorem hydrateConflict_same (service : WorldStateService) (conflict : Conflict) :
    service.SameRecords (service.hydrateConflict conflict) := by
  unfold WorldStateService.hydrateConflict
  split
  · exact ⟨rfl, rfl, rfl, rfl⟩
  · exact ⟨rfl, rfl, rfl, rfl⟩

theorem hydrateConflicts_same (conflicts : List Conflict) (service : WorldStateService) :
    service.SameRecords (conflicts.foldl WorldStateService.hydrateConflict service) := by
  induction conflicts generalizing service with
  | nil => exact ⟨rfl, rfl, rfl, rfl⟩
  | cons conflict rest ih => exact (hydrateConflict_same service conflict).trans (ih _)

theorem loadState_spec {tables : Tables} {entityId : Text} {existing : Option OrderState}
    (loaded : tables.loadState rt tenantId entityId = .ok existing) :
    existing.map OrderState.commitId = (tables.projections.get? (tenantId, entityId)).map
        (fun row => row.producingCommitId.getD "") ∧
      forall state, existing = some state -> state.tenantId = tenantId := by
  unfold Tables.loadState at loaded
  cases found : tables.projections.get? (tenantId, entityId) with
  | none =>
      rw [found] at loaded
      cases loaded
      exact ⟨rfl, nofun⟩
  | some row =>
      rw [found] at loaded
      dsimp only at loaded
      split at loaded
      · cases loaded
      · cases loaded
        refine ⟨rfl, ?_⟩
        rintro state ⟨⟩
        rfl

theorem loadCommit_some {tables : Tables} {commitId : Text} {row : CommitRecord}
    (found : tables.loadCommit tenantId commitId = some row) :
    row ∈ tables.commitLog ∧ row.commitId = commitId := by
  have chosen := List.find?_some found
  exact ⟨List.mem_of_find?_eq_some found, (of_decide_eq_true chosen).2⟩

theorem truthy_getD (text : Text) : (truthy? (some text)).getD text = text := by
  unfold truthy?
  rw [Option.filter_some]
  split
  · rfl
  · rfl

/-- Hydrating adds at most a commit that the log has under the same identifier
and hash. -/
theorem hydrate_known (tables : Tables) (state : OrderState) (tenant : state.tenantId = tenantId)
    (known : forall commitId commit, service.commits.get? (tenantId, commitId) = some commit ->
      Backed tenantId tables.commitLog commitId commit)
    (commitId : Text) (commit : CommitRecord)
    (stored : (service.hydrateFrom tables tenantId (some state)).commits.get? (tenantId, commitId) =
      some commit) : Backed tenantId tables.commitLog commitId commit := by
  unfold WorldStateService.hydrateFrom WorldStateService.hydrate at stored
  dsimp only at stored
  split at stored
  · rename_i parent hash parentFound hashFound
    by_cases same : commitId = parent
    · subst same
      rcases Option.filter_eq_some_iff.mp parentFound with ⟨named, _⟩
      rcases Option.filter_eq_some_iff.mp hashFound with ⟨hashed, _⟩
      rcases Option.map_eq_some_iff.mp hashed with ⟨row, loaded, rfl⟩
      rcases Option.bind_eq_some_iff.mp loaded with ⟨name, truthy, found⟩
      have sameName : name = commitId := Option.some.inj (truthy.symm.trans parentFound)
      rw [sameName] at found
      rcases loadCommit_some found with ⟨listed, sameId⟩
      rw [tenant, Dict.get?_set_self] at stored
      cases stored
      exact ⟨tenant, rfl, row, listed, sameId, rfl⟩
    · rw [Dict.get?_set_of_ne] at stored
      · exact known commitId commit stored
      · intro equal
        exact same (congrArg Prod.snd equal)
  · exact known commitId commit stored

theorem hydrate_head (tables : Tables) (state : OrderState) (tenant : state.tenantId = tenantId) :
    (service.hydrateFrom tables tenantId (some state)).latestCommit.get? tenantId =
      some (service.hydratedHead state (some state.commitId)) := by
  unfold WorldStateService.hydrateFrom WorldStateService.hydrate
  dsimp only
  split
  · rw [tenant]
    exact Dict.get?_set_self _ _ _
  · rw [tenant]
    exact Dict.get?_set_self _ _ _

end Heads

/-! ## One request -/

section Request

variable {rt : Runtime} {tenantId : Text} {store : Store}

/-- The loaded state names the commit of the projection. -/
theorem LogSound.projected_of_loaded (sound : LogSound rt tenantId store) {observation : Observation}
    {state : OrderState}
    (commits : (some state).map OrderState.commitId =
      (store.tables.projections.get? (tenantId, entityIdOf observation)).map
        (fun row => row.producingCommitId.getD "")) :
    store.projected? tenantId observation = some state.commitId := by
  rcases Option.map_eq_some_iff.mp commits.symm with ⟨row, found, named⟩
  rcases Option.ne_none_iff_exists'.mp (sound.produced _ row found) with ⟨producing, made⟩
  rw [made] at named
  rw [Store.projected?, found, Option.bind_some, made]
  exact congrArg some named

/-- Hydrating keeps the commits in agreement with the log. -/
theorem LogSound.hydrated_known (sound : LogSound rt tenantId store) {tables : Tables}
    (log : tables.commitLog = store.tables.commitLog) {existing : Option OrderState}
    (tenant : forall state, existing = some state -> state.tenantId = tenantId)
    (commitId : Text) (commit : CommitRecord)
    (stored : (store.service.hydrateFrom tables tenantId existing).commits.get?
      (tenantId, commitId) = some commit) :
    Backed tenantId store.tables.commitLog commitId commit := by
  cases existing with
  | none => exact sound.known commitId commit stored
  | some state =>
      rw [← log]
      refine hydrate_known tables state (tenant state rfl) ?_ commitId commit stored
      rw [log]
      exact sound.known

/-- Hydrating for an observation that continues the newest row makes it the head. -/
theorem LogSound.hydrated (sound : LogSound rt tenantId store) {observation : Observation}
    (newest : store.ContinuesNewest tenantId observation) {tables : Tables}
    (log : tables.commitLog = store.tables.commitLog)
    (projections : tables.projections = store.tables.projections) {existing : Option OrderState}
    (loaded : tables.loadState rt tenantId (entityIdOf observation) = .ok existing) :
    Headed tenantId store.tables.commitLog (store.service.hydrateFrom tables tenantId existing) := by
  rcases loadState_spec loaded with ⟨commits, tenant⟩
  refine ⟨sound.hydrated_known log tenant, ?_⟩
  rw [projections] at commits
  unfold Store.ContinuesNewest at newest
  cases existing with
  | none =>
      have projected : store.projected? tenantId observation = none := by
        rw [Store.projected?, Option.map_eq_none_iff.mp commits.symm, Option.bind_none]
      rw [projected] at newest
      change store.service.latestCommit.get? tenantId = _
      cases latest : store.service.latestCommit.get? tenantId with
      | none =>
          rw [latest] at newest
          exact newest
      | some head =>
          rw [latest] at newest
          exact newest
  | some state =>
      have projected := sound.projected_of_loaded commits
      rw [projected] at newest
      rw [hydrate_head tables state (tenant state rfl), WorldStateService.hydratedHead,
        truthy_getD, tenant state rfl]
      cases latest : store.service.latestCommit.get? tenantId with
      | none =>
          rw [latest] at newest
          exact newest
      | some head =>
          rw [latest] at newest
          dsimp only at newest ⊢
          split at newest
          · rename_i reached
            rw [if_pos reached]
            exact newest
          · rename_i unreached
            rw [if_neg unreached]
            exact newest

/-- The fields of a sound log depend on the log, the projections and the known
commits only. -/
theorem LogSound.of_known (sound : LogSound rt tenantId store) {service : WorldStateService}
    {tables : Tables} (log : tables.commitLog = store.tables.commitLog)
    (projections : tables.projections = store.tables.projections)
    (known : forall commitId commit, service.commits.get? (tenantId, commitId) = some commit ->
      Backed tenantId store.tables.commitLog commitId commit) :
    LogSound rt tenantId ⟨service, tables⟩ where
  named := log ▸ sound.named
  distinct := log ▸ sound.distinct
  parents := log ▸ sound.parents
  hashes := log ▸ sound.hashes
  owned := log ▸ sound.owned
  produced := projections ▸ sound.produced
  known := log ▸ known

theorem persistConflicts_frame (rt : Runtime) (tables : Tables) (service : WorldStateService)
    (tenantId : Text) :
    (tables.persistConflicts rt service tenantId).commitLog = tables.commitLog ∧
      (tables.persistConflicts rt service tenantId).projections = tables.projections := by
  unfold Tables.persistConflicts
  generalize service.conflictsById.values.filter _ = conflicts
  induction conflicts generalizing tables with
  | nil => exact ⟨rfl, rfl⟩
  | cons conflict rest ih => exact ih (tables.persistConflict rt conflict)

theorem loadCommit_of_mem {tables : Tables} {row : CommitRecord} (listed : row ∈ tables.commitLog)
    (owner : row.tenantId = tenantId) :
    (tables.loadCommit tenantId row.commitId).isSome = true :=
  List.find?_isSome.mpr ⟨row, listed, decide_eq_true ⟨owner, rfl⟩⟩

theorem logObservation_frame (tables : Tables) (key : Text × Text) :
    (tables.logObservation key).commitLog = tables.commitLog ∧
      (tables.logObservation key).projections = tables.projections := by
  unfold Tables.logObservation
  split
  · exact ⟨rfl, rfl⟩
  · exact ⟨rfl, rfl⟩

/-- Persisting a commit that the service knows changes nothing. -/
theorem LogSound.persist_known (sound : LogSound rt tenantId store) {tables : Tables}
    (log : tables.commitLog = store.tables.commitLog) (state : OrderState) {commitId : Text}
    {commit : CommitRecord} (backed : Backed tenantId store.tables.commitLog commitId commit) :
    tables.persist rt state commit = tables := by
  rcases backed.row with ⟨row, listed, sameId, _⟩
  have found : (tables.loadCommit commit.tenantId commit.commitId).isSome = true := by
    rw [backed.tenant, backed.named, ← sameId]
    exact loadCommit_of_mem (log ▸ listed) (sound.owned row listed)
  rcases Option.isSome_iff_exists.mp found with ⟨existing, loaded⟩
  simp only [Tables.persist, loaded]

/-- A projection always names the commit that produced it. -/
theorem persist_produced {tables : Tables} {state : OrderState} (commit : CommitRecord)
    (produced : forall entityId row, tables.projections.get? (tenantId, entityId) = some row ->
      row.producingCommitId ≠ none)
    (entityId : Text) (row : StateProjection)
    (found : (tables.persist rt state commit).projections.get? (tenantId, entityId) = some row) :
    row.producingCommitId ≠ none := by
  unfold Tables.persist at found
  split at found
  · exact produced entityId row found
  · by_cases key : (tenantId, entityId) = (state.tenantId, state.entityId)
    · rw [key, Dict.get?_set_self] at found
      cases found
      exact Option.some_ne_none _
    · rw [Dict.get?_set_of_ne _ _ key] at found
      exact produced entityId row found

/-- Persisting a new commit on top of the log. -/
theorem persist_new {tables : Tables} (state : OrderState) {commit : CommitRecord}
    (unused : commit.commitId ∉ tables.commitLog.map CommitRecord.commitId) :
    (tables.persist rt state commit).commitLog = tables.commitLog ++ [commit] := by
  have absent : tables.loadCommit commit.tenantId commit.commitId = none := by
    refine List.find?_eq_none.mpr (fun row listed same => unused ?_)
    exact List.mem_map.mpr ⟨row, listed, (of_decide_eq_true same).2⟩
  simp only [Tables.persist, absent]

/-- A commit on top of the newest row extends the chain, and becomes the head. -/
theorem LogSound.committed (sound : LogSound rt tenantId store) {base : WorldStateService}
    (headed : Headed tenantId store.tables.commitLog base) {commit : CommitRecord}
    (continues : Continues rt base commit) (tenant : commit.tenantId = tenantId)
    (unused : commit.commitId ∉ store.tables.commitLog.map CommitRecord.commitId)
    (nonempty : commit.commitId ≠ "") {service : WorldStateService} {tables : Tables}
    (commits : service.commits = (base.record commit).commits)
    (log : tables.commitLog = store.tables.commitLog ++ [commit])
    (produced : forall entityId row, tables.projections.get? (tenantId, entityId) = some row ->
      row.producingCommitId ≠ none) :
    LogSound rt tenantId ⟨service, tables⟩ := by
  rcases headed.continues sound.named sound.distinct continues tenant with ⟨parent, previous⟩
  have mem : forall row, row ∈ tables.commitLog -> row ∈ store.tables.commitLog ∨ row = commit := by
    intro row listed
    rw [log] at listed
    exact (List.mem_append.mp listed).imp id List.mem_singleton.mp
  refine ⟨?_, ?_, ?_, ?_, ?_, produced, ?_⟩
  · intro row listed
    rcases mem row listed with earlier | rfl
    · exact sound.named row earlier
    · exact nonempty
  · change (tables.commitLog.map CommitRecord.commitId).Nodup
    rw [log, List.map_append, List.nodup_append]
    refine ⟨sound.distinct, List.nodup_singleton _, ?_⟩
    rintro _ earlier _ last rfl
    exact unused (List.mem_singleton.mp last ▸ earlier)
  · change Linked _ _ _ none tables.commitLog
    rw [log, linked_snoc]
    exact ⟨sound.parents, parent, True.intro⟩
  · change Linked _ _ _ none tables.commitLog
    rw [log, linked_snoc]
    exact ⟨sound.hashes, previous, continues.genuine⟩
  · intro row listed
    rcases mem row listed with earlier | rfl
    · exact sound.owned row earlier
    · exact tenant
  · intro commitId stored found
    change service.commits.get? _ = _ at found
    rw [commits, WorldStateService.record] at found
    change Backed tenantId tables.commitLog commitId stored
    rw [log]
    by_cases same : commitId = commit.commitId
    · rw [same, ← tenant, Dict.get?_set_self] at found
      cases found
      exact ⟨tenant, same.symm, _, List.mem_append_right _ List.mem_cons_self, same.symm, rfl⟩
    · rw [Dict.get?_set_of_ne] at found
      · rcases headed.known commitId stored found with ⟨owner, named, row, listed, facts⟩
        exact ⟨owner, named, row, List.mem_append_left _ listed, facts⟩
      · intro equal
        exact same (congrArg Prod.snd equal)

/-- Ingesting into a service headed by the newest row, and persisting the result. -/
theorem LogSound.persist_ingested (sound : LogSound rt tenantId store) {service : WorldStateService}
    (headed : Headed tenantId store.tables.commitLog service) {draws : Draws}
    {observation : Observation}
    (fresh : newCommitId draws ∉ store.tables.commitLog.map CommitRecord.commitId) {tables : Tables}
    (log : tables.commitLog = store.tables.commitLog)
    (projections : tables.projections = store.tables.projections) {state : OrderState}
    {commit : CommitRecord} {outcome : Outcome PyError WorldStateService OrderState}
    (effect : IngestEffect rt service draws tenantId observation outcome)
    (returned : outcome.result = .ok state)
    (found : outcome.state.commits.get? (tenantId, state.commitId) = some commit) :
    LogSound rt tenantId
      ⟨outcome.state, (tables.persist rt state commit).persistConflicts rt outcome.state tenantId⟩ := by
  rcases persistConflicts_frame rt (tables.persist rt state commit) outcome.state tenantId with
      ⟨conflictsLog, conflictsProjections⟩
  -- Without a new commit the stored one has its row already.
  have quiet (same : outcome.state.commits = service.commits) : LogSound rt tenantId
      ⟨outcome.state, (tables.persist rt state commit).persistConflicts rt outcome.state tenantId⟩ := by
    rw [same] at found
    rw [sound.persist_known log state (headed.known _ _ found)] at conflictsLog conflictsProjections ⊢
    apply sound.of_known (conflictsLog.trans log) (conflictsProjections.trans projections)
    rw [same]
    exact headed.known
  cases effect with
  | repeated held seen stored => exact quiet rfl
  | raised error after states commits head => cases returned
  | unchanged incoming held after projected stored same states commits head => exact quiet commits
  | committed incoming new base previous projected stored states commits head continues named tenant =>
      cases returned
      have same : new = commit := by
        change (base.commits.set (new.tenantId, new.commitId) new).get? (tenantId, new.commitId) =
          some commit at found
        rw [tenant, Dict.get?_set_self] at found
        exact Option.some.inj found
      subst same
      rw [← named, ← log] at fresh
      rw [persist_new _ fresh, log] at conflictsLog
      rw [log] at fresh
      refine sound.committed headed (continues.of_same rt service commits head) tenant fresh
        (named ▸ newCommitId_nonempty draws) ?_ conflictsLog ?_
      · simp only [Outcome.returns_state, WorldStateService.setState, WorldStateService.record, commits]
      · rw [conflictsProjections]
        exact persist_produced _ (projections ▸ sound.produced)

/-- A request that keeps the head keeps the log sound. -/
theorem LogSound.observe (sound : LogSound rt tenantId store) {draws : Draws}
    {observation : Observation} (keeps : store.KeepsHead tenantId (.observe draws observation))
    (succeeds : store.Succeeds rt tenantId (.observe draws observation)) :
    LogSound rt tenantId (store.next rt tenantId (.observe draws observation)) := by
  rcases succeeds with ⟨returned, fresh⟩
  rcases logObservation_frame store.tables (tenantId, observation.observationId) with ⟨log, projections⟩
  change LogSound rt tenantId (ingestObservation rt store draws tenantId observation).state
  unfold Store.KeepsHead at keeps
  unfold ingestObservation at returned ⊢
  dsimp only at returned keeps ⊢
  generalize store.tables.logObservation (tenantId, observation.observationId) = logged at *
  cases loaded : logged.loadState rt tenantId (entityIdOf observation) with
  | error error =>
      rw [loaded] at returned
      cases returned
  | ok existing =>
      rcases loadState_spec loaded with ⟨commits, tenant⟩
      have known := sound.hydrated_known log tenant
      rw [loaded] at returned
      dsimp only at returned ⊢
      by_cases repeated : store.tables.Logged (tenantId, observation.observationId)
      · rw [if_pos repeated] at keeps
        cases existing with
        | none =>
            rw [projections] at commits
            rw [Store.projected?, Option.map_eq_none_iff.mp commits.symm] at keeps
            cases keeps
        | some state =>
            have created : (!decide ((tenantId, observation.observationId) ∉
                store.tables.observationLog)) = true := by
              have listed : (tenantId, observation.observationId) ∈ store.tables.observationLog :=
                repeated
              rw [decide_eq_false (not_not_intro listed)]
              rfl
            rw [Option.filter_some, if_pos created]
            exact sound.of_known log projections known
      · rw [if_neg repeated] at keeps
        have headed := sound.hydrated keeps log projections loaded
        have created : decide ((tenantId, observation.observationId) ∉ store.tables.observationLog) =
            true :=
          decide_eq_true repeated
        have skipped : existing.filter (fun _ => false) = none := by
          cases existing with
          | none => rfl
          | some state => rfl
        simp only [created, Bool.not_true, skipped] at returned ⊢
        cases listed : logged.listConflicts rt tenantId with
        | error error =>
            rw [listed] at returned
            cases returned
        | ok conflicts =>
            rw [listed] at returned
            dsimp only at returned ⊢
            have ready := headed.same (hydrateConflicts_same conflicts _)
            have effect := ingest_cases rt (conflicts.foldl WorldStateService.hydrateConflict
              (store.service.hydrateFrom logged tenantId existing)) draws tenantId observation
              "observation" "observed"
            generalize WorldStateService.ingest rt _ draws tenantId observation "observation"
              "observed" = outcome at effect returned ⊢
            cases result : outcome.result with
            | error error =>
                rw [result] at returned
                cases returned
            | ok state =>
                rw [result] at returned
                dsimp only at returned ⊢
                cases found : outcome.state.commits.get? (tenantId, state.commitId) with
                | none =>
                    rw [found] at returned
                    cases returned
                | some commit =>
                    exact sound.persist_ingested ready fresh log projections effect result found

theorem LogSound.fresh (rt : Runtime) (tenantId : Text) : LogSound rt tenantId .fresh where
  named := nofun
  distinct := List.nodup_nil
  parents := True.intro
  hashes := True.intro
  owned := nofun
  produced := nofun
  known := nofun

theorem LogSound.restart (sound : LogSound rt tenantId store) :
    LogSound rt tenantId (store.next rt tenantId .restart) :=
  sound.of_known rfl rfl nofun

end Request

/-! ## Runs -/

/-- In every run of requests that keep the head, and restarts, the log is one chain. -/
theorem persisted_log_chained (rt : Runtime) (tenantId : Text)
    {history : List (Step Store Request)} {store : Store}
    (run : (headedSystem rt tenantId).Run history store) :
    OneChain rt store.tables.commitLog := by
  have sound : LogSound rt tenantId store := by
    apply System.Run.invariant run
    · rintro _ rfl
      exact .fresh rt tenantId
    · intro store request sound admitted
      rcases admitted with ⟨succeeds, keeps⟩
      cases request with
      | observe draws observation => exact sound.observe keeps succeeds
      | restart => exact sound.restart
  exact ⟨(validateCommitChain_ok_iff rt _).mpr sound.hashes, sound.parents⟩

/-! ## Two orders -/

/-- Readings of a second order. -/
def secondOpenReading : Observation where
  observationId := "obs_shopify_1002"
  connector := "shopify"
  objectType := "order"
  objectId := "1002"
  observedAt := .utc 0
  payload := Dict.ofList [("id", .str "1002"), ("status", .str "open")]
  valid := by decide +kernel

def secondCancelledReading : Observation where
  observationId := "obs_shopify_1002_later"
  connector := "shopify"
  objectType := "order"
  objectId := "1002"
  observedAt := .utc 0
  payload := Dict.ofList [("id", .str "1002"), ("status", .str "cancelled")]
  valid := by decide +kernel

def bothOrders : List Request :=
  [.observe (.numbered 1) openReading, .observe (.numbered 2) secondOpenReading]

/-- After a restart the order that was observed last is observed again. Its commit is the
newest row, so the chain goes on. -/
def resumedRequests : List Request :=
  bothOrders ++ [.restart, .observe (.numbered 3) secondCancelledReading]

theorem persisted_log_chained_sample :
    Exists fun store : Store =>
      store.tables.commitLog.length = 3 ∧ OneChain .plain store.tables.commitLog := by
  -- both facts in one evaluation of the run
  have sampled : (headedSystem .plain "demo").AdmitsAll .fresh resumedRequests ∧
      ((headedSystem .plain "demo").trace .fresh resumedRequests).2.tables.commitLog.length = 3 := by
    decide +kernel
  rcases sampled with ⟨admitted, rows⟩
  have run := System.run_trace resumedRequests rfl admitted
  exact ⟨_, rows, persisted_log_chained .plain "demo" run⟩

/-- What a run of these requests leaves behind. -/
def storeAfter (requests : List Request) : Store :=
  ((persistedSystem .plain "demo").trace .fresh requests).2

/-- After a restart the first order is observed again. The process then starts from its
commit, which is not the newest row. -/
def restartedRequests : List Request :=
  bothOrders ++ [.restart, .observe (.numbered 3) cancelledReading]

/-- In one process, each order is observed again, the second one first. The head stays at the
newest row all the way. -/
def alternatingRequests : List Request :=
  bothOrders ++ [.observe (.numbered 3) secondCancelledReading,
    .observe (.numbered 4) cancelledReading]

/-- Either way all requests succeed, and the log is not one chain. -/
theorem persisted_log_forks :
    (Exists fun history =>
      (persistedSystem .plain "demo").Run history (storeAfter restartedRequests) ∧
        ¬ OneChain .plain (storeAfter restartedRequests).tables.commitLog) ∧
    (Exists fun history =>
      (persistedSystem .plain "demo").Run history (storeAfter alternatingRequests) ∧
        ¬ OneChain .plain (storeAfter alternatingRequests).tables.commitLog) := by
  have rejected (requests : List Request) (refused : validateCommitChain .plain
      (storeAfter requests).tables.commitLog ≠ .ok ()) :
      ¬ OneChain .plain (storeAfter requests).tables.commitLog :=
    fun chained => refused chained.validated
  have forks : ((persistedSystem .plain "demo").AdmitsAll .fresh restartedRequests ∧
        validateCommitChain .plain (storeAfter restartedRequests).tables.commitLog ≠ .ok ()) ∧
      (persistedSystem .plain "demo").AdmitsAll .fresh alternatingRequests ∧
        validateCommitChain .plain (storeAfter alternatingRequests).tables.commitLog ≠ .ok () := by
    decide +kernel
  rcases forks with ⟨⟨restarted, refused⟩, alternating, refused'⟩
  constructor
  · exact ⟨_, System.run_trace restartedRequests rfl restarted, rejected _ refused⟩
  · exact ⟨_, System.run_trace alternatingRequests rfl alternating, rejected _ refused'⟩

end WorldState
end RealityLayer
