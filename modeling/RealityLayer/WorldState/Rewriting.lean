import RealityLayer.WorldState.Served

namespace RealityLayer
namespace WorldState

open Foundation Python RealityGit WorldStateService

/-!
# Hydrating what the service already knows

`hydrate` places a state, moves the head of the chain unless the state's commit
is an ancestor of it, and stores a commit record rebuilt from an identifier and a
hash.  The ancestor walk protects the head of a live service: hydrating any state
that the service holds or has held leaves the head, and with it the parent and
the previous hash of the next commit.

The rebuilt record is stored all the same.  It has no parent, no contents and the
cause `hydrated`, so it replaces a commit that says more, and a walk along the
chain ends there.
-/

/-! ## Reading the chain -/

/-- What a tenant's readers and the tenant's next commit see of the history: the listing,
each commit by its name, and the head with its hash. -/
structure KeepsHistory (service after : WorldStateService) (tenantId : Text) : Prop where
  listed : after.listCommits tenantId none = service.listCommits tenantId none
  commits : forall commitId, after.getCommit tenantId commitId = service.getCommit tenantId commitId
  parent : after.latestCommit.get? tenantId = service.latestCommit.get? tenantId
  previous : after.latestHash tenantId = service.latestHash tenantId

section Heads

variable {rt : Runtime} {service : WorldStateService} {created : List CommitRecord}
variable {state : OrderState} {commit : CommitRecord}

/-- Every created commit is an ancestor of its tenant's head. -/
theorem HistorySound.isAncestor (sound : HistorySound rt created service) (member : commit ∈ created) :
    Exists fun latest : Text => service.latestCommit.get? commit.tenantId = some latest ∧
      service.isAncestor commit.tenantId commit.commitId latest = true := by
  have own : commit ∈ ofTenant commit.tenantId created := mem_ofTenant.mpr ⟨member, rfl⟩
  have head := sound.head commit.tenantId
  cases latest : service.latestCommit.get? commit.tenantId with
  | none =>
      rw [latest] at head
      cases commits : ofTenant commit.tenantId created using List.reverseRec with
      | nil =>
          rw [commits] at own
          cases own
      | append_singleton front last =>
          rw [commits, headAfter_snoc] at head
          cases head
  | some latest' =>
      refine ⟨latest', rfl, ?_⟩
      unfold WorldStateService.isAncestor
      rw [← latest, head]
      refine walkMeets_linked CommitRecord.commitId (ofTenant commit.tenantId created) _ _ ?_
        (sound.parents commit.tenantId) ?_ ?_ (fun _ _ => List.not_mem_nil) own
      · rw [WorldStateService.walkBound, ← sound.size]
        exact Nat.lt_succ_of_le (List.length_filter_le _ _)
      · intro other inside
        rcases mem_ofTenant.mp inside with ⟨known, tenant⟩
        exact tenant ▸ sound.stored other known
      · exact sound.distinct.sublist (List.filter_sublist.map _)

/-- Hydrating the state of a created commit leaves the head where it is. The commit lies on
the way back from it. -/
theorem HistorySound.hydratedHead (sound : HistorySound rt created service) (member : commit ∈ created)
    (owner : state.tenantId = commit.tenantId) (named : state.commitId = commit.commitId)
    (parentCommitId : Option Text) :
    service.latestCommit.get? state.tenantId = some (service.hydratedHead state parentCommitId) := by
  rcases sound.isAncestor member with ⟨latest, head, ancestor⟩
  unfold WorldStateService.hydratedHead
  rw [owner, named, head]
  dsimp only
  rw [if_pos ancestor]

end Heads

/-! ## What a service holds and has held -/

/-- The state is filed where `hydrate` would put it. The key is rebuilt from the state's own
names, which works only while no object type has a colon in it. -/
structure Placed (key : Text × Text × Text) (state : OrderState) : Prop where
  tenantId : state.tenantId = key.1
  entityType : state.entityType.lower = key.2.1
  entityId : state.entityId.afterColon = key.2.2
  called : state.entityId = key.2.1 ++ ":" ++ key.2.2

theorem Placed.key {key : Text × Text × Text} {state : OrderState} (placed : Placed key state) :
    (state.tenantId, state.entityType.lower, state.entityId.afterColon) = key := by
  rw [placed.tenantId, placed.entityType, placed.entityId]

/-- Not a record that `hydrate` builds. Such a record has an empty body and no parent, under
the identifier of the real one. -/
def CommitRecord.Original (commit : CommitRecord) : Prop :=
  commit.observationIds ≠ [] ∨ commit.cause ≠ "hydrated"

structure Genuine (service : WorldStateService) : Prop where
  placed : forall key state, service.states.get? key = some state -> Placed key state
  original : forall id commit, service.commits.get? id = some commit -> commit.Original

section Calls

variable {rt : Runtime} {service : WorldStateService}

theorem resolved_cause_ne (conflictId : Text) :
    ("conflict_resolved:" : Text) ++ conflictId ≠ "hydrated" := by
  intro same
  have first := congrArg (fun text : Text => text.codes.head?) same
  rw [Text.codes_append] at first
  cases first

theorem Genuine.advanced (genuine : Genuine service) {after : WorldStateService}
    {key : Text × Text × Text} {state : OrderState} {commit : CommitRecord}
    (placed : Placed key state) (original : commit.Original)
    (states : after.states = service.states.set key state)
    (commits : after.commits = service.commits.set (commit.tenantId, commit.commitId) commit) :
    Genuine after where
  placed := by
    intro other found stored
    rw [states, Dict.get?_set] at stored
    split at stored
    · rename_i same
      cases stored
      exact same ▸ placed
    · exact genuine.placed other found stored
  original := by
    intro other found stored
    rw [commits, Dict.get?_set] at stored
    split at stored
    · cases stored
      exact original
    · exact genuine.original other found stored

theorem Genuine.same (genuine : Genuine service) {after : WorldStateService}
    (states : after.states = service.states) (commits : after.commits = service.commits) :
    Genuine after :=
  ⟨states ▸ genuine.placed, commits ▸ genuine.original⟩

/-- A call changes nothing here, or it files one state with its commit. -/
theorem perform_files (placed : forall key state, service.states.get? key = some state ->
    Placed key state) (call : WorldCall) :
    ((service.perform rt call).states = service.states ∧
        (service.perform rt call).commits = service.commits) ∨
      Exists fun key : Text × Text × Text => Exists fun state : OrderState =>
        Exists fun commit : CommitRecord => Placed key state ∧ commit.Original ∧
          (service.perform rt call).states = service.states.set key state ∧
          (service.perform rt call).commits =
            service.commits.set (commit.tenantId, commit.commitId) commit := by
  cases call with
  | ingest draws tenantId observation cause assuranceLevel =>
      have way := ingest_ingestion rt service draws tenantId observation cause assuranceLevel
      unfold WorldStateService.perform
      dsimp only
      generalize service.states.get? (tenantId, observation.objectType, observation.objectId) = previous
        at way
      generalize service.ingest rt draws tenantId observation cause assuranceLevel = outcome at way ⊢
      have kept := merged_same service draws tenantId observation previous
      cases way with
      | repeated state stored known => exact Or.inl ⟨rfl, rfl⟩
      | stateless absent known => exact Or.inl ⟨rfl, rfl⟩
      | unprojected error => exact Or.inl ⟨rfl, rfl⟩
      | unchanged incoming => exact Or.inl ⟨(kept incoming).states, (kept incoming).commits⟩
      | undumped incoming => exact Or.inl ⟨(kept incoming).states, (kept incoming).commits⟩
      | refused incoming => exact Or.inl ⟨(kept incoming).states, (kept incoming).commits⟩
      | committed incoming commit new projected changes continues answers =>
          rcases hydrated_key observation with ⟨typed, named⟩
          have original : commit.Original := by
            refine Or.inl ?_
            rw [answers.observationIds]
            exact List.cons_ne_nil _ _
          refine Or.inr ⟨(tenantId, observation.objectType, observation.objectId),
            compiledState tenantId observation previous incoming commit.commitId, commit,
            ⟨rfl, typed, named, rfl⟩, original, ?_, ?_⟩
          · simp only [Outcome.returns_state, setState, record, (kept incoming).states, seen]
          · simp only [Outcome.returns_state, setState, record, (kept incoming).commits, seen]
  | resolveConflict draws tenantId conflictId resolvedValue resolvedBy reason =>
      have way := resolveConflict_resolution rt service draws tenantId conflictId resolvedValue
        resolvedBy reason
      unfold WorldStateService.perform
      dsimp only
      generalize service.resolveConflict rt draws tenantId conflictId resolvedValue resolvedBy reason =
        outcome at way ⊢
      cases way with
      | unknown error absent => exact Or.inl ⟨rfl, rfl⟩
      | settled conflict found resolved => exact Or.inl ⟨rfl, rfl⟩
      | stateless conflict found unresolved absent => exact Or.inl ⟨rfl, rfl⟩
      | undumped conflict state found unresolved stored undumpable => exact Or.inl ⟨rfl, rfl⟩
      | refused conflict state error found unresolved stored failed => exact Or.inl ⟨rfl, rfl⟩
      | committed conflict state commit found unresolved stored continues answers =>
          have held := placed _ state stored
          have original : commit.Original := by
            refine Or.inr ?_
            rw [answers.cause]
            exact resolved_cause_ne conflict.conflictId
          exact Or.inr ⟨_, resolvedState tenantId state conflict resolvedValue draws commit.commitId,
            commit, ⟨rfl, held.entityType, held.entityId, held.called⟩, original, rfl, rfl⟩

theorem Genuine.perform (genuine : Genuine service) (call : WorldCall) :
    Genuine (service.perform rt call) := by
  rcases @perform_files rt service genuine.placed call with
    ⟨states, commits⟩ | ⟨key, state, commit, placed, original, states, commits⟩
  · exact genuine.same states commits
  · exact genuine.advanced placed original states commits

end Calls

/-- Every state of every moment is filed under its names, and was led to by a commit. It is
about all earlier moments, because any of their states may be hydrated later. -/
structure Remembered (history : List (Step WorldStateService WorldCall)) (service : WorldStateService) :
    Prop where
  genuine : Genuine service
  present : service ∈ moments history
  states : forall moment, moment ∈ moments history -> forall key state,
    moment.states.get? key = some state -> Placed key state ∧
      Exists fun commit : CommitRecord => commit ∈ createdBy history ∧ commit.tenantId = key.1 ∧
        commit.commitId = state.commitId

section Runs

variable {rt : Runtime} {history : List (Step WorldStateService WorldCall)}
variable {service : WorldStateService}

theorem Remembered.step (remembered : Remembered history service) {call : WorldCall}
    (fresh : service.DrawsFresh call) :
    Remembered (history ++ [⟨service, call, service.perform rt call⟩]) (service.perform rt call) := by
  rcases perform_entity rt service call with ⟨entry, commits, effect⟩
  have genuine := @Genuine.perform rt service remembered.genuine call
  have created := commits.createdBy_snoc fresh history
  have visited := moments_snoc history ⟨service, call, service.perform rt call⟩
  refine ⟨genuine, by rw [visited]; exact List.mem_append_right _ List.mem_cons_self, ?_⟩
  have earlier : forall moment, moment ∈ moments history -> forall key state,
      moment.states.get? key = some state -> Placed key state ∧
        Exists fun commit : CommitRecord => commit ∈ createdBy history ++ entry.toList ∧
          commit.tenantId = key.1 ∧ commit.commitId = state.commitId := by
    intro moment member key state held
    rcases remembered.states moment member key state held with ⟨placed, commit, made, rest⟩
    exact ⟨placed, commit, List.mem_append_left _ made, rest⟩
  rw [visited, created]
  intro moment member key state held
  rcases List.mem_append.mp member with before | last
  · exact earlier moment before key state held
  rw [List.mem_singleton.mp last] at held
  have placed := genuine.placed key state held
  cases effect with
  | quiet after states =>
      rw [states] at held
      exact earlier service remembered.present key state held
  | advanced commit next after advances states =>
      rw [states, Dict.get?_set] at held
      split at held
      · rename_i same
        cases held
        refine ⟨placed, commit, List.mem_append_right _ List.mem_cons_self, ?_, advances.commitId.symm⟩
        rw [same]
        rfl
      · exact earlier service remembered.present key state held

theorem Remembered.of_run (run : (worldSystem rt).Run history service) :
    Remembered history service := by
  apply System.Run.historyInvariant run
  · rintro _ rfl
    refine ⟨⟨nofun, nofun⟩, List.mem_cons_self, ?_⟩
    intro moment member
    rw [List.mem_singleton.mp member]
    exact nofun
  · intro history service call earlier remembered admitted
    exact remembered.step admitted

theorem truthy?_some {text : Text} (nonempty : text ≠ "") : truthy? (some text) = some text := by
  unfold truthy?
  rw [Option.filter_some, if_pos (decide_eq_true nonempty)]

/-- A hash is a name and a digest, so `hydrate` never takes it for a missing one. -/
theorem sealed_hash_nonempty {commit : CommitRecord} (genuine : SealedCommit rt commit) :
    commit.hash ≠ "" := by
  intro empty
  have first := congrArg (fun text : Text => text.codes.head?)
    (((hashJson_ok_iff _ _).mp genuine).2.symm.trans empty)
  rw [Text.codes_append] at first
  cases first

/-- Hydrating a state that the service holds or has held, with its own commit and that commit's
hash, always loses the commit's record.  What the next commit continues is kept, and so are the
entity states when the state is the current one. -/
theorem hydrating_rewrites_history (rt : Runtime) (run : (worldSystem rt).Run history service)
    {moment : WorldStateService} (member : moment ∈ moments history) {key : Text × Text × Text}
    {state : OrderState} (held : moment.states.get? key = some state) :
    Exists fun commit : CommitRecord =>
      service.commits.get? (state.tenantId, state.commitId) = some commit ∧
      let after := service.hydrate state (some state.commitId) (some commit.hash)
      ¬ KeepsHistory service after state.tenantId ∧
        after.latestCommit.get? state.tenantId = service.latestCommit.get? state.tenantId ∧
        after.latestHash state.tenantId = service.latestHash state.tenantId ∧
        (service.states.get? key = some state ->
          forall other, after.states.get? other = service.states.get? other) := by
  have remembered := Remembered.of_run run
  have sound := HistorySound.of_run run
  rcases remembered.states moment member key state held with ⟨placed, commit, made, owner, named⟩
  have owned : state.tenantId = commit.tenantId := placed.tenantId.trans owner.symm
  have stored := sound.stored commit made
  rw [← owned, named] at stored
  have sealing := Linked.genuine_of_mem _ _ _ (sound.hashes commit.tenantId)
    (mem_ofTenant.mpr ⟨made, rfl⟩)
  have rebuilt : (service.hydrate state (some state.commitId) (some commit.hash)).commits =
      service.commits.set (state.tenantId, state.commitId)
        (hydratedCommit state state.commitId commit.hash) := by
    rw [hydrate_commits, truthy?_some (named ▸ sound.named commit made),
      truthy?_some (sealed_hash_nonempty sealing)]
  have head : (service.hydrate state (some state.commitId)
      (some commit.hash)).latestCommit.get? state.tenantId =
        service.latestCommit.get? state.tenantId := by
    rw [hydrate_latestCommit, Dict.get?_set_self]
    exact (sound.hydratedHead made owned named.symm _).symm
  refine ⟨commit, stored, ?_, head, ?_, ?_⟩
  · intro keeps
    have same := keeps.commits state.commitId
    unfold getCommit at same
    rw [rebuilt, Dict.get?_set_self, stored] at same
    have replaced : hydratedCommit state state.commitId commit.hash = commit := Except.ok.inj same
    rcases remembered.genuine.original _ commit stored with nonempty | different
    · rw [← replaced] at nonempty
      exact nonempty rfl
    · rw [← replaced] at different
      exact different rfl
  · -- The record that the head names changes at most to one with the same hash.
    unfold latestHash
    rw [head, rebuilt]
    cases truthy? (service.latestCommit.get? state.tenantId) with
    | none => rfl
    | some latest =>
        dsimp only
        by_cases same : latest = state.commitId
        · rw [same, Dict.get?_set_self, stored]
          rfl
        · rw [Dict.get?_set_of_ne]
          exact fun pair => same (congrArg Prod.snd pair)
  · intro current other
    rw [hydrate_states, Dict.get?_set, placed.tenantId, placed.entityType, placed.entityId]
    split
    · rename_i same
      rw [same]
      exact current.symm
    · rfl

end Runs

/-- Two readings of one order: hydrating the current state cuts the history short. -/
theorem hydrating_rewrites_history_sample :
    Exists fun service : WorldStateService => Exists fun state : OrderState =>
      service.states.get? ("demo", "order", "1001") = some state ∧
        Exists fun commit : CommitRecord =>
          service.commits.get? (state.tenantId, state.commitId) = some commit ∧
            ¬ KeepsHistory service
              (service.hydrate state (some state.commitId) (some commit.hash)) state.tenantId := by
  have facts : (worldSystem .plain).AdmitsAll .fresh observedTwice ∧
      (((worldSystem .plain).trace .fresh observedTwice).2.states.get?
        ("demo", "order", "1001")).isSome = true := by
    decide +kernel
  rcases facts with ⟨admitted, present⟩
  rcases Option.isSome_iff_exists.mp present with ⟨state, held⟩
  have run := System.run_trace observedTwice rfl admitted
  rcases hydrating_rewrites_history .plain run
    (Remembered.of_run run).present held with ⟨commit, stored, lost, _⟩
  exact ⟨_, state, held, commit, stored, lost⟩

theorem hydrating_cuts_the_chain :
    Exists fun history => Exists fun service : WorldStateService => Exists fun state : OrderState =>
      Exists fun commit : CommitRecord =>
        (worldSystem .plain).Run history service ∧
          service.states.get? ("demo", "order", "1001") = some state ∧
          service.commits.get? ("demo", state.commitId) = some commit ∧
          let after := service.hydrate state (some state.commitId) (some commit.hash)
          (service.listCommits "demo" none).toOption.map List.length = some 2 ∧
            (after.listCommits "demo" none).toOption.map List.length = some 1 ∧
            after.commits.get? ("demo", state.commitId) ≠ some commit := by
  have facts : let service := ((worldSystem .plain).trace .fresh observedTwice).2
      (worldSystem .plain).AdmitsAll .fresh observedTwice ∧
        (service.states.get? ("demo", "order", "1001")).any (fun state =>
          (service.commits.get? ("demo", state.commitId)).any (fun commit =>
            let after := service.hydrate state (some state.commitId) (some commit.hash)
            decide ((service.listCommits "demo" none).toOption.map List.length = some 2 ∧
              (after.listCommits "demo" none).toOption.map List.length = some 1 ∧
              after.commits.get? ("demo", state.commitId) ≠ some commit))) = true := by
    decide +kernel
  rcases facts with ⟨admitted, lost⟩
  rcases (Option.any_eq_true _ _).mp lost with ⟨state, held, lost⟩
  rcases (Option.any_eq_true _ _).mp lost with ⟨commit, stored, lost⟩
  exact ⟨_, _, state, commit, System.run_trace observedTwice rfl admitted, held, stored,
    of_decide_eq_true lost⟩

end WorldState
end RealityLayer
