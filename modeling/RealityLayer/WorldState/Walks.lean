import RealityLayer.Foundation.Walks
import RealityLayer.WorldState.Cursor

namespace RealityLayer
namespace WorldState

open Foundation Python RealityGit WorldStateService

/-!
# Walks through the commit map

`list_commits` and `_is_ancestor` follow the parents through the commit map.  `hydrate` can
store a commit without its parent, and move the head to it, so nothing is known of the map:
parents may be missing, and links may run in a circle.

Both loops end all the same.  The listing visits an entry of the map once, and the ancestors
are the identifiers that the links lead to.
-/

/-- The stored commit of a tenant. -/
def commitAt (service : WorldStateService) (tenantId commitId : Text) : Option CommitRecord :=
  service.commits.get? (tenantId, commitId)

/-- The commit stored under an identifier has this parent. -/
def CommitLink (service : WorldStateService) (tenantId : Text) : Text -> Text -> Prop :=
  ParentLink (commitAt service tenantId) CommitRecord.parentCommitId

/-- A tenant's commits are stored under their own identifiers. The key of a commit and its
field could differ otherwise. -/
def OwnIds (service : WorldStateService) (tenantId : Text) : Prop :=
  forall commitId commit, commitAt service tenantId commitId = some commit -> commit.commitId = commitId

/-- No commit is listed twice, the last one is the head, and each is the parent of the next.
The list may begin at a commit whose parent is unknown here. -/
structure LinkedHistory (service : WorldStateService) (tenantId : Text) (ids : List Text)
    (commits : List CommitRecord) : Prop where
  stored : List.Forall₂ (fun id commit => commitAt service tenantId id = some commit) ids commits
  distinct : ids.Nodup
  latest : forall latest, service.latestCommit.get? tenantId = some latest ->
    (commitAt service tenantId latest).isSome = true -> ids.getLast? = some latest
  linked : forall place older newer, ids[place]? = some older -> commits[place + 1]? = some newer ->
    newer.parentCommitId = some older

/-- Both loops end: the listing is linked, and an ancestor is what the links lead to. Visited
commits are remembered, so a cycle of parents ends them too. -/
structure WalksEnd (service : WorldStateService) (tenantId : Text) : Prop where
  walks : Walks (commitAt service tenantId) CommitRecord.parentCommitId []
    (service.latestCommit.get? tenantId) (service.chainOf tenantId).reverse
  listed : service.listCommits tenantId none = .ok (service.chainOf tenantId)
  linked : Exists fun ids : List Text => LinkedHistory service tenantId ids (service.chainOf tenantId)
  own : OwnIds service tenantId -> LinkedHistory service tenantId
    ((service.chainOf tenantId).map CommitRecord.commitId) (service.chainOf tenantId)
  meets : forall candidateId descendantId,
    Meets (commitAt service tenantId) CommitRecord.parentCommitId candidateId [] (some descendantId)
      (service.isAncestor tenantId candidateId descendantId)
  ancestors : forall candidateId descendantId,
    service.isAncestor tenantId candidateId descendantId = true <->
      Relation.ReflTransGen (CommitLink service tenantId) descendantId candidateId

section Walking

variable (service : WorldStateService) (tenantId : Text)

/-- A tenant's stored identifiers are among those of the map. -/
theorem commitAt_known (commitId : Text) (stored : (commitAt service tenantId commitId).isSome = true) :
    commitId ∈ service.commits.entries.map (fun entry => entry.1.2) := by
  rcases Option.isSome_iff_exists.mp stored with ⟨commit, found⟩
  exact List.mem_map.mpr ⟨((tenantId, commitId), commit), (Dict.mem_entries_iff _ _ _).mpr found, rfl⟩

theorem walkBound_enough : (unvisited (service.commits.entries.map (fun entry => entry.1.2)) []).length <
    service.walkBound := by
  have fewer := List.length_filter_le (fun key => decide (key ∉ ([] : List Text)))
    (service.commits.entries.map (fun entry => entry.1.2))
  rw [List.length_map] at fewer
  exact Nat.lt_succ_of_le fewer

theorem chainOf_walks : Walks (commitAt service tenantId) CommitRecord.parentCommitId []
    (service.latestCommit.get? tenantId) (service.chainOf tenantId).reverse := by
  unfold WorldStateService.chainOf
  rw [List.reverse_reverse]
  exact walkBack_walks (commitAt_known service tenantId) _ [] _ (walkBound_enough service)

theorem listCommits_chainOf : service.listCommits tenantId none = .ok (service.chainOf tenantId) := by
  unfold WorldStateService.listCommits
  cases head : service.latestCommit.get? tenantId with
  | some latest => rfl
  | none =>
      unfold WorldStateService.chainOf
      rw [head]
      rfl

theorem isAncestor_meets (candidateId descendantId : Text) :
    Meets (commitAt service tenantId) CommitRecord.parentCommitId candidateId [] (some descendantId)
      (service.isAncestor tenantId candidateId descendantId) :=
  walkMeets_meets (commitAt_known service tenantId) candidateId _ [] _ (walkBound_enough service)

variable {service tenantId}

theorem LinkedHistory.of_walks {commits : List CommitRecord}
    (walks : Walks (commitAt service tenantId) CommitRecord.parentCommitId []
      (service.latestCommit.get? tenantId) commits.reverse) :
    Exists fun ids : List Text => LinkedHistory service tenantId ids commits := by
  rcases walks.keys with ⟨keys, distinct, _, stored, starts, linked⟩
  have lengths : keys.length = commits.length := by
    rw [stored.length_eq, List.length_reverse]
  refine ⟨keys.reverse, ?_, List.nodup_reverse.mpr distinct, ?_, ?_⟩
  · have reversed := List.rel_reverse stored
    rw [List.reverse_reverse] at reversed
    exact reversed
  · intro latest head present
    rw [List.getLast?_reverse, starts ?_, head]
    intro nothing
    rw [nothing, head] at walks
    cases walks with
    | visited again => cases again
    | missing _ absent => cases (congrArg Option.isSome absent).symm.trans present
  · intro place older newer at_ next
    have inside := (List.getElem?_eq_some_iff.mp next).1
    rw [List.getElem?_reverse (by omega)] at at_
    have newer' : commits.reverse[keys.length - 1 - place - 1]? = some newer := by
      rw [List.getElem?_reverse (by omega), ← next]
      congr 1
      omega
    apply linked _ newer older newer'
    rw [← at_]
    congr 1
    omega

/-- Commits under their own identifiers are listed with them. -/
theorem LinkedHistory.own {ids : List Text} {commits : List CommitRecord}
    (linked : LinkedHistory service tenantId ids commits) (own : OwnIds service tenantId) :
    ids = commits.map CommitRecord.commitId := by
  have stored := linked.stored
  clear linked
  induction stored with
  | nil => rfl
  | cons first rest ih => exact congrArg₂ List.cons (own _ _ first).symm ih

/-- Every run stores its commits under their own identifiers. -/
theorem OwnIds.of_run {rt : Runtime} {history : List (Step WorldStateService ServiceCall)}
    (run : (serviceSystem rt).Run history service) : OwnIds service tenantId := by
  apply System.Run.invariant run
  · rintro _ rfl commitId commit stored
    cases stored
  · intro service request own _ commitId commit stored
    unfold commitAt at own stored
    cases request with
    | call request =>
        rcases perform_commits rt service request with ⟨entry, effect⟩
        change (service.perform rt request).commits.get? _ = _ at stored
        cases effect with
        | quiet _ commits head =>
            rw [commits] at stored
            exact own commitId commit stored
        | committed new _ continues named commits head =>
            rw [commits, record, Dict.get?_set] at stored
            split at stored
            · rename_i same
              cases stored
              exact (congrArg Prod.snd same).symm
            · exact own commitId commit stored
    | hydrate state commitHash =>
        have hydrated : forall parentCommitId parentHash, (service.hydrate state parentCommitId
            parentHash).commits.get? (tenantId, commitId) = some commit -> commit.commitId = commitId := by
          intro parentCommitId parentHash found
          rw [hydrate_commits] at found
          split at found
          · rw [Dict.get?_set] at found
            split at found
            · rename_i same
              cases found
              exact (congrArg Prod.snd same).symm
            · exact own commitId commit found
          · exact own commitId commit found
        cases commitHash with
        | none => exact hydrated _ _ stored
        | some hash => exact hydrated _ _ stored

end Walking

/-- For every commit map and cursor, both loops end, the listing is linked, and an ancestor is
exactly what the parent links lead to. -/
theorem walks_end (service : WorldStateService) (tenantId : Text) : WalksEnd service tenantId where
  walks := chainOf_walks service tenantId
  listed := listCommits_chainOf service tenantId
  linked := LinkedHistory.of_walks (chainOf_walks service tenantId)
  own := by
    intro own
    rcases LinkedHistory.of_walks (chainOf_walks service tenantId) with ⟨ids, linked⟩
    exact linked.own own ▸ linked
  meets := isAncestor_meets service tenantId
  ancestors := by
    intro candidateId descendantId
    apply ((isAncestor_meets service tenantId candidateId descendantId).reaches_iff nofun nofun).trans
    constructor
    · rintro ⟨_, ⟨⟩, leads⟩
      exact leads
    · intro leads
      exact ⟨descendantId, rfl, leads⟩

end WorldState
end RealityLayer
