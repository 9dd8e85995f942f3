import Mathlib.Data.Prod.Lex
import RealityLayer.Foundation.Feed
import RealityLayer.RealityGit.Reordering
import RealityLayer.WorldState.History

namespace RealityLayer
namespace WorldState

open Foundation Python RealityGit

/-!
# Polling the persisted commits

Writers insert commits in transactions of their own, and a poller reads the
committed rows.  Rows are listed by the time their transaction began and then by
their random identifiers.  The poller's cursor is a place in that list, but neither
the order of commitment nor the parent links has to follow it.

`Timely` says, on the state before a step, that this time they do: what becomes
visible is listed after the row of the cursor, and parents before their children.
Nothing is lost and no parent comes late if and only if every step of the run is timely.
-/

/-! ## The table -/

/-- A row of `commit_log`. `created_at` is the time at which its transaction began, so rows
that become visible later may have an earlier time. -/
structure CommitLog where
  commit : CommitRecord
  createdAt : Int
deriving DecidableEq

/-- `order_by(created_at.asc(), commit_id.asc())`. The time is that of the insertion, and not
of the commit that makes the row visible. -/
def CommitLog.position (row : CommitLog) : Int ×ₗ List Nat :=
  toLex (row.createdAt, row.commit.commitId.codes)

/-- `tenant_select`. -/
def tenantRows (tenantId : Text) (rows : List CommitLog) : List CommitLog :=
  rows.filter (fun row => decide (row.commit.tenantId = tenantId))

/-- `list_for_tenant`. -/
def listForTenant (tenantId : Text) (rows : List CommitLog) : List CommitLog :=
  listed CommitLog.position (tenantRows tenantId rows)

/-- `CompilerPersistenceService.list_commits`. A cursor that no row has raises. -/
def listPersistedCommits (rows : List CommitLog) (tenantId : Text) (sinceCommitId : Option Text) :
    Except PyError (List CommitRecord) :=
  let commits := (listForTenant tenantId rows).map CommitLog.commit
  match sinceCommitId with
  | none => .ok commits
  | some commitId =>
      match WorldStateService.commitsAfter commitId commits with
      | some later => .ok later
      | none => .error (.keyError ("Unknown commit: " ++ commitId))

/-! ## Writers and a poller -/

/-- An open transaction. Its rows are not visible to a poller before the commit, and all of
them have the time at which it started. -/
structure Transaction where
  startedAt : Int
  inserted : List CommitRecord

def Transaction.rows (transaction : Transaction) : List CommitLog :=
  transaction.inserted.map (fun commit => ⟨commit, transaction.startedAt⟩)

/-- The database with its clock, and one poller of it. The cursor is the identifier of a
commit, and the poller asks for the rows after that row. -/
structure DiffFeed where
  clock : Int
  transactions : Dict Nat Transaction
  commitLog : List CommitLog
  cursor : Option Text
  received : List CommitRecord

inductive FeedActivity where
  | beginTransaction (writer : Nat) (startedAt : Int)
  | insert (writer : Nat) (commit : CommitRecord)
  | commit (writer : Nat)
  | poll

namespace DiffFeed

def empty : DiffFeed := ⟨0, Dict.empty, [], none, []⟩

/-- The rows that a writer's commit makes visible. They all appear at once, under the times
of their insertions. -/
def arriving (feed : DiffFeed) (writer : Nat) : List CommitLog :=
  ((feed.transactions.get? writer).map Transaction.rows).getD []

/-- The commits of all rows, visible or not. -/
def inserted (feed : DiffFeed) : List CommitRecord :=
  feed.commitLog.map CommitLog.commit ++ feed.transactions.values.flatMap Transaction.inserted

def next (tenantId : Text) (feed : DiffFeed) : FeedActivity -> DiffFeed
  | .beginTransaction writer startedAt => { feed with
      clock := startedAt
      transactions := feed.transactions.set writer ⟨startedAt, []⟩ }
  | .insert writer commit =>
      match feed.transactions.get? writer with
      | none => feed
      | some transaction => { feed with
          transactions := feed.transactions.set writer
            { transaction with inserted := transaction.inserted ++ [commit] } }
  | .commit writer => { feed with
      transactions := feed.transactions.erase writer
      commitLog := feed.commitLog ++ feed.arriving writer }
  | .poll =>
      match listPersistedCommits feed.commitLog tenantId feed.cursor with
      | .error _ => feed
      | .ok commits => { feed with
          cursor := headAfter CommitRecord.commitId feed.cursor commits
          received := feed.received ++ commits }

/-- The database's clock does not run back, and `commit_id` is the primary key. A writer may
take as long as it likes to commit. -/
def Admits (feed : DiffFeed) : FeedActivity -> Prop
  | .beginTransaction writer startedAt =>
      feed.transactions.get? writer = none ∧ feed.clock ≤ startedAt
  | .insert writer commit => feed.transactions.get? writer ≠ none ∧
      commit.commitId ∉ feed.inserted.map CommitRecord.commitId
  | .commit writer => feed.transactions.get? writer ≠ none
  | .poll => True

instance (feed : DiffFeed) : (activity : FeedActivity) -> Decidable (feed.Admits activity)
  | .beginTransaction writer startedAt =>
      inferInstanceAs (Decidable (feed.transactions.get? writer = none ∧ feed.clock ≤ startedAt))
  | .insert writer commit =>
      inferInstanceAs (Decidable (¬ feed.transactions.get? writer = none ∧
        commit.commitId ∉ feed.inserted.map CommitRecord.commitId))
  | .commit writer => inferInstanceAs (Decidable (¬ feed.transactions.get? writer = none))
  | .poll => isTrue True.intro

end DiffFeed

/-- Writers' transactions and one tenant's polls, in any order. The rows of other tenants go
into the same table. -/
def diffSystem (tenantId : Text) : System DiffFeed FeedActivity where
  start := fun feed => feed = .empty
  admits := fun feed activity => feed.Admits activity
  next := fun feed activity => feed.next tenantId activity

instance (tenantId : Text) (feed : DiffFeed) (activity : FeedActivity) :
    Decidable ((diffSystem tenantId).admits feed activity) :=
  inferInstanceAs (Decidable (feed.Admits activity))

/-- The poller received every row of its tenant once, and each after the row of its parent.
It speaks of the moment: a row that is not visible yet is not owed. -/
structure DeliversAll (tenantId : Text) (feed : DiffFeed) : Prop where
  once : List.Perm feed.received ((tenantRows tenantId feed.commitLog).map CommitLog.commit)
  parentsFirst : forall front commit back, feed.received = front ++ commit :: back ->
    forall parent, parent ∈ tenantRows tenantId feed.commitLog ->
      commit.parentCommitId = some parent.commit.commitId -> parent.commit ∈ front

/-- A row of a parent is listed before the rows of its children. -/
def ParentsFirst (rows : List CommitLog) : Prop :=
  forall child, child ∈ rows -> forall parent, parent ∈ rows ->
    child.commit.parentCommitId = some parent.commit.commitId -> parent.position < child.position

/-- The row is listed after the row that the cursor names. A poll from the cursor delivers
it, if it is visible. -/
def DiffFeed.Ahead (tenantId : Text) (feed : DiffFeed) (row : CommitLog) : Prop :=
  forall last, last ∈ tenantRows tenantId feed.commitLog ->
    feed.cursor = some last.commit.commitId -> last.position < row.position

/-- What becomes visible is ahead of the poller, and parents are listed first. It is asked of
the state in which a writer commits. -/
def DiffFeed.Timely (tenantId : Text) (feed : DiffFeed) : FeedActivity -> Prop
  | .commit writer =>
      (forall row, row ∈ tenantRows tenantId (feed.arriving writer) -> feed.Ahead tenantId row) ∧
        ParentsFirst (tenantRows tenantId (feed.commitLog ++ feed.arriving writer))
  | _ => True

instance (rows : List CommitLog) : Decidable (ParentsFirst rows) :=
  inferInstanceAs (Decidable (forall child, child ∈ rows -> forall parent, parent ∈ rows -> _ -> _))

instance (tenantId : Text) (feed : DiffFeed) (row : CommitLog) : Decidable (feed.Ahead tenantId row) :=
  inferInstanceAs (Decidable (forall last, last ∈ tenantRows tenantId feed.commitLog -> _ -> _))

instance (tenantId : Text) (feed : DiffFeed) :
    (activity : FeedActivity) -> Decidable (feed.Timely tenantId activity)
  | .commit _ => inferInstanceAs (Decidable (_ ∧ _))
  | .beginTransaction _ _ => isTrue True.intro
  | .insert _ _ => isTrue True.intro
  | .poll => isTrue True.intro

/-! ## Rows and their keys -/

def CommitLog.commitId (row : CommitLog) : Text := row.commit.commitId

/-- No two rows share an identifier, whether they are visible or not. Writers draw their
identifiers, so rows of two open transactions differ as well. -/
structure DiffFeed.Keyed (feed : DiffFeed) : Prop where
  distinct : forall writer, ((feed.commitLog ++ feed.arriving writer).map CommitLog.commitId).Nodup
  apart : forall writer other, writer ≠ other -> forall row, row ∈ feed.arriving writer ->
    forall second, second ∈ feed.arriving other -> row.commitId ≠ second.commitId

section Rows

variable {feed : DiffFeed} {tenantId : Text} {writer : Nat}

theorem position_distinct {rows : List CommitLog} (distinct : (rows.map CommitLog.commitId).Nodup) :
    (rows.map CommitLog.position).Nodup := by
  have named : (rows.map CommitLog.position).map (fun position => Text.mk (ofLex position).2) =
      rows.map CommitLog.commitId := by
    rw [List.map_map]
    rfl
  exact List.Nodup.of_map _ (named ▸ distinct)

theorem tenantRows_distinct {rows : List CommitLog} (distinct : (rows.map CommitLog.commitId).Nodup) :
    ((tenantRows tenantId rows).map CommitLog.commitId).Nodup :=
  distinct.sublist (List.filter_sublist.map _)

theorem DiffFeed.Keyed.visible (keyed : feed.Keyed) : (feed.commitLog.map CommitLog.commitId).Nodup := by
  have distinct := keyed.distinct 0
  rw [List.map_append] at distinct
  exact (List.nodup_append.mp distinct).1

theorem arriving_begin (free : feed.transactions.get? writer = none) (startedAt : Int) (other : Nat) :
    (feed.next tenantId (.beginTransaction writer startedAt)).arriving other = feed.arriving other := by
  unfold DiffFeed.arriving
  change ((((feed.transactions.set writer ⟨startedAt, []⟩).get? other).map Transaction.rows).getD []) = _
  rw [Dict.get?_set]
  split
  · rename_i same
    rw [same, free]
    rfl
  · rfl

theorem arriving_commit (other : Nat) : (feed.next tenantId (.commit writer)).arriving other =
    if other = writer then [] else feed.arriving other := by
  unfold DiffFeed.arriving
  change ((((feed.transactions.erase writer).get? other).map Transaction.rows).getD []) = _
  rw [Dict.get?_erase]
  split
  · rfl
  · rfl

/-- Inserting adds a row to the writer's own transaction. -/
theorem arriving_insert {transaction : Transaction} {commit : CommitRecord}
    (found : feed.transactions.get? writer = some transaction) (other : Nat) :
    (feed.next tenantId (.insert writer commit)).arriving other =
      if other = writer then feed.arriving writer ++ [⟨commit, transaction.startedAt⟩]
      else feed.arriving other := by
  unfold DiffFeed.arriving DiffFeed.next
  simp only [found]
  rw [Dict.get?_set]
  split
  · exact List.map_append
  · rfl

theorem mem_inserted {row : CommitLog} (member : row ∈ feed.commitLog ++ feed.arriving writer) :
    row.commitId ∈ feed.inserted.map CommitRecord.commitId := by
  apply List.mem_map_of_mem
  unfold DiffFeed.inserted
  rcases List.mem_append.mp member with visible | hidden
  · exact List.mem_append_left _ (List.mem_map_of_mem visible)
  · refine List.mem_append_right _ (List.mem_flatMap.mpr ?_)
    unfold DiffFeed.arriving at hidden
    cases found : feed.transactions.get? writer with
    | none =>
        rw [found] at hidden
        cases hidden
    | some transaction =>
        rw [found] at hidden
        rcases List.mem_map.mp hidden with ⟨commit, inserted, rfl⟩
        exact ⟨transaction, (feed.transactions.mem_values_iff transaction).mpr ⟨writer, found⟩, inserted⟩

/-- A transaction that has just begun has no rows, and the rows of the others stay. -/
theorem DiffFeed.Keyed.begun (keyed : feed.Keyed) (free : feed.transactions.get? writer = none)
    (startedAt : Int) : (feed.next tenantId (.beginTransaction writer startedAt)).Keyed := by
  have same := @arriving_begin feed tenantId writer free startedAt
  constructor
  · intro other
    rw [same]
    exact keyed.distinct other
  · intro first second different
    rw [same, same]
    exact keyed.apart first second different

/-- The inserted row has an identifier that no row has, in whatever transaction. -/
theorem DiffFeed.Keyed.inserted (keyed : feed.Keyed) {transaction : Transaction} {commit : CommitRecord}
    (found : feed.transactions.get? writer = some transaction)
    (fresh : commit.commitId ∉ feed.inserted.map CommitRecord.commitId) :
    (feed.next tenantId (.insert writer commit)).Keyed := by
  have grown := @arriving_insert feed tenantId writer transaction commit found
  have log : (feed.next tenantId (.insert writer commit)).commitLog = feed.commitLog := by
    unfold DiffFeed.next
    simp only [found]
  have new : forall other row, row ∈ feed.commitLog ++ feed.arriving other ->
      row.commitId ≠ commit.commitId := by
    intro other row member same
    exact fresh (same ▸ mem_inserted member)
  constructor
  · intro other
    rw [log, grown]
    split
    · rename_i same
      rw [← List.append_assoc, List.map_append]
      refine List.nodup_append.mpr ⟨keyed.distinct writer, List.nodup_singleton _, ?_⟩
      intro commitId member last inside same
      rcases List.mem_map.mp member with ⟨row, listed, rfl⟩
      exact new writer row listed (same.trans (List.mem_singleton.mp inside))
    · exact keyed.distinct other
  · intro first second different row member later inside
    rw [grown] at member inside
    split at member
    · rename_i own
      rw [if_neg (fun same => different (own.trans same.symm))] at inside
      rcases List.mem_append.mp member with old | last
      · exact keyed.apart writer second (own ▸ different) row old later inside
      · rw [List.mem_singleton.mp last]
        exact (new second later (List.mem_append_right _ inside)).symm
    · split at inside
      · rename_i own
        rcases List.mem_append.mp inside with old | last
        · exact keyed.apart first writer (own ▸ different) row member later old
        · rw [List.mem_singleton.mp last]
          exact new first row (List.mem_append_right _ member)
      · exact keyed.apart first second different row member later inside

/-- The visible rows of a writer differ from those that another writer still holds back. -/
theorem DiffFeed.Keyed.visible_apart (keyed : feed.Keyed) {other : Nat} (different : other ≠ writer) :
    ((feed.commitLog ++ feed.arriving writer ++ feed.arriving other).map CommitLog.commitId).Nodup := by
  have first := keyed.distinct writer
  have second := keyed.distinct other
  rw [List.map_append] at second ⊢
  refine List.nodup_append.mpr ⟨first, (List.nodup_append.mp second).2.1, ?_⟩
  intro commitId member last inside same
  subst same
  rw [List.map_append] at member
  rcases List.mem_append.mp member with visible | hidden
  · exact (List.nodup_append.mp second).2.2 commitId visible commitId inside rfl
  · rcases List.mem_map.mp hidden with ⟨row, arrived, rfl⟩
    rcases List.mem_map.mp inside with ⟨other', arrived', same⟩
    exact keyed.apart writer other (Ne.symm different) row arrived other' arrived' same.symm

/-- A commit moves rows from the transaction to the table, and changes none. -/
theorem DiffFeed.Keyed.committed (keyed : feed.Keyed) (writer : Nat) :
    (feed.next tenantId (.commit writer)).Keyed := by
  have left := @arriving_commit feed tenantId writer
  constructor
  · intro other
    change ((feed.commitLog ++ feed.arriving writer ++ _).map CommitLog.commitId).Nodup
    rw [left]
    split
    · rw [List.append_nil]
      exact keyed.distinct writer
    · rename_i different
      exact keyed.visible_apart different
  · intro first second different row member later inside
    rw [left] at member inside
    split at member
    · cases member
    · split at inside
      · cases inside
      · exact keyed.apart first second different row member later inside

/-- A step keeps the identifiers of all rows different. -/
theorem DiffFeed.Keyed.next (keyed : feed.Keyed) {activity : FeedActivity}
    (admitted : feed.Admits activity) : (feed.next tenantId activity).Keyed := by
  cases activity with
  | beginTransaction writer startedAt => exact keyed.begun admitted.1 startedAt
  | insert writer commit =>
      rcases Option.ne_none_iff_exists'.mp admitted.1 with ⟨transaction, found⟩
      exact keyed.inserted found admitted.2
  | commit writer => exact keyed.committed writer
  | poll =>
      unfold DiffFeed.next
      dsimp only
      split
      · exact keyed
      · exact ⟨keyed.distinct, keyed.apart⟩

end Rows

/-! ## What the poller has seen -/

/-- The poller received the commits of these rows, and its cursor names the last of them. The
rows are an ascending part of the tenant's rows, and possibly not all up to the cursor. -/
structure Polled (tenantId : Text) (feed : DiffFeed) (seen : List CommitLog) : Prop where
  received : feed.received = seen.map CommitLog.commit
  cursor : feed.cursor = headAfter CommitLog.commitId none seen
  reading : Reading CommitLog.position (tenantRows tenantId feed.commitLog) seen

section Polls

variable {feed : DiffFeed} {tenantId : Text} {seen : List CommitLog}

/-- A poll does not raise, and answers with the rows that are listed after all that were seen. -/
theorem Polled.answer (polled : Polled tenantId feed seen) (keyed : feed.Keyed) :
    listPersistedCommits feed.commitLog tenantId feed.cursor = .ok
      ((pending CommitLog.position (tenantRows tenantId feed.commitLog) seen).map CommitLog.commit) := by
  have distinct := @tenantRows_distinct tenantId _ keyed.visible
  have reading := polled.reading
  unfold listPersistedCommits listForTenant
  rw [polled.cursor]
  cases seen using List.reverseRec with
  | nil =>
      rw [pending_nil]
      rfl
  | append_singleton front last =>
      rcases pending_split (position_distinct distinct) reading with ⟨earlier, split⟩
      have named : ((listed CommitLog.position (tenantRows tenantId feed.commitLog)).map
          CommitLog.commitId).Nodup :=
        ((List.perm_insertionSort _ _).map CommitLog.commitId).nodup_iff.mpr distinct
      rw [split] at named ⊢
      rw [headAfter_snoc, List.map_append, List.map_cons]
      have found := commitsAfter_split (earlier.map CommitLog.commit) last.commit
        ((pending CommitLog.position (tenantRows tenantId feed.commitLog) (front ++ [last])).map
          CommitLog.commit) (by
        rw [← List.map_cons, ← List.map_append, List.map_map]
        exact named)
      dsimp only
      rw [CommitLog.commitId, found]

/-- What the poller has seen after a poll. -/
def seenNext (tenantId : Text) (feed : DiffFeed) (seen : List CommitLog) : List CommitLog :=
  seen ++ pending CommitLog.position (tenantRows tenantId feed.commitLog) seen

theorem Polled.next_poll (polled : Polled tenantId feed seen) (keyed : feed.Keyed) :
    feed.next tenantId .poll = { feed with
      cursor := headAfter CommitLog.commitId none (seenNext tenantId feed seen)
      received := (seenNext tenantId feed seen).map CommitLog.commit } := by
  unfold DiffFeed.next
  rw [polled.answer keyed]
  dsimp only
  have cursor : headAfter CommitRecord.commitId feed.cursor
      ((pending CommitLog.position (tenantRows tenantId feed.commitLog) seen).map CommitLog.commit) =
        headAfter CommitLog.commitId none (seenNext tenantId feed seen) := by
    rw [seenNext, ← headAfter_headAfter, polled.cursor, headAfter, List.getLast?_map, Option.map_map]
    rfl
  rw [cursor, polled.received, ← List.map_append]
  rfl

theorem Polled.poll (polled : Polled tenantId feed seen) (keyed : feed.Keyed) :
    Polled tenantId (feed.next tenantId .poll) (seenNext tenantId feed seen) := by
  rw [polled.next_poll keyed]
  exact ⟨rfl, rfl, polled.reading.poll (position_distinct (tenantRows_distinct keyed.visible))⟩

/-- A row is ahead of the poller when it is listed after all that the poller has seen. -/
theorem Polled.ahead_iff (polled : Polled tenantId feed seen) (keyed : feed.Keyed) (row : CommitLog) :
    feed.Ahead tenantId row <-> After CommitLog.position seen row := by
  have reading := polled.reading
  unfold DiffFeed.Ahead
  rw [polled.cursor]
  cases seen using List.reverseRec with
  | nil => exact ⟨fun _ => nofun, fun _ _ _ => nofun⟩
  | append_singleton front last =>
      rw [headAfter_snoc, After.of_last reading.ascending]
      have member := reading.within last (List.mem_append_right _ List.mem_cons_self)
      constructor
      · intro ahead
        exact ahead last member rfl
      · intro below other inside named
        have same : last = other := List.inj_on_of_nodup_map (tenantRows_distinct keyed.visible) member
          inside (Option.some.inj named)
        exact same ▸ below

/-- A writer's rows are not seen before they are visible. -/
theorem Polled.unseen (polled : Polled tenantId feed seen) (keyed : feed.Keyed) (writer : Nat)
    {row : CommitLog} (member : row ∈ tenantRows tenantId (feed.arriving writer)) : row ∉ seen := by
  intro old
  have distinct := keyed.distinct writer
  rw [List.map_append] at distinct
  have visible := List.mem_of_mem_filter (polled.reading.within row old)
  exact (List.nodup_append.mp distinct).2.2 row.commitId (List.mem_map_of_mem visible) row.commitId
    (List.mem_map_of_mem (List.mem_of_mem_filter member)) rfl

/-- The reader missed nothing so far, and parents are listed first. It is what each timely
step preserves. -/
def OnTime (tenantId : Text) (rows seen : List CommitLog) : Prop :=
  NothingMissed CommitLog.position (tenantRows tenantId rows) seen ∧
    ParentsFirst (tenantRows tenantId rows)

theorem tenantRows_append (tenantId : Text) (rows arriving : List CommitLog) :
    tenantRows tenantId (rows ++ arriving) = tenantRows tenantId rows ++ tenantRows tenantId arriving :=
  List.filter_append rows arriving

theorem ParentsFirst.front {rows arriving : List CommitLog} (ordered : ParentsFirst (rows ++ arriving)) :
    ParentsFirst rows :=
  fun child inside parent listed =>
    ordered child (List.mem_append_left _ inside) parent (List.mem_append_left _ listed)

/-- A commit leaves the poller on time if and only if it was and the commit is timely. -/
theorem Polled.commit_iff (polled : Polled tenantId feed seen) (keyed : feed.Keyed) (writer : Nat) :
    OnTime tenantId (feed.commitLog ++ feed.arriving writer) seen <->
      OnTime tenantId feed.commitLog seen ∧ feed.Timely tenantId (.commit writer) := by
  have ahead : (forall row, row ∈ tenantRows tenantId (feed.arriving writer) ->
      feed.Ahead tenantId row) <-> forall row, row ∈ tenantRows tenantId (feed.arriving writer) ->
        After CommitLog.position seen row :=
    forall_congr' (fun row => forall_congr' (fun _ => polled.ahead_iff keyed row))
  unfold OnTime DiffFeed.Timely
  dsimp only
  rw [tenantRows_append,
    NothingMissed.grow_iff (fun row member => polled.unseen keyed writer member), ahead]
  constructor
  · rintro ⟨⟨nothing, after⟩, ordered⟩
    exact ⟨⟨nothing, ordered.front⟩, after, ordered⟩
  · rintro ⟨⟨nothing, _⟩, after, ordered⟩
    exact ⟨⟨nothing, after⟩, ordered⟩

/-- Where a poller is on time, one more poll delivers everything, and only there. -/
theorem Polled.delivers_iff (polled : Polled tenantId feed seen) (keyed : feed.Keyed) :
    DeliversAll tenantId (feed.next tenantId .poll) <-> OnTime tenantId feed.commitLog seen := by
  have after := polled.poll keyed
  have reading := after.reading
  have log : (feed.next tenantId .poll).commitLog = feed.commitLog := by
    rw [polled.next_poll keyed]
  rw [log] at reading
  have distinct := @tenantRows_distinct tenantId _ keyed.visible
  have named : forall first, first ∈ tenantRows tenantId feed.commitLog ->
      forall second, second ∈ tenantRows tenantId feed.commitLog ->
        first.commit = second.commit -> first = second :=
    fun first member second other same =>
      List.inj_on_of_nodup_map distinct member other (congrArg CommitRecord.commitId same)
  constructor
  · rintro ⟨once, parentsFirst⟩
    rw [after.received, log] at once parentsFirst
    have all : forall row, row ∈ tenantRows tenantId feed.commitLog ->
        row ∈ seenNext tenantId feed seen := by
      intro row member
      rcases List.mem_map.mp (once.mem_iff.mpr (List.mem_map_of_mem member)) with ⟨other, inside, same⟩
      exact named other (reading.within other inside) row member same ▸ inside
    refine ⟨received_all_iff.mp all, ?_⟩
    intro child member parent listed parented
    rcases List.append_of_mem (all child member) with ⟨front, back, split⟩
    have ascending := reading.ascending
    have inside := all parent listed
    rw [split] at parentsFirst ascending inside
    have earlier := parentsFirst (front.map CommitLog.commit) child.commit (back.map CommitLog.commit)
      (by rw [List.map_append, List.map_cons]) parent listed parented
    rcases List.mem_map.mp earlier with ⟨other, before, same⟩
    have within := reading.within other (split ▸ List.mem_append_left _ before)
    rw [named other within parent listed same] at before
    exact (ascending.mem_front_iff inside).mp before
  · rintro ⟨nothing, ordered⟩
    have all := received_all_iff.mpr nothing
    constructor
    · rw [after.received, log]
      refine List.Perm.map _ ((List.perm_ext_iff_of_nodup reading.ascending.nodup ?_).mpr ?_)
      · exact List.Nodup.of_map _ distinct
      · exact fun row => ⟨reading.within row, all row⟩
    · intro front commit back split parent listed parented
      rw [after.received] at split
      rw [log] at listed
      rcases List.map_eq_append_iff.mp split with ⟨earlier, rest, parts, rfl, tail⟩
      rcases List.map_eq_cons_iff.mp tail with ⟨child, later, rfl, rfl, rfl⟩
      have ascending := reading.ascending
      have inside := all parent listed
      have member := reading.within child
        (parts ▸ List.mem_append_right _ List.mem_cons_self)
      change parent ∈ seenNext tenantId feed seen at inside
      rw [parts] at ascending inside
      have below := ordered child member parent listed parented
      exact List.mem_map_of_mem ((ascending.mem_front_iff inside).mpr below)

end Polls

/-! ## Runs -/

/-- Along a run the poller is on time as long as the steps are timely. -/
theorem polled_of_run {tenantId : Text} {history : List (Step DiffFeed FeedActivity)} {feed : DiffFeed}
    (run : (diffSystem tenantId).Run history feed) :
    feed.Keyed ∧ Exists fun seen : List CommitLog => Polled tenantId feed seen ∧
      (OnTime tenantId feed.commitLog seen <->
        forall step, step ∈ history -> step.before.Timely tenantId step.label) := by
  apply System.Run.historyInvariant run
  · rintro _ rfl
    refine ⟨⟨fun _ => List.nodup_nil, fun _ _ _ _ => nofun⟩, [], ⟨rfl, rfl, nofun, .nil⟩, ?_⟩
    exact iff_of_true ⟨nofun, nofun⟩ nofun
  · intro history feed activity earlier sound admitted
    rcases sound with ⟨keyed, seen, polled, timely⟩
    refine ⟨keyed.next admitted, ?_⟩
    simp only [List.forall_mem_append, List.forall_mem_singleton, ← timely]
    change Exists fun seen => Polled tenantId (feed.next tenantId activity) seen ∧
      (OnTime tenantId (feed.next tenantId activity).commitLog seen <-> _)
    cases activity with
    | beginTransaction writer startedAt =>
        refine ⟨seen, ⟨polled.received, polled.cursor, polled.reading⟩, ?_⟩
        exact (and_iff_left True.intro).symm
    | insert writer commit =>
        rcases Option.ne_none_iff_exists'.mp admitted.1 with ⟨transaction, found⟩
        have next : feed.next tenantId (.insert writer commit) = { feed with
            transactions := feed.transactions.set writer
              { transaction with inserted := transaction.inserted ++ [commit] } } := by
          simp only [DiffFeed.next, found]
        rw [next]
        refine ⟨seen, ⟨polled.received, polled.cursor, polled.reading⟩, ?_⟩
        exact (and_iff_left True.intro).symm
    | commit writer =>
        refine ⟨seen, ⟨polled.received, polled.cursor, ?_, polled.reading.ascending⟩, ?_⟩
        · intro row member
          change row ∈ tenantRows tenantId (feed.commitLog ++ feed.arriving writer)
          rw [tenantRows_append]
          exact List.mem_append_left _ (polled.reading.within row member)
        · exact polled.commit_iff keyed writer
    | poll =>
        refine ⟨seenNext tenantId feed seen, polled.poll keyed, ?_⟩
        rw [polled.next_poll keyed]
        refine Iff.trans ?_ (and_iff_left True.intro).symm
        exact and_congr_left' NothingMissed.poll_iff

/-- One more poll leaves every committed row delivered once and after its parent, if and only if
every step of the run was timely. -/
theorem persisted_diffs_delivered_iff (tenantId : Text) {history : List (Step DiffFeed FeedActivity)}
    {feed : DiffFeed} (run : (diffSystem tenantId).Run history feed) :
    DeliversAll tenantId (feed.next tenantId .poll) <->
      forall step, step ∈ history -> step.before.Timely tenantId step.label := by
  rcases polled_of_run run with ⟨keyed, seen, polled, timely⟩
  exact (polled.delivers_iff keyed).trans timely

/-! ## Overlapping writers -/

/-- The commit of a reading by a process of its own. -/
def commitsOf (draws : Draws) (observation : Observation) : List CommitRecord :=
  ((WorldStateService.fresh.ingest .plain draws "demo" observation "observation"
    "observed").state.commits).values

def inserting (writer : Nat) (commits : List CommitRecord) : List FeedActivity :=
  commits.map (FeedActivity.insert writer)

/-- One writer after the other, with a poll between them. -/
def successiveWriters : List FeedActivity :=
  [.beginTransaction 1 1] ++ inserting 1 (commitsOf (.numbered 1) openReading) ++ [.commit 1, .poll] ++
    [.beginTransaction 2 2] ++ inserting 2 (commitsOf (.numbered 2) cancelledReading) ++ [.commit 2]

/-- The second writer commits and is polled before the first one commits. The first row then
lies behind the cursor. -/
def overlappingWriters : List FeedActivity :=
  [.beginTransaction 1 1, .beginTransaction 2 2] ++
    inserting 2 (commitsOf (.numbered 2) openReading) ++ [.commit 2, .poll] ++
    inserting 1 (commitsOf (.numbered 1) cancelledReading) ++ [.commit 1]

/-- The commits of two readings by one process.  The second identifier sorts before the first. -/
def batchCommits : List CommitRecord :=
  let first := (WorldStateService.fresh.ingest .plain (.numbered 2) "demo" openReading "observation"
    "observed").state
  (first.ingest .plain (.numbered 1) "demo" cancelledReading "observation" "observed").state.commits.values

/-- One writer inserts a commit and its child. -/
def batchWriter : List FeedActivity :=
  [.beginTransaction 1 1] ++ inserting 1 batchCommits ++ [.commit 1]

/-- What a run of these activities leaves behind. -/
def feedAfter (activities : List FeedActivity) : DiffFeed :=
  ((diffSystem "demo").trace .empty activities).2

theorem persisted_diffs_delivered_sample :
    Exists fun history => (diffSystem "demo").Run history (feedAfter successiveWriters) ∧
      (feedAfter successiveWriters).commitLog.length = 2 ∧
        DeliversAll "demo" ((feedAfter successiveWriters).next "demo" .poll) := by
  have facts : (diffSystem "demo").AdmitsAll .empty successiveWriters ∧
      (feedAfter successiveWriters).commitLog.length = 2 ∧
      forall step, step ∈ ((diffSystem "demo").trace .empty successiveWriters).1 ->
        step.before.Timely "demo" step.label := by
    decide +kernel
  rcases facts with ⟨admitted, rows, timely⟩
  have run := System.run_trace successiveWriters rfl admitted
  exact ⟨_, run, rows, (persisted_diffs_delivered_iff "demo" run).mpr timely⟩

/-- A row that becomes visible behind the cursor is never delivered, and of two rows of one
transaction the child may come first. -/
theorem persisted_diffs_lost :
    (Exists fun history => (diffSystem "demo").Run history (feedAfter overlappingWriters) ∧
      (feedAfter overlappingWriters).transactions.keys = [] ∧
        ¬ DeliversAll "demo" ((feedAfter overlappingWriters).next "demo" .poll)) ∧
    (Exists fun history => (diffSystem "demo").Run history (feedAfter batchWriter) ∧
      (feedAfter batchWriter).transactions.keys = [] ∧
        ¬ DeliversAll "demo" ((feedAfter batchWriter).next "demo" .poll)) := by
  have overlapped : (diffSystem "demo").AdmitsAll .empty overlappingWriters ∧
      (feedAfter overlappingWriters).transactions.keys = [] ∧
      ((feedAfter overlappingWriters).next "demo" .poll).received.length ≠
        (tenantRows "demo" ((feedAfter overlappingWriters).next "demo" .poll).commitLog).length := by
    decide +kernel
  have batched : (diffSystem "demo").AdmitsAll .empty batchWriter ∧
      (feedAfter batchWriter).transactions.keys = [] ∧
      ((feedAfter batchWriter).next "demo" .poll).received.head?.bind CommitRecord.parentCommitId ∈
        (tenantRows "demo" ((feedAfter batchWriter).next "demo" .poll).commitLog).map
          (fun row => some row.commitId) := by
    decide +kernel
  constructor
  · rcases overlapped with ⟨admitted, done, fewer⟩
    refine ⟨_, System.run_trace overlappingWriters rfl admitted, done, ?_⟩
    intro delivers
    exact fewer (delivers.once.length_eq.trans (List.length_map _))
  · rcases batched with ⟨admitted, done, parented⟩
    refine ⟨_, System.run_trace batchWriter rfl admitted, done, ?_⟩
    intro delivers
    rcases List.mem_map.mp parented with ⟨row, listed, named⟩
    cases received : ((feedAfter batchWriter).next "demo" .poll).received with
    | nil =>
        rw [received] at named
        cases named
    | cons child rest =>
        rw [received] at named
        exact absurd (delivers.parentsFirst [] child rest received row listed named.symm) nofun

end WorldState
end RealityLayer
