import Mathlib.Data.List.Sort
import Mathlib.Data.List.Induction

namespace RealityLayer
namespace Foundation

universe u v

/-!
# Reading a growing table by its last position

A reader of a growing table keeps what it received, and asks each time for the
records that are positioned after all of it.  What it received is then always in
order, and nothing is received twice.

Whether everything is received depends on where the table grows.  `NothingMissed`
says that every record of the table was received or is still ahead.  Reading can
neither establish it nor destroy it, and the table keeps it by growing ahead of
what was received.
-/

section Feeds

variable {R : Type u} {K : Type v} [LinearOrder K] (position : R -> K)

def Ascending (records : List R) : Prop :=
  records.Pairwise (fun first second => position first < position second)

/-- The record is positioned after all of the list. -/
def After (records : List R) (record : R) : Prop :=
  forall earlier, earlier ∈ records -> position earlier < position record

instance (records : List R) : DecidablePred (After position records) :=
  fun _ => inferInstanceAs (Decidable (forall earlier, earlier ∈ records -> _))

/-- The records in the order of their positions. A reader is given this list, whatever order
the table has. -/
def listed (table : List R) : List R :=
  table.insertionSort (fun first second => position first ≤ position second)

/-- What the reader has not reached yet. A record that is positioned before something
received is not in it, and is never delivered. -/
def pending (table received : List R) : List R :=
  (listed position table).filter (fun record => decide (After position received record))

/-- What was received is of the table, and in order. It does not say that anything was
received: a reader may be behind. -/
structure Reading (table received : List R) : Prop where
  within : forall record, record ∈ received -> record ∈ table
  ascending : Ascending position received

/-- Every record was received or is still ahead. This is the invariant of a reader that asks
for what lies after its cursor. -/
def NothingMissed (table received : List R) : Prop :=
  forall record, record ∈ table -> record ∈ received ∨ After position received record

variable {position} {table received : List R} {record : R}

/-! ## Ascending lists -/

theorem Ascending.nodup {records : List R} (ascending : Ascending position records) : records.Nodup :=
  ascending.imp (fun below same => absurd (congrArg position same) (ne_of_lt below))

/-- In an ascending list, what stands before a record is positioned before it. -/
theorem Ascending.mem_front_iff {front back : List R}
    (ascending : Ascending position (front ++ record :: back)) {other : R}
    (member : other ∈ front ++ record :: back) : other ∈ front <-> position other < position record := by
  rcases List.pairwise_append.mp ascending with ⟨_, ordered, across⟩
  constructor
  · intro earlier
    exact across other earlier record List.mem_cons_self
  · intro below
    rcases List.mem_append.mp member with earlier | later
    · exact earlier
    · rcases List.mem_cons.mp later with rfl | behind
      · exact absurd below (lt_irrefl _)
      · exact absurd below (lt_asymm ((List.pairwise_cons.mp ordered).1 other behind))

theorem After.of_last {front : List R} (ascending : Ascending position (front ++ [record])) {other : R} :
    After position (front ++ [record]) other <-> position record < position other := by
  constructor
  · intro after
    exact after record (List.mem_append_right _ List.mem_cons_self)
  · intro below earlier member
    rcases List.mem_append.mp member with inside | last
    · have first := (Ascending.mem_front_iff ascending member).mp inside
      exact first.trans below
    · exact List.mem_singleton.mp last ▸ below

theorem mem_listed : record ∈ listed position table <-> record ∈ table :=
  List.mem_insertionSort _

/-- Records at different positions are listed in ascending order. -/
theorem listed_ascending (distinct : (table.map position).Nodup) :
    Ascending position (listed position table) := by
  have total : Std.Total (fun first second : R => position first ≤ position second) :=
    ⟨fun first second => le_total _ _⟩
  have transitive : IsTrans R (fun first second => position first ≤ position second) :=
    ⟨fun _ _ _ => le_trans⟩
  have sorted := List.pairwise_insertionSort
    (fun first second : R => position first ≤ position second) table
  have different : ((listed position table).map position).Nodup :=
    ((List.perm_insertionSort _ table).map position).nodup_iff.mpr distinct
  apply (sorted.and (List.pairwise_map.mp different)).imp
  rintro first second ⟨below, unequal⟩
  exact lt_of_le_of_ne below unequal

/-! ## Reading -/

theorem mem_pending : record ∈ pending position table received <->
    record ∈ table ∧ After position received record := by
  rw [pending, List.mem_filter, mem_listed, decide_eq_true_iff]

/-- A reader that received nothing is given the whole list. -/
theorem pending_nil (table : List R) : pending position table [] = listed position table :=
  List.filter_eq_self.mpr (fun _ _ => decide_eq_true nofun)

/-- What a reader is given follows the last record it received. -/
theorem pending_split {front : List R} (distinct : (table.map position).Nodup)
    (reading : Reading position table (front ++ [record])) :
    Exists fun earlier => listed position table =
      earlier ++ record :: pending position table (front ++ [record]) := by
  have member : record ∈ listed position table :=
    mem_listed.mpr (reading.within record (List.mem_append_right _ List.mem_cons_self))
  rcases List.append_of_mem member with ⟨earlier, later, split⟩
  refine ⟨earlier, split.trans ?_⟩
  have ascending := listed_ascending distinct
  rw [split] at ascending
  rcases List.pairwise_append.mp ascending with ⟨_, ordered, across⟩
  have passed : earlier.filter (fun other => decide (After position (front ++ [record]) other)) = [] := by
    refine List.filter_eq_nil_iff.mpr (fun other inside => ?_)
    rw [decide_eq_true_iff, After.of_last reading.ascending]
    exact lt_asymm (across other inside record List.mem_cons_self)
  have reached : ¬ After position (front ++ [record]) record := by
    rw [After.of_last reading.ascending]
    exact lt_irrefl _
  have ahead : later.filter (fun other => decide (After position (front ++ [record]) other)) = later := by
    refine List.filter_eq_self.mpr (fun other inside => ?_)
    rw [decide_eq_true_iff, After.of_last reading.ascending]
    exact (List.pairwise_cons.mp ordered).1 other inside
  rw [pending, split, List.filter_append, passed, List.filter_cons, decide_eq_false reached, ahead]
  rfl

theorem Reading.poll (reading : Reading position table received)
    (distinct : (table.map position).Nodup) :
    Reading position table (received ++ pending position table received) where
  within := by
    intro record member
    rcases List.mem_append.mp member with old | new
    · exact reading.within record old
    · exact (mem_pending.mp new).1
  ascending := by
    refine List.pairwise_append.mpr ⟨reading.ascending, ?_, ?_⟩
    · exact (listed_ascending distinct).filter _
    · intro earlier old later new
      exact (mem_pending.mp new).2 earlier old

/-! ## Missing nothing -/

/-- After a poll the reader has everything, unless it missed something before. A record it
missed stays behind its cursor forever. -/
theorem received_all_iff : (forall record, record ∈ table ->
      record ∈ received ++ pending position table received) <-> NothingMissed position table received := by
  refine forall_congr' (fun record => forall_congr' (fun member => ?_))
  rw [List.mem_append, mem_pending, and_iff_right member]

/-- Polling neither makes up for a missed record nor misses one. -/
theorem NothingMissed.poll_iff :
    NothingMissed position table (received ++ pending position table received) <->
      NothingMissed position table received := by
  constructor
  · intro nothing record member
    rcases nothing record member with old | after
    · rw [List.mem_append, mem_pending] at old
      exact old.imp_right And.right
    · exact Or.inr (fun earlier old => after earlier (List.mem_append_left _ old))
  · intro nothing record member
    exact Or.inl (received_all_iff.mpr nothing record member)

/-- A table that grows misses nothing more if and only if it grows ahead of the reader. The
condition is on the new records only. -/
theorem NothingMissed.grow_iff {arriving : List R}
    (new : forall record, record ∈ arriving -> record ∉ received) :
    NothingMissed position (table ++ arriving) received <->
      NothingMissed position table received ∧
        forall record, record ∈ arriving -> After position received record := by
  unfold NothingMissed
  rw [List.forall_mem_append]
  refine and_congr_right (fun _ => forall_congr' (fun record => forall_congr' (fun member => ?_)))
  exact or_iff_right (new record member)

end Feeds

end Foundation
end RealityLayer
