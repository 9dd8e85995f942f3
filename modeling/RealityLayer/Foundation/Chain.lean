import Mathlib.Data.List.Basic
import Mathlib.Data.List.Nodup
import Mathlib.Data.List.Induction

namespace RealityLayer
namespace Foundation

universe u v

/-!
# Backward-linked record lists

Append-only logs are often linked backwards: each record names its predecessor,
by a hash or by an identifier, and the first record names none.  `Linked` is
that shape for an arbitrary naming, with an extra condition on each record for
logs whose records also seal their own contents.

A linked log kept in a keyed store can be recovered from its last key alone by
following the predecessor names.  `walkBack` is that loop with an explicit step
bound and the set of visited keys; `walkBack_linked` says that on a linked log
whose records the store holds, the loop returns the whole log, newest first.
The bound only has to exceed the number of records.

A service usually keeps one log for each key.  `GrowsBy` says that such a family
of logs grew by at most one record, at the end of that record's log.
-/

section Links

variable {R : Type u} {H : Type v} (previous : R -> Option H) (name : R -> H) (genuine : R -> Prop)

/-- The name of the newest record, or the name that came before the list. -/
def headAfter (head : Option H) (records : List R) : Option H :=
  (records.getLast?.map name).or head

/-- Each record names its predecessor and satisfies the record condition. The first one names
whatever came before the list. -/
def Linked : Option H -> List R -> Prop
  | _, [] => True
  | head, record :: rest =>
      previous record = head ∧ genuine record ∧ Linked (some (name record)) rest

@[simp] theorem headAfter_nil (head : Option H) : headAfter name head [] = head := rfl

@[simp] theorem headAfter_snoc (head : Option H) (records : List R) (record : R) :
    headAfter name head (records ++ [record]) = some (name record) := by
  simp [headAfter]

theorem headAfter_cons (head : Option H) (record : R) (records : List R) :
    headAfter name head (record :: records) = headAfter name (some (name record)) records := by
  cases records using List.reverseRec with
  | nil => rfl
  | append_singleton front last =>
      rw [← List.cons_append, headAfter_snoc, headAfter_snoc]

theorem headAfter_headAfter (head : Option H) (front back : List R) :
    headAfter name (headAfter name head front) back = headAfter name head (front ++ back) := by
  cases back using List.reverseRec with
  | nil => rw [List.append_nil, headAfter_nil]
  | append_singleton rest last =>
      rw [← List.append_assoc, headAfter_snoc, headAfter_snoc]

/-- Appending to a linked list links the new records to the newest old one. -/
theorem linked_append (head : Option H) (front back : List R) :
    Linked previous name genuine head (front ++ back) <->
      Linked previous name genuine head front ∧
        Linked previous name genuine (headAfter name head front) back := by
  induction front generalizing head with
  | nil => simp [Linked]
  | cons record rest ih =>
      rw [List.cons_append, Linked, Linked, ih, headAfter_cons]
      simp only [and_assoc]

theorem linked_snoc (head : Option H) (records : List R) (record : R) :
    Linked previous name genuine head (records ++ [record]) <->
      Linked previous name genuine head records ∧
        previous record = headAfter name head records ∧ genuine record := by
  rw [linked_append]
  simp [Linked]

/-- Two linked lists of one newest name are equal record by record, when a name
determines the genuine record that carries it and that record's predecessor.  The
induction runs backwards from the newest records, and the lists end together
because only a first record has no predecessor. -/
theorem Linked.determined {same : R -> R -> Prop} {firsts seconds : List R}
    (linked : Linked previous name genuine none firsts)
    (linked' : Linked previous name genuine none seconds)
    (determines : forall first, first ∈ firsts -> forall second, second ∈ seconds ->
      genuine first -> genuine second -> name first = name second ->
        same first second ∧ previous first = previous second)
    (newest : headAfter name none firsts = headAfter name none seconds) :
    List.Forall₂ same firsts seconds := by
  induction firsts using List.reverseRecOn generalizing seconds with
  | nil =>
      cases seconds using List.reverseRec with
      | nil => exact .nil
      | append_singleton front last =>
          rw [headAfter_snoc] at newest
          cases newest
  | append_singleton front last ih =>
      cases seconds using List.reverseRec with
      | nil =>
          rw [headAfter_snoc] at newest
          cases newest
      | append_singleton front' last' =>
          rw [linked_snoc] at linked linked'
          rw [headAfter_snoc, headAfter_snoc] at newest
          rcases determines last (List.mem_append_right _ List.mem_cons_self)
            last' (List.mem_append_right _ List.mem_cons_self) linked.2.2 linked'.2.2
            (Option.some.inj newest) with ⟨similar, before⟩
          rw [linked.2.1, linked'.2.1] at before
          have earlier := ih linked.1 linked'.1 (fun first member second member' =>
            determines first (List.mem_append_left _ member) second
              (List.mem_append_left _ member')) before
          exact List.rel_append earlier (.cons similar .nil)

/-- Every record of a linked log meets the record condition. -/
theorem Linked.genuine_of_mem {head : Option H} {records : List R}
    (linked : Linked previous name genuine head records) {record : R} (member : record ∈ records) :
    genuine record := by
  induction records generalizing head with
  | nil => cases member
  | cons first rest ih =>
      rcases List.mem_cons.mp member with rfl | later
      · exact linked.2.1
      · exact ih linked.2.2 later

/-- Two fronts of a list without repetitions are equal when their newest names are, and a name
belongs to one record only. -/
theorem front_of_newest {log front other back rest : List R} (distinct : log.Nodup)
    (split : log = front ++ back) (split' : log = other ++ rest)
    (named : forall first, first ∈ log -> forall second, second ∈ log -> name first = name second ->
      first = second)
    (heads : headAfter name none front = headAfter name none other) : front = other := by
  cases front using List.reverseRec with
  | nil =>
      cases other using List.reverseRec with
      | nil => rfl
      | append_singleton front' newest' =>
          rw [headAfter_snoc] at heads
          cases heads
  | append_singleton front newest =>
      cases other using List.reverseRec with
      | nil =>
          rw [headAfter_snoc] at heads
          cases heads
      | append_singleton front' newest' =>
          rw [headAfter_snoc, headAfter_snoc] at heads
          have equal : newest = newest' :=
            named newest (by rw [split]; simp) newest' (by rw [split']; simp) (Option.some.inj heads)
          subst equal
          have both := split.symm.trans split'
          rw [split] at distinct
          simp only [List.append_assoc, List.singleton_append] at both distinct
          rw [List.nodup_append, List.nodup_cons] at distinct
          have parts := (List.append_cons_inj_of_notMem
            (fun member => distinct.2.2 _ member _ List.mem_cons_self rfl) distinct.2.1.1).mp both
          rw [parts.1]

/-- A linked list of records of a linked log is a front of the log, when a name belongs to one
record only.  Each next record of the list follows the same record in the log. -/
theorem Linked.front {log part : List R} (linked : Linked previous name genuine none log)
    (linked' : Linked previous name genuine none part) (distinct : log.Nodup)
    (inside : forall record, record ∈ part -> record ∈ log)
    (named : forall first, first ∈ log -> forall second, second ∈ log -> name first = name second ->
      first = second) : part <+: log := by
  induction part using List.reverseRec with
  | nil => exact List.nil_prefix
  | append_singleton front last ih =>
      rcases (linked_snoc previous name genuine none front last).mp linked' with ⟨earlier, before, _⟩
      rcases ih earlier (fun record member => inside record (List.mem_append_left _ member)) with
          ⟨rest, whole⟩
      rcases List.append_of_mem (inside last (List.mem_append_right _ List.mem_cons_self)) with
          ⟨other, back, split⟩
      have follows := linked
      rw [split, linked_append] at follows
      have same : other = front :=
        front_of_newest name distinct split whole.symm named (follows.2.1.symm.trans before)
      rw [split, same]
      exact ⟨back, by rw [List.append_assoc]; rfl⟩

end Links

section Families

variable {K : Type u} {R : Type v} [DecidableEq K] (key : R -> K)

/-- The family after a step: the entry, if any, ends the log of its key. The logs of all
other keys stay as they were. -/
def GrowsBy (entry : Option R) (before after : K -> List R) : Prop :=
  forall index, after index =
    before index ++ entry.toList.filter (fun record => key record = index)

namespace GrowsBy

variable {key} {entry : Option R} {before after : K -> List R}

theorem none_iff : GrowsBy key none before after <-> forall index, after index = before index := by
  simp [GrowsBy]

/-- The logs of a push, written with a conditional. -/
theorem of_push {record : R} (pushed : forall index, after index =
    if index = key record then before index ++ [record] else before index) :
    GrowsBy key (some record) before after := by
  intro index
  rw [pushed index]
  by_cases same : index = key record
  · rw [if_pos same]
    simp [same]
  · rw [if_neg same]
    simp [Ne.symm same]

theorem earlier_front (grows : GrowsBy key entry before after) (index : K) :
    before index <+: after index := by
  rw [grows index]
  exact List.prefix_append _ _

theorem at_key {record : R} (grows : GrowsBy key (some record) before after) :
    after (key record) = before (key record) ++ [record] := by
  rw [grows (key record)]
  simp

theorem elsewhere {record : R} (grows : GrowsBy key (some record) before after) {index : K}
    (different : index ≠ key record) : after index = before index := by
  rw [grows index]
  simp [Ne.symm different]

/-- At most one log of the family is longer than before. -/
theorem at_most_one [Inhabited K] (grows : GrowsBy key entry before after) :
    Exists fun target => forall index, index ≠ target -> after index = before index := by
  cases entry with
  | none => exact ⟨default, fun index _ => none_iff.mp grows index⟩
  | some record => exact ⟨key record, fun index different => grows.elsewhere different⟩

theorem mem_iff (grows : GrowsBy key entry before after) (index : K) (record : R) :
    record ∈ after index <-> record ∈ before index ∨ entry = some record ∧ key record = index := by
  rw [grows index, List.mem_append, List.mem_filter, Option.mem_toList, decide_eq_true_iff]

/-- A family of linked logs stays linked when the entry continues its own log. The other logs
are not touched by it. -/
theorem linked {H : Type v} {previous : R -> Option H} {name : R -> H} {genuine : R -> Prop}
    (grows : GrowsBy key entry before after)
    (earlier : forall index, Linked previous name genuine none (before index))
    (continues : forall record, entry = some record ->
      previous record = headAfter name none (before (key record)) ∧ genuine record) (index : K) :
    Linked previous name genuine none (after index) := by
  cases entry with
  | none =>
      rw [none_iff.mp grows index]
      exact earlier index
  | some record =>
      by_cases same : index = key record
      · subst same
        rw [grows.at_key, linked_snoc]
        exact ⟨earlier _, continues record rfl⟩
      · rw [grows.elsewhere same]
        exact earlier index

end GrowsBy

end Families

section Walk

variable {K : Type u} {R : Type v} [DecidableEq K]
variable (find : K -> Option R) (parent : R -> Option K)

/-- Follow predecessor keys from a cursor until it is absent, already visited,
or not stored.  The records come newest first. -/
def walkBack : Nat -> List K -> Option K -> List R
  | 0, _, _ => []
  | _ + 1, _, none => []
  | steps + 1, seen, some key =>
      if key ∈ seen then []
      else match find key with
        | none => []
        | some record => record :: walkBack steps (key :: seen) (parent record)

/-- The same loop, asking only whether it meets a given key.  A key is met
before the store is consulted, so a key that is not stored can be met too. -/
def walkMeets (target : K) : Nat -> List K -> Option K -> Bool
  | 0, _, _ => false
  | _ + 1, _, none => false
  | steps + 1, seen, some key =>
      if key ∈ seen then false
      else if key = target then true
      else match find key with
        | none => false
        | some record => walkMeets target steps (key :: seen) (parent record)

variable {find parent}

/-- On a linked log that the store holds, the walk recovers the whole log. It starts from the
newest record. -/
theorem walkBack_linked (key : R -> K) (records : List R) (steps : Nat) (seen : List K)
    (bound : records.length < steps)
    (linked : Linked parent key (fun _ => True) none records)
    (stored : forall record, record ∈ records -> find (key record) = some record)
    (distinct : (records.map key).Nodup)
    (unseen : forall record, record ∈ records -> key record ∉ seen) :
    walkBack find parent steps seen (headAfter key none records) = records.reverse := by
  induction records using List.reverseRec generalizing steps seen with
  | nil =>
      cases steps with
      | zero => rfl
      | succ steps => rfl
  | append_singleton front last ih =>
      rcases (linked_snoc parent key _ none front last).mp linked with ⟨frontLinked, parentLast, _⟩
      rw [List.map_append, List.nodup_append] at distinct
      cases steps with
      | zero => exact absurd bound (Nat.not_lt_zero _)
      | succ steps =>
          have lastMember : last ∈ front ++ [last] := by simp
          rw [headAfter_snoc, walkBack, if_neg (unseen last lastMember), stored last lastMember]
          simp only [List.reverse_append, List.reverse_cons, List.reverse_nil, List.nil_append,
            List.singleton_append, parentLast]
          congr 1
          refine ih steps (key last :: seen) ?_ frontLinked ?_ distinct.1 ?_
          · simp only [List.length_append, List.length_singleton] at bound
            omega
          · intro record member
            exact stored record (List.mem_append_left _ member)
          · intro record member seenAgain
            rcases List.mem_cons.mp seenAgain with same | earlier
            · exact distinct.2.2 _ (List.mem_map_of_mem member) _ (by simp) same
            · exact unseen record (List.mem_append_left _ member) earlier

/-- The walk along a linked log that the store holds meets every record of the log. -/
theorem walkMeets_linked (key : R -> K) (records : List R) (steps : Nat) (seen : List K)
    (bound : records.length < steps)
    (linked : Linked parent key (fun _ => True) none records)
    (stored : forall record, record ∈ records -> find (key record) = some record)
    (distinct : (records.map key).Nodup)
    (unseen : forall record, record ∈ records -> key record ∉ seen) {record : R}
    (member : record ∈ records) :
    walkMeets find parent (key record) steps seen (headAfter key none records) = true := by
  induction records using List.reverseRec generalizing steps seen with
  | nil => cases member
  | append_singleton front last ih =>
      rcases (linked_snoc parent key _ none front last).mp linked with ⟨frontLinked, parentLast, _⟩
      rw [List.map_append, List.nodup_append] at distinct
      cases steps with
      | zero => exact absurd bound (Nat.not_lt_zero _)
      | succ steps =>
          have lastMember : last ∈ front ++ [last] := by simp
          rw [headAfter_snoc, walkMeets, if_neg (unseen last lastMember), stored last lastMember]
          by_cases found : key last = key record
          · rw [if_pos found]
          rw [if_neg found]
          dsimp only
          rw [parentLast]
          have earlier : record ∈ front := by
            rcases List.mem_append.mp member with before | same
            · exact before
            · exact absurd (congrArg key (List.mem_singleton.mp same)).symm found
          refine ih steps (key last :: seen) ?_ frontLinked ?_ distinct.1 ?_ earlier
          · simp only [List.length_append, List.length_singleton] at bound
            omega
          · intro other inside
            exact stored other (List.mem_append_left _ inside)
          · intro other inside seenAgain
            rcases List.mem_cons.mp seenAgain with same | before
            · exact distinct.2.2 _ (List.mem_map_of_mem inside) _ (by simp) same
            · exact unseen other (List.mem_append_left _ inside) before

/-- Where every parent is stored, a walk from a stored key meets stored keys only. It never
runs into a missing record. -/
theorem walkMeets_stored (target : K) (steps : Nat) (seen : List K) (cursor : Option K)
    (start : forall key, cursor = some key -> (find key).isSome = true)
    (closed : forall key record, find key = some record -> forall other, parent record = some other ->
      (find other).isSome = true)
    (meets : walkMeets find parent target steps seen cursor = true) : (find target).isSome = true := by
  induction steps generalizing seen cursor with
  | zero => cases meets
  | succ steps ih =>
      cases cursor with
      | none => cases meets
      | some key =>
          have stored := start key rfl
          rw [walkMeets] at meets
          split at meets
          · cases meets
          split at meets
          · rename_i same
            exact same ▸ stored
          · split at meets
            · cases meets
            · rename_i record found
              exact ih _ _ (closed key record found) meets

end Walk

end Foundation
end RealityLayer
