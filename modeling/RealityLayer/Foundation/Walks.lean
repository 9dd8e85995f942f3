import Mathlib.Data.List.Forall2
import Mathlib.Logic.Relation
import RealityLayer.Foundation.Chain

namespace RealityLayer
namespace Foundation

universe u v

/-!
# Walks through any store

`walkBack` and `walkMeets` take a bound on their steps.  Here the two loops are given without
one: a derivation of `Walks` or `Meets` is a run of the loop that ends.  Nothing is asked of
the links.  A parent may be missing, and the links may run in a circle.

Each round visits a stored key that was not visited before, so a bound above the number of
such keys is never reached, and the bounded loops end as the unbounded ones do.

Where the visited keys lead nowhere but to each other and to the cursor, a key that was not
visited is met from the cursor exactly when the links lead there.
-/

section Loops

variable {K : Type u} {R : Type v} (find : K -> Option R) (parent : R -> Option K)

/-- The loop that collects records, from some visited keys and a cursor. It stops at a key
that was visited, at one without a record, and at the end of the chain. -/
inductive Walks : List K -> Option K -> List R -> Prop
  | exhausted (seen : List K) : Walks seen none []
  | visited {seen : List K} {key : K} (again : key ∈ seen) : Walks seen (some key) []
  | missing {seen : List K} {key : K} (new : key ∉ seen) (absent : find key = none) :
      Walks seen (some key) []
  | follows {seen : List K} {key : K} {record : R} {records : List R} (new : key ∉ seen)
      (found : find key = some record) (rest : Walks (key :: seen) (parent record) records) :
      Walks seen (some key) (record :: records)

/-- The loop that looks for a key along the chain. The target is met as soon as the cursor
names it, whether or not there is a record under it. -/
inductive Meets (target : K) : List K -> Option K -> Bool -> Prop
  | exhausted (seen : List K) : Meets target seen none false
  | visited {seen : List K} {key : K} (again : key ∈ seen) : Meets target seen (some key) false
  | met {seen : List K} (new : target ∉ seen) : Meets target seen (some target) true
  | missing {seen : List K} {key : K} (new : key ∉ seen) (other : key ≠ target)
      (absent : find key = none) : Meets target seen (some key) false
  | follows {seen : List K} {key : K} {record : R} {answer : Bool} (new : key ∉ seen)
      (other : key ≠ target) (found : find key = some record)
      (rest : Meets target (key :: seen) (parent record) answer) : Meets target seen (some key) answer

/-- A stored record links its key to its parent. -/
def ParentLink (child key : K) : Prop :=
  Exists fun record : R => find child = some record ∧ parent record = some key

variable {find parent}

theorem Walks.unique {seen : List K} {cursor : Option K} {first second : List R}
    (walks : Walks find parent seen cursor first) (walks' : Walks find parent seen cursor second) :
    first = second := by
  induction walks generalizing second with
  | exhausted =>
      cases walks'
      rfl
  | visited again =>
      cases walks' with
      | visited _ => rfl
      | missing _ _ => rfl
      | follows new _ _ => exact absurd again new
  | missing new absent =>
      cases walks' with
      | visited _ => rfl
      | missing _ _ => rfl
      | follows _ found _ => cases absent.symm.trans found
  | follows new found rest ih =>
      cases walks' with
      | visited again => exact absurd again new
      | missing _ absent => cases absent.symm.trans found
      | follows _ found' rest' =>
          cases found.symm.trans found'
          exact congrArg _ (ih rest')

/-- The keys that a walk visits: each once, none before, and each the parent of the record
before it. -/
theorem Walks.keys {seen : List K} {cursor : Option K} {records : List R}
    (walks : Walks find parent seen cursor records) :
    Exists fun keys : List K => keys.Nodup ∧ (forall key, key ∈ keys -> key ∉ seen) ∧
      List.Forall₂ (fun key record => find key = some record) keys records ∧
      (records ≠ [] -> keys.head? = cursor) ∧
      forall place newer older, records[place]? = some newer -> keys[place + 1]? = some older ->
        parent newer = some older := by
  induction walks with
  | exhausted seen => exact ⟨[], List.nodup_nil, nofun, .nil, fun some => absurd rfl some, nofun⟩
  | visited again => exact ⟨[], List.nodup_nil, nofun, .nil, fun some => absurd rfl some, nofun⟩
  | missing new absent => exact ⟨[], List.nodup_nil, nofun, .nil, fun some => absurd rfl some, nofun⟩
  | @follows seen key record records new found rest ih =>
      rcases ih with ⟨keys, distinct, unseen, stored, starts, linked⟩
      have apart : key ∉ keys := fun inside => unseen key inside List.mem_cons_self
      refine ⟨key :: keys, List.nodup_cons.mpr ⟨apart, distinct⟩, ?_, .cons found stored,
        fun _ => rfl, ?_⟩
      · intro other inside
        rcases List.mem_cons.mp inside with rfl | later
        · exact new
        · exact fun before => unseen other later (List.mem_cons_of_mem _ before)
      · intro place newer older at_ next
        rw [List.getElem?_cons_succ] at next
        cases place with
        | zero =>
            cases at_
            cases stored with
            | nil => cases next
            | cons first later =>
                rw [← starts (List.cons_ne_nil _ _)]
                exact next
        | succ place => exact linked place newer older at_ next

end Loops

section Bounds

variable {K : Type u} {R : Type v} [DecidableEq K] {find : K -> Option R} {parent : R -> Option K}
variable {keys : List K}

/-- The keys that a walk has not visited. -/
def unvisited (keys seen : List K) : List K := keys.filter (fun key => decide (key ∉ seen))

theorem unvisited_cons_lt {seen : List K} {key : K} (stored : key ∈ keys) (new : key ∉ seen) :
    (unvisited keys (key :: seen)).length < (unvisited keys seen).length := by
  have smaller : unvisited keys (key :: seen) =
      (unvisited keys seen).filter (fun other => decide (other ≠ key)) := by
    unfold unvisited
    rw [List.filter_filter]
    refine List.filter_congr (fun other _ => ?_)
    simp [not_or]
  rw [smaller, List.length_filter_lt_length_iff_exists]
  exact ⟨key, List.mem_filter.mpr ⟨stored, decide_eq_true new⟩, by simp⟩

/-- With steps enough, the bounded loop is the loop. The keys that it has seen keep it from
going round. -/
theorem walkBack_walks (known : forall key, (find key).isSome = true -> key ∈ keys) (steps : Nat)
    (seen : List K) (cursor : Option K) (bound : (unvisited keys seen).length < steps) :
    Walks find parent seen cursor (walkBack find parent steps seen cursor) := by
  induction steps generalizing seen cursor with
  | zero => exact absurd bound (Nat.not_lt_zero _)
  | succ steps ih =>
      cases cursor with
      | none => exact .exhausted seen
      | some key =>
          rw [walkBack]
          by_cases again : key ∈ seen
          · rw [if_pos again]
            exact .visited again
          · rw [if_neg again]
            cases found : find key with
            | none => exact .missing again found
            | some record =>
                have stored : key ∈ keys := known key (by rw [found]; rfl)
                have fewer := unvisited_cons_lt stored again
                exact .follows again found (ih _ _ (by omega))

/-- More steps than there are unvisited stored keys change nothing. The loop has stopped by then. -/
theorem walkBack_bound (keys : List K) (known : forall key, (find key).isSome = true -> key ∈ keys)
    (steps steps' : Nat) (seen : List K) (cursor : Option K)
    (bound : (unvisited keys seen).length < steps) (bound' : (unvisited keys seen).length < steps') :
    walkBack find parent steps seen cursor = walkBack find parent steps' seen cursor :=
  (walkBack_walks known steps seen cursor bound).unique (walkBack_walks known steps' seen cursor bound')

theorem walkMeets_meets (known : forall key, (find key).isSome = true -> key ∈ keys) (target : K)
    (steps : Nat) (seen : List K) (cursor : Option K) (bound : (unvisited keys seen).length < steps) :
    Meets find parent target seen cursor (walkMeets find parent target steps seen cursor) := by
  induction steps generalizing seen cursor with
  | zero => exact absurd bound (Nat.not_lt_zero _)
  | succ steps ih =>
      cases cursor with
      | none => exact .exhausted seen
      | some key =>
          rw [walkMeets]
          by_cases again : key ∈ seen
          · rw [if_pos again]
            exact .visited again
          rw [if_neg again]
          by_cases same : key = target
          · rw [if_pos same]
            subst same
            exact .met again
          · rw [if_neg same]
            cases found : find key with
            | none => exact .missing again same found
            | some record =>
                have stored : key ∈ keys := known key (by rw [found]; rfl)
                have fewer := unvisited_cons_lt stored again
                exact .follows again same found (ih _ _ (by omega))

end Bounds

section Reachability

variable {K : Type u} {R : Type v} {find : K -> Option R} {parent : R -> Option K}

/-- What a set of keys that is closed under the links leads to is in it. -/
theorem mem_of_closed {seen : List K}
    (closed : forall key, key ∈ seen -> forall next, ParentLink find parent key next -> next ∈ seen)
    {start target : K} (inside : start ∈ seen)
    (leads : Relation.ReflTransGen (ParentLink find parent) start target) : target ∈ seen := by
  induction leads with
  | refl => exact inside
  | tail _ link ih => exact closed _ ih _ link

/-- The loop meets the keys that the links lead to from its cursor. -/
theorem Meets.reaches_iff {target : K} {seen : List K} {cursor : Option K} {answer : Bool}
    (meets : Meets find parent target seen cursor answer) (new : target ∉ seen)
    (closed : forall key, key ∈ seen -> forall next, ParentLink find parent key next ->
      next ∈ seen ∨ cursor = some next) :
    answer = true <-> Exists fun key : K => cursor = some key ∧
      Relation.ReflTransGen (ParentLink find parent) key target := by
  induction meets with
  | exhausted seen => exact ⟨nofun, nofun⟩
  | @visited seen key again =>
      refine ⟨nofun, ?_⟩
      rintro ⟨_, ⟨⟩, leads⟩
      -- the links from the visited keys stay among them
      refine absurd (mem_of_closed ?_ again leads) new
      intro other inside next link
      rcases closed other inside next link with visited | ⟨⟨⟩⟩
      · exact visited
      · exact again
  | met _ => exact ⟨fun _ => ⟨_, rfl, .refl⟩, fun _ => rfl⟩
  | @missing seen key _ other absent =>
      refine ⟨nofun, ?_⟩
      rintro ⟨_, ⟨⟩, leads⟩
      rcases leads.cases_head with same | ⟨next, ⟨record, found, _⟩, _⟩
      · exact absurd same other
      · cases absent.symm.trans found
  | @follows seen key record answer _ other found rest ih =>
      have apart : target ∉ key :: seen := by
        rw [List.mem_cons]
        rintro (same | before)
        · exact other same.symm
        · exact new before
      have closed' : forall visited, visited ∈ key :: seen -> forall next,
          ParentLink find parent visited next -> next ∈ key :: seen ∨ parent record = some next := by
        intro visited inside next link
        rcases List.mem_cons.mp inside with rfl | before
        · rcases link with ⟨record', found', links⟩
          cases found.symm.trans found'
          exact Or.inr links
        · rcases closed visited before next link with earlier | ⟨⟨⟩⟩
          · exact Or.inl (List.mem_cons_of_mem _ earlier)
          · exact Or.inl List.mem_cons_self
      rw [ih apart closed']
      constructor
      · rintro ⟨next, links, leads⟩
        exact ⟨key, rfl, .head ⟨record, found, links⟩ leads⟩
      · rintro ⟨_, ⟨⟩, leads⟩
        rcases leads.cases_head with same | ⟨next, ⟨record', found', links⟩, leads⟩
        · exact absurd same other
        · cases found.symm.trans found'
          exact ⟨next, links, leads⟩

end Reachability

end Foundation
end RealityLayer
