import RealityLayer.Foundation.Dict
import Mathlib.Algebra.Order.BigOperators.Group.List
import Mathlib.Algebra.Order.Group.Nat
import Mathlib.Algebra.Ring.Nat
import Mathlib.Data.List.Forall2

namespace RealityLayer
namespace Foundation

universe u v w x

/-!
# Dictionaries that match entry by entry

Two runs that draw different identifiers build dictionaries that differ in their keys and
still have the same shape.  `Matches` relates two dictionaries entry by entry, in their
order.  Where the relation pairs each key with one key only, a lookup and an assignment
under paired keys respect it, and so does any sequence of assignments.

With equality of keys as the pairing, two dictionaries match as soon as they have the same
keys and related values under each of them.  An assignment of what a key already holds
changes nothing, and one of anything else keeps the keys.
-/

/-- No key is paired with two, on either side. Neither side needs to be paired at all, so a
partial renaming of identifiers is biunique. -/
structure Biunique {K : Type u} {L : Type w} (pairs : K -> L -> Prop) : Prop where
  right : forall {key : K} {first second : L}, pairs key first -> pairs key second -> first = second
  left : forall {first second : K} {key : L}, pairs first key -> pairs second key -> first = second

theorem Biunique.eq_iff {K : Type u} {L : Type w} {pairs : K -> L -> Prop} (unique : Biunique pairs)
    {first second : K} {image other : L} (paired : pairs first image) (paired' : pairs second other) :
    first = second <-> image = other := by
  constructor
  · intro same
    exact unique.right (same ▸ paired) paired'
  · intro same
    exact unique.left paired (same.symm ▸ paired')

theorem biunique_eq (K : Type u) : Biunique (fun first second : K => first = second) where
  right := fun first second => first.symm.trans second
  left := fun first second => first.trans second.symm

/-- Related lists have one image exactly when related items have. -/
theorem map_eq_iff_forall₂ {A : Type u} {B : Type v} {C : Type w} {relates : A -> B -> Prop}
    {view : A -> C} {view' : B -> C} {items : List A} {images : List B}
    (related : List.Forall₂ relates items images) :
    items.map view = images.map view' <->
      List.Forall₂ (fun item image => relates item image ∧ view item = view' image) items images := by
  induction related with
  | nil => exact ⟨fun _ => .nil, fun _ => rfl⟩
  | cons first rest ih =>
      rw [List.map_cons, List.map_cons, List.cons_eq_cons, List.forall₂_cons, ih]
      constructor
      · rintro ⟨same, later⟩
        exact ⟨⟨first, same⟩, later⟩
      · rintro ⟨⟨_, same⟩, later⟩
        exact ⟨same, later⟩

/-- Where each item is at most as large as its image, and all items together are as large as
the images, each item is as large as its image. -/
theorem sizes_eq_of_sum_eq {A : Type u} {B : Type v} {relates : A -> B -> Prop} {size : A -> Nat}
    {size' : B -> Nat} {items : List A} {images : List B}
    (related : List.Forall₂ (fun item image => relates item image ∧ size item ≤ size' image) items images)
    (sum : (items.map size).sum = (images.map size').sum) :
    List.Forall₂ (fun item image => relates item image ∧ size item = size' image) items images := by
  induction related with
  | nil => exact .nil
  | @cons item image rest places first later ih =>
      rw [List.map_cons, List.map_cons, List.sum_cons, List.sum_cons] at sum
      have smaller : (rest.map size).sum ≤ (places.map size').sum := by
        apply List.Forall₂.sum_le_sum
        rw [List.forall₂_map_left_iff, List.forall₂_map_right_iff]
        exact later.imp (fun _ _ both => both.2)
      exact .cons ⟨first.1, by omega⟩ (ih (by omega))

namespace Dict

variable {K : Type u} {V : Type v} {L : Type w} {W : Type x}
variable {relates : K -> V -> L -> W -> Prop} {first : Dict K V} {second : Dict L W}

/-- The entries are related one by one, in their order. -/
def Matches (relates : K -> V -> L -> W -> Prop) (first : Dict K V) (second : Dict L W) : Prop :=
  List.Forall₂ (fun entry image => relates entry.1 entry.2 image.1 image.2) first.entries second.entries

theorem Matches.values (matched : Matches relates first second) :
    List.Forall₂ (fun value image => Exists fun key => Exists fun other => relates key value other image)
      first.values second.values := by
  unfold Dict.values
  rw [List.forall₂_map_left_iff, List.forall₂_map_right_iff]
  exact matched.imp (fun entry image related => ⟨entry.1, image.1, related⟩)

variable [DecidableEq K] [DecidableEq L] {pairs : K -> L -> Prop} {key : K} {other : L}

/-- Under paired keys both dictionaries hold nothing, or related values. -/
theorem Matches.get? (matched : Matches relates first second)
    (sound : forall key value other image, relates key value other image -> pairs key other)
    (unique : Biunique pairs) (paired : pairs key other) :
    first.get? key = none ∧ second.get? other = none ∨
      Exists fun value => Exists fun image => first.get? key = some value ∧
        second.get? other = some image ∧ relates key value other image := by
  unfold Matches at matched
  unfold Dict.get?
  generalize first.entries = entries at matched ⊢
  generalize second.entries = images at matched ⊢
  induction matched with
  | nil => exact Or.inl ⟨rfl, rfl⟩
  | @cons entry image rest images related later ih =>
      have same := unique.eq_iff (sound _ _ _ _ related) paired
      rw [lookup, lookup]
      by_cases found : entry.1 = key
      · rw [if_pos found, if_pos (same.mp found)]
        have here := same.mp found
        subst found
        subst here
        exact Or.inr ⟨entry.2, image.2, rfl, rfl, related⟩
      · rw [if_neg found, if_neg (fun equal => found (same.mpr equal))]
        exact ih

/-- Assigning related values under paired keys. -/
theorem Matches.set (matched : Matches relates first second)
    (sound : forall key value other image, relates key value other image -> pairs key other)
    (unique : Biunique pairs) {value : V} {image : W} (related : relates key value other image) :
    Matches relates (first.set key value) (second.set other image) := by
  unfold Matches at matched ⊢
  change List.Forall₂ _ (setEntries key value first.entries) (setEntries other image second.entries)
  generalize first.entries = entries at matched ⊢
  generalize second.entries = images at matched ⊢
  induction matched with
  | nil => exact .cons related .nil
  | @cons entry place rest places earlier later ih =>
      have same := unique.eq_iff (sound _ _ _ _ earlier) (sound _ _ _ _ related)
      rw [setEntries, setEntries]
      by_cases found : entry.1 = key
      · rw [if_pos found, if_pos (same.mp found)]
        exact .cons related later
      · rw [if_neg found, if_neg (fun equal => found (same.mpr equal))]
        exact .cons earlier ih

/-- Assigning two related lists of values, one after the other. -/
theorem Matches.foldl_set {A B : Type*} {name : A -> K} {value : A -> V} {name' : B -> L} {value' : B -> W}
    (matched : Matches relates first second)
    (sound : forall key value other image, relates key value other image -> pairs key other)
    (unique : Biunique pairs) {items : List A} {images : List B}
    (related : List.Forall₂ (fun item image => relates (name item) (value item) (name' image)
      (value' image)) items images) :
    Matches relates (items.foldl (fun dict item => dict.set (name item) (value item)) first)
      (images.foldl (fun dict image => dict.set (name' image) (value' image)) second) := by
  induction related generalizing first second with
  | nil => exact matched
  | cons now later ih => exact ih (matched.set sound unique now)

omit [DecidableEq L] in
/-- Dictionaries with the same keys match when the values under each key are related. -/
theorem matches_of_keys {second : Dict K W} {relates : K -> V -> K -> W -> Prop}
    (keys : first.keys = second.keys)
    (related : forall key value image, first.get? key = some value -> second.get? key = some image ->
      relates key value key image) : Matches relates first second := by
  have inside : forall entry, entry ∈ first.entries -> first.get? entry.1 = some entry.2 :=
    fun entry member => (first.mem_entries_iff entry.1 entry.2).mp member
  have inside' : forall entry, entry ∈ second.entries -> second.get? entry.1 = some entry.2 :=
    fun entry member => (second.mem_entries_iff entry.1 entry.2).mp member
  unfold Dict.keys at keys
  unfold Matches
  generalize first.entries = entries at keys inside ⊢
  generalize second.entries = images at keys inside' ⊢
  induction entries generalizing images with
  | nil =>
      cases images with
      | nil => exact .nil
      | cons image images => cases keys
  | cons entry entries ih =>
      cases images with
      | nil => cases keys
      | cons image images =>
          rw [List.map_cons, List.map_cons, List.cons_eq_cons] at keys
          have here := inside' image List.mem_cons_self
          rw [← keys.1] at here
          have now := related _ _ _ (inside entry List.mem_cons_self) here
          refine .cons (keys.1 ▸ now) (ih ?_ images keys.2 ?_)
          · exact fun other member => inside other (List.mem_cons_of_mem _ member)
          · exact fun other member => inside' other (List.mem_cons_of_mem _ member)

/-! ## Assignments of known values -/

section Known

variable {A : Type*} {name : A -> K} {value : A -> V} {items : List A}

omit [DecidableEq L] in
/-- Assigning the values that are held changes nothing. -/
theorem foldl_set_held (held : forall item, item ∈ items -> first.get? (name item) = some (value item)) :
    items.foldl (fun dict item => dict.set (name item) (value item)) first = first := by
  induction items with
  | nil => rfl
  | cons item rest ih =>
      have now := held item List.mem_cons_self
      have same : first.set (name item) (value item) = first := by
        have keys : (first.set (name item) (value item)).keys = first.keys :=
          first.keys_set_of_bound (value item) (by rw [now]; exact Option.some_ne_none _)
        have equal : Dict.Matches (fun key value other image => (key, value) = (other, image))
            (first.set (name item) (value item)) first := by
          apply matches_of_keys keys
          intro key bound image found found'
          rw [get?_set] at found
          split at found
          · rename_i here
            rw [here, now] at found'
            rw [Option.some.inj (found.symm.trans found')]
          · rw [Option.some.inj (found.symm.trans found')]
        exact Dict.ext (List.forall₂_eq_eq_eq ▸ equal)
      rw [List.foldl_cons, same]
      exact ih (fun other member => held other (List.mem_cons_of_mem item member))

omit [DecidableEq L] in
/-- Assigning to bound keys keeps the keys. -/
theorem keys_foldl_set (bound : forall item, item ∈ items -> first.get? (name item) ≠ none) :
    (items.foldl (fun dict item => dict.set (name item) (value item)) first).keys = first.keys := by
  induction items generalizing first with
  | nil => rfl
  | cons item rest ih =>
      rw [List.foldl_cons, ih, first.keys_set_of_bound (value item) (bound item List.mem_cons_self)]
      intro other member
      rw [get?_set]
      split
      · exact Option.some_ne_none _
      · exact bound other (List.mem_cons_of_mem item member)

end Known

end Dict

end Foundation
end RealityLayer
