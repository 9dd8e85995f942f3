import Mathlib.Data.List.Nodup
import Mathlib.Data.List.Basic
import Mathlib.Data.List.Induction

namespace RealityLayer
namespace Foundation

universe u v w

/-!
# Insertion-ordered dictionaries

A `Dict` is a finite map that remembers the order in which its keys were first
bound.  Rebinding a key keeps its place; a new key goes to the end; iteration
follows the stored order.  The distinctness of the keys is a field of the
structure, so no operation can build a dictionary that binds a key twice.

Lookup is the only observation most arguments need.  Each operation therefore
comes with the equation that says what a lookup sees after it, and later
developments reason through those equations instead of the entry list.
-/

/-- A finite map in insertion order. No key occurs twice, and an entry that is set again
keeps its place, as in a Python dictionary. -/
structure Dict (K : Type u) (V : Type v) where
  entries : List (K × V)
  distinct : (entries.map Prod.fst).Nodup

namespace Dict

variable {K : Type u} {V : Type v} {W : Type w}

@[ext] theorem ext {first second : Dict K V} (same : first.entries = second.entries) :
    first = second := by
  cases first
  cases second
  cases same
  rfl

instance [DecidableEq K] [DecidableEq V] : DecidableEq (Dict K V) :=
  fun first second =>
    decidable_of_iff (first.entries = second.entries)
      ⟨Dict.ext, fun same => congrArg Dict.entries same⟩

def empty : Dict K V where
  entries := []
  distinct := List.nodup_nil

instance : Inhabited (Dict K V) := ⟨empty⟩

def keys (dict : Dict K V) : List K := dict.entries.map Prod.fst

def values (dict : Dict K V) : List V := dict.entries.map Prod.snd

/-- Rewrite every value, keeping the keys and their order. The change sees the key as well. -/
def mapValues (dict : Dict K V) (change : K -> V -> W) : Dict K W where
  entries := dict.entries.map (fun entry => (entry.1, change entry.1 entry.2))
  distinct := by
    have keysKept : (dict.entries.map (fun entry => (entry.1, change entry.1 entry.2))).map Prod.fst =
        dict.entries.map Prod.fst := by
      rw [List.map_map]
      rfl
    rw [keysKept]
    exact dict.distinct

@[simp] theorem keys_mapValues (dict : Dict K V) (change : K -> V -> W) :
    (dict.mapValues change).keys = dict.keys := by
  unfold keys mapValues
  rw [List.map_map]
  rfl

theorem mapValues_mapValues {X : Type w} (dict : Dict K V) (change : K -> V -> W)
    (further : K -> W -> X) :
    (dict.mapValues change).mapValues further =
      dict.mapValues (fun key value => further key (change key value)) := by
  apply Dict.ext
  simp only [mapValues, List.map_map]
  rfl

/-- The part of a dictionary under selected keys. -/
def restrict (dict : Dict K V) (selects : K -> Bool) : Dict K V where
  entries := dict.entries.filter (fun entry => selects entry.1)
  distinct := dict.distinct.sublist (List.Sublist.map Prod.fst List.filter_sublist)

section Keyed

variable [DecidableEq K]

/-- The value an entry list binds to a key. -/
def lookup (key : K) : List (K × V) -> Option V
  | [] => none
  | (other, value) :: rest => if other = key then some value else lookup key rest

def get? (dict : Dict K V) (key : K) : Option V :=
  lookup key dict.entries

def contains (dict : Dict K V) (key : K) : Bool :=
  (dict.get? key).isSome

/-- Rebind a key in place, or bind it after all the others. This is the insertion order that
Python's dictionaries keep. -/
def setEntries (key : K) (value : V) : List (K × V) -> List (K × V)
  | [] => [(key, value)]
  | (other, old) :: rest =>
      if other = key then (key, value) :: rest
      else (other, old) :: setEntries key value rest

theorem mem_keys_setEntries (key : K) (value : V) (entries : List (K × V)) (other : K) :
    other ∈ (setEntries key value entries).map Prod.fst <->
      other = key ∨ other ∈ entries.map Prod.fst := by
  induction entries with
  | nil => simp [setEntries]
  | cons head tail ih =>
      simp only [setEntries]
      by_cases same : head.1 = key
      · rw [if_pos same]
        simp [same]
      · rw [if_neg same]
        simp only [List.map_cons, List.mem_cons, ih]
        tauto

theorem nodup_setEntries (key : K) (value : V) (entries : List (K × V))
    (distinct : (entries.map Prod.fst).Nodup) :
    ((setEntries key value entries).map Prod.fst).Nodup := by
  induction entries with
  | nil => simp [setEntries]
  | cons head tail ih =>
      have parts := List.nodup_cons.mp distinct
      simp only [setEntries]
      by_cases same : head.1 = key
      · rw [if_pos same]
        subst same
        exact distinct
      · rw [if_neg same]
        refine List.nodup_cons.mpr ⟨?_, ih parts.2⟩
        intro member
        rcases (mem_keys_setEntries key value tail head.1).mp member with equal | old
        · exact same equal
        · exact parts.1 old

/-- The assignment `dict[key] = value`. -/
def set (dict : Dict K V) (key : K) (value : V) : Dict K V where
  entries := setEntries key value dict.entries
  distinct := nodup_setEntries key value dict.entries dict.distinct

/-- Forget a key, if it is bound. -/
def erase (dict : Dict K V) (key : K) : Dict K V where
  entries := dict.entries.filter (fun entry => entry.1 ≠ key)
  distinct := dict.distinct.sublist (List.Sublist.map Prod.fst List.filter_sublist)

/-- Bind a list of entries one after the other. Where a key occurs twice, the place is that
of the first and the value that of the last. -/
def ofList (entries : List (K × V)) : Dict K V :=
  entries.foldl (fun dict entry => dict.set entry.1 entry.2) empty

/-! ## What a lookup sees -/

@[simp] theorem get?_empty (key : K) : (empty : Dict K V).get? key = none := rfl

theorem lookup_setEntries (key : K) (value : V) (entries : List (K × V)) (other : K) :
    lookup other (setEntries key value entries) =
      if other = key then some value else lookup other entries := by
  induction entries with
  | nil => simp only [setEntries, lookup, eq_comm]
  | cons head tail ih =>
      simp only [setEntries]
      by_cases bound : head.1 = key
      · rw [if_pos bound]
        by_cases same : other = key
        · simp [lookup, same]
        · simp [lookup, same, bound, Ne.symm same]
      · rw [if_neg bound]
        by_cases same : head.1 = other
        · have different : other ≠ key := fun equal => bound (same.trans equal)
          simp [lookup, same, different]
        · simp only [lookup, if_neg same, ih]

theorem get?_set (dict : Dict K V) (key : K) (value : V) (other : K) :
    (dict.set key value).get? other = if other = key then some value else dict.get? other :=
  lookup_setEntries key value dict.entries other

@[simp] theorem get?_set_self (dict : Dict K V) (key : K) (value : V) :
    (dict.set key value).get? key = some value := by
  rw [get?_set, if_pos rfl]

theorem get?_set_of_ne (dict : Dict K V) {key other : K} (value : V) (different : other ≠ key) :
    (dict.set key value).get? other = dict.get? other := by
  rw [get?_set, if_neg different]

theorem get?_erase (dict : Dict K V) (key other : K) :
    (dict.erase key).get? other = if other = key then none else dict.get? other := by
  change lookup other (dict.entries.filter _) = if other = key then none else lookup other dict.entries
  induction dict.entries with
  | nil => simp [lookup]
  | cons head tail ih =>
      by_cases removed : head.1 = key
      · rw [List.filter_cons_of_neg (by simpa using removed), ih]
        by_cases same : other = key
        · simp [same]
        · simp [lookup, same, removed, Ne.symm same]
      · rw [List.filter_cons_of_pos (by simpa using removed)]
        by_cases same : head.1 = other
        · have different : other ≠ key := fun equal => removed (same.trans equal)
          simp [lookup, same, different]
        · simp only [lookup, if_neg same, ih]

theorem get?_mapValues (dict : Dict K V) (change : K -> V -> W) (key : K) :
    (dict.mapValues change).get? key = (dict.get? key).map (change key) := by
  change lookup key (dict.entries.map _) = (lookup key dict.entries).map (change key)
  induction dict.entries with
  | nil => rfl
  | cons head tail ih =>
      by_cases same : head.1 = key
      · subst same
        simp [lookup]
      · simp [lookup, same, ih]

theorem map_setEntries (change : K -> V -> W) (key : K) (value : V) (entries : List (K × V)) :
    (setEntries key value entries).map (fun entry => (entry.1, change entry.1 entry.2)) =
      setEntries key (change key value) (entries.map (fun entry => (entry.1, change entry.1 entry.2))) := by
  induction entries with
  | nil => rfl
  | cons head tail ih =>
      rw [setEntries, List.map_cons, setEntries]
      by_cases same : head.1 = key
      · rw [if_pos same, if_pos same, List.map_cons]
      · rw [if_neg same, if_neg same, List.map_cons, ih]

/-- Rewriting the values commutes with an assignment. -/
theorem mapValues_set (dict : Dict K V) (key : K) (value : V) (change : K -> V -> W) :
    (dict.set key value).mapValues change = (dict.mapValues change).set key (change key value) :=
  Dict.ext (map_setEntries change key value dict.entries)

/-! ## Lookups and entries -/

theorem mem_of_lookup {entries : List (K × V)} {key : K} {value : V}
    (found : lookup key entries = some value) : (key, value) ∈ entries := by
  induction entries with
  | nil => cases found
  | cons head tail ih =>
      by_cases same : head.1 = key
      · rw [lookup, if_pos same] at found
        cases found
        exact same ▸ List.mem_cons_self
      · rw [lookup, if_neg same] at found
        exact List.mem_cons_of_mem _ (ih found)

theorem lookup_of_mem {entries : List (K × V)} {key : K} {value : V}
    (distinct : (entries.map Prod.fst).Nodup) (member : (key, value) ∈ entries) :
    lookup key entries = some value := by
  induction entries with
  | nil => cases member
  | cons head tail ih =>
      have parts := List.nodup_cons.mp distinct
      rcases List.mem_cons.mp member with same | later
      · subst same
        rw [lookup, if_pos rfl]
      · have different : head.1 ≠ key := by
          intro equal
          exact parts.1 (equal ▸ List.mem_map_of_mem (f := Prod.fst) later)
        rw [lookup, if_neg different]
        exact ih parts.2 later

/-- The stored entries are exactly the successful lookups. This is where distinct keys are
needed. -/
theorem mem_entries_iff (dict : Dict K V) (key : K) (value : V) :
    (key, value) ∈ dict.entries <-> dict.get? key = some value :=
  ⟨lookup_of_mem dict.distinct, mem_of_lookup⟩

theorem get?_eq_none_iff (dict : Dict K V) (key : K) :
    dict.get? key = none <-> key ∉ dict.keys := by
  constructor
  · intro absent member
    rcases List.mem_map.mp member with ⟨entry, stored, same⟩
    have found := (dict.mem_entries_iff entry.1 entry.2).mp stored
    rw [same, absent] at found
    cases found
  · intro absent
    cases found : dict.get? key with
    | none => rfl
    | some value =>
        have stored := (dict.mem_entries_iff key value).mpr found
        exact False.elim (absent (List.mem_map_of_mem (f := Prod.fst) stored))

theorem mem_values_iff (dict : Dict K V) (value : V) :
    value ∈ dict.values <-> Exists fun key : K => dict.get? key = some value := by
  constructor
  · intro member
    rcases List.mem_map.mp member with ⟨entry, stored, rfl⟩
    exact ⟨entry.1, (dict.mem_entries_iff entry.1 entry.2).mp stored⟩
  · rintro ⟨key, found⟩
    exact List.mem_map_of_mem (f := Prod.snd) ((dict.mem_entries_iff key value).mpr found)

/-- Values that know their own keys. -/
theorem map_values_of_named (dict : Dict K V) (name : V -> K)
    (named : forall key value, dict.get? key = some value -> name value = key) :
    dict.values.map name = dict.keys := by
  unfold values keys
  rw [List.map_map]
  refine List.map_congr_left (fun entry member => ?_)
  exact named entry.1 entry.2 ((dict.mem_entries_iff entry.1 entry.2).mp member)

/-- Setting many different keys in turn. -/
theorem get?_foldl_set {A : Type w} (name : A -> K) (value : A -> V) (items : List A)
    (distinct : (items.map name).Nodup) (dict : Dict K V) :
    (forall item, item ∈ items ->
      (items.foldl (fun dict item => dict.set (name item) (value item)) dict).get? (name item) =
        some (value item)) ∧
      forall key, key ∉ items.map name ->
        (items.foldl (fun dict item => dict.set (name item) (value item)) dict).get? key =
          dict.get? key := by
  induction items generalizing dict with
  | nil =>
      refine ⟨?_, fun _ _ => rfl⟩
      intro item member
      cases member
  | cons first rest ih =>
      rcases List.nodup_cons.mp distinct with ⟨absent, distinct⟩
      rcases ih distinct (dict.set (name first) (value first)) with ⟨inside, outside⟩
      constructor
      · intro item member
        rcases List.mem_cons.mp member with rfl | later
        · exact (outside _ absent).trans (get?_set_self _ _ _)
        · exact inside item later
      · intro key fresh
        rw [List.map_cons, List.mem_cons, not_or] at fresh
        exact (outside key fresh.2).trans (get?_set_of_ne _ _ fresh.1)

theorem setEntries_of_not_mem {key : K} (value : V) {entries : List (K × V)}
    (outside : key ∉ entries.map Prod.fst) :
    setEntries key value entries = entries ++ [(key, value)] := by
  induction entries with
  | nil => rfl
  | cons head tail ih =>
      rw [List.map_cons, List.mem_cons, not_or] at outside
      rw [setEntries, if_neg (Ne.symm outside.1), ih outside.2]
      rfl

theorem keys_setEntries_of_mem {key : K} (value : V) {entries : List (K × V)}
    (inside : key ∈ entries.map Prod.fst) :
    (setEntries key value entries).map Prod.fst = entries.map Prod.fst := by
  induction entries with
  | nil => cases inside
  | cons head tail ih =>
      by_cases same : head.1 = key
      · rw [setEntries, if_pos same]
        simp [same]
      · rw [setEntries, if_neg same, List.map_cons, List.map_cons]
        rcases List.mem_cons.mp inside with equal | later
        · exact False.elim (same equal.symm)
        · rw [ih later]

/-- A key that is not bound yet is bound after all the others. -/
theorem entries_set_of_absent (dict : Dict K V) {key : K} (value : V)
    (absent : dict.get? key = none) :
    (dict.set key value).entries = dict.entries ++ [(key, value)] :=
  setEntries_of_not_mem value ((dict.get?_eq_none_iff key).mp absent)

/-- Rebinding a bound key keeps the key order. -/
theorem keys_set_of_bound (dict : Dict K V) {key : K} (value : V)
    (bound : dict.get? key ≠ none) : (dict.set key value).keys = dict.keys := by
  apply keys_setEntries_of_mem
  by_contra outside
  exact bound ((dict.get?_eq_none_iff key).mpr outside)

theorem filter_flatten_setEntries {R : Type v} (key : K) (records : List R) (selects : R -> Bool)
    (entries : List (K × List R))
    (unmet : forall record, record ∈ (entries.map Prod.snd).flatten -> selects record = false) :
    ((setEntries key records entries).map Prod.snd).flatten.filter selects =
      records.filter selects := by
  have dropped : forall list : List R, (forall record, record ∈ list -> selects record = false) ->
      list.filter selects = [] := by
    intro list none
    exact List.filter_eq_nil_iff.mpr (fun record member => by simp [none record member])
  induction entries with
  | nil => simp [setEntries]
  | cons head tail ih =>
      have later : forall record, record ∈ (tail.map Prod.snd).flatten -> selects record = false :=
        fun record member => unmet record (List.mem_append_right _ member)
      rw [setEntries]
      by_cases same : head.1 = key
      · rw [if_pos same, List.map_cons, List.flatten_cons, List.filter_append, dropped _ later,
          List.append_nil]
      · rw [if_neg same, List.map_cons, List.flatten_cons, List.filter_append, ih later,
          dropped head.2 (fun record member => unmet record (List.mem_append_left _ member)),
          List.nil_append]

/-- In a dictionary of lists, a condition that no stored element meets selects
from the dictionary after an update just the selected part of the new list. -/
theorem filter_flatten_set {R : Type v} (dict : Dict K (List R)) (key : K) (records : List R)
    (selects : R -> Bool)
    (unmet : forall record, record ∈ dict.values.flatten -> selects record = false) :
    (dict.set key records).values.flatten.filter selects = records.filter selects :=
  filter_flatten_setEntries key records selects dict.entries unmet

theorem ofList_snoc (front : List (K × V)) (last : K × V) :
    ofList (front ++ [last]) = (ofList front).set last.1 last.2 := by
  unfold ofList
  rw [List.foldl_append]
  rfl

/-- Binding distinct entries in turn stores them as they are listed. -/
theorem entries_ofList (entries : List (K × V)) (distinct : (entries.map Prod.fst).Nodup) :
    (ofList entries).entries = entries := by
  induction entries using List.reverseRec with
  | nil => rfl
  | append_singleton front last ih =>
      rw [List.map_append, List.nodup_append] at distinct
      have earlier := ih distinct.1
      have absent : (ofList front).get? last.1 = none := by
        rw [get?_eq_none_iff, keys, earlier]
        intro member
        exact distinct.2.2 last.1 member last.1 (by simp) rfl
      rw [ofList_snoc, entries_set_of_absent _ _ absent, earlier]

/-- The same entries, changed one by one, fill a dictionary in the same way. -/
theorem ofList_map (entries : List (K × V)) (change : V -> W) :
    ofList (entries.map (fun entry => (entry.1, change entry.2))) =
      (ofList entries).mapValues (fun _ value => change value) := by
  induction entries using List.reverseRec with
  | nil => rfl
  | append_singleton front last ih =>
      rw [List.map_append, List.map_singleton, ofList_snoc, ofList_snoc, mapValues_set, ih]

@[simp] theorem ofList_entries (dict : Dict K V) : ofList dict.entries = dict :=
  Dict.ext (entries_ofList dict.entries dict.distinct)

/-! ## Parts of a dictionary -/

theorem get?_restrict (dict : Dict K V) (selects : K -> Bool) (key : K) :
    (dict.restrict selects).get? key = if selects key = true then dict.get? key else none := by
  change lookup key (dict.entries.filter _) = if selects key = true then lookup key dict.entries else none
  induction dict.entries with
  | nil => simp [lookup]
  | cons head tail ih =>
      by_cases kept : selects head.1 = true
      · rw [List.filter_cons, if_pos kept, lookup, lookup, ih]
        by_cases same : head.1 = key
        · rw [if_pos same, if_pos same, if_pos (same ▸ kept)]
        · rw [if_neg same, if_neg same]
      · rw [List.filter_cons, if_neg kept, ih, lookup]
        by_cases same : head.1 = key
        · rw [if_neg (same ▸ kept), if_neg (same ▸ kept)]
        · rw [if_neg same]

theorem filter_setEntries (selects : K -> Bool) {key : K} (value : V) (entries : List (K × V))
    (outside : selects key = false) :
    (setEntries key value entries).filter (fun entry => selects entry.1) =
      entries.filter (fun entry => selects entry.1) := by
  induction entries with
  | nil => simp [setEntries, outside]
  | cons head tail ih =>
      rw [setEntries]
      by_cases same : head.1 = key
      · rw [if_pos same, List.filter_cons_of_neg (by simp [outside]),
          List.filter_cons_of_neg (by simp [same, outside])]
      · rw [if_neg same, List.filter_cons, List.filter_cons, ih]

/-- An assignment outside the selected keys does not show in their part. -/
theorem restrict_set (dict : Dict K V) {selects : K -> Bool} {key : K} (value : V)
    (outside : selects key = false) : (dict.set key value).restrict selects = dict.restrict selects :=
  Dict.ext (filter_setEntries selects value dict.entries outside)

theorem restrict_erase (dict : Dict K V) {selects : K -> Bool} {key : K}
    (outside : selects key = false) : (dict.erase key).restrict selects = dict.restrict selects := by
  apply Dict.ext
  change (dict.entries.filter _).filter _ = dict.entries.filter _
  rw [List.filter_filter]
  refine List.filter_congr (fun entry _ => ?_)
  by_cases same : entry.1 = key
  · simp [same, outside]
  · simp [same]

/-- An assignment between values that a condition does not select changes no selected value. -/
theorem filter_values_set (dict : Dict K V) {key : K} {value : V} {selects : V -> Bool}
    (new : selects value = false) (old : forall held, dict.get? key = some held -> selects held = false) :
    (dict.set key value).values.filter selects = dict.values.filter selects := by
  change ((setEntries key value dict.entries).map Prod.snd).filter selects =
    (dict.entries.map Prod.snd).filter selects
  have old' : forall held, lookup key dict.entries = some held -> selects held = false := old
  generalize dict.entries = entries at old'
  induction entries with
  | nil => simp [setEntries, new]
  | cons head tail ih =>
      rw [setEntries]
      by_cases same : head.1 = key
      · rw [if_pos same, List.map_cons, List.map_cons]
        have unselected := old' head.2 (by rw [lookup, if_pos same])
        simp [new, unselected]
      · rw [if_neg same, List.map_cons, List.map_cons, List.filter_cons, List.filter_cons, ih]
        intro held found
        exact old' held (by rw [lookup, if_neg same]; exact found)

/-! ## Properties of all values -/

/-- Every value has a property under its key. It is stated on lookups, so that the order of
the entries does not matter. -/
def All (property : K -> V -> Prop) (dict : Dict K V) : Prop :=
  forall key value, dict.get? key = some value -> property key value

theorem All.empty (property : K -> V -> Prop) : (Dict.empty : Dict K V).All property := by
  intro key value absent
  cases absent

theorem All.set {property : K -> V -> Prop} {dict : Dict K V} (all : dict.All property) {key : K}
    {value : V} (new : property key value) : (dict.set key value).All property := by
  intro other held found
  rw [get?_set] at found
  split at found
  · rename_i same
    cases found
    exact same ▸ new
  · exact all other held found

theorem All.ofList {property : K -> V -> Prop} (entries : List (K × V))
    (all : forall entry, entry ∈ entries -> property entry.1 entry.2) : (ofList entries).All property := by
  induction entries using List.reverseRec with
  | nil => exact .empty property
  | append_singleton front last ih =>
      rw [ofList_snoc]
      refine All.set (ih ?_) (all last (List.mem_append_right _ List.mem_cons_self))
      intro entry member
      exact all entry (List.mem_append_left _ member)

/-! ## Entries that are written once -/

/-- At most one entry is added, and no other changes. It is what an append-only table does in
one step. -/
inductive Adds (added : K -> V -> Prop) (dict : Dict K V) : Dict K V -> Prop
  | nothing : Adds added dict dict
  | entry (key : K) (value : V) (unused : dict.get? key = none) (new : added key value) :
      Adds added dict (dict.set key value)

section Adding

variable {added : K -> V -> Prop} {dict after : Dict K V} {key : K} {value : V}

theorem Adds.kept (adds : Adds added dict after) (held : dict.get? key = some value) :
    after.get? key = some value := by
  cases adds with
  | nothing => exact held
  | entry other fresh unused new =>
      refine (get?_set_of_ne _ _ ?_).trans held
      rintro rfl
      rw [unused] at held
      cases held

theorem Adds.origin (adds : Adds added dict after) (held : after.get? key = some value) :
    dict.get? key = some value ∨ added key value := by
  cases adds with
  | nothing => exact Or.inl held
  | entry other fresh unused new =>
      rw [get?_set] at held
      split at held
      · rename_i same
        cases held
        exact Or.inr (same ▸ new)
      · exact Or.inl held

end Adding

end Keyed

end Dict

end Foundation
end RealityLayer
