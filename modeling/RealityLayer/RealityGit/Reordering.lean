import RealityLayer.RealityGit.Hashing

namespace RealityLayer
namespace RealityGit

open Python

/-!
# JSON values up to the order of keys

Two JSON values are the same content when one becomes the other by permuting the
entries of objects, at any depth.  `Reordered` says this as the congruence
generated by permutations, without mention of a canonical form.

The canonicalization picks one representative of each class: it permutes the
entries of every object, and it takes values of one class to the same result.
Both facts need no more than that each object has distinct keys.  `sortKeys` is
what the canonicalization returns when it does not refuse a float.
-/

/-- One value becomes the other by permuting entries of objects inside it, at any depth.
Lists keep their order: the canonical text of a list depends on it. -/
inductive Reordered : Json -> Json -> Prop
  | same (value : Json) : Reordered value value
  | trans {first second third : Json} (left : Reordered first second)
      (right : Reordered second third) : Reordered first third
  | permuted {firsts seconds : List (Text × Json)} (perm : List.Perm firsts seconds) :
      Reordered (.dict firsts) (.dict seconds)
  | item (front back : List Json) {first second : Json} (inner : Reordered first second) :
      Reordered (.list (front ++ first :: back)) (.list (front ++ second :: back))
  | value (front back : List (Text × Json)) (key : Text) {first second : Json}
      (inner : Reordered first second) :
      Reordered (.dict (front ++ (key, first) :: back)) (.dict (front ++ (key, second) :: back))

theorem Reordered.symm {first second : Json} (related : Reordered first second) :
    Reordered second first := by
  induction related with
  | same value => exact .same value
  | trans _ _ left right => exact .trans right left
  | permuted perm => exact .permuted perm.symm
  | item front back _ inner => exact .item front back inner
  | value front back key _ inner => exact .value front back key inner

/-! ## Well-formed values -/

mutual

/-- Every object in the value has distinct keys. All objects that come from Python
dictionaries do. -/
def keyed : Json -> Bool
  | .list items => keyedList items
  | .dict entries => decide (entries.map Prod.fst).Nodup && keyedEntries entries
  | .null => true
  | .bool _ => true
  | .int _ => true
  | .float _ => true
  | .str _ => true

def keyedList : List Json -> Bool
  | [] => true
  | item :: rest => keyed item && keyedList rest

def keyedEntries : List (Text × Json) -> Bool
  | [] => true
  | (_, value) :: rest => keyed value && keyedEntries rest

end

mutual

/-- No float occurs in the value. -/
def floatless : Json -> Bool
  | .float _ => false
  | .list items => floatlessList items
  | .dict entries => floatlessEntries entries
  | .null => true
  | .bool _ => true
  | .int _ => true
  | .str _ => true

def floatlessList : List Json -> Bool
  | [] => true
  | item :: rest => floatless item && floatlessList rest

def floatlessEntries : List (Text × Json) -> Bool
  | [] => true
  | (_, value) :: rest => floatless value && floatlessEntries rest

end

theorem keyedList_eq_all (items : List Json) : keyedList items = items.all keyed := by
  induction items with
  | nil => rw [keyedList, List.all_nil]
  | cons item rest ih => rw [keyedList, List.all_cons, ih]

theorem keyedEntries_eq_all (entries : List (Text × Json)) :
    keyedEntries entries = entries.all (fun entry => keyed entry.2) := by
  induction entries with
  | nil => rw [keyedEntries, List.all_nil]
  | cons entry rest ih => rw [keyedEntries, List.all_cons, ih]

/-! ## The value the canonicalization returns -/

mutual

/-- Sort the keys of every object. Where no float is refused, this is all that the canonical
form does. -/
def sortKeys : Json -> Json
  | .dict entries => .dict ((sortKeysEntries entries).insertionSort keyLe)
  | .list items => .list (sortKeysList items)
  | .null => .null
  | .bool value => .bool value
  | .int value => .int value
  | .float value => .float value
  | .str text => .str text

def sortKeysList : List Json -> List Json
  | [] => []
  | item :: rest => sortKeys item :: sortKeysList rest

def sortKeysEntries : List (Text × Json) -> List (Text × Json)
  | [] => []
  | (key, value) :: rest => (key, sortKeys value) :: sortKeysEntries rest

end

theorem sortKeysList_eq_map (items : List Json) : sortKeysList items = items.map sortKeys := by
  induction items with
  | nil => rw [sortKeysList, List.map_nil]
  | cons item rest ih => rw [sortKeysList, List.map_cons, ih]

theorem sortKeysEntries_eq_map (entries : List (Text × Json)) :
    sortKeysEntries entries = entries.map (fun entry => (entry.1, sortKeys entry.2)) := by
  induction entries with
  | nil => rw [sortKeysEntries, List.map_nil]
  | cons entry rest ih => rw [sortKeysEntries, List.map_cons, ih]

mutual

theorem canonicalize_of_finite : (value : Json) -> value.finite = true ->
    canonicalize value = .ok (sortKeys value)
  | .float value, finite => by
      rw [Json.finite] at finite
      rw [canonicalize, if_pos finite, sortKeys]
  | .list items, finite => by
      rw [canonicalize, canonicalizeList_of_finite items finite, sortKeys]
      rfl
  | .dict entries, finite => by
      rw [canonicalize, canonicalizeEntries_of_finite entries finite, sortKeys]
      rfl
  | .null, _ => by rw [canonicalize, sortKeys]
  | .bool _, _ => by rw [canonicalize, sortKeys]
  | .int _, _ => by rw [canonicalize, sortKeys]
  | .str _, _ => by rw [canonicalize, sortKeys]

theorem canonicalizeList_of_finite : (items : List Json) -> Json.finiteList items = true ->
    canonicalizeList items = .ok (sortKeysList items)
  | [], _ => by rw [canonicalizeList, sortKeysList]
  | item :: rest, finite => by
      rw [Json.finiteList, Bool.and_eq_true] at finite
      rw [canonicalizeList, canonicalize_of_finite item finite.1]
      dsimp only
      rw [canonicalizeList_of_finite rest finite.2, sortKeysList]
      rfl

theorem canonicalizeEntries_of_finite : (entries : List (Text × Json)) ->
    Json.finiteEntries entries = true -> canonicalizeEntries entries = .ok (sortKeysEntries entries)
  | [], _ => by rw [canonicalizeEntries, sortKeysEntries]
  | (key, value) :: rest, finite => by
      rw [Json.finiteEntries, Bool.and_eq_true] at finite
      rw [canonicalizeEntries, canonicalize_of_finite value finite.1]
      dsimp only
      rw [canonicalizeEntries_of_finite rest finite.2, sortKeysEntries]
      rfl

end

mutual

/-- Without floats there is none to refuse. -/
theorem finite_of_floatless : (value : Json) -> floatless value = true -> value.finite = true
  | .float value, plain => by rw [floatless] at plain; cases plain
  | .list items, plain => by
      rw [floatless] at plain
      rw [Json.finite]
      exact finiteList_of_floatless items plain
  | .dict entries, plain => by
      rw [floatless] at plain
      rw [Json.finite]
      exact finiteEntries_of_floatless entries plain
  | .null, _ => by rw [Json.finite]
  | .bool _, _ => by rw [Json.finite]
  | .int _, _ => by rw [Json.finite]
  | .str _, _ => by rw [Json.finite]

theorem finiteList_of_floatless : (items : List Json) -> floatlessList items = true ->
    Json.finiteList items = true
  | [], _ => by rw [Json.finiteList]
  | item :: rest, plain => by
      rw [floatlessList, Bool.and_eq_true] at plain
      rw [Json.finiteList, Bool.and_eq_true]
      exact ⟨finite_of_floatless item plain.1, finiteList_of_floatless rest plain.2⟩

theorem finiteEntries_of_floatless : (entries : List (Text × Json)) ->
    floatlessEntries entries = true -> Json.finiteEntries entries = true
  | [], _ => by rw [Json.finiteEntries]
  | (_, value) :: rest, plain => by
      rw [floatlessEntries, Bool.and_eq_true] at plain
      rw [Json.finiteEntries, Bool.and_eq_true]
      exact ⟨finite_of_floatless value plain.1, finiteEntries_of_floatless rest plain.2⟩

end

theorem floatlessEntries_eq_all (entries : List (Text × Json)) :
    floatlessEntries entries = entries.all (fun entry => floatless entry.2) := by
  induction entries with
  | nil => rw [floatlessEntries, List.all_nil]
  | cons entry rest ih => rw [floatlessEntries, List.all_cons, ih]

mutual

/-- Sorting adds no float. -/
theorem floatless_sortKeys : (value : Json) -> floatless value = true ->
    floatless (sortKeys value) = true
  | .float value, plain => by rw [floatless] at plain; cases plain
  | .list items, plain => by
      rw [floatless] at plain
      rw [sortKeys, floatless]
      exact floatless_sortKeysList items plain
  | .dict entries, plain => by
      rw [floatless] at plain
      rw [sortKeys, floatless, floatlessEntries_eq_all, (List.perm_insertionSort keyLe _).all_eq,
        ← floatlessEntries_eq_all]
      exact floatless_sortKeysEntries entries plain
  | .null, _ => by rw [sortKeys, floatless]
  | .bool _, _ => by rw [sortKeys, floatless]
  | .int _, _ => by rw [sortKeys, floatless]
  | .str _, _ => by rw [sortKeys, floatless]

theorem floatless_sortKeysList : (items : List Json) -> floatlessList items = true ->
    floatlessList (sortKeysList items) = true
  | [], _ => by rw [sortKeysList, floatlessList]
  | item :: rest, plain => by
      rw [floatlessList, Bool.and_eq_true] at plain
      rw [sortKeysList, floatlessList, Bool.and_eq_true]
      exact ⟨floatless_sortKeys item plain.1, floatless_sortKeysList rest plain.2⟩

theorem floatless_sortKeysEntries : (entries : List (Text × Json)) ->
    floatlessEntries entries = true -> floatlessEntries (sortKeysEntries entries) = true
  | [], _ => by rw [sortKeysEntries, floatlessEntries]
  | (_, value) :: rest, plain => by
      rw [floatlessEntries, Bool.and_eq_true] at plain
      rw [sortKeysEntries, floatlessEntries, Bool.and_eq_true]
      exact ⟨floatless_sortKeys value plain.1, floatless_sortKeysEntries rest plain.2⟩

end

/-! ## Sorting chooses one representative -/

theorem codes_injective : Function.Injective Text.codes := by
  rintro ⟨firsts⟩ ⟨seconds⟩ same
  exact congrArg Text.mk same

instance : Std.Total keyLe where
  total first second := by
    simp only [keyLe, Text.le, decide_eq_true_eq]
    exact le_total first.1.codes second.1.codes

instance : IsTrans (Text × Json) keyLe where
  trans first second third := by
    simp only [keyLe, Text.le, decide_eq_true_eq]
    exact le_trans

/-- Lists of entries with distinct keys that are permutations of each other have
the same sorted form. -/
theorem insertionSort_of_perm {firsts seconds : List (Text × Json)} (perm : List.Perm firsts seconds)
    (distinct : (firsts.map Prod.fst).Nodup) :
    firsts.insertionSort keyLe = seconds.insertionSort keyLe := by
  refine List.Perm.eq_of_pairwise ?_ (List.pairwise_insertionSort keyLe firsts)
    (List.pairwise_insertionSort keyLe seconds) ?_
  · intro first second member other below above
    have firstMember := (List.mem_insertionSort keyLe).mp member
    have secondMember := perm.mem_iff.mpr ((List.mem_insertionSort keyLe).mp other)
    apply List.inj_on_of_nodup_map distinct firstMember secondMember
    simp only [keyLe, Text.le, decide_eq_true_eq] at below above
    exact codes_injective (le_antisymm below above)
  · exact (List.perm_insertionSort keyLe firsts).trans
      (perm.trans (List.perm_insertionSort keyLe seconds).symm)

/-- Values of one class are sorted to the same value. -/
theorem Reordered.sortKeys_eq {first second : Json} (related : Reordered first second)
    (distinct : keyed first = true) : sortKeys first = sortKeys second ∧ keyed second = true := by
  induction related with
  | same value => exact ⟨rfl, distinct⟩
  | trans _ _ left right =>
      rcases left distinct with ⟨equal, middle⟩
      rcases right middle with ⟨equal', last⟩
      exact ⟨equal.trans equal', last⟩
  | permuted perm =>
      rw [keyed, Bool.and_eq_true, decide_eq_true_eq, keyedEntries_eq_all] at distinct
      rcases distinct with ⟨nodup, values⟩
      constructor
      · rw [sortKeys, sortKeys, sortKeysEntries_eq_map, sortKeysEntries_eq_map]
        refine congrArg Json.dict (insertionSort_of_perm (perm.map _) ?_)
        rw [List.map_map]
        exact nodup
      · rw [keyed, Bool.and_eq_true, decide_eq_true_eq, keyedEntries_eq_all, ← perm.all_eq]
        exact ⟨(perm.map Prod.fst).nodup_iff.mp nodup, values⟩
  | item front back _ inner =>
      rw [keyed, keyedList_eq_all, List.all_append, List.all_cons, Bool.and_eq_true,
        Bool.and_eq_true] at distinct ⊢
      rcases inner distinct.2.1 with ⟨equal, kept⟩
      refine ⟨?_, distinct.1, kept, distinct.2.2⟩
      rw [sortKeys, sortKeys, sortKeysList_eq_map, sortKeysList_eq_map, List.map_append,
        List.map_append, List.map_cons, List.map_cons, equal]
  | value front back key _ inner =>
      rw [keyed, keyedEntries_eq_all, List.all_append, List.all_cons, Bool.and_eq_true,
        Bool.and_eq_true, Bool.and_eq_true, List.map_append, List.map_cons] at distinct ⊢
      rcases inner distinct.2.2.1 with ⟨equal, kept⟩
      refine ⟨?_, distinct.1, distinct.2.1, kept, distinct.2.2.2⟩
      rw [sortKeys, sortKeys, sortKeysEntries_eq_map, sortKeysEntries_eq_map, List.map_append,
        List.map_append, List.map_cons, List.map_cons, equal]

/-! ## Every value is a reordering of its sorted form -/

mutual

theorem reordered_sortKeys : (value : Json) -> Reordered value (sortKeys value)
  | .dict entries => by
      rw [sortKeys]
      exact .trans (reordered_sortKeysEntries [] entries)
        (.permuted (List.perm_insertionSort keyLe _).symm)
  | .list items => by
      rw [sortKeys]
      exact reordered_sortKeysList [] items
  | .null => by rw [sortKeys]; exact .same _
  | .bool _ => by rw [sortKeys]; exact .same _
  | .int _ => by rw [sortKeys]; exact .same _
  | .float _ => by rw [sortKeys]; exact .same _
  | .str _ => by rw [sortKeys]; exact .same _

theorem reordered_sortKeysList : (front items : List Json) ->
    Reordered (.list (front ++ items)) (.list (front ++ sortKeysList items))
  | front, [] => by rw [sortKeysList]; exact .same _
  | front, item :: rest => by
      have later := reordered_sortKeysList (front ++ [sortKeys item]) rest
      rw [List.append_assoc, List.append_assoc] at later
      rw [sortKeysList]
      exact .trans (.item front rest (reordered_sortKeys item)) later

theorem reordered_sortKeysEntries : (front entries : List (Text × Json)) ->
    Reordered (.dict (front ++ entries)) (.dict (front ++ sortKeysEntries entries))
  | front, [] => by rw [sortKeysEntries]; exact .same _
  | front, (key, value) :: rest => by
      have later := reordered_sortKeysEntries (front ++ [(key, sortKeys value)]) rest
      rw [List.append_assoc, List.append_assoc] at later
      rw [sortKeysEntries]
      exact .trans (.value front rest key (reordered_sortKeys value)) later

end

/-- The sorted form decides whether two values are the same content. -/
theorem sortKeys_eq_iff {first second : Json} (distinct : keyed first = true) :
    sortKeys first = sortKeys second <-> Reordered first second := by
  constructor
  · intro equal
    have back := (reordered_sortKeys second).symm
    rw [← equal] at back
    exact .trans (reordered_sortKeys first) back
  · intro related
    exact (related.sortKeys_eq distinct).1

end RealityGit
end RealityLayer
