import RealityLayer.RealityGit.Reordering

namespace RealityLayer
namespace RealityGit

open Foundation Python Json

/-!
# Values that equal themselves

Python's `==` is not reflexive on JSON values: a NaN differs from itself.  The diff of World
State compares dumped values, and the JSON mode of a value has no NaN.  So a dumped value
equals itself as soon as its objects have distinct keys, and a difference that the diff
reports is a difference of the values.
-/

/-! ## The JSON mode of a value -/

mutual

theorem finite_jsonMode : (value : Json) -> value.jsonMode.finite = true
  | .float value => by
      rw [jsonMode]
      by_cases finite : value.finite = true
      · rw [if_pos finite, Json.finite]
        exact finite
      · rw [if_neg finite, Json.finite]
  | .list items => by
      rw [jsonMode, Json.finite]
      exact finiteList_jsonMode items
  | .dict entries => by
      rw [jsonMode, Json.finite]
      exact finiteEntries_jsonMode entries
  | .null => by rw [jsonMode, Json.finite]
  | .bool _ => by rw [jsonMode, Json.finite]
  | .int _ => by rw [jsonMode, Json.finite]
  | .str _ => by rw [jsonMode, Json.finite]

theorem finiteList_jsonMode : (items : List Json) -> finiteList (jsonModeList items) = true
  | [] => by rw [jsonModeList, finiteList]
  | item :: rest => by
      rw [jsonModeList, finiteList, finite_jsonMode item, finiteList_jsonMode rest, Bool.and_self]

theorem finiteEntries_jsonMode : (entries : List (Text × Json)) ->
    finiteEntries (jsonModeEntries entries) = true
  | [] => by rw [jsonModeEntries, finiteEntries]
  | (key, value) :: rest => by
      rw [jsonModeEntries, finiteEntries, finite_jsonMode value, finiteEntries_jsonMode rest,
        Bool.and_self]

end

mutual

theorem keyed_jsonMode : (value : Json) -> keyed value.jsonMode = keyed value
  | .float value => by
      rw [jsonMode]
      split
      · rfl
      · rfl
  | .list items => by
      rw [jsonMode, keyed, keyed]
      exact keyedList_jsonMode items
  | .dict entries => by
      rw [jsonMode, keyed, keyed, keys_jsonModeEntries, keyedEntries_jsonMode entries]
  | .null => by rw [jsonMode]
  | .bool _ => by rw [jsonMode]
  | .int _ => by rw [jsonMode]
  | .str _ => by rw [jsonMode]

theorem keyedList_jsonMode : (items : List Json) -> keyedList (jsonModeList items) = keyedList items
  | [] => by rw [jsonModeList]
  | item :: rest => by
      rw [jsonModeList, keyedList, keyedList, keyed_jsonMode item, keyedList_jsonMode rest]

theorem keyedEntries_jsonMode : (entries : List (Text × Json)) ->
    keyedEntries (jsonModeEntries entries) = keyedEntries entries
  | [] => by rw [jsonModeEntries]
  | (key, value) :: rest => by
      rw [jsonModeEntries, keyedEntries, keyedEntries, keyed_jsonMode value,
        keyedEntries_jsonMode rest]

end

/-! ## Equality -/

theorem numeric_finite {number : PyFloat} (finite : number.finite = true) : number.numeric ≠ .nan := by
  unfold PyFloat.numeric
  rw [if_pos finite]
  intro same
  cases same

theorem numbersEqual_self {value : Json} {number : Numeric} (holds : value.numeric? = some number)
    (proper : number ≠ .nan) : numbersEqual value value = true :=
  (numbersEqual_iff value value).mpr ⟨number, holds, holds, proper⟩

mutual

/-- A finite value with distinct keys equals itself. -/
theorem pyEq_self : (value : Json) -> value.finite = true -> keyed value = true ->
    value.pyEq value = true
  | .null, _, _ => by
      rw [pyEq]
      rfl
  | .str text, _, _ => (str_pyEq_iff text _).mpr rfl
  | .bool _, _, _ => by
      rw [pyEq]
      apply numbersEqual_self rfl
      intro same
      cases same
  | .int _, _, _ => by
      rw [pyEq]
      apply numbersEqual_self rfl
      intro same
      cases same
  | .float value, finite, _ => by
      rw [Json.finite] at finite
      rw [pyEq]
      exact numbersEqual_self rfl (numeric_finite finite)
  | .list items, finite, distinct => by
      rw [Json.finite] at finite
      rw [keyed] at distinct
      rw [pyEq]
      exact pyEqList_self items finite distinct
  | .dict entries, finite, distinct => by
      rw [Json.finite] at finite
      rw [keyed, Bool.and_eq_true, decide_eq_true_iff] at distinct
      simp only [pyEq, beq_self_eq_true, Bool.true_and]
      exact pyEqEntries_self entries entries
        (fun entry member => Dict.lookup_of_mem distinct.1 member) finite distinct.2

theorem pyEqList_self : (items : List Json) -> finiteList items = true -> keyedList items = true ->
    pyEqList items items = true
  | [], _, _ => by rw [pyEqList]
  | item :: rest, finite, distinct => by
      rw [finiteList, Bool.and_eq_true] at finite
      rw [keyedList, Bool.and_eq_true] at distinct
      rw [pyEqList, pyEq_self item finite.1 distinct.1, pyEqList_self rest finite.2 distinct.2,
        Bool.and_self]

theorem pyEqEntries_self (others : List (Text × Json)) : (entries : List (Text × Json)) ->
    (forall entry, entry ∈ entries -> Dict.lookup entry.1 others = some entry.2) ->
    finiteEntries entries = true -> keyedEntries entries = true -> pyEqEntries entries others = true
  | [], _, _, _ => by rw [pyEqEntries]
  | (key, value) :: rest, bound, finite, distinct => by
      rw [finiteEntries, Bool.and_eq_true] at finite
      rw [keyedEntries, Bool.and_eq_true] at distinct
      have later := fun entry member => bound entry (List.mem_cons_of_mem (key, value) member)
      rw [pyEqEntries, bound (key, value) List.mem_cons_self]
      dsimp only
      rw [pyEq_self value finite.1 distinct.1,
        pyEqEntries_self others rest later finite.2 distinct.2, Bool.and_self]

end

end RealityGit
end RealityLayer
