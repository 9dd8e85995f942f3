import RealityLayer.RealityGit.Canonical

namespace RealityLayer
namespace RealityGit

open Foundation Python

/-!
# What can be hashed

`hash_json` refuses a value for one of two reasons.  Neither depends on the order of
keys, so the values it accepts have a description by recursion: every float is finite,
and every text that `dumps` writes can be encoded.  Later arguments compare what two
services can hash through this description and never look at a serialized text.
-/

/-! ## Encodable values -/

section Encodable

variable (rt : Runtime)

mutual

/-- Every text inside the value can be encoded. Keys and the printed floats are texts of the
document like any other. -/
def encodableJson : Json -> Bool
  | .str text => text.encodable
  | .float value => (rt.floatRepr value).encodable
  | .list items => encodableItems items
  | .dict entries => encodableEntries entries
  | .null => true
  | .bool _ => true
  | .int _ => true

def encodableItems : List Json -> Bool
  | [] => true
  | item :: rest => encodableJson item && encodableItems rest

def encodableEntries : List (Text × Json) -> Bool
  | [] => true
  | (key, value) :: rest => (key.encodable && encodableJson value) && encodableEntries rest

end

end Encodable

section Acceptance

variable {rt : Runtime}

theorem encodableItems_eq_all (items : List Json) :
    encodableItems rt items = items.all (encodableJson rt) := by
  induction items with
  | nil => rw [encodableItems, List.all_nil]
  | cons item rest ih => rw [encodableItems, List.all_cons, ih]

theorem encodableEntries_eq_all (entries : List (Text × Json)) :
    encodableEntries rt entries =
      entries.all (fun entry => entry.1.encodable && encodableJson rt entry.2) := by
  induction entries with
  | nil => rw [encodableEntries, List.all_nil]
  | cons entry rest ih => rw [encodableEntries, List.all_cons, ih]

theorem encodableItems_str (texts : List Text) :
    encodableItems rt (texts.map Json.str) = texts.all Text.encodable := by
  rw [encodableItems_eq_all, List.all_map]
  refine List.all_congr rfl (fun text => ?_)
  rw [Function.comp_apply, encodableJson]

@[simp] theorem encodableJson_ofText? (text : Option Text) :
    encodableJson rt (.ofText? text) = text.all Text.encodable := by
  cases text with
  | none => rw [Json.ofText?, encodableJson, Option.all_none]
  | some text => rw [Json.ofText?, encodableJson, Option.all_some]

/-! ## The text that is written -/

theorem hexDigit_scalar (digit : Nat) (small : digit < 16) : Text.scalar (hexDigit digit) = true := by
  unfold Text.scalar hexDigit
  rw [Bool.or_eq_true]
  refine Or.inl (decide_eq_true ?_)
  split
  · omega
  · omega

/-- An escape is written in ASCII, so it is encodable when the character is. -/
theorem escapeCode_scalar (code : Nat) : (escapeCode code).all Text.scalar = Text.scalar code := by
  unfold escapeCode
  split_ifs with quote backslash newline carriage tab backspace feed control
  · rw [quote]; rfl
  · rw [backslash]; rfl
  · rw [newline]; rfl
  · rw [carriage]; rfl
  · rw [tab]; rfl
  · rw [backspace]; rfl
  · rw [feed]; rfl
  · have high := hexDigit_scalar (code / 16) (by omega)
    have low := hexDigit_scalar (code % 16) (by omega)
    have plain : Text.scalar code = true := by
      unfold Text.scalar
      rw [Bool.or_eq_true]
      exact Or.inl (decide_eq_true (by omega))
    simp only [List.all_cons, List.all_nil, high, low, plain]
    rfl
  · rw [List.all_cons, List.all_nil, Bool.and_true]

theorem quoted_scalar (text : Text) : (quoted text).all Text.scalar = text.encodable := by
  have inner : (text.codes.flatMap escapeCode).all Text.scalar = text.encodable := by
    rw [List.all_flatMap, Text.encodable]
    exact List.all_congr rfl escapeCode_scalar
  unfold quoted
  rw [List.all_cons, List.all_append, inner]
  change (true && (text.encodable && true)) = text.encodable
  rw [Bool.true_and, Bool.and_true]

theorem numeral_scalar {codes : List Nat} (numerals : codes.all numeral = true) :
    codes.all Text.scalar = true := by
  rw [List.all_eq_true] at numerals ⊢
  intro code member
  have range := numerals code member
  simp only [numeral, Bool.or_eq_true, Bool.and_eq_true, decide_eq_true_eq] at range
  unfold Text.scalar
  rw [Bool.or_eq_true]
  exact Or.inl (decide_eq_true (by omega))

mutual

/-- The written text is encodable exactly when every text in the value is. -/
theorem dumps_scalar : (value : Json) -> (dumps rt value).all Text.scalar = encodableJson rt value
  | .null => by rw [dumps, encodableJson]; rfl
  | .bool true => by rw [dumps, encodableJson]; rfl
  | .bool false => by rw [dumps, encodableJson]; rfl
  | .int value => by rw [dumps, encodableJson, numeral_scalar (ofInt_numeral value)]
  | .float value => by rw [dumps, encodableJson, Text.encodable]
  | .str text => by rw [dumps, encodableJson, quoted_scalar]
  | .list items => by
      rw [dumps, encodableJson, List.all_cons, List.all_append, dumpsItems_scalar true items]
      change (true && (encodableItems rt items && true)) = _
      rw [Bool.true_and, Bool.and_true]
  | .dict entries => by
      rw [dumps, encodableJson, List.all_cons, List.all_append, dumpsEntries_scalar true entries]
      change (true && (encodableEntries rt entries && true)) = _
      rw [Bool.true_and, Bool.and_true]

theorem dumpsItems_scalar (start : Bool) : (items : List Json) ->
    (dumpsItems rt start items).all Text.scalar = encodableItems rt items
  | [] => by rw [dumpsItems, encodableItems, List.all_nil]
  | item :: rest => by
      have separator : (if start = true then [] else [44]).all Text.scalar = true := by
        cases start <;> rfl
      rw [dumpsItems, encodableItems, List.all_append, List.all_append, separator,
        dumps_scalar item, dumpsItems_scalar false rest, Bool.true_and]

theorem dumpsEntries_scalar (start : Bool) : (entries : List (Text × Json)) ->
    (dumpsEntries rt start entries).all Text.scalar = encodableEntries rt entries
  | [] => by rw [dumpsEntries, encodableEntries, List.all_nil]
  | (key, value) :: rest => by
      have separator : (if start = true then [] else [44]).all Text.scalar = true := by
        cases start <;> rfl
      have colon : Text.scalar 58 = true := rfl
      rw [dumpsEntries, encodableEntries, List.all_append, List.all_append, List.all_cons,
        List.all_append, separator, colon, quoted_scalar, dumps_scalar value,
        dumpsEntries_scalar false rest, Bool.true_and, Bool.true_and, Bool.and_assoc]

end

mutual

/-- Sorting keys changes no text. -/
theorem encodableJson_sortKeys : (value : Json) ->
    encodableJson rt (sortKeys value) = encodableJson rt value
  | .null => by rw [sortKeys]
  | .bool _ => by rw [sortKeys]
  | .int _ => by rw [sortKeys]
  | .float _ => by rw [sortKeys]
  | .str _ => by rw [sortKeys]
  | .list items => by
      rw [sortKeys, encodableJson, encodableJson, encodableItems_sortKeys items]
  | .dict entries => by
      rw [sortKeys, encodableJson, encodableJson, encodableEntries_eq_all,
        (List.perm_insertionSort keyLe _).all_eq, ← encodableEntries_eq_all,
        encodableEntries_sortKeys entries]

theorem encodableItems_sortKeys : (items : List Json) ->
    encodableItems rt (sortKeysList items) = encodableItems rt items
  | [] => by rw [sortKeysList]
  | item :: rest => by
      rw [sortKeysList, encodableItems, encodableItems, encodableJson_sortKeys item,
        encodableItems_sortKeys rest]

theorem encodableEntries_sortKeys : (entries : List (Text × Json)) ->
    encodableEntries rt (sortKeysEntries entries) = encodableEntries rt entries
  | [] => by rw [sortKeysEntries]
  | (key, value) :: rest => by
      rw [sortKeysEntries, encodableEntries, encodableEntries, encodableJson_sortKeys value,
        encodableEntries_sortKeys rest]

end

/-! ## Refused floats -/

mutual

theorem finite_of_canonicalize : (value : Json) -> {sorted : Json} ->
    canonicalize value = .ok sorted -> value.finite = true
  | .float value, _, accepted => by
      rw [canonicalize] at accepted
      rw [Json.finite]
      by_contra infinite
      rw [if_neg infinite] at accepted
      cases accepted
  | .list items, _, accepted => by
      rw [canonicalize] at accepted
      rw [Json.finite]
      cases done : canonicalizeList items with
      | error cause =>
          rw [done] at accepted
          cases accepted
      | ok sorted => exact finiteList_of_canonicalize items done
  | .dict entries, _, accepted => by
      rw [canonicalize] at accepted
      rw [Json.finite]
      cases done : canonicalizeEntries entries with
      | error cause =>
          rw [done] at accepted
          cases accepted
      | ok sorted => exact finiteEntries_of_canonicalize entries done
  | .null, _, _ => by rw [Json.finite]
  | .bool _, _, _ => by rw [Json.finite]
  | .int _, _, _ => by rw [Json.finite]
  | .str _, _, _ => by rw [Json.finite]

theorem finiteList_of_canonicalize : (items : List Json) -> {sorted : List Json} ->
    canonicalizeList items = .ok sorted -> Json.finiteList items = true
  | [], _, _ => by rw [Json.finiteList]
  | item :: rest, _, accepted => by
      rw [canonicalizeList] at accepted
      rw [Json.finiteList, Bool.and_eq_true]
      cases first : canonicalize item with
      | error cause =>
          rw [first] at accepted
          cases accepted
      | ok done =>
          cases others : canonicalizeList rest with
          | error cause =>
              rw [first, others] at accepted
              cases accepted
          | ok sorted =>
              exact ⟨finite_of_canonicalize item first, finiteList_of_canonicalize rest others⟩

theorem finiteEntries_of_canonicalize : (entries : List (Text × Json)) ->
    {sorted : List (Text × Json)} -> canonicalizeEntries entries = .ok sorted ->
    Json.finiteEntries entries = true
  | [], _, _ => by rw [Json.finiteEntries]
  | (key, value) :: rest, _, accepted => by
      rw [canonicalizeEntries] at accepted
      rw [Json.finiteEntries, Bool.and_eq_true]
      cases first : canonicalize value with
      | error cause =>
          rw [first] at accepted
          cases accepted
      | ok done =>
          cases others : canonicalizeEntries rest with
          | error cause =>
              rw [first, others] at accepted
              cases accepted
          | ok sorted =>
              exact ⟨finite_of_canonicalize value first, finiteEntries_of_canonicalize rest others⟩

end

/-! ## Accepted values -/

/-- No float is refused and every text can be encoded. No depth is refused here: the limit is
one of pydantic, not of the hash. -/
def hashable (rt : Runtime) (value : Json) : Bool := value.finite && encodableJson rt value

/-- `hash_json` returns exactly for the hashable values, the hash of their text. The
condition can be read off the value, without writing it. -/
theorem hashJson_ok_iff (value : Json) (hash : Text) :
    hashJson rt value = .ok hash <->
      hashable rt value = true ∧ hash = "sha256:" ++ rt.sha256 ⟨dumps rt (sortKeys value)⟩ := by
  unfold hashJson canonicalJson hashable
  rw [Bool.and_eq_true]
  cases sorting : canonicalize value with
  | error cause =>
      constructor
      · intro hashed
        cases hashed
      · rintro ⟨⟨finite, _⟩, _⟩
        rw [canonicalize_of_finite value finite] at sorting
        cases sorting
  | ok sorted =>
      have finite := finite_of_canonicalize value sorting
      rw [canonicalize_of_finite value finite] at sorting
      cases sorting
      have written : Text.encodable ⟨dumps rt (sortKeys value)⟩ = encodableJson rt value := by
        rw [← encodableJson_sortKeys value, ← dumps_scalar]
        rfl
      dsimp only [Except.map]
      rw [written]
      by_cases clean : encodableJson rt value = true
      · rw [if_pos clean, Except.ok.injEq]
        exact ⟨fun same => ⟨⟨finite, clean⟩, same.symm⟩, fun accepted => accepted.2.symm⟩
      · rw [if_neg clean]
        constructor
        · intro hashed
          cases hashed
        · rintro ⟨⟨_, encodable⟩, _⟩
          exact absurd encodable clean

theorem hashJson_ok_of_hashable {value : Json} (accepted : hashable rt value = true) :
    Exists fun hash : Text => hashJson rt value = .ok hash :=
  ⟨_, (hashJson_ok_iff value _).mpr ⟨accepted, rfl⟩⟩

end Acceptance

end RealityGit
end RealityLayer
