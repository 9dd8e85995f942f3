import Mathlib.Algebra.Group.Nat.Defs
import Mathlib.Data.Rat.Defs
import RealityLayer.Foundation.Dict
import RealityLayer.Python.Text

namespace RealityLayer
namespace Python

open Foundation

/-!
# JSON values as Python holds them

Payload attributes, proposal parameters and expected attributes are typed `Any`
in the source, and what reaches them is what a JSON body decodes to.  A number
is an `int` or an IEEE double, and doubles include infinities and NaN because
Python's JSON decoder accepts them.  An object is an insertion-ordered list of
entries.  Entries built by the model's own dictionaries have distinct keys.

Python's `==` is not structural equality: `True == 1 == 1.0`, a NaN differs from
itself, and objects are compared without regard to key order.  `pyEq` follows
those rules, and `Json`'s decidable equality remains the structural one.  Python
takes two occurrences of one NaN object inside a container to be equal; the
model compares values and not object identities, so there they differ.
-/

/-! ## Numbers -/

/-- A Python `float`: the 64 bits of an IEEE double. Two NaN with the same bits are one value
here, although Python compares them as different. -/
structure PyFloat where
  bits : BitVec 64
deriving DecidableEq, Repr

/-- What a number compares as. Integers, booleans and finite floats of one value are equal,
whatever their types. -/
inductive Numeric where
  | finite (value : Rat)
  | infinite (negative : Bool)
  | nan
deriving DecidableEq

namespace PyFloat

def negative (number : PyFloat) : Bool := number.bits.toNat / 2 ^ 63 = 1

def exponent (number : PyFloat) : Nat := number.bits.toNat / 2 ^ 52 % 2048

def fraction (number : PyFloat) : Nat := number.bits.toNat % 2 ^ 52

/-- `math.isfinite`. -/
def finite (number : PyFloat) : Bool := number.exponent ≠ 2047

/-- The magnitude of a finite double.  Exponent zero marks the subnormals. -/
def magnitude (number : PyFloat) : Rat :=
  let significand := if number.exponent = 0 then number.fraction else number.fraction + 2 ^ 52
  let scale := if number.exponent = 0 then 1 else number.exponent
  if scale < 1075 then mkRat (Int.ofNat significand) (2 ^ (1075 - scale))
  else mkRat (Int.ofNat (significand * 2 ^ (scale - 1075))) 1

def numeric (number : PyFloat) : Numeric :=
  if number.finite then
    .finite (if number.negative then -number.magnitude else number.magnitude)
  else if number.fraction = 0 then .infinite number.negative
  else .nan

/-- `first > second` on floats. No comparison with a NaN holds, so a NaN neither exceeds a
limit nor is exceeded. -/
def gt (first second : PyFloat) : Bool :=
  match first.numeric, second.numeric with
  | .finite left, .finite right => decide (right < left)
  | .infinite false, .finite _ => true
  | .infinite false, .infinite true => true
  | .finite _, .infinite true => true
  | _, _ => false

/-- `first >= second` on floats. -/
def ge (first second : PyFloat) : Bool :=
  match first.numeric, second.numeric with
  | .finite left, .finite right => decide (right ≤ left)
  | .infinite false, .finite _ => true
  | .infinite false, .infinite _ => true
  | .infinite true, .infinite true => true
  | .finite _, .infinite true => true
  | _, _ => false

/-- The number is between 0 and 1. -/
def inUnit (number : PyFloat) : Bool :=
  match number.numeric with
  | .finite value => decide (0 ≤ value ∧ value ≤ 1)
  | .infinite _ => false
  | .nan => false

end PyFloat

/-- `==` on numbers of either type. -/
def Numeric.equal : Numeric -> Numeric -> Bool
  | .finite first, .finite second => decide (first = second)
  | .infinite first, .infinite second => decide (first = second)
  | _, _ => false

theorem Numeric.equal_iff (first second : Numeric) :
    first.equal second = true <-> first = second ∧ first ≠ .nan := by
  cases first <;> cases second <;> simp [Numeric.equal]

/-! ## Values -/

/-- What Python's `json` reads, with the entries of an object in the order in which they were
written.  Integers have no bound here.  The interpreter neither reads nor prints one of more
than 4300 digits, so a payload that was read from a text has none, and nothing below asks how
long they are. -/
inductive Json where
  | null
  | bool (value : Bool)
  | int (value : Int)
  | float (value : PyFloat)
  | str (value : Text)
  | list (items : List Json)
  | dict (entries : List (Text × Json))
deriving Inhabited

namespace Json

mutual

def decEq : (first second : Json) -> Decidable (first = second)
  | .null, .null => isTrue rfl
  | .bool a, .bool b => decidable_of_iff (a = b) (by simp)
  | .int a, .int b => decidable_of_iff (a = b) (by simp)
  | .float a, .float b => decidable_of_iff (a = b) (by simp)
  | .str a, .str b => decidable_of_iff (a = b) (by simp)
  | .list a, .list b =>
      have := decEqList a b
      decidable_of_iff (a = b) (by simp)
  | .dict a, .dict b =>
      have := decEqEntries a b
      decidable_of_iff (a = b) (by simp)
  | .null, .bool _ | .null, .int _ | .null, .float _ | .null, .str _ | .null, .list _
  | .null, .dict _ | .bool _, .null | .bool _, .int _ | .bool _, .float _ | .bool _, .str _
  | .bool _, .list _ | .bool _, .dict _ | .int _, .null | .int _, .bool _ | .int _, .float _
  | .int _, .str _ | .int _, .list _ | .int _, .dict _ | .float _, .null | .float _, .bool _
  | .float _, .int _ | .float _, .str _ | .float _, .list _ | .float _, .dict _ | .str _, .null
  | .str _, .bool _ | .str _, .int _ | .str _, .float _ | .str _, .list _ | .str _, .dict _
  | .list _, .null | .list _, .bool _ | .list _, .int _ | .list _, .float _ | .list _, .str _
  | .list _, .dict _ | .dict _, .null | .dict _, .bool _ | .dict _, .int _ | .dict _, .float _
  | .dict _, .str _ | .dict _, .list _ => isFalse (by intro same; cases same)

def decEqList : (first second : List Json) -> Decidable (first = second)
  | [], [] => isTrue rfl
  | [], _ :: _ | _ :: _, [] => isFalse (by intro same; cases same)
  | a :: as, b :: bs =>
      have := decEq a b
      have := decEqList as bs
      decidable_of_iff (a = b ∧ as = bs) (by simp)

def decEqEntries : (first second : List (Text × Json)) -> Decidable (first = second)
  | [], [] => isTrue rfl
  | [], _ :: _ | _ :: _, [] => isFalse (by intro same; cases same)
  | (k, a) :: as, (l, b) :: bs =>
      have := decEq a b
      have := decEqEntries as bs
      decidable_of_iff (k = l ∧ a = b ∧ as = bs) (by simp [and_assoc])

end

instance : DecidableEq Json := decEq

def isNull : Json -> Bool
  | .null => true
  | _ => false

/-- Python's truth value. -/
def truthy : Json -> Bool
  | .null => false
  | .bool value => value
  | .int value => value ≠ 0
  | .float value => value.numeric ≠ .finite 0
  | .str text => text.codes ≠ []
  | .list items => !items.isEmpty
  | .dict entries => !entries.isEmpty

/-- `first or second`. -/
def orElse (first second : Json) : Json := if first.truthy then first else second

/-- The number a value compares as; a `bool` is an `int` in Python. Strings and containers
have none. -/
def numeric? : Json -> Option Numeric
  | .bool value => some (.finite (if value then 1 else 0))
  | .int value => some (.finite value)
  | .float value => some value.numeric
  | _ => none

/-- The string a value is, if it is one. -/
def text? : Json -> Option Text
  | .str text => some text
  | _ => none

/-- An optional string field: `None` is written as null. The field is never left out of a dump. -/
def ofText? : Option Text -> Json
  | some text => .str text
  | none => .null

/-- The entries an object has, if the value is one. -/
def entries? : Json -> Option (List (Text × Json))
  | .dict entries => some entries
  | _ => none

/-- The dictionary an object is, if the value is one. -/
def object? (value : Json) : Option (Dict Text Json) := value.entries?.map Dict.ofList

def int? : Json -> Option Int
  | .int value => some value
  | _ => none

def float? : Json -> Option PyFloat
  | .float value => some value
  | _ => none

/-- Read an optional string field back.  Only null and strings are accepted. -/
def optionalText? : Json -> Option (Option Text)
  | .null => some none
  | .str text => some (some text)
  | _ => none

/-- Read a list of strings back. -/
def texts? : Json -> Option (List Text)
  | .list items => items.mapM text?
  | _ => none

@[simp] theorem optionalText?_ofText? (text : Option Text) : (ofText? text).optionalText? = some text := by
  cases text <;> rfl

@[simp] theorem texts?_map_str (texts : List Text) : (Json.list (texts.map .str)).texts? = some texts := by
  unfold texts?
  induction texts with
  | nil => rfl
  | cons text rest ih => simp [List.mapM_cons, text?, ih]

/-! ## Pydantic's JSON mode

`model_dump(mode="json")` keeps a JSON value of an `Any` field as it is, except
that a non-finite float becomes null.  `jsonMode` is the value that is written.  It says
nothing about values that are not written at all: the library raises for one that is
nested too deep, or whose nested keys are not valid Unicode, and whether it does is a
question to the surroundings (`Runtime.dumps`). -/

mutual

def jsonMode : Json -> Json
  | .float value => if value.finite then .float value else .null
  | .list items => .list (jsonModeList items)
  | .dict entries => .dict (jsonModeEntries entries)
  | .null => .null
  | .bool value => .bool value
  | .int value => .int value
  | .str text => .str text

def jsonModeList : List Json -> List Json
  | [] => []
  | item :: rest => jsonMode item :: jsonModeList rest

def jsonModeEntries : List (Text × Json) -> List (Text × Json)
  | [] => []
  | (key, value) :: rest => (key, jsonMode value) :: jsonModeEntries rest

end

theorem keys_jsonModeEntries (entries : List (Text × Json)) :
    (jsonModeEntries entries).map Prod.fst = entries.map Prod.fst := by
  induction entries with
  | nil => rfl
  | cons entry rest ih => rw [jsonModeEntries, List.map_cons, List.map_cons, ih]

/-- A `dict` field of a model in JSON mode.  Its keys are the field's own texts, and a lone
surrogate in one is replaced where a key further inside would stop the dump.  Of two keys
that become equal, the first keeps its place and takes the last value. -/
def jsonModeDict (dict : Dict Text Json) : Dict Text Json :=
  Dict.ofList (dict.entries.map (fun entry => (entry.1.lossy, entry.2.jsonMode)))

@[simp] theorem object?_entries (dict : Dict Text Json) : (Json.dict dict.entries).object? = some dict :=
  congrArg some (Dict.ofList_entries dict)

mutual

/-- No float in the value is infinite or NaN. -/
def finite : Json -> Bool
  | .float value => value.finite
  | .list items => finiteList items
  | .dict entries => finiteEntries entries
  | .null => true
  | .bool _ => true
  | .int _ => true
  | .str _ => true

def finiteList : List Json -> Bool
  | [] => true
  | item :: rest => finite item && finiteList rest

def finiteEntries : List (Text × Json) -> Bool
  | [] => true
  | (_, value) :: rest => finite value && finiteEntries rest

end

theorem finiteList_map_str (texts : List Text) : finiteList (texts.map .str) = true := by
  induction texts with
  | nil => rfl
  | cons text rest ih => rw [List.map_cons, finiteList, finite, ih, Bool.and_self]

theorem finite_ofText? (text : Option Text) : (ofText? text).finite = true := by
  cases text with
  | none => rfl
  | some text => rfl

/-- Neither a list nor an object. -/
def scalar : Json -> Bool
  | .list _ => false
  | .dict _ => false
  | _ => true

mutual

/-- How many levels of values are nested in one another, where a scalar is a level of its
own. It is what pydantic's limit is about. -/
def levels : Json -> Nat
  | .list items => levelsList items + 1
  | .dict entries => levelsEntries entries + 1
  | _ => 1

def levelsList : List Json -> Nat
  | [] => 0
  | item :: rest => max (levels item) (levelsList rest)

def levelsEntries : List (Text × Json) -> Nat
  | [] => 0
  | (_, value) :: rest => max (levels value) (levelsEntries rest)

end

theorem levels_of_scalar {value : Json} (flat : value.scalar = true) : value.levels = 1 := by
  cases value with
  | list items => cases flat
  | dict entries => cases flat
  | null | bool value | int value | float value | str text => rw [levels] <;> exact nofun

mutual

/-- What is written is nested as deep as the value. -/
theorem levels_jsonMode : (value : Json) -> value.jsonMode.levels = value.levels
  | .float value => by
      rw [jsonMode]
      split <;> rfl
  | .list items => by rw [jsonMode, levels, levels, levelsList_jsonMode items]
  | .dict entries => by rw [jsonMode, levels, levels, levelsEntries_jsonMode entries]
  | .null => by rw [jsonMode]
  | .bool _ => by rw [jsonMode]
  | .int _ => by rw [jsonMode]
  | .str _ => by rw [jsonMode]

theorem levelsList_jsonMode : (items : List Json) -> levelsList (jsonModeList items) = levelsList items
  | [] => by rw [jsonModeList]
  | item :: rest => by
      rw [jsonModeList, levelsList, levelsList, levels_jsonMode item, levelsList_jsonMode rest]

theorem levelsEntries_jsonMode : (entries : List (Text × Json)) ->
    levelsEntries (jsonModeEntries entries) = levelsEntries entries
  | [] => by rw [jsonModeEntries]
  | (key, value) :: rest => by
      rw [jsonModeEntries, levelsEntries, levelsEntries, levels_jsonMode value,
        levelsEntries_jsonMode rest]

end

mutual

theorem jsonMode_of_finite : (value : Json) -> value.finite = true -> value.jsonMode = value
  | .float value, finite => by
      rw [Json.finite] at finite
      rw [jsonMode, if_pos finite]
  | .list items, finite => by
      rw [jsonMode, jsonModeList_of_finite items finite]
  | .dict entries, finite => by
      rw [jsonMode, jsonModeEntries_of_finite entries finite]
  | .null, _ => by rw [jsonMode]
  | .bool _, _ => by rw [jsonMode]
  | .int _, _ => by rw [jsonMode]
  | .str _, _ => by rw [jsonMode]

theorem jsonModeList_of_finite : (items : List Json) -> finiteList items = true ->
    jsonModeList items = items
  | [], _ => by rw [jsonModeList]
  | item :: rest, finite => by
      rw [finiteList, Bool.and_eq_true] at finite
      rw [jsonModeList, jsonMode_of_finite item finite.1, jsonModeList_of_finite rest finite.2]

theorem jsonModeEntries_of_finite : (entries : List (Text × Json)) -> finiteEntries entries = true ->
    jsonModeEntries entries = entries
  | [], _ => by rw [jsonModeEntries]
  | (key, value) :: rest, finite => by
      rw [finiteEntries, Bool.and_eq_true] at finite
      rw [jsonModeEntries, jsonMode_of_finite value finite.1,
        jsonModeEntries_of_finite rest finite.2]

end

/-- The keys of a field are valid Unicode, and the numbers in it are finite. A dump changes
nothing in such a field. -/
def unalteredDict (dict : Dict Text Json) : Bool :=
  dict.entries.all (fun entry => entry.1.encodable && entry.2.finite)

theorem jsonModeDict_of_unaltered {dict : Dict Text Json} (same : unalteredDict dict = true) :
    jsonModeDict dict = dict := by
  unfold unalteredDict at same
  rw [List.all_eq_true] at same
  have entries : dict.entries.map (fun entry => (entry.1.lossy, entry.2.jsonMode)) = dict.entries := by
    refine (List.map_congr_left (fun entry member => ?_)).trans (List.map_id _)
    rcases Bool.and_eq_true_iff.mp (same entry member) with ⟨named, finite⟩
    exact Prod.ext (Text.lossy_of_encodable named) (jsonMode_of_finite entry.2 finite)
  unfold jsonModeDict
  rw [entries, Dict.ofList_entries]

/-! ## Python equality -/

mutual

/-- Python's `first == second`. Numbers are compared across their types, and dictionaries
without regard to order. -/
def pyEq : Json -> Json -> Bool
  | .null, other => other.isNull
  | .str text, other =>
      match other with
      | .str otherText => decide (text = otherText)
      | _ => false
  | .list items, other =>
      match other with
      | .list otherItems => pyEqList items otherItems
      | _ => false
  | .dict entries, other =>
      match other with
      | .dict otherEntries =>
          entries.length == otherEntries.length && pyEqEntries entries otherEntries
      | _ => false
  | .bool value, other => numbersEqual (.bool value) other
  | .int value, other => numbersEqual (.int value) other
  | .float value, other => numbersEqual (.float value) other

def pyEqList : List Json -> List Json -> Bool
  | [], [] => true
  | item :: rest, other :: others => pyEq item other && pyEqList rest others
  | [], _ :: _ => false
  | _ :: _, [] => false

def pyEqEntries : List (Text × Json) -> List (Text × Json) -> Bool
  | [], _ => true
  | (key, value) :: rest, others =>
      (match Dict.lookup key others with
        | some other => pyEq value other
        | none => false) && pyEqEntries rest others

def numbersEqual (first second : Json) : Bool :=
  match first.numeric?, second.numeric? with
  | some left, some right => left.equal right
  | _, _ => false

end

/-- A value equals a string exactly when it is that string. -/
theorem pyEq_str_iff (value : Json) (text : Text) :
    pyEq value (.str text) = true <-> value = .str text := by
  cases value <;> simp [pyEq, isNull, numbersEqual, numeric?]

theorem str_pyEq_iff (text : Text) (value : Json) :
    pyEq (.str text) value = true <-> value = .str text := by
  cases value <;> simp [pyEq, eq_comm]

theorem numbersEqual_iff (first second : Json) :
    numbersEqual first second = true <->
      Exists fun number => first.numeric? = some number ∧ second.numeric? = some number ∧
        number ≠ .nan := by
  unfold numbersEqual
  cases left : first.numeric? with
  | none => simp
  | some leftNumber =>
      cases right : second.numeric? with
      | none => simp
      | some rightNumber =>
          simp only [Numeric.equal_iff, Option.some.injEq]
          constructor
          · rintro ⟨same, proper⟩
            exact ⟨leftNumber, rfl, same.symm, proper⟩
          · rintro ⟨number, atLeft, atRight, proper⟩
            subst atLeft
            exact ⟨atRight.symm, proper⟩

/-- Two values that hold numbers are compared as numbers. -/
theorem pyEq_of_numeric {first : Json} {number : Numeric} (holds : first.numeric? = some number)
    (second : Json) : pyEq first second = numbersEqual first second := by
  cases first with
  | bool value => rw [pyEq]
  | int value => rw [pyEq]
  | float value => rw [pyEq]
  | null => cases holds
  | str text => cases holds
  | list items => cases holds
  | dict entries => cases holds

theorem pyEqEntries_lookup {entries others : List (Text × Json)}
    (equal : pyEqEntries entries others = true) {key : Text} {value : Json}
    (bound : Dict.lookup key entries = some value) :
    Exists fun other => Dict.lookup key others = some other ∧ pyEq value other = true := by
  induction entries with
  | nil => cases bound
  | cons head tail ih =>
      rw [pyEqEntries, Bool.and_eq_true] at equal
      by_cases same : head.1 = key
      · rw [Dict.lookup, if_pos same] at bound
        cases bound
        subst same
        cases found : Dict.lookup head.1 others with
        | none =>
            rw [found] at equal
            cases equal.1
        | some other =>
            rw [found] at equal
            exact ⟨other, rfl, equal.1⟩
      · rw [Dict.lookup, if_neg same] at bound
        exact ih equal.2 bound

theorem numbersEqual_trans {first second third : Json} (left : numbersEqual first second = true)
    (right : pyEq second third = true) : numbersEqual first third = true := by
  rcases (numbersEqual_iff first second).mp left with ⟨number, atFirst, atSecond, proper⟩
  rw [pyEq_of_numeric atSecond] at right
  rcases (numbersEqual_iff second third).mp right with ⟨other, again, atThird, _⟩
  have same : number = other := Option.some.inj (atSecond.symm.trans again)
  exact (numbersEqual_iff first third).mpr ⟨number, atFirst, same ▸ atThird, proper⟩

mutual

/-- Python's `==` is transitive on JSON values. -/
theorem pyEq_trans : (first second third : Json) -> pyEq first second = true ->
    pyEq second third = true -> pyEq first third = true
  | .null, second, third, left, right => by
      cases second <;> cases left
      exact right
  | .str text, second, third, left, right => by
      have same := (str_pyEq_iff text second).mp left
      rw [same] at right
      exact right
  | .list items, second, third, left, right => by
      cases second with
      | list seconds =>
          cases third with
          | list thirds =>
              rw [pyEq] at left right ⊢
              exact pyEqList_trans items seconds thirds left right
          | _ => simp [pyEq] at right
      | _ => simp [pyEq] at left
  | .dict entries, second, third, left, right => by
      cases second with
      | dict seconds =>
          cases third with
          | dict thirds =>
              simp only [pyEq, Bool.and_eq_true, beq_iff_eq] at left right ⊢
              exact ⟨left.1.trans right.1, pyEqEntries_trans entries seconds thirds left.2 right.2⟩
          | _ => simp [pyEq] at right
      | _ => simp [pyEq] at left
  | .bool value, second, third, left, right => by
      rw [pyEq] at left ⊢
      exact numbersEqual_trans left right
  | .int value, second, third, left, right => by
      rw [pyEq] at left ⊢
      exact numbersEqual_trans left right
  | .float value, second, third, left, right => by
      rw [pyEq] at left ⊢
      exact numbersEqual_trans left right

theorem pyEqList_trans : (firsts seconds thirds : List Json) -> pyEqList firsts seconds = true ->
    pyEqList seconds thirds = true -> pyEqList firsts thirds = true
  | [], seconds, thirds, left, right => by
      cases seconds with
      | nil => exact right
      | cons second rest => cases left
  | first :: firsts, seconds, thirds, left, right => by
      cases seconds with
      | nil => cases left
      | cons second seconds =>
          cases thirds with
          | nil => cases right
          | cons third thirds =>
              rw [pyEqList, Bool.and_eq_true] at left right ⊢
              exact ⟨pyEq_trans first second third left.1 right.1,
                pyEqList_trans firsts seconds thirds left.2 right.2⟩

theorem pyEqEntries_trans : (firsts seconds thirds : List (Text × Json)) ->
    pyEqEntries firsts seconds = true -> pyEqEntries seconds thirds = true ->
    pyEqEntries firsts thirds = true
  | [], _, _, _, _ => by rw [pyEqEntries]
  | (key, value) :: rest, seconds, thirds, left, right => by
      rw [pyEqEntries, Bool.and_eq_true] at left ⊢
      refine ⟨?_, pyEqEntries_trans rest seconds thirds left.2 right⟩
      cases found : Dict.lookup key seconds with
      | none =>
          rw [found] at left
          cases left.1
      | some second =>
          rw [found] at left
          rcases pyEqEntries_lookup right found with ⟨third, foundThird, equal⟩
          rw [foundThird]
          exact pyEq_trans value second third left.1 equal

end

end Json

end Python
end RealityLayer
