import RealityLayer.RealityGit.Reordering

namespace RealityLayer
namespace RealityGit

open Python

/-!
# Canonical JSON is a faithful encoding

`json.dumps` writes a value in a way that shows where it ends, given that what
follows is empty or starts with a comma or a closing bracket.  So two texts that
start with the writing of a value agree on the value and on the rest.  The proof
follows the value: its first character tells the kind, strings are delimited by
quotes that never occur unescaped inside, and the digits of an integer end at the
first separator.

Together with the choice of representatives by `sortKeys`, two values without
floats have the same canonical text exactly when they are the same content.
-/

/-! ## Strings -/

/-- The value of a hexadecimal digit. -/
def hexValue (code : Nat) : Nat := if code < 58 then code - 48 else code - 87

theorem hexValue_hexDigit {digit : Nat} (small : digit < 16) : hexValue (hexDigit digit) = digit := by
  unfold hexValue hexDigit
  split
  · rename_i below
    rw [if_pos (by omega)]
    omega
  · rw [if_neg (by omega)]
    omega

/-- Read one character of a JSON string. The escapes are those that the writer uses, and no
others are read. -/
def readCode : List Nat -> Option (Nat × List Nat)
  | 92 :: 117 :: 48 :: 48 :: high :: low :: rest => some (16 * hexValue high + hexValue low, rest)
  | 92 :: 110 :: rest => some (10, rest)
  | 92 :: 114 :: rest => some (13, rest)
  | 92 :: 116 :: rest => some (9, rest)
  | 92 :: 98 :: rest => some (8, rest)
  | 92 :: 102 :: rest => some (12, rest)
  | 92 :: code :: rest => some (code, rest)
  | code :: rest => some (code, rest)
  | [] => none

/-- Reading undoes the escape, whatever follows. -/
theorem readCode_escapeCode (code : Nat) (rest : List Nat) :
    readCode (escapeCode code ++ rest) = some (code, rest) := by
  unfold escapeCode
  by_cases quote : code = 34
  · rw [if_pos quote, quote]
    rfl
  rw [if_neg quote]
  by_cases backslash : code = 92
  · rw [if_pos backslash, backslash]
    rfl
  rw [if_neg backslash]
  by_cases newline : code = 10
  · rw [if_pos newline, newline]
    rfl
  rw [if_neg newline]
  by_cases carriage : code = 13
  · rw [if_pos carriage, carriage]
    rfl
  rw [if_neg carriage]
  by_cases tab : code = 9
  · rw [if_pos tab, tab]
    rfl
  rw [if_neg tab]
  by_cases backspace : code = 8
  · rw [if_pos backspace, backspace]
    rfl
  rw [if_neg backspace]
  by_cases feed : code = 12
  · rw [if_pos feed, feed]
    rfl
  rw [if_neg feed]
  by_cases control : code < 32
  · rw [if_pos control]
    simp only [List.cons_append, List.nil_append, readCode]
    rw [hexValue_hexDigit (by omega), hexValue_hexDigit (by omega)]
    exact congrArg some (Prod.ext (by omega) rfl)
  · rw [if_neg control]
    unfold readCode
    simp [backslash]

theorem escapeCode_cancel {first second : Nat} {rest others : List Nat}
    (same : escapeCode first ++ rest = escapeCode second ++ others) :
    first = second ∧ rest = others := by
  have read := congrArg readCode same
  rw [readCode_escapeCode, readCode_escapeCode] at read
  exact Prod.mk.inj (Option.some.inj read)

/-- No escape starts with a quote. -/
theorem escapeCode_ne_quote (code : Nat) (rest others : List Nat) :
    escapeCode code ++ rest ≠ 34 :: others := by
  intro same
  have read := congrArg readCode same
  rw [readCode_escapeCode] at read
  rcases Prod.mk.inj (Option.some.inj read) with ⟨rfl, _⟩
  cases same

theorem escaped_cancel (first second : List Nat) {rest others : List Nat}
    (same : first.flatMap escapeCode ++ 34 :: rest = second.flatMap escapeCode ++ 34 :: others) :
    first = second ∧ rest = others := by
  induction first generalizing second with
  | nil =>
      cases second with
      | nil => exact ⟨rfl, List.tail_eq_of_cons_eq same⟩
      | cons code codes =>
          rw [List.flatMap_cons, List.append_assoc] at same
          exact absurd same.symm (escapeCode_ne_quote code _ _)
  | cons code codes ih =>
      cases second with
      | nil =>
          rw [List.flatMap_cons, List.append_assoc] at same
          exact absurd same (escapeCode_ne_quote code _ _)
      | cons code' codes' =>
          rw [List.flatMap_cons, List.flatMap_cons, List.append_assoc, List.append_assoc] at same
          rcases escapeCode_cancel same with ⟨rfl, later⟩
          rcases ih codes' later with ⟨rfl, equal⟩
          exact ⟨rfl, equal⟩

theorem quoted_cancel {first second : Text} {rest others : List Nat}
    (same : quoted first ++ rest = quoted second ++ others) : first = second ∧ rest = others := by
  unfold quoted at same
  rw [List.cons_append, List.cons_append, List.append_assoc, List.append_assoc] at same
  rcases escaped_cancel _ _ (List.tail_eq_of_cons_eq same) with ⟨codes, equal⟩
  exact ⟨codes_injective codes, equal⟩

/-! ## Integers -/

/-- A character of a decimal integer. -/
def numeral (code : Nat) : Bool := code = 45 || (48 ≤ code && code ≤ 57)

theorem ofNat_numeral (number : Nat) : (Text.ofNat number).codes.all numeral = true := by
  unfold Text.ofNat
  rw [List.all_map, List.all_eq_true]
  intro digit member
  have decimal := Nat.isDigit_of_mem_toDigits (by decide) (by decide) member
  simp only [Char.isDigit, Bool.and_eq_true, decide_eq_true_eq, UInt32.le_iff_toNat_le] at decimal
  have low : 48 ≤ digit.toNat := decimal.1
  have high : digit.toNat ≤ 57 := decimal.2
  simp [numeral, low, high]

theorem ofInt_numeral (number : Int) : (Text.ofInt number).codes.all numeral = true := by
  cases number with
  | ofNat size => exact ofNat_numeral size
  | negSucc size =>
      unfold Text.ofInt
      rw [Text.codes_append, List.all_append, ofNat_numeral, Bool.and_true]
      decide

theorem ofNat_injective : Function.Injective Text.ofNat := by
  intro first second same
  have digits : Nat.toDigits 10 first = Nat.toDigits 10 second :=
    List.map_injective_iff.mpr Text.charCode_injective (congrArg Text.codes same)
  rw [← Nat.ofDigitChars_ten_toDigits (n := first), digits, Nat.ofDigitChars_ten_toDigits]

theorem ofInt_ne_nil (number : Int) : (Text.ofInt number).codes ≠ [] := by
  cases number with
  | ofNat size =>
      intro empty
      exact Nat.toDigits_ne_nil (List.map_eq_nil_iff.mp empty)
  | negSucc size => exact List.cons_ne_nil _ _

/-- A natural number is not written with a sign. -/
theorem ofNat_ne_signed (first : Nat) (second : Text) : Text.ofNat first ≠ "-" ++ second := by
  intro same
  have member : (45 : Nat) ∈ (Text.ofNat first).codes := by
    rw [same]
    exact List.mem_cons_self
  rcases List.mem_map.mp member with ⟨digit, listed, minus⟩
  have decimal := Nat.isDigit_of_mem_toDigits (by decide) (by decide) listed
  rw [Text.charCode_injective (minus.trans rfl : digit.toNat = '-'.toNat)] at decimal
  cases decimal

theorem ofInt_injective : Function.Injective Text.ofInt := by
  intro first second same
  cases first with
  | ofNat first =>
      cases second with
      | ofNat second => exact congrArg Int.ofNat (ofNat_injective same)
      | negSucc second => exact absurd same (ofNat_ne_signed first _)
  | negSucc first =>
      cases second with
      | ofNat second => exact absurd same.symm (ofNat_ne_signed second _)
      | negSucc second =>
          have sizes := ofNat_injective (Text.append_right_injective _ same)
          exact congrArg Int.negSucc (Nat.succ.inj sizes)

/-- What may follow a value: nothing, a comma or a closing bracket. Without it a number could
not be told from its own front. -/
def Stopped (rest : List Nat) : Prop :=
  forall code, rest.head? = some code -> code = 44 ∨ code = 93 ∨ code = 125

theorem takeWhile_numeral {digits rest : List Nat} (all : digits.all numeral = true)
    (stopped : Stopped rest) : (digits ++ rest).takeWhile numeral = digits := by
  rw [List.takeWhile_append_of_pos (List.all_eq_true.mp all)]
  cases rest with
  | nil => rw [List.takeWhile_nil, List.append_nil]
  | cons code codes =>
      have ends : numeral code = false := by
        rcases stopped code rfl with rfl | rfl | rfl <;> decide
      rw [List.takeWhile_cons, ends]
      exact List.append_nil digits

theorem ofInt_cancel {first second : Int} {rest others : List Nat} (stopped : Stopped rest)
    (stopped' : Stopped others)
    (same : (Text.ofInt first).codes ++ rest = (Text.ofInt second).codes ++ others) :
    first = second ∧ rest = others := by
  have codes : (Text.ofInt first).codes = (Text.ofInt second).codes := by
    rw [← takeWhile_numeral (ofInt_numeral first) stopped, same,
      takeWhile_numeral (ofInt_numeral second) stopped']
  rw [codes] at same
  exact ⟨ofInt_injective (codes_injective codes), List.append_cancel_left same⟩

/-! ## Values -/

/-- The kind of value that starts with a character, as far as values go. Two values of
different kinds are never written alike. -/
def kindOf (code : Nat) : Nat :=
  if numeral code then 3
  else if code = 110 then 0
  else if code = 116 then 1
  else if code = 102 then 2
  else if code = 34 then 4
  else if code = 91 then 5
  else if code = 123 then 6
  else 7

def kind : Json -> Nat
  | .null => 0
  | .bool true => 1
  | .bool false => 2
  | .int _ => 3
  | .str _ => 4
  | .list _ => 5
  | .dict _ => 6
  | .float _ => 7

section Writer

variable (rt : Runtime)

/-- The first character of a value tells its kind. No two kinds share one. -/
theorem kindOf_dumps {value : Json} (plain : floatless value = true) :
    Exists fun code => Exists fun codes => dumps rt value = code :: codes ∧ kindOf code = kind value := by
  cases value with
  | null => exact ⟨110, _, by rw [dumps], rfl⟩
  | bool value =>
      cases value with
      | true => exact ⟨116, _, by rw [dumps], rfl⟩
      | false => exact ⟨102, _, by rw [dumps], rfl⟩
  | int value =>
      rw [dumps]
      rcases List.exists_cons_of_ne_nil (ofInt_ne_nil value) with ⟨code, codes, written⟩
      have numerals := ofInt_numeral value
      rw [written, List.all_cons, Bool.and_eq_true] at numerals
      exact ⟨code, codes, written, if_pos numerals.1⟩
  | float value => rw [floatless] at plain; cases plain
  | str text => exact ⟨34, _, by rw [dumps, quoted], rfl⟩
  | list items => exact ⟨91, _, by rw [dumps], rfl⟩
  | dict entries => exact ⟨123, _, by rw [dumps], rfl⟩

/-- Values whose texts agree at the start are of one kind. -/
theorem kind_eq {first second : Json} (plain : floatless first = true)
    (plain' : floatless second = true) {rest others : List Nat}
    (same : dumps rt first ++ rest = dumps rt second ++ others) : kind first = kind second := by
  rcases kindOf_dumps rt plain with ⟨code, codes, written, known⟩
  rcases kindOf_dumps rt plain' with ⟨code', codes', written', known'⟩
  rw [written, written', List.cons_append, List.cons_append] at same
  rw [← known, ← known', (List.cons.inj same).1]

/-- A value does not start with a closing bracket. -/
theorem dumps_ne_bracket {value : Json} (plain : floatless value = true) {bracket : Nat}
    (closing : kindOf bracket = 7) (rest others : List Nat) :
    dumps rt value ++ rest ≠ bracket :: others := by
  intro same
  rcases kindOf_dumps rt plain with ⟨code, codes, written, known⟩
  rw [written, List.cons_append] at same
  rw [(List.cons.inj same).1, closing] at known
  cases value with
  | bool value => cases value <;> cases known
  | float value => rw [floatless] at plain; cases plain
  | null => cases known
  | int value => cases known
  | str text => cases known
  | list items => cases known
  | dict entries => cases known

/-- What follows an item of a list. -/
theorem stopped_items (items : List Json) (rest : List Nat) :
    Stopped (dumpsItems rt false items ++ 93 :: rest) := by
  cases items with
  | nil =>
      rw [dumpsItems]
      rintro _ ⟨⟩
      exact Or.inr (Or.inl rfl)
  | cons item items =>
      rw [dumpsItems]
      rintro _ ⟨⟩
      exact Or.inl rfl

theorem stopped_entries (entries : List (Text × Json)) (rest : List Nat) :
    Stopped (dumpsEntries rt false entries ++ 125 :: rest) := by
  cases entries with
  | nil =>
      rw [dumpsEntries]
      rintro _ ⟨⟩
      exact Or.inr (Or.inr rfl)
  | cons entry entries =>
      rw [dumpsEntries]
      rintro _ ⟨⟩
      exact Or.inl rfl

mutual

/-- A text determines the value it starts with, and what follows. It is proved along the
value, since the text of one is never the front of another's. -/
theorem dumps_cancel : (first second : Json) -> floatless first = true -> floatless second = true ->
    {rest others : List Nat} -> Stopped rest -> Stopped others ->
    dumps rt first ++ rest = dumps rt second ++ others -> first = second ∧ rest = others
  | .null, second, plain, plain', _, _, _, _, same => by
      have kinds := kind_eq rt plain plain' same
      cases second with
      | null => exact ⟨rfl, List.append_cancel_left same⟩
      | bool value => cases value <;> cases kinds
      | _ => cases kinds
  | .bool value, second, plain, plain', _, _, _, _, same => by
      have kinds := kind_eq rt plain plain' same
      cases second with
      | bool other =>
          have equal : value = other := by
            cases value <;> cases other <;> first | rfl | cases kinds
          subst equal
          exact ⟨rfl, List.append_cancel_left same⟩
      | _ => cases value <;> cases kinds
  | .int value, second, plain, plain', _, _, stopped, stopped', same => by
      have kinds := kind_eq rt plain plain' same
      cases second with
      | int other =>
          rw [dumps, dumps] at same
          rcases ofInt_cancel stopped stopped' same with ⟨rfl, equal⟩
          exact ⟨rfl, equal⟩
      | bool value => cases value <;> cases kinds
      | _ => cases kinds
  | .float value, _, plain, _, _, _, _, _, _ => by
      rw [floatless] at plain
      cases plain
  | .str text, second, plain, plain', _, _, _, _, same => by
      have kinds := kind_eq rt plain plain' same
      cases second with
      | str other =>
          rw [dumps, dumps] at same
          rcases quoted_cancel same with ⟨rfl, equal⟩
          exact ⟨rfl, equal⟩
      | bool value => cases value <;> cases kinds
      | _ => cases kinds
  | .list items, second, plain, plain', _, _, _, _, same => by
      have kinds := kind_eq rt plain plain' same
      cases second with
      | list others =>
          rw [floatless] at plain plain'
          rw [dumps, dumps, List.cons_append, List.cons_append, List.append_assoc,
            List.append_assoc] at same
          rcases dumpsItems_cancel true items others plain plain' (List.tail_eq_of_cons_eq same) with
              ⟨rfl, equal⟩
          exact ⟨rfl, equal⟩
      | bool value => cases value <;> cases kinds
      | _ => cases kinds
  | .dict entries, second, plain, plain', _, _, _, _, same => by
      have kinds := kind_eq rt plain plain' same
      cases second with
      | dict others =>
          rw [floatless] at plain plain'
          rw [dumps, dumps, List.cons_append, List.cons_append, List.append_assoc,
            List.append_assoc] at same
          rcases dumpsEntries_cancel true entries others plain plain' (List.tail_eq_of_cons_eq same) with
              ⟨rfl, equal⟩
          exact ⟨rfl, equal⟩
      | bool value => cases value <;> cases kinds
      | _ => cases kinds

/-- The items of a list up to its bracket, the first with or without a comma. -/
theorem dumpsItems_cancel (start : Bool) : (firsts seconds : List Json) ->
    floatlessList firsts = true -> floatlessList seconds = true -> {rest others : List Nat} ->
    dumpsItems rt start firsts ++ 93 :: rest = dumpsItems rt start seconds ++ 93 :: others ->
    firsts = seconds ∧ rest = others
  | [], [], _, _, _, _, same => ⟨rfl, List.tail_eq_of_cons_eq (by rwa [dumpsItems] at same)⟩
  | [], second :: seconds, _, plain', _, _, same => by
      rw [floatlessList, Bool.and_eq_true] at plain'
      rw [dumpsItems, dumpsItems] at same
      cases start with
      | true =>
          rw [if_pos rfl, List.nil_append, List.nil_append, List.append_assoc] at same
          exact absurd same.symm (dumps_ne_bracket rt plain'.1 rfl _ _)
      | false => cases same
  | first :: firsts, [], plain, _, _, _, same => by
      rw [floatlessList, Bool.and_eq_true] at plain
      rw [dumpsItems, dumpsItems] at same
      cases start with
      | true =>
          rw [if_pos rfl, List.nil_append, List.nil_append, List.append_assoc] at same
          exact absurd same (dumps_ne_bracket rt plain.1 rfl _ _)
      | false => cases same
  | first :: firsts, second :: seconds, plain, plain', _, _, same => by
      rw [floatlessList, Bool.and_eq_true] at plain plain'
      rw [dumpsItems, dumpsItems, List.append_assoc, List.append_assoc, List.append_assoc,
        List.append_assoc] at same
      rcases dumps_cancel first second plain.1 plain'.1 (stopped_items rt _ _)
        (stopped_items rt _ _) (List.append_cancel_left same) with ⟨rfl, later⟩
      rcases dumpsItems_cancel false firsts seconds plain.2 plain'.2 later with ⟨rfl, equal⟩
      exact ⟨rfl, equal⟩

theorem dumpsEntries_cancel (start : Bool) : (firsts seconds : List (Text × Json)) ->
    floatlessEntries firsts = true -> floatlessEntries seconds = true -> {rest others : List Nat} ->
    dumpsEntries rt start firsts ++ 125 :: rest = dumpsEntries rt start seconds ++ 125 :: others ->
    firsts = seconds ∧ rest = others
  | [], [], _, _, _, _, same => ⟨rfl, List.tail_eq_of_cons_eq (by rwa [dumpsEntries] at same)⟩
  | [], (key, value) :: seconds, _, _, _, _, same => by
      rw [dumpsEntries, dumpsEntries] at same
      cases start <;> cases same
  | (key, value) :: firsts, [], _, _, _, _, same => by
      rw [dumpsEntries, dumpsEntries] at same
      cases start <;> cases same
  | (key, value) :: firsts, (other, value') :: seconds, plain, plain', _, _, same => by
      rw [floatlessEntries, Bool.and_eq_true] at plain plain'
      rw [dumpsEntries, dumpsEntries] at same
      simp only [List.append_assoc, List.cons_append] at same
      rcases quoted_cancel (List.append_cancel_left same) with ⟨rfl, colon⟩
      rcases dumps_cancel value value' plain.1 plain'.1 (stopped_entries rt _ _)
        (stopped_entries rt _ _) (List.tail_eq_of_cons_eq colon) with ⟨rfl, later⟩
      rcases dumpsEntries_cancel false firsts seconds plain.2 plain'.2 later with ⟨rfl, equal⟩
      exact ⟨rfl, equal⟩

end

theorem stopped_nil : Stopped [] := by
  rintro _ ⟨⟩

/-- Values without floats have one text only if they are one value. -/
theorem dumps_injective {first second : Json} (plain : floatless first = true)
    (plain' : floatless second = true) (same : dumps rt first = dumps rt second) : first = second := by
  refine (dumps_cancel rt first second plain plain' stopped_nil stopped_nil ?_).1
  rw [List.append_nil, List.append_nil]
  exact same

end Writer

/-! ## Faithfulness -/

/-- A JSON value built from null, booleans, integers, strings, lists and objects. There are
no floats in it, and no object has a key twice. -/
structure PlainJson where
  value : Json
  floatless : floatless value = true
  keyed : keyed value = true

theorem canonicalJson_plain (rt : Runtime) (plain : PlainJson) :
    canonicalJson rt plain.value = .ok ⟨dumps rt (sortKeys plain.value)⟩ := by
  rw [canonicalJson, canonicalize_of_finite _ (finite_of_floatless _ plain.floatless)]
  rfl

/-- Every such value has a canonical text, and two values have the same one exactly
when they are equal up to the order of object keys. -/
theorem canonical_json_faithful (rt : Runtime) (first second : PlainJson) :
    Exists fun text => canonicalJson rt first.value = .ok text ∧
      (canonicalJson rt second.value = .ok text <-> Reordered first.value second.value) := by
  refine ⟨_, canonicalJson_plain rt first, ?_⟩
  rw [canonicalJson_plain rt second, ← sortKeys_eq_iff first.keyed]
  constructor
  · intro same
    have codes := congrArg Text.codes (Except.ok.inj same)
    exact (dumps_injective rt (floatless_sortKeys _ second.floatless)
      (floatless_sortKeys _ first.floatless) codes).symm
  · intro equal
    rw [equal]

/-- An order within a reading, with the keys of both written in one order. -/
def nestedReading : PlainJson where
  value := .dict [
    ("connector", .str "shopify"),
    ("order", .dict [("id", .str "1001"), ("items", .list [.int 1, .null]), ("open", .bool true)])]
  floatless := by decide +kernel
  keyed := by decide +kernel

/-- The same reading, with the keys of both written in the other order. -/
def turnedReading : PlainJson where
  value := .dict [
    ("order", .dict [("open", .bool true), ("items", .list [.int 1, .null]), ("id", .str "1001")]),
    ("connector", .str "shopify")]
  floatless := by decide +kernel
  keyed := by decide +kernel

/-- Both readings have one canonical text, and so are equal up to the order of keys. -/
theorem canonical_json_faithful_sample :
    nestedReading.value ≠ turnedReading.value ∧ Reordered nestedReading.value turnedReading.value := by
  have written : canonicalJson .plain nestedReading.value = canonicalJson .plain turnedReading.value ∧
      nestedReading.value ≠ turnedReading.value := by
    decide +kernel
  rcases canonical_json_faithful .plain nestedReading turnedReading with ⟨text, canonical, faithful⟩
  exact ⟨written.2, faithful.mp (written.1.symm.trans canonical)⟩

/-- `true`, `1` and `"1"` are three contents, and so are their lists. -/
example : canonicalJson .plain (.list [.bool true, .int 1, .str "1"]) =
    .ok "[true,1,\"1\"]" := by decide +kernel

end RealityGit
end RealityLayer
