import Mathlib.Data.List.Lex

namespace RealityLayer
namespace Python

/-!
# Python strings

A Python `str` is a sequence of code points, and a code point may be an unpaired
surrogate: JSON input such as `"\ud800"` decodes to one.  Such a string cannot
be encoded as UTF-8, which is why hashing a payload can fail.  Lean's `String`
has no surrogates, so `Text` keeps the code points themselves.

Lean string literals are read as texts through a coercion.  Two texts that come
from literals are equal exactly when the literals are, so comparisons with the
source's constants are decided without unfolding the encoding.
-/

/-- A Python `str`, as its code points. Lone surrogates are code points too, which is why a
text need not have an encoding. -/
structure Text where
  codes : List Nat
deriving DecidableEq, Repr, Inhabited

namespace Text

def ofString (literal : String) : Text := ⟨literal.toList.map Char.toNat⟩

instance : Coe String Text := ⟨ofString⟩

instance : Append Text := ⟨fun first second => ⟨first.codes ++ second.codes⟩⟩

/-- `len(text)`. -/
def length (text : Text) : Nat := text.codes.length

/-- `text[:count]`. -/
def take (count : Nat) (text : Text) : Text := ⟨text.codes.take count⟩

theorem charCode_injective : Function.Injective Char.toNat :=
  fun _ _ same => Char.ext (UInt32.toNat_inj.mp same)

@[simp] theorem ofString_inj {first second : String} :
    ofString first = ofString second <-> first = second := by
  constructor
  · intro same
    have codes : first.toList.map Char.toNat = second.toList.map Char.toNat := congrArg Text.codes same
    exact String.toList_injective (List.map_injective_iff.mpr charCode_injective codes)
  · intro same
    rw [same]

@[simp] theorem codes_append (first second : Text) :
    (first ++ second).codes = first.codes ++ second.codes := rfl

theorem length_append (first second : Text) :
    (first ++ second).length = first.length + second.length := List.length_append

theorem append_right_injective (front : Text) : Function.Injective (fun back : Text => front ++ back) := by
  intro first second same
  have codes : front.codes ++ first.codes = front.codes ++ second.codes := congrArg Text.codes same
  cases first
  cases second
  exact congrArg Text.mk (List.append_cancel_left codes)

theorem append_left_injective (back : Text) : Function.Injective (fun front : Text => front ++ back) := by
  intro first second same
  have codes : first.codes ++ back.codes = second.codes ++ back.codes := congrArg Text.codes same
  cases first
  cases second
  exact congrArg Text.mk (List.append_cancel_right codes)

/-! ## The string methods the source uses -/

/-- `text.removeprefix(front)`. A text that does not start so is left as it is. -/
def removePrefix (front : Text) (text : Text) : Text :=
  if front.codes.isPrefixOf text.codes then ⟨text.codes.drop front.codes.length⟩ else text

/-- `text.startswith(front)`. -/
def startsWith (front : Text) (text : Text) : Bool := front.codes.isPrefixOf text.codes

@[simp] theorem removePrefix_append (front text : Text) : removePrefix front (front ++ text) = text := by
  have starts : front.codes.isPrefixOf (front.codes ++ text.codes) = true :=
    List.isPrefixOf_iff_prefix.mpr (List.prefix_append _ _)
  unfold removePrefix
  rw [codes_append, if_pos starts, List.drop_left]

/-- Lower case of one code point, as far as ASCII words are concerned.  Besides
the ASCII capitals only the Kelvin sign has an ASCII lower case by itself.
Every other code point stays: its lower case contains a non-ASCII code point. -/
def lowerCode (code : Nat) : Nat :=
  if 65 ≤ code ∧ code ≤ 90 then code + 32
  else if code = 0x212A then 107
  else code

/-- `text.lower()`, up to non-ASCII letters.  The source only ever compares a
lower-cased text with ASCII words, and that comparison is exact here. -/
def lower (text : Text) : Text := ⟨text.codes.map lowerCode⟩

theorem length_lower (text : Text) : text.lower.length = text.length := List.length_map lowerCode

/-- A code point that UTF-8 can encode. The surrogates are the ones in between that it cannot. -/
def scalar (code : Nat) : Bool := code < 0xD800 || (0xDFFF < code && code < 0x110000)

/-- `text.encode("utf-8")` does not raise. A Python string can hold lone surrogates, and JSON
can carry them into one. -/
def encodable (text : Text) : Bool := text.codes.all scalar

/-- A text as pydantic's serializer writes a key.  The three bytes of a code point that UTF-8
cannot encode are each replaced by U+FFFD. -/
def lossy (text : Text) : Text :=
  ⟨text.codes.flatMap (fun code => if scalar code then [code] else [0xFFFD, 0xFFFD, 0xFFFD])⟩

theorem lossy_of_encodable {text : Text} (written : text.encodable = true) : text.lossy = text := by
  unfold encodable at written
  rw [List.all_eq_true] at written
  unfold lossy
  congr 1
  rw [List.flatMap_congr (fun code member => if_pos (written code member)), List.flatMap_singleton']

/-- A text that is changed contains a replacement character afterwards. -/
theorem mem_lossy_of_unencodable {text : Text} (broken : text.encodable = false) :
    0xFFFD ∈ text.lossy.codes := by
  unfold encodable at broken
  rw [List.all_eq_false] at broken
  rcases broken with ⟨code, member, lone⟩
  refine List.mem_flatMap.mpr ⟨code, member, ?_⟩
  rw [if_neg lone]
  exact List.mem_cons_self

@[simp] theorem encodable_append (first second : Text) :
    (first ++ second).encodable = (first.encodable && second.encodable) := by
  unfold encodable
  rw [codes_append, List.all_append]

theorem encodable_ofString (literal : String) : (ofString literal).encodable = true := by
  unfold encodable ofString
  rw [List.all_map, List.all_eq_true]
  intro char _
  have valid := char.valid
  simp only [Function.comp_apply, scalar, Bool.or_eq_true, Bool.and_eq_true, decide_eq_true_eq]
  rcases valid with low | high
  · exact Or.inl low
  · exact Or.inr ⟨high.1, high.2⟩

/-- Lexicographic order by code points: Python's `<=` on strings. It is what `sorted` uses on
the keys. -/
def le (first second : Text) : Bool := decide (first.codes ≤ second.codes)

/-- Decimal digits of a natural number. -/
def ofNat (number : Nat) : Text := ⟨(Nat.toDigits 10 number).map Char.toNat⟩

/-- `int.__repr__`. -/
def ofInt (number : Int) : Text :=
  match number with
  | .ofNat size => ofNat size
  | .negSucc size => "-" ++ ofNat (size + 1)

/-- `text.split(":", 1)[-1]`: what follows the first colon, or everything. Further colons stay. -/
def afterColon (text : Text) : Text :=
  match text.codes.dropWhile (fun code => code ≠ 58) with
  | [] => text
  | _ :: rest => ⟨rest⟩

end Text

end Python
end RealityLayer
