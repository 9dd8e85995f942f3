import RealityLayer.Python.Json

namespace RealityLayer
namespace Python

/-!
# What the code takes from its surroundings

Three things reach the services from outside the repository: the clock, fresh
random identifiers, and library functions whose results the code only stores or
compares.  The clock and `uuid4` are inputs of each call, collected in `Draws`.
The library functions are the fields of `Runtime`, and every result about the
model holds for all of them.

Exceptions are a type of their own.  A call that raises keeps the state it has
built so far, so the model never needs to name where an exception is caught.
-/

/-- A `datetime` in microseconds: the wall-clock reading since the epoch, and
the UTC offset when it has one.  A datetime without an offset is naive. -/
structure Timestamp where
  wall : Int
  offset : Option Int
deriving DecidableEq, Repr, Inhabited

namespace Timestamp

/-- The instant an aware datetime denotes. A naive one denotes none, and comparing it with an
aware one raises. -/
def instant? (time : Timestamp) : Option Int := time.offset.map (fun offset => time.wall - offset)

/-- `datetime.now(UTC)` at an instant. -/
def utc (instant : Int) : Timestamp := ⟨instant, some 0⟩

end Timestamp

/-- Why a document is not hashed.  `hash_json` refuses a number that is not finite and a text
that UTF-8 cannot encode.  What the document is made of may be refused before that: the
dump does not get through a value that is nested too deep. -/
inductive HashError where
  | nonFiniteFloat
  | unencodableText
  | nestedTooDeep
deriving DecidableEq, Repr

/-- The exceptions of the modelled code.  `executor` is whatever the provider
executor raised, and `validation` is pydantic's. -/
inductive PyError where
  | keyError (message : Text)
  | valueError (message : Text)
  | typeError (message : Text)
  | validation (message : Text)
  | hashing (cause : HashError)
  | executor (message : Text)
deriving DecidableEq, Repr

/-- What the dump raises for a value that it does not get through: "Circular reference
detected (depth exceeded)". -/
def dumpRefusal : PyError := .hashing .nestedTooDeep

/-- `uuid4().hex`: 32 lower-case hexadecimal digits. Nothing else about it is used, and a run
asks for freshness where it needs it. -/
structure Uuid where
  hex : Text
  size : hex.length = 32
  digits : hex.codes.all (fun code => (48 ≤ code && code ≤ 57) || (97 ≤ code && code ≤ 102)) = true

/-- What one call reads from `uuid4()` and from `datetime.now(UTC)`, by the
index of the reading. -/
structure Draws where
  uuid : Nat -> Uuid
  clock : Nat -> Int

namespace Draws

/-- `uuid4().hex[:16]`. -/
def hex16 (draws : Draws) (index : Nat) : Text := (draws.uuid index).hex.take 16

theorem length_hex16 (draws : Draws) (index : Nat) : (draws.hex16 index).length = 16 := by
  have size : (draws.uuid index).hex.codes.length = 32 := (draws.uuid index).size
  unfold hex16 Text.length Text.take
  rw [List.length_take, size]
  rfl

theorem hex16_encodable (draws : Draws) (index : Nat) : (draws.hex16 index).encodable = true := by
  have digits := (draws.uuid index).digits
  unfold hex16 Text.encodable Text.take
  rw [List.all_eq_true] at digits ⊢
  intro code member
  have digit := digits code (List.mem_of_mem_take member)
  simp only [Bool.or_eq_true, Bool.and_eq_true, decide_eq_true_eq] at digit
  unfold Text.scalar
  rw [Bool.or_eq_true]
  exact Or.inl (decide_eq_true (by omega))

end Draws

/-- Library functions whose results are stored or compared but never inspected:
the SHA-256 hex digest of a text's UTF-8 bytes, `float.__repr__`, the `:g`
format, `repr` and `str` of a value, and pydantic's datetime text with its
parser.

`dumps` says whether pydantic's JSON mode gets through the value of an `Any` field.  It
raises for a value that is nested too deep, with a limit that depends on the platform
(about 255 levels on most), and for a nested key that is not valid Unicode.  It gets
through every scalar, and through what it has written itself exactly when it got through
the value. -/
structure Runtime where
  sha256 : Text -> Text
  floatRepr : PyFloat -> Text
  formatG : PyFloat -> Text
  repr : Json -> Text
  str : Json -> Text
  isoformat : Timestamp -> Text
  parseIsoformat : Text -> Option Timestamp
  dumps : Json -> Bool
  dumps_scalar : forall value, value.scalar = true -> dumps value = true
  dumps_jsonMode : forall value, dumps value.jsonMode = dumps value

attribute [simp] Runtime.dumps_jsonMode

/-! ## Concrete surroundings

These two evaluate the model on concrete inputs.  No general result uses them. -/

/-- The identifier whose digits are the decimal digits of a number, lowest first. -/
def Uuid.numbered (number : Nat) : Uuid where
  hex := ⟨(List.range 32).map (fun place => 48 + number / 10 ^ place % 10)⟩
  size := by simp [Text.length]
  digits := by
    rw [List.all_map, List.all_eq_true]
    intro place _
    have small : number / 10 ^ place % 10 < 10 := Nat.mod_lt _ (by decide)
    simp only [Function.comp_apply, Bool.or_eq_true, Bool.and_eq_true, decide_eq_true_eq]
    omega

/-- Consecutive identifiers and instants from a starting number. -/
def Draws.numbered (start : Nat) : Draws where
  uuid := fun index => Uuid.numbered (start + index)
  clock := fun index => start + index

/-- A runtime whose digest is a polynomial checksum, whose times in text are numbers of
microseconds, and which dumps what is nested less than 255 levels deep. -/
def Runtime.plain : Runtime where
  sha256 := fun text =>
    Text.ofNat (text.codes.foldl (fun total code => (total * 257 + code) % 2 ^ 61) 7)
  floatRepr := fun _ => "1.0"
  formatG := fun _ => "1"
  repr := fun _ => "value"
  str := fun _ => "value"
  isoformat := fun time => Text.ofInt time.wall
  parseIsoformat := fun text =>
    some (.utc (text.codes.foldl (fun total code => total * 10 + (code - 48)) 0 : Nat))
  dumps := fun value => decide (value.levels < 255)
  dumps_scalar := fun value flat => decide_eq_true (by rw [Json.levels_of_scalar flat]; decide)
  dumps_jsonMode := fun value => by rw [Json.levels_jsonMode]

end Python
end RealityLayer
