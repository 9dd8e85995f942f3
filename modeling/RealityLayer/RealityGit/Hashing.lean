import Mathlib.Data.List.Sort
import RealityLayer.Python.Runtime

namespace RealityLayer
namespace RealityGit

open Python

/-!
# Canonical JSON and its hash

`hash_json` serializes a value with sorted object keys and compact separators
and hashes the UTF-8 bytes of that text.  It refuses two kinds of value: one
that contains a non-finite float, which the canonicalization rejects, and one
whose text contains an unpaired surrogate, which UTF-8 cannot encode.
-/

/-- Order of object entries: by key. -/
def keyLe (first second : Text × Json) : Prop := first.1.le second.1 = true

instance : DecidableRel keyLe := fun first second =>
  inferInstanceAs (Decidable (first.1.le second.1 = true))

mutual

/-- `_canonicalize`: sort the keys of every object, refuse non-finite floats. Everything else
is left, so that `1` and `1.0` stay different. -/
def canonicalize : Json -> Except HashError Json
  | .dict entries => (canonicalizeEntries entries).map (fun done => .dict (done.insertionSort keyLe))
  | .list items => (canonicalizeList items).map .list
  | .float value => if value.finite then .ok (.float value) else .error .nonFiniteFloat
  | .null => .ok .null
  | .bool value => .ok (.bool value)
  | .int value => .ok (.int value)
  | .str value => .ok (.str value)

def canonicalizeList : List Json -> Except HashError (List Json)
  | [] => .ok []
  | item :: rest =>
      match canonicalize item with
      | .error error => .error error
      | .ok done => (canonicalizeList rest).map (done :: ·)

def canonicalizeEntries : List (Text × Json) -> Except HashError (List (Text × Json))
  | [] => .ok []
  | (key, value) :: rest =>
      match canonicalize value with
      | .error error => .error error
      | .ok done => (canonicalizeEntries rest).map ((key, done) :: ·)

end

/-! ## `json.dumps` with `ensure_ascii=False` and compact separators -/

/-- A lower-case hexadecimal digit. -/
def hexDigit (digit : Nat) : Nat := if digit < 10 then 48 + digit else 87 + digit

/-- One character inside a JSON string, as CPython escapes it. `ensure_ascii` is off, so that
everything but quotes, backslashes and control characters stands for itself. -/
def escapeCode (code : Nat) : List Nat :=
  if code = 34 then [92, 34]
  else if code = 92 then [92, 92]
  else if code = 10 then [92, 110]
  else if code = 13 then [92, 114]
  else if code = 9 then [92, 116]
  else if code = 8 then [92, 98]
  else if code = 12 then [92, 102]
  else if code < 32 then [92, 117, 48, 48, hexDigit (code / 16), hexDigit (code % 16)]
  else [code]

def quoted (text : Text) : List Nat := 34 :: (text.codes.flatMap escapeCode ++ [34])

section Writer

variable (rt : Runtime)

mutual

def dumps : Json -> List Nat
  | .null => [110, 117, 108, 108]
  | .bool true => [116, 114, 117, 101]
  | .bool false => [102, 97, 108, 115, 101]
  | .int value => (Text.ofInt value).codes
  | .float value => (rt.floatRepr value).codes
  | .str text => quoted text
  | .list items => 91 :: (dumpsItems true items ++ [93])
  | .dict entries => 123 :: (dumpsEntries true entries ++ [125])

def dumpsItems : Bool -> List Json -> List Nat
  | _, [] => []
  | first, item :: rest => (if first then [] else [44]) ++ dumps item ++ dumpsItems false rest

def dumpsEntries : Bool -> List (Text × Json) -> List Nat
  | _, [] => []
  | first, (key, value) :: rest =>
      (if first then [] else [44]) ++ quoted key ++ 58 :: dumps value ++ dumpsEntries false rest

end

/-- `canonical_json`. The text may still hold lone surrogates; encoding it is the business of
the hash. -/
def canonicalJson (value : Json) : Except HashError Text :=
  (canonicalize value).map (fun sorted => ⟨dumps rt sorted⟩)

/-- `hash_json`. It raises for a non-finite float and for a text without an encoding; the
order of keys does not matter to it. -/
def hashJson (value : Json) : Except HashError Text :=
  match canonicalJson rt value with
  | .error error => .error error
  | .ok text => if text.encodable then .ok ("sha256:" ++ rt.sha256 text) else .error .unencodableText

end Writer

end RealityGit
end RealityLayer
