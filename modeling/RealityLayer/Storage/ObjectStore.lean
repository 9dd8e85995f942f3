import RealityLayer.Foundation.Dict
import RealityLayer.Foundation.Transition
import RealityLayer.Python.Path
import RealityLayer.RealityGit.Tamper

namespace RealityLayer
namespace Storage

open Foundation Python RealityGit

/-!
# Raw payloads in files

The store keeps a payload in a file whose path starts with the tenant's identifier.  The
writer joins the identifier as it is.  The reader takes the path from a reference, and
refuses one that is absolute or steps back.

An identifier can be any text.  One that is absolute or steps back is written outside the
tenant's directory, and its references are refused; and the directories of two tenants can
lie within each other.  Without such identifiers every file stays where it belongs, and every
reference is read back, whatever is written later: the last component of a path is a
digest of the tenant, the type and the bytes.
-/

/-! ## The store -/

/-- What the store raises: a Python error, or what the operating system refuses. Only the
first kind is decided by the code of the store. -/
inductive StorageError where
  | python (error : PyError)
  | os
deriving DecidableEq

structure StoredObject where
  ref : Text
  payloadHash : Text
  sizeBytes : Nat
deriving DecidableEq

/-- The directory of the store, and the files of the machine by their places. Files outside
the directory are part of it, because a reference may lead there. -/
structure LocalObjectStore where
  root : List Text
  files : Dict (List Text) (List UInt8)

/-- The digits of a byte. -/
def byteDigits (byte : UInt8) : List Nat := [hexDigit (byte.toNat / 16), hexDigit (byte.toNat % 16)]

/-- `payload.hex()`. -/
def hexText (payload : List UInt8) : Text := ⟨payload.flatMap byteDigits⟩

/-- The arguments of `put_raw_payload`. The tenant comes from a header and the bytes from a
body, and neither is checked before this call. -/
structure PutRequest where
  tenantId : Text
  payload : List UInt8
  contentType : Text

namespace PutRequest

/-- What is hashed. The tenant is part of it, so that two tenants do not share a digest for
one payload. -/
def document (request : PutRequest) : Json :=
  .dict [
    ("content_type", .str request.contentType),
    ("payload_hex", .str (hexText request.payload)),
    ("tenant_id", .str request.tenantId)]

/-- The path of the payload below the directory of the store, for the hash of the payload.
The tenant identifier is taken as a path, without any check. -/
def relativePath (request : PutRequest) (payloadHash : Text) : Path :=
  let digest := Text.removePrefix "sha256:" payloadHash
  (((Path.parse request.tenantId).join (Path.parse "raw_payloads")).join
    (Path.parse (digest.take 2))).join (Path.parse digest)

end PutRequest

namespace LocalObjectStore

/-- A directory cannot be made below a file, and no directory is written as a file. The call
raises in both cases. -/
def blocked (store : LocalObjectStore) (place : List Text) : Bool :=
  decide (place <+: store.root) || store.files.keys.any (fun file =>
    decide (file ≠ place) && (decide (file <+: place) || decide (place <+: file)))

/-- `put_raw_payload`. A file that is there already is overwritten, which is harmless while
digests are not shared. -/
def putRawPayload (rt : Runtime) (store : LocalObjectStore) (request : PutRequest) :
    Outcome StorageError LocalObjectStore StoredObject :=
  match hashJson rt request.document with
  | .error cause => .raises store (.python (.hashing cause))
  | .ok payloadHash =>
      let path := request.relativePath payloadHash
      if store.blocked (path.place store.root) then .raises store .os
      else .returns { store with files := store.files.set (path.place store.root) request.payload } {
        ref := "local://" ++ path.asPosix
        payloadHash
        sizeBytes := request.payload.length }

/-- `get_raw_payload`. Absolute references and steps back are refused here, unlike in the
identifiers of `put_raw_payload`. -/
def getRawPayload (store : LocalObjectStore) (ref : Text) : Except StorageError (List UInt8) :=
  if Text.startsWith "local://" ref = false then
    .error (.python (.valueError ("Unsupported object ref: " ++ ref)))
  else
    let path := Path.parse (Text.removePrefix "local://" ref)
    if path.absolute = true ∨ (".." : Text) ∈ path.parts then
      .error (.python (.valueError ("Unsafe object ref: " ++ ref)))
    else
      match store.files.get? (path.place store.root) with
      | some payload => .ok payload
      | none => .error .os

end LocalObjectStore

/-- The identifiers that a header carries: not empty, and without null characters. -/
def acceptedTenant (tenantId : Text) : Bool := decide (tenantId ≠ "") && decide (0 ∉ tenantId.codes)

/-- Calls that succeed, on a store with this directory. The identifiers are those that a
header can carry. -/
def storageSystem (rt : Runtime) (root : List Text) : System LocalObjectStore PutRequest where
  start := fun store => store.root = root
  admits := fun store request => acceptedTenant request.tenantId = true ∧
    (store.putRawPayload rt request).result.toOption.isSome = true
  next := fun store request => (store.putRawPayload rt request).state

instance (rt : Runtime) (root : List Text) (store : LocalObjectStore) (request : PutRequest) :
    Decidable ((storageSystem rt root).admits store request) :=
  inferInstanceAs (Decidable (_ ∧ _))

/-! ## One call -/

section Calls

variable {rt : Runtime} {store : LocalObjectStore} {request : PutRequest} {stored : StoredObject}

/-- What a call that succeeds does: it returns the reference of one path and writes one file
there. A file that is already at the place is written again. -/
structure Puts (rt : Runtime) (store : LocalObjectStore) (request : PutRequest) (stored : StoredObject)
    (after : LocalObjectStore) : Prop where
  hashed : hashJson rt request.document = .ok stored.payloadHash
  ref : stored.ref = "local://" ++ (request.relativePath stored.payloadHash).asPosix
  root : after.root = store.root
  files : after.files =
    store.files.set ((request.relativePath stored.payloadHash).place store.root) request.payload

theorem putRawPayload_puts (succeeded : (store.putRawPayload rt request).result = .ok stored) :
    Puts rt store request stored (store.putRawPayload rt request).state := by
  unfold LocalObjectStore.putRawPayload at succeeded ⊢
  cases hashed : hashJson rt request.document with
  | error cause =>
      rw [hashed] at succeeded
      cases succeeded
  | ok payloadHash =>
      rw [hashed] at succeeded
      dsimp only at succeeded ⊢
      split at succeeded
      · cases succeeded
      · rename_i free
        rw [if_neg free]
        cases succeeded
        exact ⟨hashed, rfl, rfl, rfl⟩

/-- A reference that was made for a path is read at that path, unless it is refused. -/
theorem getRawPayload_ref (store : LocalObjectStore) (path : Path) :
    store.getRawPayload ("local://" ++ path.asPosix) =
      if path.absolute = true ∨ (".." : Text) ∈ path.parts then
        .error (.python (.valueError ("Unsafe object ref: " ++ ("local://" ++ path.asPosix))))
      else
        match store.files.get? (path.place store.root) with
        | some payload => .ok payload
        | none => .error .os := by
  have starts : Text.startsWith "local://" ("local://" ++ path.asPosix) = true :=
    List.isPrefixOf_iff_prefix.mpr (List.prefix_append _ _)
  unfold LocalObjectStore.getRawPayload
  rw [starts, Text.removePrefix_append, Path.parse_asPosix]
  rfl

end Calls

end Storage
end RealityLayer
