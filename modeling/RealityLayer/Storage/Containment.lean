import RealityLayer.RealityGit.Acceptance
import RealityLayer.Storage.ObjectStore

namespace RealityLayer
namespace Storage

open Foundation Python RealityGit

/-!
# Where payloads are kept

A sequence of calls is contained when every file that it writes lies below the directory of
the store and below no other tenant's directory, and every reference that it returned is read
back.  That is so exactly for identifiers that neither are absolute nor step back, when no
tenant's directory is the beginning of another tenant's file.
-/

/-! ## Paths of payloads -/

def hexCode (code : Nat) : Bool := (48 ≤ code && code ≤ 57) || (97 ≤ code && code ≤ 102)

/-- A text of hexadecimal digits. -/
def HexText (text : Text) : Prop := text ≠ "" ∧ text.codes.all hexCode = true

instance (text : Text) : Decidable (HexText text) := inferInstanceAs (Decidable (_ ∧ _))

/-- Digests are written in hexadecimal digits. Nothing else is asked of the hash function,
not even that it has no collisions. -/
def HexDigests (rt : Runtime) : Prop := forall text, HexText (rt.sha256 text)

/-- The components of the file of a payload. -/
def PutRequest.fileParts (request : PutRequest) (payloadHash : Text) : List Text :=
  let digest := Text.removePrefix "sha256:" payloadHash
  (Path.parse request.tenantId).parts ++ [Text.ofString "raw_payloads", digest.take 2, digest]

/-- An identifier that is a relative path without steps back. It may have several components. -/
def PlainTenant (tenantId : Text) : Prop :=
  (Path.parse tenantId).absolute = false ∧ (".." : Text) ∉ (Path.parse tenantId).parts

section Paths

variable {rt : Runtime} {request : PutRequest} {payloadHash : Text}

theorem HexText.absent {text : Text} (hex : HexText text) {code : Nat} (other : hexCode code = false) :
    code ∉ text.codes := by
  intro member
  rw [List.all_eq_true.mp hex.2 code member] at other
  cases other

theorem HexText.component {text : Text} (hex : HexText text) : pathPart text = true := by
  unfold pathPart
  simp only [Bool.and_eq_true, decide_eq_true_eq]
  refine ⟨⟨hex.1, ?_⟩, hex.absent (by decide)⟩
  rintro rfl
  have dot : 46 ∉ (Text.ofString ".").codes := hex.absent (by decide)
  exact dot (by decide)

theorem HexText.ne_back {text : Text} (hex : HexText text) : text ≠ ".." := by
  rintro rfl
  have dot : 46 ∉ (Text.ofString "..").codes := hex.absent (by decide)
  exact dot (by decide)

theorem HexText.front {text : Text} (hex : HexText text) : HexText (text.take 2) := by
  rcases text with ⟨codes⟩
  refine ⟨?_, ?_⟩
  · cases codes with
    | nil => exact absurd rfl hex.1
    | cons code rest => exact fun same => List.cons_ne_nil _ _ (congrArg Text.codes same)
  · rw [List.all_eq_true]
    exact fun code member => List.all_eq_true.mp hex.2 code (List.mem_of_mem_take member)

theorem parse_component {text : Text} (component : pathPart text = true) :
    (Path.parse text).absolute = false ∧ (Path.parse text).parts = [text] := by
  refine ⟨decide_eq_false (fun other => other ?_), Path.partsOf_component component⟩
  have front : text.codes[0]? ≠ some slash := by
    rcases Path.component_ne_nil component with ⟨code, rest, full, other⟩
    rw [full]
    exact fun same => other (Option.some.inj same)
  exact (Path.rootOf_written front).1

theorem join_parts (path : Path) {other : Path} (relative : other.absolute = false) :
    (path.join other).absolute = path.absolute ∧ (path.join other).parts = path.parts ++ other.parts := by
  unfold Path.join
  rw [if_neg (by rw [relative]; exact Bool.false_ne_true)]
  exact ⟨rfl, rfl⟩

theorem digest_hex (hex : HexDigests rt) (hashed : hashJson rt request.document = .ok payloadHash) :
    HexText (Text.removePrefix "sha256:" payloadHash) := by
  rcases (@hashJson_ok_iff rt _ _).mp hashed with ⟨_, sealed⟩
  rw [sealed, Text.removePrefix_append]
  exact hex _

theorem relativePath_parts (hex : HexDigests rt)
    (hashed : hashJson rt request.document = .ok payloadHash) :
    (request.relativePath payloadHash).absolute = (Path.parse request.tenantId).absolute ∧
      (request.relativePath payloadHash).parts = request.fileParts payloadHash := by
  have whole := (digest_hex hex hashed).component
  have front := (digest_hex hex hashed).front.component
  have middle : pathPart "raw_payloads" = true := by decide
  unfold PutRequest.relativePath PutRequest.fileParts
  dsimp only
  generalize Text.removePrefix "sha256:" payloadHash = digest at whole front ⊢
  have first := join_parts (Path.parse request.tenantId) (parse_component middle).1
  have second := join_parts ((Path.parse request.tenantId).join (Path.parse "raw_payloads"))
    (parse_component front).1
  have third := join_parts (((Path.parse request.tenantId).join (Path.parse "raw_payloads")).join
    (Path.parse (digest.take 2))) (parse_component whole).1
  refine ⟨third.1.trans (second.1.trans first.1), ?_⟩
  rw [third.2, second.2, first.2, (parse_component middle).2, (parse_component front).2,
    (parse_component whole).2, List.append_assoc, List.append_assoc]
  rfl

/-- A plain identifier's payload lies where the components say. -/
theorem PlainTenant.place (plain : PlainTenant request.tenantId) (hex : HexDigests rt)
    (hashed : hashJson rt request.document = .ok payloadHash) (root : List Text) :
    (request.relativePath payloadHash).place root = root ++ request.fileParts payloadHash ∧
      (".." : Text) ∉ request.fileParts payloadHash := by
  rcases relativePath_parts hex hashed with ⟨absolute, parts⟩
  have digest := digest_hex hex hashed
  have forward : (".." : Text) ∉ request.fileParts payloadHash := by
    unfold PutRequest.fileParts
    dsimp only
    simp only [List.mem_append, List.mem_cons, List.not_mem_nil, or_false, Text.ofString_inj]
    rintro (inside | middle | front | whole)
    · exact plain.2 inside
    · exact absurd middle (by decide)
    · exact digest.front.ne_back front.symm
    · exact digest.ne_back whole.symm
  refine ⟨?_, forward⟩
  unfold Path.place
  rw [absolute, parts, plain.1, if_neg Bool.false_ne_true]
  exact Path.resolve_forward root forward

end Paths

/-! ## Equal places -/

theorem byteDigits_injective {first second : UInt8} (same : byteDigits first = byteDigits second) :
    first = second := by
  have small := first.toNat_lt
  have small' := second.toNat_lt
  injection same with high rest
  injection rest with low _
  have high := congrArg hexValue high
  have low := congrArg hexValue low
  rw [hexValue_hexDigit (by omega), hexValue_hexDigit (by omega)] at high low
  exact UInt8.toNat_inj.mp (by omega)

/-- The bytes are read off the digits. -/
theorem hexText_injective {first second : List UInt8} (same : hexText first = hexText second) :
    first = second := by
  have codes : first.flatMap byteDigits = second.flatMap byteDigits := congrArg Text.codes same
  clear same
  induction first generalizing second with
  | nil =>
      cases second with
      | nil => rfl
      | cons byte rest => cases codes
  | cons byte rest ih =>
      cases second with
      | nil => cases codes
      | cons byte' rest' =>
          rw [List.flatMap_cons, List.flatMap_cons] at codes
          rcases List.append_inj codes rfl with ⟨front, later⟩
          rw [byteDigits_injective front, ih later]

/-- Documents that are equal up to the order of keys hold the same bytes. -/
theorem payload_of_reordered {request other : PutRequest}
    (related : Reordered request.document other.document) : request.payload = other.payload := by
  have field : Reordered (.str (hexText request.payload)) (.str (hexText other.payload)) :=
    related.field (by simp) "payload_hex" (by simp) (by simp)
  exact hexText_injective field.text

/-- The last component of a file is the digest. -/
theorem payloadHash_of_fileParts {rt : Runtime} {request other : PutRequest} {payloadHash otherHash : Text}
    (hashed : hashJson rt request.document = .ok payloadHash)
    (hashed' : hashJson rt other.document = .ok otherHash)
    (same : request.fileParts payloadHash = other.fileParts otherHash) : payloadHash = otherHash := by
  rcases (@hashJson_ok_iff rt _ _).mp hashed with ⟨_, sealed⟩
  rcases (@hashJson_ok_iff rt _ _).mp hashed' with ⟨_, sealed'⟩
  have last := congrArg List.getLast? same
  unfold PutRequest.fileParts at last
  rw [sealed, sealed', Text.removePrefix_append, Text.removePrefix_append] at last
  simp at last
  rw [sealed, sealed', last]

/-! ## Sequences of calls -/

abbrev PutStep := Step LocalObjectStore PutRequest

/-- What the call of a step returned. A call that was refused returned nothing. -/
def Stored (rt : Runtime) (step : PutStep) (stored : StoredObject) : Prop :=
  (step.before.putRawPayload rt step.label).result = .ok stored

/-- The file that the call of a step wrote. -/
def placeOf (root : List Text) (step : PutStep) (stored : StoredObject) : List Text :=
  (step.label.relativePath stored.payloadHash).place root

/-- Every file is below the directory of the store and not below another tenant's, and every
reference is read back. -/
structure Contained (rt : Runtime) (root : List Text) (history : List PutStep)
    (store : LocalObjectStore) : Prop where
  under : forall step, step ∈ history -> forall stored, Stored rt step stored ->
    root <+: placeOf root step stored
  apart : forall step, step ∈ history -> forall stored, Stored rt step stored ->
    forall other, other ∈ history -> other.label.tenantId ≠ step.label.tenantId ->
      ¬ (Path.parse other.label.tenantId).place root <+: placeOf root step stored
  reads : forall step, step ∈ history -> forall stored, Stored rt step stored ->
    store.getRawPayload stored.ref = .ok step.label.payload

/-- No other tenant's identifier is the beginning of a tenant's files. Identifiers are
compared as paths, not as strings. -/
def ApartTenants (rt : Runtime) (history : List PutStep) : Prop :=
  forall step, step ∈ history -> forall other, other ∈ history ->
    other.label.tenantId ≠ step.label.tenantId ->
      forall payloadHash, hashJson rt step.label.document = .ok payloadHash ->
        ¬ (Path.parse other.label.tenantId).parts <+: step.label.fileParts payloadHash

section Runs

variable {rt : Runtime} {root : List Text} {history : List PutStep} {store : LocalObjectStore}

theorem Stored.puts {step : PutStep} {stored : StoredObject} (returned : Stored rt step stored) :
    Puts rt step.before step.label stored (step.before.putRawPayload rt step.label).state :=
  putRawPayload_puts returned

/-- A directory of the store is above a file exactly when its components come first. -/
theorem place_prefix_iff {tenantId : Text} (plain : PlainTenant tenantId) (root parts : List Text) :
    (Path.parse tenantId).place root <+: root ++ parts <-> (Path.parse tenantId).parts <+: parts := by
  unfold Path.place
  rw [plain.1, if_neg Bool.false_ne_true, Path.resolve_forward root plain.2,
    List.prefix_append_right_inj]

/-- Every payload stays in its file, whatever is written later. A later call writes the same
bytes there, or does not write there at all. -/
theorem files_kept (hex : HexDigests rt) (run : (storageSystem rt root).Run history store)
    (plain : forall step, step ∈ history -> PlainTenant step.label.tenantId)
    (separates : HashSeparates rt PutRequest.document (history.map Step.label) (history.map Step.label)) :
    store.root = root ∧ forall step, step ∈ history -> forall stored, Stored rt step stored ->
      store.files.get? (placeOf root step stored) = some step.label.payload := by
  induction run with
  | begin initial => exact ⟨initial, fun _ member => absurd member List.not_mem_nil⟩
  | @extend front state request earlier admitted ih =>
      rcases Option.isSome_iff_exists.mp admitted.2 with ⟨last, found⟩
      have written := putRawPayload_puts (ok_of_toOption found)
      rcases ih (fun step member => plain step (List.mem_append_left _ member))
        (fun one member two member' =>
          separates one (List.map_subset _ (List.subset_append_left _ _) member) two
            (List.map_subset _ (List.subset_append_left _ _) member')) with ⟨rooted, kept⟩
      refine ⟨written.root.trans rooted, fun step member stored returned => ?_⟩
      change (state.putRawPayload rt request).state.files.get? _ = _
      rw [written.files, Dict.get?_set, rooted]
      rcases List.mem_append.mp member with before | final
      · by_cases same :
            placeOf root step stored = (request.relativePath last.payloadHash).place root
        · -- Two files at one place have equal digests, and so equal payloads.
          rw [if_pos same]
          have place := (PlainTenant.place (plain step member) hex returned.puts.hashed root).1
          have place' := (PlainTenant.place
            (plain _ (List.mem_append_right _ List.mem_cons_self)) hex written.hashed root).1
          have parts := List.append_cancel_left ((place.symm.trans same).trans place')
          have equal := payloadHash_of_fileParts returned.puts.hashed written.hashed parts
          have related := separates step.label (List.mem_map_of_mem member) request
            (List.mem_map_of_mem (List.mem_append_right front List.mem_cons_self)) _
            returned.puts.hashed (equal ▸ written.hashed)
          rw [payload_of_reordered related]
        · rw [if_neg same]
          exact kept step before stored returned
      · cases List.mem_singleton.mp final
        have same : stored = last := Except.ok.inj (returned.symm.trans (ok_of_toOption found))
        rw [same]
        exact if_pos rfl

/-- The file of a plain identifier. -/
theorem placeOf_plain {step : PutStep} (plain : PlainTenant step.label.tenantId) (hex : HexDigests rt)
    {stored : StoredObject} (returned : Stored rt step stored) (root : List Text) :
    placeOf root step stored = root ++ step.label.fileParts stored.payloadHash :=
  (PlainTenant.place plain hex returned.puts.hashed root).1

theorem stored_of_run (run : (storageSystem rt root).Run history store) {step : PutStep}
    (member : step ∈ history) : Exists fun stored : StoredObject => Stored rt step stored := by
  rcases Option.isSome_iff_exists.mp (run.reaches_step member).1.1.2 with ⟨stored, found⟩
  exact ⟨stored, ok_of_toOption found⟩

/-- Only plain identifiers give references that are read back. Others may be written, and are
refused when they are read. -/
theorem Contained.plain (contained : Contained rt root history store) (hex : HexDigests rt)
    (run : (storageSystem rt root).Run history store) {step : PutStep} (member : step ∈ history) :
    PlainTenant step.label.tenantId := by
  rcases stored_of_run run member with ⟨stored, returned⟩
  have read := contained.reads step member stored returned
  rcases relativePath_parts hex returned.puts.hashed with ⟨absolute, parts⟩
  rw [returned.puts.ref, getRawPayload_ref] at read
  split at read
  · cases read
  · rename_i safe
    rw [absolute, parts, not_or] at safe
    exact ⟨Bool.eq_false_of_not_eq_true safe.1, fun back => safe.2 (List.mem_append_left _ back)⟩

theorem Contained.apartTenants (contained : Contained rt root history store) (hex : HexDigests rt)
    (run : (storageSystem rt root).Run history store) : ApartTenants rt history := by
  intro step member other member' different payloadHash hashed starts
  rcases stored_of_run run member with ⟨stored, returned⟩
  have same : payloadHash = stored.payloadHash :=
    Except.ok.inj (hashed.symm.trans returned.puts.hashed)
  apply contained.apart step member stored returned other member' different
  rw [placeOf_plain (contained.plain hex run member) hex returned,
    place_prefix_iff (contained.plain hex run member'), ← same]
  exact starts

/-- A sequence of calls is contained exactly when its identifiers are relative, never step
back, and are not the beginning of another tenant's files. -/
theorem contained_iff (hex : HexDigests rt) (run : (storageSystem rt root).Run history store)
    (separates : HashSeparates rt PutRequest.document (history.map Step.label)
      (history.map Step.label)) :
    Contained rt root history store <->
      (forall step, step ∈ history -> PlainTenant step.label.tenantId) ∧ ApartTenants rt history := by
  constructor
  · intro contained
    exact ⟨fun step member => contained.plain hex run member, contained.apartTenants hex run⟩
  · rintro ⟨plain, apart⟩
    rcases files_kept hex run plain separates with ⟨rooted, kept⟩
    constructor
    · intro step member stored returned
      rw [placeOf_plain (plain step member) hex returned]
      exact List.prefix_append _ _
    · intro step member stored returned other member' different
      rw [placeOf_plain (plain step member) hex returned, place_prefix_iff (plain other member')]
      exact apart step member other member' different _ returned.puts.hashed
    · intro step member stored returned
      rcases relativePath_parts hex returned.puts.hashed with ⟨absolute, parts⟩
      rcases PlainTenant.place (plain step member) hex returned.puts.hashed root with ⟨_, forward⟩
      have found := kept step member stored returned
      unfold placeOf at found
      rw [returned.puts.ref, getRawPayload_ref, absolute, parts, (plain step member).1, rooted, found]
      exact if_neg (not_or.mpr ⟨Bool.false_ne_true, forward⟩)

/-- Identifiers without separators and dots are kept apart. Then each tenant has a directory
of its own. -/
theorem ApartTenants.of_components (history : List PutStep)
    (components : forall step, step ∈ history -> pathPart step.label.tenantId = true) :
    ApartTenants rt history := by
  intro step member other member' different payloadHash hashed starts
  unfold PutRequest.fileParts at starts
  dsimp only at starts
  rw [(parse_component (components step member)).2, (parse_component (components other member')).2,
    List.singleton_append, List.cons_prefix_cons] at starts
  exact different starts.1

end Runs

/-! ## Two tenants, and two that are not kept apart -/

theorem plain_hexDigests : HexDigests .plain := by
  intro text
  change HexText (Text.ofNat _)
  unfold Text.ofNat
  refine ⟨fun same => ?_, ?_⟩
  · have empty := congrArg Text.codes same
    have digits := List.map_eq_nil_iff.mp empty
    exact absurd (congrArg List.length digits) (Nat.ne_of_gt Nat.length_toDigits_pos)
  · rw [List.all_map, List.all_eq_true]
    intro digit member
    have decimal := Nat.isDigit_of_mem_toDigits (by decide) (by decide) member
    simp only [Char.isDigit, Bool.and_eq_true, decide_eq_true_eq, UInt32.le_iff_toNat_le] at decimal
    have low : 48 ≤ digit.toNat := decimal.1
    have high : digit.toNat ≤ 57 := decimal.2
    simp [hexCode, low, high]

def emptyStore : LocalObjectStore := ⟨["data"], .empty⟩

def putOf (tenantId : Text) (byte : UInt8) : PutRequest := ⟨tenantId, [byte], "application/json"⟩

def plainCalls : List PutRequest := [putOf "demo" 1, putOf "acme" 2]

theorem plainCalls_contained :
    Exists fun history => Exists fun store : LocalObjectStore =>
      (storageSystem .plain ["data"]).Run history store ∧ Contained .plain ["data"] history store := by
  have admitted : (storageSystem .plain ["data"]).AdmitsAll emptyStore plainCalls := by
    decide +kernel
  have run := System.run_trace plainCalls rfl admitted
  have separates : HashSeparates .plain PutRequest.document plainCalls plainCalls :=
    separates_of_apart (by decide +kernel)
  refine ⟨_, _, run, (contained_iff plain_hexDigests run separates).mpr ⟨?_, ?_⟩⟩
  · unfold PlainTenant
    decide +kernel
  · exact ApartTenants.of_components _ (by decide +kernel)

/-- An identifier that steps back is written outside the store, and its reference is refused.
An identifier within another tenant's directory shares its files. -/
theorem tenants_escape :
    (Exists fun history => Exists fun store : LocalObjectStore =>
      (storageSystem .plain ["data"]).Run history store ∧
        history.map Step.label = [putOf "../acme" 1] ∧ ¬ Contained .plain ["data"] history store) ∧
      Exists fun history => Exists fun store : LocalObjectStore =>
        (storageSystem .plain ["data"]).Run history store ∧
          history.map Step.label = [putOf "demo" 1, putOf "demo/acme" 2] ∧
          ¬ Contained .plain ["data"] history store := by
  have admitted : (storageSystem .plain ["data"]).AdmitsAll emptyStore [putOf "../acme" 1] ∧
      (storageSystem .plain ["data"]).AdmitsAll emptyStore [putOf "demo" 1, putOf "demo/acme" 2] := by
    decide +kernel
  constructor
  · have run := System.run_trace [putOf "../acme" 1] rfl admitted.1
    refine ⟨_, _, run, rfl, fun contained => ?_⟩
    exact (contained.plain plain_hexDigests run List.mem_cons_self).2 (by decide +kernel)
  · have run := System.run_trace [putOf "demo" 1, putOf "demo/acme" 2] rfl admitted.2
    refine ⟨_, _, run, rfl, fun contained => ?_⟩
    rcases stored_of_run run (List.mem_cons_of_mem _ List.mem_cons_self) with ⟨stored, returned⟩
    refine contained.apartTenants plain_hexDigests run _ (List.mem_cons_of_mem _ List.mem_cons_self) _
      List.mem_cons_self (by decide +kernel) _ returned.puts.hashed ?_
    exact List.IsPrefix.trans (by decide +kernel) (List.prefix_append _ _)

end Storage
end RealityLayer
