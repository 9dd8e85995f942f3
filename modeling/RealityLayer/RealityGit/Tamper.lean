import RealityLayer.RealityGit.Reordering
import RealityLayer.RealityGit.Validation

namespace RealityLayer
namespace RealityGit

open Foundation Python Actions WorldState

/-!
# What a head hash pins down

Suppose no two different records of two accepted chains have one hash.  Then the
hash of the newest record determines the whole chain: its body names the hash of
the record before it, and so on back to the first record, the only one that names
none.  What is determined is the hashed body of each record.

An event's body covers all its fields.  A commit's body leaves out the assurance
level, so a chain of commits is determined up to the assurance levels.
-/

/-! ## Reading a reordering field by field -/

theorem Reordered.scalar {first second : Json} (related : Reordered first second)
    (list : forall items, first ≠ .list items) (dict : forall entries, first ≠ .dict entries) :
    second = first := by
  induction related with
  | same value => rfl
  | trans _ _ left right =>
      have equal := left list dict
      subst equal
      exact right list dict
  | permuted perm => exact absurd rfl (dict _)
  | item front back _ _ => exact absurd rfl (list _)
  | value front back key _ _ => exact absurd rfl (dict _)

theorem Reordered.text {first second : Text} (related : Reordered (.str first) (.str second)) :
    first = second := by
  cases related.scalar (by simp) (by simp)
  rfl

theorem Reordered.text? {first second : Option Text}
    (related : Reordered (.ofText? first) (.ofText? second)) : first = second := by
  have equal := related.scalar (by cases first <;> simp [Json.ofText?])
    (by cases first <;> simp [Json.ofText?])
  have read := congrArg Json.optionalText? equal
  rw [Json.optionalText?_ofText?, Json.optionalText?_ofText?] at read
  exact (Option.some.inj read).symm

/-- There is nothing to reorder in a list of strings. -/
theorem Reordered.texts {first second : Json} (related : Reordered first second) :
    forall texts : List Text, first = .list (texts.map .str) -> second = first := by
  induction related with
  | same value => exact fun _ _ => rfl
  | trans _ _ left right =>
      intro texts listed
      have equal := left texts listed
      exact (right texts (equal.trans listed)).trans equal
  | permuted perm => exact fun _ other => by cases other
  | @item front back first second inner _ =>
      intro texts listed
      have member : first ∈ texts.map .str :=
        Json.list.inj listed ▸ List.mem_append_right _ List.mem_cons_self
      rcases List.mem_map.mp member with ⟨text, _, rfl⟩
      rw [inner.scalar (by simp) (by simp)]
  | value front back key _ _ => exact fun _ other => by cases other

/-- A reordered object keeps its keys distinct, and each value up to reordering. -/
theorem Reordered.entries {first second : Json} (related : Reordered first second) :
    forall entries, first = .dict entries -> (entries.map Prod.fst).Nodup ->
      Exists fun others => second = .dict others ∧ (others.map Prod.fst).Nodup ∧
        forall key value, (key, value) ∈ entries ->
          Exists fun other => (key, other) ∈ others ∧ Reordered value other := by
  induction related with
  | same value =>
      rintro entries rfl distinct
      exact ⟨entries, rfl, distinct, fun key value member => ⟨value, member, .same value⟩⟩
  | trans _ _ left right =>
      intro entries object distinct
      rcases left entries object distinct with ⟨middle, rfl, distinct', kept⟩
      rcases right middle rfl distinct' with ⟨others, rfl, distinct'', kept'⟩
      refine ⟨others, rfl, distinct'', fun key value member => ?_⟩
      rcases kept key value member with ⟨between, member', related⟩
      rcases kept' key between member' with ⟨other, member'', related'⟩
      exact ⟨other, member'', .trans related related'⟩
  | permuted perm =>
      rintro _ ⟨⟩ distinct
      refine ⟨_, rfl, (perm.map Prod.fst).nodup_iff.mp distinct, fun key value member => ?_⟩
      exact ⟨value, perm.mem_iff.mp member, .same value⟩
  | item front back _ _ => exact fun _ other => by cases other
  | value front back key inner _ =>
      rintro _ ⟨⟩ distinct
      rw [List.map_append, List.map_cons] at distinct
      refine ⟨_, rfl, ?_, fun name value member => ?_⟩
      · rw [List.map_append, List.map_cons]
        exact distinct
      · rcases List.mem_append.mp member with before | rest
        · exact ⟨value, List.mem_append_left _ before, .same value⟩
        · rcases List.mem_cons.mp rest with here | after
          · cases here
            exact ⟨_, List.mem_append_right _ List.mem_cons_self, inner⟩
          · exact ⟨value, List.mem_append_right _ (List.mem_cons_of_mem _ after), .same value⟩

/-- Reordering every value of an object reorders the object. -/
theorem Reordered.of_values (front : List (Text × Json)) {entries others : List (Text × Json)}
    (pairs : List.Forall₂ (fun entry other => entry.1 = other.1 ∧ Reordered entry.2 other.2)
      entries others) : Reordered (.dict (front ++ entries)) (.dict (front ++ others)) := by
  induction pairs generalizing front with
  | nil => exact .same _
  | @cons entry other entries others same _ ih =>
      rcases entry with ⟨key, value⟩
      rcases other with ⟨key', value'⟩
      rcases same with ⟨rfl, inner⟩
      have later := ih (front ++ [(key, value')])
      rw [List.append_assoc, List.append_assoc] at later
      exact .trans (.value front entries key inner) later

/-- The values of one key in two reordered objects. -/
theorem Reordered.field {entries others : List (Text × Json)}
    (related : Reordered (.dict entries) (.dict others)) (distinct : (entries.map Prod.fst).Nodup)
    (key : Text) {value other : Json} (member : (key, value) ∈ entries)
    (member' : (key, other) ∈ others) : Reordered value other := by
  rcases related.entries entries rfl distinct with ⟨listing, object, distinct', kept⟩
  cases object
  rcases kept key value member with ⟨found, listed, inner⟩
  have same := List.inj_on_of_nodup_map distinct' listed member' rfl
  cases same
  exact inner

/-! ## Chains with one newest hash -/

/-- No two different bodies in the two lists have one hash. It speaks of the bodies at hand
only, so that it can be met by a hash function. -/
def HashSeparates (rt : Runtime) {R : Type} (body : R -> Json) (firsts seconds : List R) : Prop :=
  forall first, first ∈ firsts -> forall second, second ∈ seconds -> forall hash,
    hashJson rt (body first) = .ok hash -> hashJson rt (body second) = .ok hash ->
      Reordered (body first) (body second)

/-- Two objects are equal up to the order of keys. -/
def SameObject (first second : Dict Text Json) : Prop :=
  Reordered (.dict first.entries) (.dict second.entries)

/-- All fields that `validate_commit_chain` covers are equal. The assurance level is not
among them, since it is left out of the hashed document. -/
structure SameSealed (first second : CommitRecord) : Prop where
  commitId : first.commitId = second.commitId
  tenantId : first.tenantId = second.tenantId
  parentCommitId : first.parentCommitId = second.parentCommitId
  entityType : first.entityType = second.entityType
  entityId : first.entityId = second.entityId
  cause : first.cause = second.cause
  observationIds : first.observationIds = second.observationIds
  before : SameObject first.before second.before
  after : SameObject first.after second.after
  semanticDiff : SameObject first.semanticDiff second.semanticDiff
  previousHash : first.previousHash = second.previousHash
  hash : first.hash = second.hash

/-- All fields are equal, the assurance level too. It is what the documentation promises of
two lists with one newest hash. -/
structure SameCommit (first second : CommitRecord) : Prop extends SameSealed first second where
  assuranceLevel : first.assuranceLevel = second.assuranceLevel

structure SameEvent (first second : ActionEventRecord) : Prop where
  eventId : first.eventId = second.eventId
  tenantId : first.tenantId = second.tenantId
  actionId : first.actionId = second.actionId
  eventType : first.eventType = second.eventType
  actorRole : first.actorRole = second.actorRole
  payload : SameObject first.payload second.payload
  previousEventHash : first.previousEventHash = second.previousEventHash
  eventHash : first.eventHash = second.eventHash

section Bodies

theorem SameSealed.of_bodies {first second : CommitRecord}
    (related : Reordered (commitBody first) (commitBody second)) (hash : first.hash = second.hash) :
    SameSealed first second := by
  unfold commitBody at related
  have field (key : Text) {value other : Json} := @Reordered.field _ _ related (by simp) key value other
  exact {
    commitId := (field "commit_id" (by simp) (by simp)).text
    tenantId := (field "tenant_id" (by simp) (by simp)).text
    parentCommitId := (field "parent_commit_id" (by simp) (by simp)).text?
    entityType := (field "entity_type" (by simp) (by simp)).text
    entityId := (field "entity_id" (by simp) (by simp)).text
    cause := (field "cause" (by simp) (by simp)).text
    observationIds := by
      have listed : Reordered (.list (first.observationIds.map .str))
          (.list (second.observationIds.map .str)) :=
        field "observation_ids" (by simp) (by simp)
      have read := congrArg Json.texts? (listed.texts _ rfl)
      rw [Json.texts?_map_str, Json.texts?_map_str] at read
      exact (Option.some.inj read).symm
    before := field "before" (by simp) (by simp)
    after := field "after" (by simp) (by simp)
    semanticDiff := field "semantic_diff" (by simp) (by simp)
    previousHash := (field "previous_hash" (by simp) (by simp)).text?
    hash := hash }

theorem SameSealed.bodies {first second : CommitRecord} (same : SameSealed first second) :
    Reordered (commitBody first) (commitBody second) := by
  unfold commitBody
  rw [same.commitId, same.tenantId, same.parentCommitId, same.entityType, same.entityId, same.cause,
    same.observationIds, same.previousHash]
  refine .of_values [] ?_
  simp only [List.forall₂_cons, List.forall₂_nil_left_iff, true_and, and_true]
  exact ⟨.same _, .same _, .same _, .same _, .same _, .same _, .same _, same.before, same.after,
    same.semanticDiff, .same _⟩

theorem SameEvent.of_bodies {first second : ActionEventRecord}
    (related : Reordered (eventBody first) (eventBody second))
    (eventHash : first.eventHash = second.eventHash) : SameEvent first second := by
  unfold eventBody at related
  have field (key : Text) {value other : Json} := @Reordered.field _ _ related (by simp) key value other
  exact {
    eventId := (field "event_id" (by simp) (by simp)).text
    tenantId := (field "tenant_id" (by simp) (by simp)).text
    actionId := (field "action_id" (by simp) (by simp)).text
    eventType := (field "event_type" (by simp) (by simp)).text
    actorRole := (field "actor_role" (by simp) (by simp)).text
    payload := field "payload" (by simp) (by simp)
    previousEventHash := (field "previous_event_hash" (by simp) (by simp)).text?
    eventHash := eventHash }

theorem SameEvent.bodies {first second : ActionEventRecord} (same : SameEvent first second) :
    Reordered (eventBody first) (eventBody second) := by
  unfold eventBody
  rw [same.eventId, same.tenantId, same.actionId, same.eventType, same.actorRole,
    same.previousEventHash]
  refine .of_values [] ?_
  simp only [List.forall₂_cons, List.forall₂_nil_left_iff, true_and, and_true]
  exact ⟨.same _, .same _, .same _, .same _, .same _, same.payload, .same _⟩

/-- Two linked lists of records with one newest hash have the same bodies. The hash of a body
names the hash before it, so the induction goes from the newest to the oldest. -/
theorem sealed_determined {rt : Runtime} {R : Type} {previous : R -> Option Text} {hash : R -> Text}
    {body : R -> Json} {same : R -> R -> Prop} {firsts seconds : List R}
    (separates : HashSeparates rt body firsts seconds)
    (linked : Linked previous hash (SealedBy rt hash body) none firsts)
    (linked' : Linked previous hash (SealedBy rt hash body) none seconds)
    (newest : firsts.getLast?.map hash = seconds.getLast?.map hash)
    (of_bodies : forall first second, Reordered (body first) (body second) ->
      hash first = hash second -> same first second ∧ previous first = previous second) :
    List.Forall₂ same firsts seconds := by
  apply Linked.determined previous hash _ linked linked'
  · intro first member second member' genuine genuine' equal
    refine of_bodies first second ?_ equal
    exact separates first member second member' (hash first) genuine (equal ▸ genuine')
  · unfold headAfter
    rw [newest]

end Bodies

/-! ## The two kinds of chain -/

/-- Accepted chains of commits with one newest hash are equal in every field exactly
when they agree on the assurance levels, which no hash covers. -/
theorem commit_chain_pinned_iff (rt : Runtime) {firsts seconds : List CommitRecord}
    (separates : HashSeparates rt commitBody firsts seconds)
    (accepted : validateCommitChain rt firsts = .ok ())
    (accepted' : validateCommitChain rt seconds = .ok ())
    (newest : firsts.getLast?.map CommitRecord.hash = seconds.getLast?.map CommitRecord.hash) :
    List.Forall₂ SameCommit firsts seconds <->
      firsts.map CommitRecord.assuranceLevel = seconds.map CommitRecord.assuranceLevel := by
  have sealed : List.Forall₂ SameSealed firsts seconds :=
    sealed_determined separates ((validateCommitChain_ok_iff rt firsts).mp accepted)
      ((validateCommitChain_ok_iff rt seconds).mp accepted') newest (fun _ _ related equal =>
        have same := SameSealed.of_bodies related equal
        ⟨same, same.previousHash⟩)
  rw [← List.forall₂_eq_eq_eq, List.forall₂_map_left_iff, List.forall₂_map_right_iff]
  constructor
  · exact fun equal => equal.imp (fun _ _ same => same.assuranceLevel)
  · exact fun levels => sealed.mp (fun _ _ same level => ⟨same, level⟩) levels

/-- Accepted chains of events with one newest hash are equal in every field. Payloads are
equal up to the order of keys, which the hash does not see. -/
theorem event_chain_pinned (rt : Runtime) {firsts seconds : List ActionEventRecord}
    (separates : HashSeparates rt eventBody firsts seconds)
    (accepted : validateEventChain rt firsts = .ok ())
    (accepted' : validateEventChain rt seconds = .ok ())
    (newest : firsts.getLast?.map ActionEventRecord.eventHash =
      seconds.getLast?.map ActionEventRecord.eventHash) :
    List.Forall₂ SameEvent firsts seconds :=
  sealed_determined separates ((validateEventChain_ok_iff rt firsts).mp accepted)
    ((validateEventChain_ok_iff rt seconds).mp accepted') newest (fun _ _ related equal =>
      have same := SameEvent.of_bodies related equal
      ⟨same, same.previousEventHash⟩)

/-! ## One order, written with its keys in two orders -/

def sampleContents : List (Text × Json) := [("id", .str "1001"), ("status", .str "open")]

/-- A commit whose hash is that of its body, after another commit or as the first one. -/
def sampleSealed (commitId : Text) (previous : Option CommitRecord) (contents : List (Text × Json)) :
    CommitRecord :=
  let commit : CommitRecord := {
    commitId
    tenantId := "demo"
    parentCommitId := previous.map CommitRecord.commitId
    entityType := "order"
    entityId := "1001"
    cause := "observation"
    observationIds := ["obs_shopify_1001"]
    before := Dict.empty
    after := Dict.ofList contents
    semanticDiff := Dict.empty
    assuranceLevel := "observed"
    previousHash := previous.map CommitRecord.hash
    hash := "" }
  { commit with hash := ((hashJson .plain (commitBody commit)).toOption).getD "" }

/-- Two commits in a chain, with their contents written in one order of keys. -/
def sampleChain (contents : List (Text × Json)) : List CommitRecord :=
  let root := sampleSealed "cmt_1" none contents
  [root, sampleSealed "cmt_2" (some root) contents]

def sampleSealedEvent (eventId eventType : Text) (previous : Option ActionEventRecord)
    (contents : List (Text × Json)) : ActionEventRecord :=
  let event : ActionEventRecord := {
    eventId
    tenantId := "demo"
    actionId := "act_1"
    eventType
    actorRole := "verifier"
    payload := Dict.ofList contents
    previousEventHash := previous.map ActionEventRecord.eventHash
    eventHash := "" }
  { event with eventHash := ((hashJson .plain (eventBody event)).toOption).getD "" }

/-- Two events in a chain, with their payloads written in one order of keys. -/
def sampleLog (contents : List (Text × Json)) : List ActionEventRecord :=
  let root := sampleSealedEvent "evt_1" "verification_pending" none contents
  [root, sampleSealedEvent "evt_2" "verified" (some root) contents]

theorem sampleContents_reordered :
    SameObject (Dict.ofList sampleContents) (Dict.ofList sampleContents.reverse) := by
  have forwards : (Dict.ofList sampleContents).entries = sampleContents := by decide +kernel
  have backwards : (Dict.ofList sampleContents.reverse).entries = sampleContents.reverse := by
    decide +kernel
  unfold SameObject
  rw [forwards, backwards]
  exact .permuted (List.reverse_perm sampleContents).symm

theorem sampleChain_accepted :
    validateCommitChain .plain (sampleChain sampleContents) = .ok () ∧
      validateCommitChain .plain (sampleChain sampleContents.reverse) = .ok () ∧
      (sampleChain sampleContents).map CommitRecord.hash =
        (sampleChain sampleContents.reverse).map CommitRecord.hash := by
  decide +kernel

/-- The commits of the two chains at one position are the same up to the order of keys. -/
theorem sampleSealed_same (commitId : Text) (previous previous' : Option CommitRecord)
    (parents : previous.map CommitRecord.commitId = previous'.map CommitRecord.commitId)
    (hashes : previous.map CommitRecord.hash = previous'.map CommitRecord.hash)
    (equal : (sampleSealed commitId previous sampleContents).hash =
      (sampleSealed commitId previous' sampleContents.reverse).hash) :
    SameSealed (sampleSealed commitId previous sampleContents)
      (sampleSealed commitId previous' sampleContents.reverse) where
  commitId := rfl
  tenantId := rfl
  parentCommitId := parents
  entityType := rfl
  entityId := rfl
  cause := rfl
  observationIds := rfl
  before := .same _
  after := sampleContents_reordered
  semanticDiff := .same _
  previousHash := hashes
  hash := equal

/-- It is enough that no two different bodies have one hash. Bodies that are equal up to the
order of keys may share it. -/
theorem separates_of_apart {rt : Runtime} {R : Type} {body : R -> Json} {firsts seconds : List R}
    (apart : forall first, first ∈ firsts -> forall second, second ∈ seconds ->
      hashJson rt (body first) = hashJson rt (body second) -> body first = body second) :
    HashSeparates rt body firsts seconds := by
  intro first member second member' hash hashed hashed'
  rw [apart first member second member' (hashed.trans hashed'.symm)]
  exact .same _

/-- Two chains of two records, whose bodies are related position by position and hashed apart
across the positions. -/
theorem separates_pair {rt : Runtime} {R : Type} {body : R -> Json} {first second first' second' : R}
    (related : Reordered (body first) (body first'))
    (related' : Reordered (body second) (body second'))
    (apart : (hashJson rt (body first)).toOption ≠ (hashJson rt (body second')).toOption)
    (apart' : (hashJson rt (body second)).toOption ≠ (hashJson rt (body first')).toOption) :
    HashSeparates rt body [first, second] [first', second'] := by
  intro one member other member' hash hashed hashed'
  simp only [List.mem_cons, List.not_mem_nil, or_false] at member member'
  rcases member with rfl | rfl
  · rcases member' with rfl | rfl
    · exact related
    · exact absurd (by rw [hashed, hashed']) apart
  · rcases member' with rfl | rfl
    · exact absurd (by rw [hashed, hashed']) apart'
    · exact related'

theorem commit_chain_pinned_sample :
    List.Forall₂ SameCommit (sampleChain sampleContents) (sampleChain sampleContents.reverse) := by
  rcases sampleChain_accepted with ⟨accepted, accepted', hashes⟩
  rcases List.cons.inj hashes with ⟨roots, rest⟩
  have root := sampleSealed_same "cmt_1" none none rfl rfl roots
  have newest := sampleSealed_same "cmt_2" (some _) (some _) rfl (congrArg some roots)
    (List.cons.inj rest).1
  have separates : HashSeparates .plain commitBody (sampleChain sampleContents)
      (sampleChain sampleContents.reverse) :=
    separates_pair root.bodies newest.bodies (by decide +kernel) (by decide +kernel)
  exact (commit_chain_pinned_iff .plain separates accepted accepted'
    (congrArg some (List.cons.inj rest).1)).mpr rfl

/-- The same commit with the highest assurance level. Its hash is the old one, as the level
is no part of the body. -/
def raised (commit : CommitRecord) : CommitRecord := { commit with assuranceLevel := "verified" }

theorem raised_body (commit : CommitRecord) : commitBody (raised commit) = commitBody commit := rfl

theorem raised_hash (commit : CommitRecord) : (raised commit).hash = commit.hash := rfl

/-- A commit that is a whole chain. -/
def soleCommit : CommitRecord := sampleSealed "cmt_1" none sampleContents

/-- The assurance level of an accepted commit can be raised without a trace. The chain is
accepted as before, under the same hashes. -/
theorem assurance_level_unsealed :
    HashSeparates .plain commitBody [soleCommit] [raised soleCommit] ∧
      validateCommitChain .plain [soleCommit] = .ok () ∧
      validateCommitChain .plain [raised soleCommit] = .ok () ∧
      soleCommit.hash = (raised soleCommit).hash ∧
      ¬ List.Forall₂ SameCommit [soleCommit] [raised soleCommit] := by
  refine ⟨?_, by decide +kernel, by decide +kernel, (raised_hash _).symm, ?_⟩
  · refine separates_of_apart (fun first member second member' _ => ?_)
    rw [List.mem_singleton.mp member, List.mem_singleton.mp member', raised_body]
  · intro same
    cases same with
    | cons equal _ =>
        have levels : ("observed" : Text) = "verified" := equal.assuranceLevel
        exact absurd levels (by decide)

theorem sampleLog_accepted :
    validateEventChain .plain (sampleLog sampleContents) = .ok () ∧
      validateEventChain .plain (sampleLog sampleContents.reverse) = .ok () ∧
      (sampleLog sampleContents).map ActionEventRecord.eventHash =
        (sampleLog sampleContents.reverse).map ActionEventRecord.eventHash := by
  decide +kernel

/-- The events of the two logs at one position are the same up to the order of keys. -/
theorem sampleSealedEvent_same (eventId eventType : Text) (previous previous' : Option ActionEventRecord)
    (hashes : previous.map ActionEventRecord.eventHash = previous'.map ActionEventRecord.eventHash)
    (equal : (sampleSealedEvent eventId eventType previous sampleContents).eventHash =
      (sampleSealedEvent eventId eventType previous' sampleContents.reverse).eventHash) :
    SameEvent (sampleSealedEvent eventId eventType previous sampleContents)
      (sampleSealedEvent eventId eventType previous' sampleContents.reverse) where
  eventId := rfl
  tenantId := rfl
  actionId := rfl
  eventType := rfl
  actorRole := rfl
  payload := sampleContents_reordered
  previousEventHash := hashes
  eventHash := equal

theorem event_chain_pinned_sample :
    List.Forall₂ SameEvent (sampleLog sampleContents) (sampleLog sampleContents.reverse) := by
  rcases sampleLog_accepted with ⟨accepted, accepted', hashes⟩
  rcases List.cons.inj hashes with ⟨roots, rest⟩
  have root := sampleSealedEvent_same "evt_1" "verification_pending" none none rfl roots
  have newest := sampleSealedEvent_same "evt_2" "verified" (some _) (some _) (congrArg some roots)
    (List.cons.inj rest).1
  have separates : HashSeparates .plain eventBody (sampleLog sampleContents)
      (sampleLog sampleContents.reverse) :=
    separates_pair root.bodies newest.bodies (by decide +kernel) (by decide +kernel)
  exact event_chain_pinned .plain separates accepted accepted' (congrArg some (List.cons.inj rest).1)

end RealityGit
end RealityLayer
