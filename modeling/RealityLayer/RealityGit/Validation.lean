import RealityLayer.Actions.Models
import RealityLayer.Foundation.Chain
import RealityLayer.RealityGit.Hashing
import RealityLayer.WorldState.Models

namespace RealityLayer
namespace RealityGit

open Foundation Python Actions WorldState

/-!
# Chain validation

Both validators run the same loop.  They compare each record's previous hash
with the hash of the record before it, rebuild the hashed body from the record's
fields, and compare the hashes.  `validateChain` is that loop for any kind of
record, and each validator instantiates it with its own fields and texts.

The loop accepts a list exactly when the list is linked in the sense of
`Foundation.Linked` and each record's hash is that of its body.  The bodies here
are the validator's own; the services build theirs separately.
-/

section Loop

variable (rt : Runtime) {R : Type} (kind : Text) (name : R -> Text)
variable (previous : R -> Option Text) (hash : R -> Text) (body : R -> Json)

def validateChain : Option Text -> List R -> Except PyError Unit
  | _, [] => .ok ()
  | previousHash, record :: rest =>
      if previous record ≠ previousHash then
        .error (.valueError (kind ++ " chain link mismatch at " ++ name record ++ "."))
      else
        match hashJson rt (body record) with
        | .error cause => .error (.hashing cause)
        | .ok expected =>
            if hash record ≠ expected then
              .error (.valueError (kind ++ " hash mismatch at " ++ name record ++ "."))
            else validateChain (some (hash record)) rest

/-- The record's stored hash is the hash of its body. A body that cannot be hashed seals nothing. -/
def SealedBy (record : R) : Prop := hashJson rt (body record) = .ok (hash record)

theorem validateChain_ok_iff (head : Option Text) (records : List R) :
    validateChain rt kind name previous hash body head records = .ok () <->
      Linked previous hash (SealedBy rt hash body) head records := by
  induction records generalizing head with
  | nil => simp [validateChain, Linked]
  | cons record rest ih =>
      rw [validateChain, Linked]
      by_cases linked : previous record = head
      · rw [if_neg (not_not.mpr linked)]
        cases hashed : hashJson rt (body record) with
        | error cause => simp [SealedBy, hashed]
        | ok expected =>
            by_cases same : hash record = expected
            · simp [SealedBy, hashed, same, linked, ← ih]
            · simp [SealedBy, hashed, same, Ne.symm same]
      · simp [linked]

end Loop

/-! ## The two validators -/

/-- The record `validate_commit_chain` hashes again. The assurance level is not in it, and
neither is the hash itself. -/
def commitBody (commit : CommitRecord) : Json :=
  .dict [
    ("commit_id", .str commit.commitId),
    ("tenant_id", .str commit.tenantId),
    ("parent_commit_id", .ofText? commit.parentCommitId),
    ("entity_type", .str commit.entityType),
    ("entity_id", .str commit.entityId),
    ("cause", .str commit.cause),
    ("observation_ids", .list (commit.observationIds.map .str)),
    ("before", .dict commit.before.entries),
    ("after", .dict commit.after.entries),
    ("semantic_diff", .dict commit.semanticDiff.entries),
    ("previous_hash", .ofText? commit.previousHash)]

/-- The record `validate_event_chain` hashes again. All fields of an event but its hash are
in it. -/
def eventBody (event : ActionEventRecord) : Json :=
  .dict [
    ("event_id", .str event.eventId),
    ("tenant_id", .str event.tenantId),
    ("action_id", .str event.actionId),
    ("event_type", .str event.eventType),
    ("actor_role", .str event.actorRole),
    ("payload", .dict event.payload.entries),
    ("previous_event_hash", .ofText? event.previousEventHash)]

/-- `validate_commit_chain`. The list is oldest first, and its first commit has no predecessor. -/
def validateCommitChain (rt : Runtime) (commits : List CommitRecord) : Except PyError Unit :=
  validateChain rt "Commit" CommitRecord.commitId CommitRecord.previousHash CommitRecord.hash
    commitBody none commits

/-- `validate_event_chain`. The list is oldest first, and its first event has no predecessor. -/
def validateEventChain (rt : Runtime) (events : List ActionEventRecord) : Except PyError Unit :=
  validateChain rt "Event" ActionEventRecord.eventId ActionEventRecord.previousEventHash
    ActionEventRecord.eventHash eventBody none events

abbrev SealedCommit (rt : Runtime) : CommitRecord -> Prop := SealedBy rt CommitRecord.hash commitBody

abbrev SealedEvent (rt : Runtime) : ActionEventRecord -> Prop :=
  SealedBy rt ActionEventRecord.eventHash eventBody

theorem validateCommitChain_ok_iff (rt : Runtime) (commits : List CommitRecord) :
    validateCommitChain rt commits = .ok () <->
      Linked CommitRecord.previousHash CommitRecord.hash (SealedCommit rt) none commits :=
  validateChain_ok_iff rt _ _ _ _ _ none commits

theorem validateEventChain_ok_iff (rt : Runtime) (events : List ActionEventRecord) :
    validateEventChain rt events = .ok () <->
      Linked ActionEventRecord.previousEventHash ActionEventRecord.eventHash (SealedEvent rt)
        none events :=
  validateChain_ok_iff rt _ _ _ _ _ none events

end RealityGit
end RealityLayer
