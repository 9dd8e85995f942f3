import RealityLayer.Foundation.Chain
import RealityLayer.Foundation.Transition
import RealityLayer.RealityGit.Hashing
import RealityLayer.WorldState.Models

namespace RealityLayer
namespace WorldState

open Foundation Python RealityGit

/-!
# The World State service

The service compiles observations into entity states and writes a commit for each
change.  Its commits form one chain for each tenant: `latestCommit` is the head,
and every new commit takes the head's identifier as parent and the head's hash
as previous hash.

A conflict object is shared in the source between the map of open conflicts and
the map of all conflicts, and both see its updates.  Here the open map holds the
conflict's identifier, and the conflict itself is stored once.

`ingest` records the observation before it does anything else, so a call that
raises later still counts as seen.  The draws of a call are numbered: identifier 0
is the commit's, clock reading 0 belongs to the projection, and place `n + 1`
belongs to the `n`th attribute, in case its conflict has to be created.
-/

structure WorldStateService where
  observations : Dict (Text × Text) Observation
  states : Dict (Text × Text × Text) OrderState
  commits : Dict (Text × Text) CommitRecord
  latestCommit : Dict Text Text
  openConflicts : Dict (Text × Text × Text × Text) Text
  conflictsById : Dict (Text × Text) Conflict
deriving DecidableEq

/-- Python's truth value of an optional string: neither `None` nor empty. -/
def truthy? (text : Option Text) : Option Text := text.filter (fun text => text ≠ ("" : Text))

/-! ## Comparing attribute maps -/

/-- `_attribute_value` of an entry that may be missing. A dumped attribute gives its value,
and a missing one gives null. -/
def attributeValue : Option Json -> Json
  | none => .null
  | some (.dict entries) => (Dict.lookup ("value" : Text) entries).getD .null
  | some other => other

/-- Names without repetition, in the order of strings. -/
def sortedNames (names : List Text) : List Text :=
  names.insertionSort (fun first second => first.le second = true)

/-- `_diff`, as the list of changed attribute names. Only values are compared, so a new
source or label changes nothing. -/
def changedNames (before after : Dict Text Json) : List Text :=
  sortedNames ((before.keys ++ after.keys.filter (fun name => name ∉ before.keys)).filter
    (fun name =>
      !(attributeValue (before.get? name)).pyEq (attributeValue (after.get? name))))

def semanticDiff (changed : List Text) : Dict Text Json :=
  Dict.ofList [("attributes_changed", .list (changed.map .str))]

/-- `_attributes_for`. An entity without a state has no attributes. -/
def attributesFor (rt : Runtime) (state : Option OrderState) : Dict Text Json :=
  match state with
  | none => Dict.empty
  | some state => dumpAttributes rt state.attributes

/-- The attributes that are held, and those that follow them, can both be dumped. `ingest`
dumps the two maps before it compares them. -/
def dumpsChange (rt : Runtime) (previous : Option OrderState)
    (attributes : Dict Text StateAttribute) : Bool :=
  dumpsAll rt ((previous.map OrderState.attributes).getD Dict.empty) && dumpsAll rt attributes

/-- `str.capitalize` on ASCII words. -/
def capitalize (word : Text) : Text :=
  match word.codes with
  | [] => word
  | code :: rest =>
      ⟨(if 97 ≤ code ∧ code ≤ 122 then code - 32 else code) :: rest.map Text.lowerCode⟩

/-! ## Commits -/

/-- The arguments of `_create_commit`. The parent and the hashes are not among them: the
service supplies them. -/
structure CommitRequest where
  tenantId : Text
  entityType : Text
  entityId : Text
  cause : Text
  observationIds : List Text
  before : Dict Text Json
  after : Dict Text Json
  semanticDiff : Dict Text Json
  assuranceLevel : Text

/-- The record `_create_commit` hashes. The assurance level is not part of it. -/
def commitDocument (request : CommitRequest) (commitId : Text)
    (parentCommitId previousHash : Option Text) : Json :=
  .dict [
    ("commit_id", .str commitId),
    ("tenant_id", .str request.tenantId),
    ("parent_commit_id", .ofText? parentCommitId),
    ("entity_type", .str request.entityType),
    ("entity_id", .str request.entityId),
    ("cause", .str request.cause),
    ("observation_ids", .list (request.observationIds.map .str)),
    ("before", .dict request.before.entries),
    ("after", .dict request.after.entries),
    ("semantic_diff", .dict request.semanticDiff.entries),
    ("previous_hash", .ofText? previousHash)]

def newCommitId (draws : Draws) : Text := "cmt_" ++ draws.hex16 0

def newConflictId (draws : Draws) (place : Nat) : Text := "cnf_" ++ draws.hex16 (place + 1)

namespace WorldStateService

def fresh : WorldStateService where
  observations := Dict.empty
  states := Dict.empty
  commits := Dict.empty
  latestCommit := Dict.empty
  openConflicts := Dict.empty
  conflictsById := Dict.empty

/-- `_latest_hash`. A head without a stored commit raises, and an empty identifier counts as
no head. -/
def latestHash (service : WorldStateService) (tenantId : Text) : Except PyError (Option Text) :=
  match truthy? (service.latestCommit.get? tenantId) with
  | none => .ok none
  | some commitId =>
      match service.commits.get? (tenantId, commitId) with
      | none => .error (.keyError commitId)
      | some commit => .ok (some commit.hash)

/-- Store a commit and make it the head of its tenant's chain. A commit stored under the
identifier before is replaced. -/
def record (service : WorldStateService) (commit : CommitRecord) : WorldStateService :=
  { service with
    commits := service.commits.set (commit.tenantId, commit.commitId) commit
    latestCommit := service.latestCommit.set commit.tenantId commit.commitId }

/-- `_create_commit`. The parent is the head of the process, whatever the tables hold. -/
def createCommit (rt : Runtime) (service : WorldStateService) (draws : Draws)
    (request : CommitRequest) : Outcome PyError WorldStateService CommitRecord :=
  let parentCommitId := service.latestCommit.get? request.tenantId
  match service.latestHash request.tenantId with
  | .error error => .raises service error
  | .ok previousHash =>
      match hashJson rt (commitDocument request (newCommitId draws) parentCommitId previousHash) with
      | .error cause => .raises service (.hashing cause)
      | .ok hash =>
          let commit : CommitRecord := {
            commitId := newCommitId draws
            tenantId := request.tenantId
            parentCommitId, previousHash, hash
            entityType := request.entityType
            entityId := request.entityId
            cause := request.cause
            observationIds := request.observationIds
            before := request.before
            after := request.after
            semanticDiff := request.semanticDiff
            assuranceLevel := request.assuranceLevel }
          .returns (service.record commit) commit

/-! ## Conflicts -/

/-- The candidate an attribute stands for, named by `_last_observation_id`. Only its last
source is kept. -/
def candidateOf (attr : StateAttribute) : ConflictCandidate where
  value := attr.value
  connector := attr.connector
  observationId := attr.sourceObservationIds.getLast?
  observedAt := attr.observedAt
  confidence := attr.confidence

/-- Store a conflict under its identifier. The index of open conflicts is a different map. -/
def storeConflict (service : WorldStateService) (conflict : Conflict) : WorldStateService :=
  { service with
    conflictsById := service.conflictsById.set (conflict.tenantId, conflict.conflictId) conflict }

def openConflict? (service : WorldStateService) (tenantId entityType entityId name : Text) :
    Option Conflict :=
  (service.openConflicts.get? (tenantId, entityType, entityId, name)).bind (fun conflictId =>
    service.conflictsById.get? (tenantId, conflictId))

/-- `_record_conflict`. An open conflict about the attribute gets another candidate, unless
it lists an equal one of the same connector. -/
def recordConflict (service : WorldStateService) (draws : Draws) (place : Nat)
    (tenantId entityType entityId name : Text) (existing incoming : StateAttribute) :
    WorldStateService :=
  match service.openConflict? tenantId entityType entityId name with
  | some conflict =>
      if conflict.candidates.any (fun candidate =>
          decide (candidate.connector = incoming.connector) && candidate.value.pyEq incoming.value)
      then service
      else service.storeConflict
        { conflict with candidates := conflict.candidates ++ [candidateOf incoming] }
  | none =>
      let conflict : Conflict := {
        conflictId := newConflictId draws place
        tenantId, entityType, entityId
        attributeName := name
        candidates := [candidateOf existing, candidateOf incoming]
        detectedAt := .utc (draws.clock (place + 1)) }
      { service.storeConflict conflict with
        openConflicts := service.openConflicts.set (tenantId, entityType, entityId, name)
          conflict.conflictId }

/-! ## Ingesting an observation -/

/-- Five minutes, in microseconds. -/
def freshnessWindow : Int := 300000000

/-- 0.98 for the identifying attributes, 0.9 for all others. -/
def projectedConfidence (name : Text) : PyFloat :=
  if name ∈ (["id", "status"] : List Text) then ⟨0x3fef5c28f5c28f5c⟩ else ⟨0x3feccccccccccccd⟩

/-- `_project`. A naive time cannot be subtracted from the current one. All attributes of a
reading get the same label. -/
def project (draws : Draws) (observation : Observation) :
    Except PyError (Dict Text StateAttribute) :=
  match observation.observedAt.instant? with
  | none => .error (.typeError "can't subtract offset-naive and offset-aware datetimes")
  | some observed =>
      let freshness : Text :=
        if draws.clock 0 - observed ≤ freshnessWindow then "fresh" else "stale"
      .ok (observation.payload.mapValues (fun name value => {
        value
        confidence := projectedConfidence name
        observedAt := observation.observedAt
        freshness
        sourceObservationIds := [observation.observationId]
        connector := some observation.connector }))

/-- The held value differs, is fresh, and another connector reported it. Freshness is the
label it was given when it was ingested. -/
def disputes (existing incoming : StateAttribute) : Bool :=
  !existing.value.pyEq incoming.value && decide (existing.freshness = ("fresh" : Text)) &&
    existing.connector.isSome && decide (existing.connector ≠ incoming.connector)

/-- The held attribute that an incoming one disputes. -/
def disputed? (previous : Dict Text StateAttribute) (entry : Text × StateAttribute) :
    Option StateAttribute :=
  (previous.get? entry.1).filter (fun existing => disputes existing entry.2)

/-- What the loop over the incoming attributes does to the entity's attributes. A disputed
value is held back, and all others replace what is held. -/
def mergeAttributes (previous : Dict Text StateAttribute) :
    List (Text × StateAttribute) -> Dict Text StateAttribute -> Dict Text StateAttribute
  | [], attributes => attributes
  | entry :: rest, attributes =>
      match disputed? previous entry with
      | some _ => mergeAttributes previous rest attributes
      | none => mergeAttributes previous rest (attributes.set entry.1 entry.2)

/-- What the same loop does to the service. One identifier is drawn for each place of the
loop, used or not. -/
def recordConflicts (draws : Draws) (tenantId entityType entityId : Text)
    (previous : Dict Text StateAttribute) :
    Nat -> List (Text × StateAttribute) -> WorldStateService -> WorldStateService
  | _, [], service => service
  | place, entry :: rest, service =>
      recordConflicts draws tenantId entityType entityId previous (place + 1) rest
        (match disputed? previous entry with
          | some existing =>
              service.recordConflict draws place tenantId entityType entityId entry.1 existing entry.2
          | none => service)

/-- Put a state in place. -/
def setState (service : WorldStateService) (key : Text × Text × Text) (state : OrderState) :
    WorldStateService :=
  { service with states := service.states.set key state }

/-- The attributes an observation leads to, given the held state. -/
def compiledAttributes (previous : Option OrderState) (incoming : Dict Text StateAttribute) :
    Dict Text StateAttribute :=
  let held := (previous.map OrderState.attributes).getD Dict.empty
  mergeAttributes held incoming.entries held

/-- The state an observation leads to, given the held one. Its version follows that of the
held state, or is one. -/
def compiledState (tenantId : Text) (observation : Observation) (previous : Option OrderState)
    (incoming : Dict Text StateAttribute) (commitId : Text) : OrderState where
  tenantId := tenantId
  entityId := observation.objectType ++ ":" ++ observation.objectId
  entityType := capitalize observation.objectType
  stateVersion := (previous.map (fun state => state.stateVersion + 1)).getD 1
  attributes := compiledAttributes previous incoming
  commitId := commitId

/-- `ingest`.  The two dumps come after the conflicts are recorded and before the diff, so a
value that cannot be dumped leaves its conflict behind and reaches neither a state nor a
commit. -/
def ingest (rt : Runtime) (service : WorldStateService) (draws : Draws) (tenantId : Text)
    (observation : Observation) (cause assuranceLevel : Text) :
    Outcome PyError WorldStateService OrderState :=
  let stateKey := (tenantId, observation.objectType, observation.objectId)
  let previous := service.states.get? stateKey
  if service.observations.contains (tenantId, observation.observationId) then
    match previous with
    | some state => .returns service state
    | none => .raises service (.keyError observation.objectId)
  else
    let seen := { service with
      observations := service.observations.set (tenantId, observation.observationId) observation }
    match project draws observation with
    | .error error => .raises seen error
    | .ok incoming =>
        let merged := recordConflicts draws tenantId observation.objectType observation.objectId
          ((previous.map OrderState.attributes).getD Dict.empty) 0 incoming.entries seen
        if dumpsChange rt previous (compiledAttributes previous incoming) = false then
          .raises merged dumpRefusal
        else
          let before := attributesFor rt previous
          let after := dumpAttributes rt (compiledAttributes previous incoming)
          let changed := changedNames before after
          match previous.filter (fun _ => changed.isEmpty) with
          | some state => .returns merged state
          | none =>
              (merged.createCommit rt draws {
                tenantId
                entityType := observation.objectType
                entityId := observation.objectId
                cause
                observationIds := [observation.observationId]
                before
                after
                semanticDiff := semanticDiff changed
                assuranceLevel }).andThen (fun next commit =>
                  let state := compiledState tenantId observation previous incoming commit.commitId
                  .returns (next.setState stateKey state) state)

/-! ## Resolving a conflict -/

/-- `get_conflict`. -/
def getConflict (service : WorldStateService) (tenantId conflictId : Text) :
    Except PyError Conflict :=
  match service.conflictsById.get? (tenantId, conflictId) with
  | some conflict => .ok conflict
  | none => .error (.keyError ("Unknown conflict: " ++ conflictId))

def observationIdsOf (candidates : List ConflictCandidate) : List Text :=
  candidates.filterMap (fun candidate => truthy? candidate.observationId)

/-- `max` of the confidences, 0.95 when there is none. Python keeps the first of two equal ones. -/
def highestConfidence : List PyFloat -> PyFloat
  | [] => ⟨0x3fee666666666666⟩
  | first :: rest => rest.foldl (fun best next => if next.gt best then next else best) first

/-- The attribute an operator's resolution puts in place. It counts as reported by
`operator`, and as fresh from then on. -/
def resolvedAttribute (conflict : Conflict) (resolvedValue : Json) (now : Timestamp) :
    StateAttribute :=
  let agreeing := conflict.candidates.filter (fun candidate => candidate.value.pyEq resolvedValue)
  { value := resolvedValue
    confidence := highestConfidence (agreeing.map ConflictCandidate.confidence)
    observedAt := now
    freshness := "fresh"
    sourceObservationIds :=
      if (observationIdsOf agreeing).isEmpty then observationIdsOf conflict.candidates
      else observationIdsOf agreeing
    connector := some "operator" }

/-- Mark a conflict resolved, and close it. The place of its attribute in the index is
emptied, whatever stands there. -/
def closeConflict (service : WorldStateService) (tenantId : Text) (conflict : Conflict)
    (resolvedValue : Json) (resolvedBy reason : Text) (now : Timestamp) :
    Outcome PyError WorldStateService Conflict :=
  let resolved : Conflict := { conflict with
    status := "resolved"
    resolvedValue
    resolvedBy := some resolvedBy
    resolvedAt := some now
    resolutionReason := some reason }
  .returns { service.storeConflict resolved with
    openConflicts := service.openConflicts.erase
      (tenantId, conflict.entityType, conflict.entityId, conflict.attributeName) } resolved

/-- `resolve_conflict`. A resolved conflict is answered as it is. Without a state of the
entity there is no commit, and the conflict is closed all the same. -/
def resolveConflict (rt : Runtime) (service : WorldStateService) (draws : Draws)
    (tenantId conflictId : Text) (resolvedValue : Json) (resolvedBy reason : Text) :
    Outcome PyError WorldStateService Conflict :=
  match service.getConflict tenantId conflictId with
  | .error error => .raises service error
  | .ok conflict =>
      if conflict.status = ("resolved" : Text) then .returns service conflict
      else
        let now := Timestamp.utc (draws.clock 0)
        let stateKey := (tenantId, conflict.entityType, conflict.entityId)
        match service.states.get? stateKey with
        | none => service.closeConflict tenantId conflict resolvedValue resolvedBy reason now
        | some state =>
            let attr := resolvedAttribute conflict resolvedValue now
            let attributes := state.attributes.set conflict.attributeName attr
            if dumpsChange rt (some state) attributes = false then .raises service dumpRefusal
            else
              let before := attributesFor rt (some state)
              let after := dumpAttributes rt attributes
              (service.createCommit rt draws {
                tenantId
                entityType := conflict.entityType
                entityId := conflict.entityId
                cause := "conflict_resolved:" ++ conflict.conflictId
                observationIds := attr.sourceObservationIds
                before
                after
                semanticDiff := semanticDiff (changedNames before after)
                assuranceLevel := "operator_resolved" }).andThen (fun next commit =>
                  (next.setState stateKey { state with
                    tenantId
                    stateVersion := state.stateVersion + 1
                    attributes
                    commitId := commit.commitId }).closeConflict tenantId conflict resolvedValue
                      resolvedBy reason now)

/-! ## Hydrating from persisted records -/

/-- `hydrate_conflict`. A resolved record empties the place of its attribute, even when
another conflict stands there. -/
def hydrateConflict (service : WorldStateService) (conflict : Conflict) : WorldStateService :=
  let key := (conflict.tenantId, conflict.entityType, conflict.entityId, conflict.attributeName)
  if conflict.status = ("open" : Text) then
    { service.storeConflict conflict with
      openConflicts := service.openConflicts.set key conflict.conflictId }
  else { service.storeConflict conflict with openConflicts := service.openConflicts.erase key }

/-- More steps than a walk along stored commits can take. The walk stops at the first commit
that it meets again. -/
def walkBound (service : WorldStateService) : Nat := service.commits.entries.length + 1

/-- `_is_ancestor`. A commit counts as an ancestor of itself, and a missing commit ends the walk. -/
def isAncestor (service : WorldStateService) (tenantId candidateId descendantId : Text) : Bool :=
  walkMeets (fun commitId => service.commits.get? (tenantId, commitId)) CommitRecord.parentCommitId
    candidateId service.walkBound [] (some descendantId)

/-- The head that `hydrate` settles on for the state's tenant. It stays when the state's
commit lies behind it, and otherwise moves to the commit that is brought along. -/
def hydratedHead (service : WorldStateService) (state : OrderState) (parentCommitId : Option Text) :
    Text :=
  let hydrated := (truthy? parentCommitId).getD state.commitId
  match service.latestCommit.get? state.tenantId with
  | none => hydrated
  | some latest =>
      if service.isAncestor state.tenantId state.commitId latest then latest else hydrated

/-- The commit `hydrate` rebuilds from an identifier and a hash. Its body is empty, so its
hash is not the hash of what it says. -/
def hydratedCommit (state : OrderState) (commitId hash : Text) : CommitRecord where
  commitId := commitId
  tenantId := state.tenantId
  parentCommitId := none
  entityType := state.entityType.lower
  entityId := state.entityId.afterColon
  cause := "hydrated"
  observationIds := []
  before := Dict.empty
  after := Dict.empty
  semanticDiff := semanticDiff []
  assuranceLevel := "observed"
  previousHash := none
  hash := hash

/-- `hydrate`. The state replaces the held one without any comparison of versions, and the
rebuilt commit any stored one. -/
def hydrate (service : WorldStateService) (state : OrderState) (parentCommitId parentHash : Option Text) :
    WorldStateService :=
  let placed := service.setState
    (state.tenantId, state.entityType.lower, state.entityId.afterColon) state
  let headed := { placed with
    latestCommit := placed.latestCommit.set state.tenantId (service.hydratedHead state parentCommitId) }
  match truthy? parentCommitId, truthy? parentHash with
  | some commitId, some hash =>
      { headed with
        commits := headed.commits.set (state.tenantId, commitId) (hydratedCommit state commitId hash) }
  | _, _ => headed

/-! ## Reading the history -/

/-- The commits from a tenant's head back along the parents, oldest first. A parent that is
not stored ends it without an error. -/
def chainOf (service : WorldStateService) (tenantId : Text) : List CommitRecord :=
  (walkBack (fun commitId => service.commits.get? (tenantId, commitId)) CommitRecord.parentCommitId
    service.walkBound [] (service.latestCommit.get? tenantId)).reverse

/-- What follows the first commit with this identifier, if there is one. The cursor itself is
not delivered again. -/
def commitsAfter (commitId : Text) : List CommitRecord -> Option (List CommitRecord)
  | [] => none
  | commit :: rest => if commit.commitId = commitId then some rest else commitsAfter commitId rest

/-- `list_commits`.  A tenant without a head has no commits, whatever the cursor. -/
def listCommits (service : WorldStateService) (tenantId : Text) (sinceCommitId : Option Text) :
    Except PyError (List CommitRecord) :=
  match service.latestCommit.get? tenantId with
  | none => .ok []
  | some _ =>
      match sinceCommitId with
      | none => .ok (service.chainOf tenantId)
      | some commitId =>
          match commitsAfter commitId (service.chainOf tenantId) with
          | some commits => .ok commits
          | none => .error (.keyError ("Unknown commit: " ++ commitId))

end WorldStateService

end WorldState
end RealityLayer
