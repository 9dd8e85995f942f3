import RealityLayer.RealityGit.Acceptance
import RealityLayer.WorldState.Calls
import RealityLayer.WorldState.History

namespace RealityLayer
namespace WorldState

open Foundation Python RealityGit WorldStateService

/-!
# Compiling one reading

A reading that is new and has a timezone is projected, merged into the held attributes
and, when that changes something, committed.  The commit goes through exactly when its
contents can be hashed.  In a `Linkable` service nothing else can stop it: the head's
identifier and hash are always fit to be written into the next commit.

`Compiled` is the result, indexed by whether the commit goes through.
-/

/-! ## Projecting -/

/-- The attribute a reading projects to, under a freshness label. -/
def projectedAttribute (observation : Observation) (freshness name : Text) (value : Json) :
    StateAttribute where
  value := value
  confidence := projectedConfidence name
  observedAt := observation.observedAt
  freshness := freshness
  sourceObservationIds := [observation.observationId]
  connector := some observation.connector

/-- A reading projected under a label. -/
def projectedReading (observation : Observation) (label : Text) : Dict Text StateAttribute :=
  observation.payload.mapValues (projectedAttribute observation label)

/-- The label a clock gives to a reading of an instant. -/
def freshnessLabel (draws : Draws) (observed : Int) : Text :=
  if draws.clock 0 - observed ≤ freshnessWindow then "fresh" else "stale"

theorem project_eq (draws : Draws) {observation : Observation} {observed : Int}
    (aware : observation.observedAt.instant? = some observed) :
    project draws observation =
      .ok (projectedReading observation (freshnessLabel draws observed)) := by
  unfold project
  rw [aware]
  rfl

theorem project_naive (draws : Draws) {observation : Observation}
    (naive : observation.observedAt.instant? = none) :
    Exists fun error : PyError => project draws observation = .error error := by
  unfold project
  rw [naive]
  exact ⟨_, rfl⟩

/-- Only a reading with a timezone is projected. -/
theorem aware_of_project {draws : Draws} {observation : Observation} {incoming : Dict Text StateAttribute}
    (projected : project draws observation = .ok incoming) :
    Exists fun observed : Int => observation.observedAt.instant? = some observed := by
  cases aware : observation.observedAt.instant? with
  | some observed => exact ⟨observed, rfl⟩
  | none =>
      rcases project_naive draws aware with ⟨error, refused⟩
      rw [refused] at projected
      cases projected

theorem project_ok {draws : Draws} {observation : Observation} {incoming : Dict Text StateAttribute}
    (projected : project draws observation = .ok incoming) :
    Exists fun label : Text => incoming = projectedReading observation label := by
  rcases aware_of_project projected with ⟨observed, aware⟩
  rw [project_eq draws aware] at projected
  cases projected
  exact ⟨freshnessLabel draws observed, rfl⟩

/-! ## Merging -/

/-- A held attribute is fresh, differs from a reading, and came from elsewhere. A value that
nobody reported disputes nothing. -/
def disputesReading (held : Dict Text StateAttribute) (observation : Observation)
    (entry : Text × Json) : Bool :=
  (held.get? entry.1).any (fun existing =>
    disputes existing (projectedAttribute observation "" entry.1 entry.2))

theorem disputed?_projected (held : Dict Text StateAttribute) (observation : Observation)
    (label : Text) (entry : Text × Json) :
    (disputed? held (entry.1, projectedAttribute observation label entry.1 entry.2)).isSome =
      disputesReading held observation entry := by
  unfold disputed? disputesReading
  cases held.get? entry.1 with
  | none => rfl
  | some existing =>
      rw [Option.filter_some, Option.any_some]
      change (if disputes existing (projectedAttribute observation "" entry.1 entry.2) = true
        then some existing else none).isSome = _
      cases disputes existing (projectedAttribute observation "" entry.1 entry.2) with
      | true => rfl
      | false => rfl

/-- A name ends with what was merged into before, unless an undisputed attribute comes in. -/
theorem get?_mergeAttributes (held : Dict Text StateAttribute) (name : Text)
    (entries : List (Text × StateAttribute)) (distinct : (entries.map Prod.fst).Nodup)
    (merged : Dict Text StateAttribute) :
    (mergeAttributes held entries merged).get? name =
      match Dict.lookup name entries with
      | none => merged.get? name
      | some attr => if (disputed? held (name, attr)).isSome then merged.get? name else some attr := by
  induction entries generalizing merged with
  | nil => rfl
  | cons entry rest ih =>
      have parts := List.nodup_cons.mp distinct
      rw [mergeAttributes, Dict.lookup]
      by_cases same : entry.1 = name
      · have later : Dict.lookup name rest = none := by
          cases found : Dict.lookup name rest with
          | none => rfl
          | some attr =>
              have member := List.mem_map_of_mem (f := Prod.fst) (Dict.mem_of_lookup found)
              exact absurd (same ▸ member) parts.1
        rw [if_pos same]
        cases disputed : disputed? held entry with
        | some existing =>
            rw [ih parts.2, later]
            subst same
            simp only [disputed, Option.isSome_some, if_true]
        | none =>
            rw [ih parts.2, later]
            subst same
            simp only [disputed, Option.isSome_none, Bool.false_eq_true, if_false, Dict.get?_set_self]
      · rw [if_neg same]
        cases disputed? held entry with
        | some existing => exact ih parts.2 merged
        | none =>
            dsimp only
            rw [ih parts.2, Dict.get?_set_of_ne _ _ (Ne.symm same)]

/-! ## Labels and hashing -/

/-- Every label can be encoded. -/
def Labelled (attributes : Dict Text StateAttribute) : Prop :=
  forall name attr, attributes.get? name = some attr -> attr.freshness.encodable = true

theorem freshnessLabel_encodable (draws : Draws) (observed : Int) :
    (freshnessLabel draws observed).encodable = true := by
  unfold freshnessLabel
  split
  · exact Text.encodable_ofString "fresh"
  · exact Text.encodable_ofString "stale"

theorem labelled_mergeAttributes {held : Dict Text StateAttribute} (observation : Observation)
    {label : Text} (encodable : label.encodable = true) (entries : List (Text × Json))
    {merged : Dict Text StateAttribute} (labelled : Labelled merged) :
    Labelled (mergeAttributes held (entries.map (fun entry =>
      (entry.1, projectedAttribute observation label entry.1 entry.2))) merged) := by
  induction entries generalizing merged with
  | nil => exact labelled
  | cons entry rest ih =>
      rw [List.map_cons, mergeAttributes]
      split
      · exact ih labelled
      · refine ih (fun name attr stored => ?_)
        rw [Dict.get?_set] at stored
        by_cases same : name = entry.1
        · rw [if_pos same] at stored
          cases stored
          exact encodable
        · rw [if_neg same] at stored
          exact labelled name attr stored

section Hashing

variable (rt : Runtime)

/-- What hashing asks of the entries of an object. Their order does not matter to it. -/
def hashableEntries (entries : List (Text × Json)) : Bool :=
  Json.finiteEntries entries && encodableEntries rt entries

/-- What hashing a commit asks of its request. -/
def CommitRequest.hashable (request : CommitRequest) : Bool :=
  request.tenantId.encodable && request.entityType.encodable && request.entityId.encodable &&
    request.cause.encodable && request.observationIds.all Text.encodable &&
    hashableEntries rt request.before.entries && hashableEntries rt request.after.entries &&
    hashableEntries rt request.semanticDiff.entries

theorem hashable_commitDocument (request : CommitRequest) {commitId : Text}
    {parentCommitId previousHash : Option Text} (named : commitId.encodable = true)
    (parent : parentCommitId.all Text.encodable = true)
    (previous : previousHash.all Text.encodable = true) :
    RealityGit.hashable rt (commitDocument request commitId parentCommitId previousHash) =
      request.hashable rt := by
  unfold RealityGit.hashable commitDocument CommitRequest.hashable hashableEntries
  simp only [Json.finite, Json.finiteEntries, encodableJson, encodableEntries, Json.finiteList_map_str,
    Json.finite_ofText?, encodableJson_ofText?, encodableItems_str, named, parent, previous, Text.encodable_ofString,
    Bool.true_and, Bool.and_true]
  ac_rfl

end Hashing

/-! ## Committing -/

theorem newCommitId_encodable (draws : Draws) : (newCommitId draws).encodable = true := by
  unfold newCommitId
  rw [Text.encodable_append, Text.encodable_ofString, draws.hex16_encodable, Bool.and_self]

/-- SHA-256 digests are written in encodable characters. They are part of what the next
commit hashes. -/
def DigestsEncodable (rt : Runtime) : Prop := forall text, (rt.sha256 text).encodable = true

theorem plain_digestsEncodable : DigestsEncodable .plain :=
  fun _ => numeral_scalar (ofNat_numeral _)

/-- Labels and heads can be written into the next commit of any tenant. It is the part of a
service that a commit copies without the caller having any say in it. -/
structure Linkable (service : WorldStateService) : Prop where
  labels : forall key state, service.states.get? key = some state -> Labelled state.attributes
  parent : forall tenantId, (service.latestCommit.get? tenantId).all Text.encodable = true
  previous : forall tenantId, Exists fun hash : Option Text =>
    service.latestHash tenantId = .ok hash ∧ hash.all Text.encodable = true

theorem Linkable.fresh : Linkable .fresh where
  labels := by
    intro key state stored
    cases stored
  parent := fun _ => rfl
  previous := fun _ => ⟨none, rfl, rfl⟩

section Linked

variable {rt : Runtime} {service after : WorldStateService}

/-- In a linkable service a commit is created exactly for a hashable request. -/
theorem Linkable.createCommit (rt : Runtime) (linkable : Linkable service) (draws : Draws)
    (request : CommitRequest) :
    (service.createCommit rt draws request).result.toBool = request.hashable rt := by
  rcases linkable.previous request.tenantId with ⟨hash, latest, encodable⟩
  have accepted := hashable_commitDocument rt request (newCommitId_encodable draws)
    (linkable.parent request.tenantId) encodable
  unfold WorldStateService.createCommit
  rw [latest]
  dsimp only
  cases hashed : hashJson rt (commitDocument request (newCommitId draws)
      (service.latestCommit.get? request.tenantId) hash) with
  | ok sealed =>
      rw [← accepted, ((hashJson_ok_iff _ _).mp hashed).1]
      rfl
  | error cause =>
      rw [← accepted]
      cases refused : RealityGit.hashable rt (commitDocument request (newCommitId draws)
          (service.latestCommit.get? request.tenantId) hash) with
      | false => rfl
      | true =>
          rcases hashJson_ok_of_hashable refused with ⟨sealed, same⟩
          rw [hashed] at same
          cases same

/-- A created commit answers a hashable request. -/
theorem Linkable.answered (linkable : Linkable service) {draws : Draws} {request : CommitRequest}
    {commit : CommitRecord} (continues : Continues rt service commit)
    (answers : Answers request draws commit) : request.hashable rt = true := by
  rcases linkable.previous commit.tenantId with ⟨hash, latest, encodable⟩
  cases Except.ok.inj (latest.symm.trans continues.previous)
  have parent := linkable.parent commit.tenantId
  rw [← continues.parent] at parent
  have document : commitBody commit =
      commitDocument request (newCommitId draws) commit.parentCommitId commit.previousHash := by
    unfold commitBody commitDocument
    rw [answers.commitId, answers.tenantId, answers.entityType, answers.entityId, answers.cause,
      answers.observationIds, answers.before, answers.after, answers.semanticDiff]
  have accepted := ((hashJson_ok_iff _ _).mp continues.genuine).1
  rw [document, hashable_commitDocument rt request (newCommitId_encodable draws) parent encodable]
    at accepted
  exact accepted

theorem latestHash_congr {tenantId : Text}
    (head : after.latestCommit.get? tenantId = service.latestCommit.get? tenantId)
    (commits : forall commitId, after.commits.get? (tenantId, commitId) =
      service.commits.get? (tenantId, commitId)) :
    after.latestHash tenantId = service.latestHash tenantId := by
  unfold WorldStateService.latestHash
  rw [head]
  simp only [commits]

theorem sealed_hash_encodable {commit : CommitRecord} (digests : DigestsEncodable rt)
    (genuine : SealedCommit rt commit) : commit.hash.encodable = true := by
  have sealed := ((hashJson_ok_iff _ _).mp genuine).2
  rw [sealed, Text.encodable_append, Text.encodable_ofString, digests]
  rfl

theorem Linkable.step {draws : Draws} {entry : Option CommitRecord} (linkable : Linkable service)
    (digests : DigestsEncodable rt) (effect : CommitEffect rt service (newCommitId draws) entry after)
    (labels : forall key state, after.states.get? key = some state -> Labelled state.attributes) :
    Linkable after := by
  refine ⟨labels, ?_, ?_⟩
  · intro tenantId
    cases effect with
    | quiet _ commits head => exact head ▸ linkable.parent tenantId
    | committed commit _ continues named commits head =>
        rw [head, record, Dict.get?_set]
        split
        · rw [named]
          exact newCommitId_encodable draws
        · exact linkable.parent tenantId
  · intro tenantId
    cases effect with
    | quiet _ commits head =>
        have kept : after.latestHash tenantId = service.latestHash tenantId :=
          latestHash_congr (by rw [head]) (fun commitId => by rw [commits])
        exact kept ▸ linkable.previous tenantId
    | committed commit _ continues named commits head =>
        by_cases same : tenantId = commit.tenantId
        · subst same
          refine ⟨some commit.hash, ?_, ?_⟩
          · unfold WorldStateService.latestHash
            have known : after.latestCommit.get? commit.tenantId = some commit.commitId := by
              rw [head, record, Dict.get?_set_self]
            have found : after.commits.get? (commit.tenantId, commit.commitId) = some commit := by
              rw [commits, record, Dict.get?_set_self]
            have nonempty : commit.commitId ≠ "" := named ▸ newCommitId_nonempty draws
            rw [known, truthy?, Option.filter_some, if_pos (decide_eq_true nonempty)]
            simp only [found]
          · rw [Option.all_some, sealed_hash_encodable digests continues.genuine]
        · have kept : after.latestHash tenantId = service.latestHash tenantId := by
            refine latestHash_congr ?_ (fun commitId => ?_)
            · rw [head, record, Dict.get?_set_of_ne _ _ same]
            · rw [commits, record, Dict.get?_set_of_ne]
              exact fun equal => same (congrArg Prod.fst equal)
          exact kept ▸ linkable.previous tenantId

end Linked

/-! ## Readings -/

/-- The attributes of a state that may be missing. -/
def heldAttributes (previous : Option OrderState) : Dict Text StateAttribute :=
  (previous.map OrderState.attributes).getD Dict.empty

theorem attributesFor_held (rt : Runtime) (previous : Option OrderState) :
    attributesFor rt previous = dumpAttributes rt (heldAttributes previous) := by
  cases previous with
  | none => rfl
  | some state => rfl

theorem heldAttributes_stored {previous : Option OrderState} {name : Text} {attr : StateAttribute}
    (held : (heldAttributes previous).get? name = some attr) :
    Exists fun state : OrderState => previous = some state ∧ state.attributes.get? name = some attr := by
  cases previous with
  | none => cases held
  | some state => exact ⟨state, rfl, held⟩

/-- After a reading, an entity holds what was read, unless the held value disputes it. -/
theorem get?_compiledAttributes (previous : Option OrderState) (observation : Observation)
    (label name : Text) :
    (compiledAttributes previous (projectedReading observation label)).get? name =
      match observation.payload.get? name with
      | none => (heldAttributes previous).get? name
      | some value =>
          if disputesReading (heldAttributes previous) observation (name, value)
          then (heldAttributes previous).get? name
          else some (projectedAttribute observation label name value) := by
  have reading : Dict.lookup name (projectedReading observation label).entries =
      (observation.payload.get? name).map (projectedAttribute observation label name) :=
    Dict.get?_mapValues observation.payload (projectedAttribute observation label) name
  refine (get?_mergeAttributes (heldAttributes previous) name _
    (projectedReading observation label).distinct _).trans ?_
  rw [reading]
  cases observation.payload.get? name with
  | none => rfl
  | some value =>
      rw [Option.map_some]
      dsimp only
      rw [disputed?_projected (heldAttributes previous) observation label (name, value)]
      rfl

/-- What holds of the held attributes and of the read ones holds of the compiled ones. -/
theorem compiledAttributes_all {property : Text -> StateAttribute -> Prop} {previous : Option OrderState}
    {observation : Observation} {label : Text} (held : (heldAttributes previous).All property)
    (read : forall name value, observation.payload.get? name = some value ->
      property name (projectedAttribute observation label name value)) :
    (compiledAttributes previous (projectedReading observation label)).All property := by
  intro name attr found
  rw [get?_compiledAttributes] at found
  split at found
  · exact held name attr found
  · rename_i value known
    split at found
    · exact held name attr found
    · cases found
      exact read name value known

/-- The attributes around a reading can be dumped, and its commit can be hashed.  A value
can be hashed and not dumped: hashing has no limit on the depth. -/
def compilable (rt : Runtime) (tenantId : Text) (observation : Observation)
    (cause assuranceLevel : Text) (previous : Option OrderState)
    (incoming : Dict Text StateAttribute) : Bool :=
  dumpsChange rt previous (compiledAttributes previous incoming) &&
    (ingestRequest rt tenantId observation cause assuranceLevel previous incoming).hashable rt

/-- The commit of a reading is asked for, and goes through. A reading that changes nothing
asks for none. -/
def commits (rt : Runtime) (tenantId : Text) (observation : Observation)
    (cause assuranceLevel : Text) (previous : Option OrderState)
    (incoming : Dict Text StateAttribute) : Bool :=
  (previous.isNone || !(ingestChanges rt previous incoming).isEmpty) &&
    compilable rt tenantId observation cause assuranceLevel previous incoming

section Reading

variable (rt : Runtime) (service : WorldStateService) (draws : Draws) (tenantId : Text)
variable (observation : Observation) (cause assuranceLevel : Text)

/-- What a new, projectable reading leaves, by whether its commit goes through. The conflicts
are recorded in both cases. -/
inductive Compiled (previous : Option OrderState) (incoming : Dict Text StateAttribute) :
    Bool -> Option CommitRecord -> WorldStateService -> Prop
  | kept : Compiled previous incoming false none
      (service.merged draws tenantId observation previous incoming)
  | committed (commit : CommitRecord)
      (answers : Answers
        (ingestRequest rt tenantId observation cause assuranceLevel previous incoming) draws commit) :
      Compiled previous incoming true (some commit)
        (((service.merged draws tenantId observation previous incoming).record commit).setState
          (tenantId, observation.objectType, observation.objectId)
          (compiledState tenantId observation previous incoming commit.commitId))

variable {rt service draws tenantId observation cause assuranceLevel}

theorem Linkable.merged (linkable : Linkable service) (draws : Draws) (tenantId : Text)
    (observation : Observation) (previous : Option OrderState)
    (incoming : Dict Text StateAttribute) :
    Linkable (service.merged draws tenantId observation previous incoming) := by
  have kept := merged_same service draws tenantId observation previous incoming
  refine ⟨?_, ?_, ?_⟩
  · rw [kept.states]
    exact linkable.labels
  · rw [kept.latestCommit]
    exact linkable.parent
  · intro other
    have latest : (service.merged draws tenantId observation previous incoming).latestHash other =
        service.latestHash other :=
      latestHash_congr (by rw [kept.latestCommit]; rfl) (fun commitId => by rw [kept.commits]; rfl)
    exact latest ▸ linkable.previous other

theorem commits_of_changes {previous : Option OrderState} {incoming : Dict Text StateAttribute}
    (changes : previous = none ∨ ingestChanges rt previous incoming ≠ []) :
    commits rt tenantId observation cause assuranceLevel previous incoming =
      compilable rt tenantId observation cause assuranceLevel previous incoming := by
  have asked : (previous.isNone || !(ingestChanges rt previous incoming).isEmpty) = true := by
    rcases changes with absent | changed
    · rw [absent]
      rfl
    · rw [Bool.eq_false_iff.mpr (fun empty => changed (List.isEmpty_iff.mp empty)), Bool.not_false,
        Bool.or_true]
  unfold commits
  rw [asked, Bool.true_and]

theorem compilable_of_undumped {previous : Option OrderState} {incoming : Dict Text StateAttribute}
    (undumpable : dumpsChange rt previous (compiledAttributes previous incoming) = false) :
    compilable rt tenantId observation cause assuranceLevel previous incoming = false := by
  unfold compilable
  rw [undumpable, Bool.false_and]

theorem compilable_of_dumped {previous : Option OrderState} {incoming : Dict Text StateAttribute}
    (dumped : dumpsChange rt previous (compiledAttributes previous incoming) = true) :
    compilable rt tenantId observation cause assuranceLevel previous incoming =
      (ingestRequest rt tenantId observation cause assuranceLevel previous incoming).hashable rt := by
  unfold compilable
  rw [dumped, Bool.true_and]

variable (rt cause assuranceLevel) in
/-- A new reading that can be projected is compiled. -/
theorem Linkable.compiled (linkable : Linkable service)
    (new : service.observations.contains (tenantId, observation.observationId) = false)
    {incoming : Dict Text StateAttribute} (projected : project draws observation = .ok incoming)
    {previous : Option OrderState}
    (stored : service.states.get? (tenantId, observation.objectType, observation.objectId) =
      previous) :
    Exists fun entry : Option CommitRecord =>
      CommitEffect rt service (newCommitId draws) entry
        (service.ingest rt draws tenantId observation cause assuranceLevel).state ∧
      Compiled rt service draws tenantId observation cause assuranceLevel previous incoming
        (commits rt tenantId observation cause assuranceLevel previous incoming) entry
        (service.ingest rt draws tenantId observation cause assuranceLevel).state := by
  have kept := merged_same service draws tenantId observation previous incoming
  have base := linkable.merged draws tenantId observation previous incoming
  have ingestion := ingest_ingestion rt service draws tenantId observation cause assuranceLevel
  rw [stored] at ingestion
  generalize service.ingest rt draws tenantId observation cause assuranceLevel = outcome at ingestion ⊢
  cases ingestion with
  | repeated state found known =>
      rw [new] at known
      cases known
  | stateless absent known =>
      rw [new] at known
      cases known
  | unprojected error unseen failed =>
      rw [projected] at failed
      cases failed
  | unchanged incoming' state found unseen projected' same =>
      cases projected.symm.trans projected'
      subst found
      have quiet : commits rt tenantId observation cause assuranceLevel (some state) incoming =
          false := by
        unfold commits
        rw [same]
        rfl
      rw [quiet]
      exact ⟨none, .quiet _ kept.commits kept.latestCommit, .kept⟩
  | undumped incoming' unseen projected' undumpable =>
      cases projected.symm.trans projected'
      unfold commits
      rw [compilable_of_undumped undumpable, Bool.and_false]
      exact ⟨none, .quiet _ kept.commits kept.latestCommit, .kept⟩
  | refused incoming' error unseen projected' changes failed dumped =>
      cases projected.symm.trans projected'
      rw [commits_of_changes changes, compilable_of_dumped dumped, ← base.createCommit rt draws, failed]
      exact ⟨none, .quiet _ kept.commits kept.latestCommit, .kept⟩
  | committed incoming' commit unseen projected' changes continues answers dumped =>
      cases projected.symm.trans projected'
      rw [commits_of_changes changes, compilable_of_dumped dumped, base.answered continues answers]
      refine ⟨some commit, .committed commit _
        (continues.of_same rt service kept.commits kept.latestCommit) answers.commitId ?_ ?_,
        .committed commit answers⟩
      · simp only [Outcome.returns_state, setState, record, kept.commits, seen]
      · simp only [Outcome.returns_state, setState, record, kept.latestCommit, seen]

theorem ingest_known
    (known : service.observations.contains (tenantId, observation.observationId) = true) :
    (service.ingest rt draws tenantId observation cause assuranceLevel).state = service := by
  unfold ingest
  dsimp only
  rw [if_pos known]
  split
  · rfl
  · rfl

theorem ingest_naive_raises
    (new : service.observations.contains (tenantId, observation.observationId) = false)
    (naive : observation.observedAt.instant? = none) :
    service.ingest rt draws tenantId observation cause assuranceLevel =
      .raises (service.seen tenantId observation)
        (.typeError "can't subtract offset-naive and offset-aware datetimes") := by
  unfold ingest project
  dsimp only
  rw [new, if_neg Bool.false_ne_true, naive]
  rfl

theorem ingest_naive
    (new : service.observations.contains (tenantId, observation.observationId) = false)
    (naive : observation.observedAt.instant? = none) :
    (service.ingest rt draws tenantId observation cause assuranceLevel).state =
      service.seen tenantId observation := by
  rw [ingest_naive_raises new naive]
  rfl

theorem Linkable.held (linkable : Linkable service) (key : Text × Text × Text) :
    Labelled (heldAttributes (service.states.get? key)) := by
  cases stored : service.states.get? key with
  | none =>
      intro name attr found
      cases found
  | some state => exact linkable.labels key state stored

/-- A compiled reading keeps all labels encodable. -/
theorem Compiled.labels {observed : Int} {accepted : Bool} {entry : Option CommitRecord}
    {after : WorldStateService} (linkable : Linkable service)
    (compiled : Compiled rt service draws tenantId observation cause assuranceLevel
      (service.states.get? (tenantId, observation.objectType, observation.objectId))
      (projectedReading observation (freshnessLabel draws observed)) accepted entry after) :
    forall key state, after.states.get? key = some state -> Labelled state.attributes := by
  have base := linkable.merged draws tenantId observation
    (service.states.get? (tenantId, observation.objectType, observation.objectId))
    (projectedReading observation (freshnessLabel draws observed))
  intro key state stored
  cases compiled with
  | kept => exact base.labels key state stored
  | committed commit answers =>
      rw [setState, Dict.get?_set] at stored
      by_cases same : key = (tenantId, observation.objectType, observation.objectId)
      · rw [if_pos same] at stored
        cases stored
        exact labelled_mergeAttributes observation (freshnessLabel_encodable draws observed)
          observation.payload.entries (linkable.held _)
      · rw [if_neg same] at stored
        exact base.labels key state stored

/-- Ingesting keeps a service linkable, whether it returns or raises. -/
theorem Linkable.ingest (linkable : Linkable service) (digests : DigestsEncodable rt) :
    Linkable (service.ingest rt draws tenantId observation cause assuranceLevel).state := by
  by_cases known : service.observations.contains (tenantId, observation.observationId) = true
  · rw [ingest_known known]
    exact linkable
  have new := Bool.eq_false_iff.mpr known
  cases aware : observation.observedAt.instant? with
  | none =>
      rw [ingest_naive new aware]
      exact ⟨linkable.labels, linkable.parent, linkable.previous⟩
  | some observed =>
      rcases linkable.compiled rt cause assuranceLevel new
        (project_eq draws aware) rfl with ⟨entry, effect, compiled⟩
      exact linkable.step digests effect (compiled.labels linkable)

end Reading

end WorldState
end RealityLayer
