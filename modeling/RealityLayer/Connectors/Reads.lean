import RealityLayer.Connectors.Normalize
import RealityLayer.WorldState.Compiling

namespace RealityLayer
namespace Connectors

open Foundation Python RealityGit WorldState WorldStateService

/-!
# Provider reads in sequence

A connector gives an object's reads one observation identifier, made from the token of
the object's own identifier.  `ingest` takes an observation with a known identifier for
a repetition.  So the first read of an object is compiled and every later one is
dropped; and two objects whose identifiers become one token are taken for one.

`Retains` is what a sequence of reads must satisfy to lose nothing under this rule.
`Delivered` is the state of the service after a front of the sequence: the object's
attributes are those of its first read.
-/

/-- A payload that a connector accepts, with the time and the draws of its ingestion. The
observation is determined by the payload and the time, and is kept beside the fact that it
was accepted. -/
structure AcceptedRead (rt : Runtime) (fromisoformat : Text -> Except PyError Timestamp)
    (connector : Connector) where
  payload : Payload
  now : Int
  draws : Draws
  observation : Observation
  accepted : connector.normalize rt fromisoformat now payload = .ok observation

/-! ## The first read of an object -/

/-- The value of each attribute of a state. Labels, times and sources are left out of the
comparison with a read. -/
def stateValues (state : OrderState) : Dict Text Json :=
  state.attributes.mapValues (fun _ attr => attr.value)

section First

variable {rt : Runtime} {service : WorldStateService} {draws : Draws} {tenantId : Text}
variable {observation : Observation} {cause assuranceLevel : Text}

/-- A first observation of an object can be projected, its attributes can be dumped, and
`hash_json` accepts what its commit contains. -/
def FirstReadable (rt : Runtime) (tenantId cause assuranceLevel : Text) (draws : Draws)
    (observation : Observation) : Prop :=
  Exists fun incoming : Dict Text StateAttribute => project draws observation = .ok incoming ∧
    compilable rt tenantId observation cause assuranceLevel none incoming = true

theorem mergeAttributes_empty (entries : List (Text × StateAttribute))
    (attributes : Dict Text StateAttribute) :
    mergeAttributes Dict.empty entries attributes =
      entries.foldl (fun dict entry => dict.set entry.1 entry.2) attributes := by
  induction entries generalizing attributes with
  | nil => rfl
  | cons entry rest ih =>
      rw [mergeAttributes, List.foldl_cons]
      exact ih _

theorem compiledAttributes_none (incoming : Dict Text StateAttribute) :
    compiledAttributes none incoming = incoming :=
  (mergeAttributes_empty incoming.entries Dict.empty).trans (Dict.ofList_entries incoming)

theorem values_of_project {incoming : Dict Text StateAttribute}
    (projected : project draws observation = .ok incoming) :
    incoming.mapValues (fun _ attr => attr.value) = observation.payload := by
  rcases project_ok projected with ⟨label, rfl⟩
  unfold projectedReading
  rw [Dict.mapValues_mapValues]
  apply Dict.ext
  exact List.map_id _

/-- A first observation is compiled when it is readable, and raises otherwise. -/
theorem ingest_first (rt : Runtime) (draws : Draws) (cause assuranceLevel : Text)
    (linkable : Linkable service)
    (new : service.observations.contains (tenantId, observation.observationId) = false)
    (absent : service.states.get? (tenantId, observation.objectType, observation.objectId) = none) :
    (FirstReadable rt tenantId cause assuranceLevel draws observation ∧
      Exists fun state : OrderState => Exists fun after : WorldStateService =>
        service.ingest rt draws tenantId observation cause assuranceLevel = .returns after state ∧
        after.observations =
          service.observations.set (tenantId, observation.observationId) observation ∧
        after.states =
          service.states.set (tenantId, observation.objectType, observation.objectId) state ∧
        stateValues state = observation.payload) ∨
    (¬ FirstReadable rt tenantId cause assuranceLevel draws observation ∧
      Exists fun error : PyError => Exists fun after : WorldStateService =>
        service.ingest rt draws tenantId observation cause assuranceLevel = .raises after error) := by
  have ingestion := ingest_ingestion rt service draws tenantId observation cause assuranceLevel
  rw [absent] at ingestion
  generalize service.ingest rt draws tenantId observation cause assuranceLevel = outcome at ingestion ⊢
  cases ingestion with
  | repeated state found known => cases found
  | stateless missing known =>
      rw [new] at known
      cases known
  | unprojected error unseen failed =>
      refine Or.inr ⟨?_, error, _, rfl⟩
      rintro ⟨incoming, projected, _⟩
      rw [failed] at projected
      cases projected
  | unchanged incoming state found unseen projected same => cases found
  | undumped incoming unseen projected undumpable =>
      refine Or.inr ⟨?_, dumpRefusal, _, rfl⟩
      rintro ⟨incoming', projected', readable⟩
      cases projected.symm.trans projected'
      rw [compilable_of_undumped undumpable] at readable
      cases readable
  | refused incoming error unseen projected changes failed dumped =>
      refine Or.inr ⟨?_, error, _, rfl⟩
      rintro ⟨incoming', projected', readable⟩
      cases projected.symm.trans projected'
      rw [compilable_of_dumped dumped] at readable
      have created := (linkable.merged draws tenantId observation none incoming).createCommit rt draws
        (ingestRequest rt tenantId observation cause assuranceLevel none incoming)
      rw [failed, readable] at created
      cases created
  | committed incoming commit unseen projected changes continues answers dumped =>
      have kept := merged_same service draws tenantId observation none incoming
      have base := linkable.merged draws tenantId observation none incoming
      have readable := (compilable_of_dumped dumped).trans (base.answered continues answers)
      refine Or.inl ⟨⟨incoming, projected, readable⟩, _, _, rfl, ?_, ?_, ?_⟩
      · exact kept.observations
      · simp only [setState, record, kept.states, seen]
      · rw [stateValues, compiledState, compiledAttributes_none]
        exact values_of_project projected

/-- A known observation answers with the object's state, if there is one. What it says this
time is not looked at. -/
theorem ingest_repeated (rt : Runtime) (draws : Draws) (cause assuranceLevel : Text)
    (known : service.observations.contains (tenantId, observation.observationId) = true) :
    (Exists fun state : OrderState =>
      service.states.get? (tenantId, observation.objectType, observation.objectId) = some state ∧
        service.ingest rt draws tenantId observation cause assuranceLevel = .returns service state) ∨
    (service.states.get? (tenantId, observation.objectType, observation.objectId) = none ∧
      Exists fun error : PyError =>
        service.ingest rt draws tenantId observation cause assuranceLevel = .raises service error) := by
  unfold ingest
  dsimp only
  rw [if_pos known]
  cases service.states.get? (tenantId, observation.objectType, observation.objectId) with
  | some state => exact Or.inl ⟨state, rfl, rfl⟩
  | none => exact Or.inr ⟨rfl, _, rfl⟩

end First

/-! ## Sequences of reads -/

section Sequence

variable (rt : Runtime) {fromisoformat : Text -> Except PyError Timestamp} {connector : Connector}
variable (tenantId cause assuranceLevel : Text)

/-- Ingest one read. -/
def deliver (service : WorldStateService) (read : AcceptedRead rt fromisoformat connector) :
    Outcome PyError WorldStateService Unit :=
  (service.ingest rt read.draws tenantId read.observation cause assuranceLevel).andThen
    (fun state _ => .returns state ())

/-- Ingest reads in sequence into a fresh service. -/
def deliverAll (reads : List (AcceptedRead rt fromisoformat connector)) :
    Outcome PyError WorldStateService Unit :=
  Outcome.forEach (deliver rt tenantId cause assuranceLevel) .fresh reads

/-- The first read of an object. Its observation is the one that is compiled. -/
def firstRead? (reads : List (AcceptedRead rt fromisoformat connector)) (objectId : Text) :
    Option (AcceptedRead rt fromisoformat connector) :=
  reads.find? (fun read => decide (read.observation.objectId = objectId))

/-- The last read of an object. It says what the provider has shown most recently. -/
def lastRead? (reads : List (AcceptedRead rt fromisoformat connector)) (objectId : Text) :
    Option (AcceptedRead rt fromisoformat connector) :=
  firstRead? rt reads.reverse objectId

/-- No read is lost: none raises, and each object ends with the values of its last read.
Attributes that the last read does not name may be left from earlier ones. -/
structure NothingLost (reads : List (AcceptedRead rt fromisoformat connector)) : Prop where
  returned : (deliverAll rt tenantId cause assuranceLevel reads).result = .ok ()
  held : forall objectId read, lastRead? rt reads objectId = some read ->
    Exists fun state : OrderState =>
      (deliverAll rt tenantId cause assuranceLevel reads).state.states.get?
        (tenantId, connector.objectType, objectId) = some state ∧
      forall name value, read.observation.payload.get? name = some value ->
        state.value? name = some value

/-- Reads that share a token are of one object, and the first read of each can be compiled.
The observation identifier is made of the token alone, so a shared token makes two objects
look like one observation. -/
structure Admissible (reads : List (AcceptedRead rt fromisoformat connector)) : Prop where
  separated : forall first, first ∈ reads -> forall second, second ∈ reads ->
    observationToken first.observation.objectId = observationToken second.observation.objectId ->
      first.observation.objectId = second.observation.objectId
  readable : forall objectId read, firstRead? rt reads objectId = some read ->
    FirstReadable rt tenantId cause assuranceLevel read.draws read.observation

/-- Nothing in the last read of an object differs from its first read. What the reads between
them showed does not matter. -/
def Unchanged (reads : List (AcceptedRead rt fromisoformat connector)) : Prop :=
  forall objectId first last, firstRead? rt reads objectId = some first ->
    lastRead? rt reads objectId = some last ->
      forall name value, last.observation.payload.get? name = some value ->
        first.observation.payload.get? name = some value

/-- The service after reads that all returned. Each object holds the values of its first
read, because every later read of it repeats a known identifier. -/
structure Delivered (reads : List (AcceptedRead rt fromisoformat connector))
    (service : WorldStateService) : Prop where
  linkable : Linkable service
  known : forall observationId, service.observations.contains (tenantId, observationId) = true <->
    Exists fun read : AcceptedRead rt fromisoformat connector =>
      read ∈ reads ∧ read.observation.observationId = observationId
  held : forall objectId,
    (service.states.get? (tenantId, connector.objectType, objectId)).map stateValues =
      (firstRead? rt reads objectId).map (fun read => read.observation.payload)

end Sequence

section Delivery

variable {rt : Runtime} {fromisoformat : Text -> Except PyError Timestamp} {connector : Connector}
variable {tenantId cause assuranceLevel : Text}
variable {reads : List (AcceptedRead rt fromisoformat connector)}

theorem sameId_iff (first second : AcceptedRead rt fromisoformat connector) :
    first.observation.observationId = second.observation.observationId <->
      observationToken first.observation.objectId = observationToken second.observation.objectId := by
  rw [(normalize_identifies first.accepted).1, (normalize_identifies second.accepted).1]
  exact (Text.append_right_injective connector.idFront).eq_iff

theorem firstRead?_snoc (reads : List (AcceptedRead rt fromisoformat connector))
    (last : AcceptedRead rt fromisoformat connector) (objectId : Text) :
    firstRead? rt (reads ++ [last]) objectId = (firstRead? rt reads objectId).or
      (if last.observation.objectId = objectId then some last else none) := by
  unfold firstRead?
  rw [List.find?_append, List.find?_singleton]
  simp only [decide_eq_true_eq]

theorem firstRead?_some {objectId : Text} {read : AcceptedRead rt fromisoformat connector}
    (found : firstRead? rt reads objectId = some read) :
    read ∈ reads ∧ read.observation.objectId = objectId :=
  ⟨List.mem_of_find?_eq_some found, by simpa using List.find?_some found⟩

theorem firstRead?_isSome_iff (objectId : Text) :
    (firstRead? rt reads objectId).isSome = true <->
      Exists fun read : AcceptedRead rt fromisoformat connector =>
        read ∈ reads ∧ read.observation.objectId = objectId := by
  unfold firstRead?
  rw [List.find?_isSome]
  simp only [decide_eq_true_eq]

theorem Delivered.fresh : Delivered rt tenantId ([] : List (AcceptedRead rt fromisoformat connector))
    .fresh where
  linkable := .fresh
  known := by
    intro observationId
    constructor
    · intro known
      cases known
    · rintro ⟨read, member, _⟩
      cases member
  held := fun _ => rfl

/-- An object without an earlier read has no state. -/
theorem Delivered.absent_iff {service : WorldStateService}
    (delivered : Delivered rt tenantId reads service) (objectId : Text) :
    service.states.get? (tenantId, connector.objectType, objectId) = none <->
      forall read, read ∈ reads -> read.observation.objectId ≠ objectId := by
  have held := congrArg Option.isSome (delivered.held objectId)
  rw [Option.isSome_map, Option.isSome_map] at held
  constructor
  · intro absent read member same
    rw [absent] at held
    have present := (firstRead?_isSome_iff objectId).mpr ⟨read, member, same⟩
    rw [← held] at present
    cases present
  · intro none
    rw [← Option.not_isSome_iff_eq_none, held]
    intro present
    rcases (firstRead?_isSome_iff objectId).mp present with ⟨read, member, same⟩
    exact none read member same

theorem Admissible.front {last : AcceptedRead rt fromisoformat connector}
    (admissible : Admissible rt tenantId cause assuranceLevel (reads ++ [last])) :
    Admissible rt tenantId cause assuranceLevel reads where
  separated := fun first member second member' =>
    admissible.separated first (List.mem_append_left _ member) second (List.mem_append_left _ member')
  readable := by
    intro objectId read found
    apply admissible.readable objectId read
    rw [firstRead?_snoc, found]
    rfl

/-- A read of an object that was read before changes nothing. Its identifier is the one of
the first read. -/
theorem Delivered.again {service : WorldStateService}
    (delivered : Delivered rt tenantId reads service)
    (admissible : Admissible rt tenantId cause assuranceLevel reads)
    {last earlier : AcceptedRead rt fromisoformat connector} (member : earlier ∈ reads)
    (same : earlier.observation.objectId = last.observation.objectId) :
    Admissible rt tenantId cause assuranceLevel (reads ++ [last]) ∧
      Delivered rt tenantId (reads ++ [last]) service := by
  have first : forall objectId, firstRead? rt (reads ++ [last]) objectId =
      firstRead? rt reads objectId := by
    intro objectId
    rw [firstRead?_snoc]
    by_cases about : last.observation.objectId = objectId
    · rcases Option.isSome_iff_exists.mp
        ((firstRead?_isSome_iff objectId).mpr ⟨earlier, member, same.trans about⟩) with ⟨read, found⟩
      rw [found]
      rfl
    · rw [if_neg about, Option.or_none]
  have substitute : forall read, read ∈ reads ++ [last] ->
      Exists fun other : AcceptedRead rt fromisoformat connector =>
        other ∈ reads ∧ other.observation.objectId = read.observation.objectId := by
    intro read included
    rcases List.mem_append.mp included with old | new
    · exact ⟨read, old, rfl⟩
    · rw [List.mem_singleton.mp new]
      exact ⟨earlier, member, same⟩
  refine ⟨⟨?_, ?_⟩, delivered.linkable, ?_, ?_⟩
  · intro left leftMember right rightMember token
    rcases substitute left leftMember with ⟨left', inside, leftSame⟩
    rcases substitute right rightMember with ⟨right', inside', rightSame⟩
    rw [← leftSame, ← rightSame] at token ⊢
    exact admissible.separated left' inside right' inside' token
  · intro objectId read found
    exact admissible.readable objectId read ((first objectId).symm.trans found)
  · intro observationId
    rw [delivered.known]
    constructor
    · rintro ⟨read, inside, named⟩
      exact ⟨read, List.mem_append_left _ inside, named⟩
    · rintro ⟨read, inside, named⟩
      rcases substitute read inside with ⟨other, old, about⟩
      refine ⟨other, old, ?_⟩
      rw [← named]
      exact (sameId_iff other read).mpr (congrArg observationToken about)
  · intro objectId
    rw [first]
    exact delivered.held objectId

/-- A readable read with a new token adds the state of its object. -/
theorem Delivered.extend {service after : WorldStateService} {state : OrderState}
    (delivered : Delivered rt tenantId reads service)
    (admissible : Admissible rt tenantId cause assuranceLevel reads)
    {last : AcceptedRead rt fromisoformat connector}
    (others : forall read, read ∈ reads ->
      observationToken read.observation.objectId ≠ observationToken last.observation.objectId)
    (readable : FirstReadable rt tenantId cause assuranceLevel last.draws last.observation)
    (linkable : Linkable after)
    (observations : after.observations =
      service.observations.set (tenantId, last.observation.observationId) last.observation)
    (states : after.states =
      service.states.set (tenantId, connector.objectType, last.observation.objectId) state)
    (values : stateValues state = last.observation.payload) :
    Admissible rt tenantId cause assuranceLevel (reads ++ [last]) ∧
      Delivered rt tenantId (reads ++ [last]) after := by
  have unread : firstRead? rt reads last.observation.objectId = none := by
    rw [← Option.not_isSome_iff_eq_none, firstRead?_isSome_iff]
    rintro ⟨read, inside, about⟩
    exact others read inside (congrArg observationToken about)
  refine ⟨⟨?_, ?_⟩, linkable, ?_, ?_⟩
  · intro left leftMember right rightMember token
    rcases List.mem_append.mp leftMember with leftOld | leftNew
    · rcases List.mem_append.mp rightMember with rightOld | rightNew
      · exact admissible.separated left leftOld right rightOld token
      · rw [List.mem_singleton.mp rightNew] at token
        exact absurd token (others left leftOld)
    · rcases List.mem_append.mp rightMember with rightOld | rightNew
      · rw [List.mem_singleton.mp leftNew] at token
        exact absurd token.symm (others right rightOld)
      · rw [List.mem_singleton.mp leftNew, List.mem_singleton.mp rightNew]
  · intro objectId read found
    rw [firstRead?_snoc] at found
    by_cases about : last.observation.objectId = objectId
    · subst about
      rw [unread, if_pos rfl] at found
      cases found
      exact readable
    · rw [if_neg about, Option.or_none] at found
      exact admissible.readable objectId read found
  · intro observationId
    rw [observations, Dict.contains, Dict.get?_set]
    by_cases same : (tenantId, observationId) = (tenantId, last.observation.observationId)
    · rw [if_pos same]
      have named : observationId = last.observation.observationId := congrArg Prod.snd same
      exact ⟨fun _ => ⟨last, List.mem_append_right _ List.mem_cons_self, named.symm⟩, fun _ => rfl⟩
    · rw [if_neg same]
      refine (delivered.known observationId).trans ⟨?_, ?_⟩
      · rintro ⟨read, inside, named⟩
        exact ⟨read, List.mem_append_left _ inside, named⟩
      · rintro ⟨read, inside, named⟩
        rcases List.mem_append.mp inside with old | new
        · exact ⟨read, old, named⟩
        · rw [List.mem_singleton.mp new] at named
          exact absurd (congrArg (Prod.mk tenantId) named.symm) same
  · intro objectId
    rw [states, Dict.get?_set, firstRead?_snoc]
    by_cases about : last.observation.objectId = objectId
    · subst about
      rw [if_pos rfl, unread, if_pos rfl]
      exact congrArg some values
    · rw [if_neg (fun same => about (congrArg (fun key => key.2.2) same).symm), if_neg about,
        Option.or_none]
      exact delivered.held objectId

/-- One more read returns exactly when the longer sequence is admissible. -/
theorem Delivered.step {service : WorldStateService}
    (delivered : Delivered rt tenantId reads service) (digests : DigestsEncodable rt)
    (admissible : Admissible rt tenantId cause assuranceLevel reads)
    (last : AcceptedRead rt fromisoformat connector) :
    (Admissible rt tenantId cause assuranceLevel (reads ++ [last]) ∧
      Exists fun after : WorldStateService =>
        deliver rt tenantId cause assuranceLevel service last = .returns after () ∧
          Delivered rt tenantId (reads ++ [last]) after) ∨
    (¬ Admissible rt tenantId cause assuranceLevel (reads ++ [last]) ∧
      Exists fun error : PyError => Exists fun after : WorldStateService =>
        deliver rt tenantId cause assuranceLevel service last = .raises after error) := by
  have kind := (normalize_identifies last.accepted).2
  unfold deliver
  by_cases known : service.observations.contains (tenantId, last.observation.observationId) = true
  · rcases (delivered.known _).mp known with ⟨earlier, member, named⟩
    have token := (sameId_iff earlier last).mp named
    have outcome := ingest_repeated rt last.draws cause assuranceLevel known
    rw [kind] at outcome
    have absent := delivered.absent_iff last.observation.objectId
    by_cases same : earlier.observation.objectId = last.observation.objectId
    · rcases outcome with ⟨state, stored, returned⟩ | ⟨missing, error, raised⟩
      · rcases delivered.again admissible member same with ⟨admissible', delivered'⟩
        refine Or.inl ⟨admissible', service, ?_, delivered'⟩
        rw [returned]
        rfl
      · exact absurd same (absent.mp missing earlier member)
    · refine Or.inr ⟨?_, ?_⟩
      · intro admissible'
        exact same (admissible'.separated earlier (List.mem_append_left _ member) last
          (List.mem_append_right _ List.mem_cons_self) token)
      · rcases outcome with ⟨state, stored, returned⟩ | ⟨missing, error, raised⟩
        · rw [absent.mpr] at stored
          · cases stored
          · intro read inside about
            refine same ((admissible.separated earlier member read inside ?_).trans about)
            exact token.trans (congrArg observationToken about.symm)
        · refine ⟨error, service, ?_⟩
          rw [raised]
          rfl
  · have new := Bool.eq_false_iff.mpr known
    have others : forall read, read ∈ reads ->
        observationToken read.observation.objectId ≠ observationToken last.observation.objectId := by
      intro read inside token
      exact known ((delivered.known _).mpr ⟨read, inside, (sameId_iff read last).mpr token⟩)
    have absent := (delivered.absent_iff last.observation.objectId).mpr
      (fun read inside about => others read inside (congrArg observationToken about))
    have first : firstRead? rt (reads ++ [last]) last.observation.objectId = some last := by
      have none : firstRead? rt reads last.observation.objectId = none := by
        rw [← Option.not_isSome_iff_eq_none, firstRead?_isSome_iff]
        rintro ⟨read, inside, about⟩
        exact others read inside (congrArg observationToken about)
      rw [firstRead?_snoc, none, if_pos rfl]
      rfl
    rw [← kind] at absent
    rcases ingest_first rt last.draws cause assuranceLevel delivered.linkable new absent with
      ⟨readable, state, after, returned, observations, states, values⟩ | ⟨unreadable, error, after, raised⟩
    · have linkable : Linkable (service.ingest rt last.draws tenantId last.observation cause
          assuranceLevel).state := delivered.linkable.ingest digests
      rw [returned] at linkable
      rw [kind] at states
      rcases delivered.extend admissible others readable linkable
        observations states values with ⟨admissible', delivered'⟩
      refine Or.inl ⟨admissible', after, ?_, delivered'⟩
      rw [returned]
      rfl
    · refine Or.inr ⟨fun admissible' => unreadable (admissible'.readable _ last first), error, after, ?_⟩
      rw [raised]
      rfl

/-- A sequence either is admissible and returns throughout, or raises somewhere. -/
theorem deliverAll_cases (digests : DigestsEncodable rt)
    (reads : List (AcceptedRead rt fromisoformat connector)) :
    (Admissible rt tenantId cause assuranceLevel reads ∧
      Exists fun service : WorldStateService =>
        deliverAll rt tenantId cause assuranceLevel reads = .returns service () ∧
          Delivered rt tenantId reads service) ∨
    (¬ Admissible rt tenantId cause assuranceLevel reads ∧
      (deliverAll rt tenantId cause assuranceLevel reads).result ≠ .ok ()) := by
  induction reads using List.reverseRec with
  | nil =>
      refine Or.inl ⟨⟨?_, ?_⟩, .fresh, rfl, .fresh⟩
      · intro first member
        cases member
      · intro objectId read found
        cases found
  | append_singleton front last ih =>
      rcases ih with ⟨admissible, service, returned, delivered⟩ | ⟨refused, raised⟩
      · have continued : deliverAll rt tenantId cause assuranceLevel (front ++ [last]) =
            Outcome.forEach (deliver rt tenantId cause assuranceLevel) service [last] :=
          Outcome.forEach_append _ returned [last]
        rw [continued, Outcome.forEach]
        rcases delivered.step digests admissible last with
          ⟨admissible', after, returned', delivered'⟩ | ⟨refused, error, after, raised⟩
        · rw [returned']
          exact Or.inl ⟨admissible', after, rfl, delivered'⟩
        · rw [raised]
          refine Or.inr ⟨refused, fun same => ?_⟩
          cases same
      · refine Or.inr ⟨fun admissible => refused admissible.front, ?_⟩
        exact Outcome.forEach_raised _ raised [last]

theorem value?_of_values {state : OrderState} {values : Dict Text Json}
    (same : stateValues state = values) (name : Text) : state.value? name = values.get? name := by
  rw [← same, stateValues, Dict.get?_mapValues]
  rfl

/-- For both connectors: no read is lost exactly when tokens tell the objects apart, the
first read of each object can be compiled, and no last read differs from a first. -/
theorem provider_reads_kept_iff (rt : Runtime) (digests : DigestsEncodable rt)
    (fromisoformat : Text -> Except PyError Timestamp) (connector : Connector)
    (tenantId cause assuranceLevel : Text)
    (reads : List (AcceptedRead rt fromisoformat connector)) :
    NothingLost rt tenantId cause assuranceLevel reads <->
      Admissible rt tenantId cause assuranceLevel reads ∧ Unchanged rt reads := by
  rcases deliverAll_cases digests reads with
    ⟨admissible, service, returned, delivered⟩ | ⟨refused, raised⟩
  · constructor
    · intro kept
      refine ⟨admissible, ?_⟩
      intro objectId first last found newest name value stored
      rcases kept.held objectId last newest with ⟨state, placed, holds⟩
      have held := delivered.held objectId
      rw [returned, Outcome.returns_state] at placed
      rw [placed, found] at held
      rw [← value?_of_values (Option.some.inj held)]
      exact holds name value stored
    · rintro ⟨_, unchanged⟩
      refine ⟨by rw [returned]; rfl, ?_⟩
      intro objectId last newest
      rw [returned]
      have read : (firstRead? rt reads objectId).isSome = true := by
        rw [firstRead?_isSome_iff]
        rcases (firstRead?_isSome_iff objectId).mp
          (Option.isSome_iff_exists.mpr ⟨last, newest⟩) with ⟨other, member, about⟩
        exact ⟨other, List.mem_reverse.mp member, about⟩
      rcases Option.isSome_iff_exists.mp read with ⟨first, found⟩
      have held := delivered.held objectId
      rw [found] at held
      rcases Option.map_eq_some_iff.mp held with ⟨state, placed, values⟩
      refine ⟨state, placed, ?_⟩
      intro name value stored
      rw [value?_of_values values]
      exact unchanged objectId first last found newest name value stored
  · constructor
    · intro kept
      exact absurd kept.returned raised
    · rintro ⟨admissible, _⟩
      exact absurd admissible refused

end Delivery

/-! ## An order read twice -/

/-- A parser of datetimes that knows none. -/
def noDatetime : Text -> Except PyError Timestamp :=
  fun _ => .error (.valueError "Invalid isoformat string")

def statusPayload (status : Text) : Payload :=
  Dict.ofList [("id", .str "1001"), ("status", .str status)]

/-- What the connector makes of a status of order 1001. -/
def statusObservation (status : Text) : Observation where
  observationId := "obs_shopify_1001"
  connector := "shopify"
  objectType := "order"
  objectId := "1001"
  observedAt := .utc 0
  payload := statusPayload status
  valid := rfl

def openRead : AcceptedRead .plain noDatetime .shopify where
  payload := statusPayload "open"
  now := 0
  draws := .numbered 1
  observation := statusObservation "open"
  accepted := by decide +kernel

def cancelledRead : AcceptedRead .plain noDatetime .shopify where
  payload := statusPayload "cancelled"
  now := 0
  draws := .numbered 2
  observation := statusObservation "cancelled"
  accepted := by decide +kernel

/-- The order is read open again, five seconds later. It has the identifier of the first
read, and is not compiled. -/
def repeatedRead : AcceptedRead .plain noDatetime .shopify where
  payload := statusPayload "open"
  now := 5
  draws := .numbered 3
  observation := {
    observationId := "obs_shopify_1001"
    connector := "shopify"
    objectType := "order"
    objectId := "1001"
    observedAt := .utc 5
    payload := statusPayload "open"
    valid := rfl }
  accepted := by decide +kernel

/-- Another order is read, which was cancelled. -/
def otherRead : AcceptedRead .plain noDatetime .shopify where
  payload := Dict.ofList [("id", .str "1002"), ("status", .str "cancelled")]
  now := 1
  draws := .numbered 2
  observation := {
    observationId := "obs_shopify_1002"
    connector := "shopify"
    objectType := "order"
    objectId := "1002"
    observedAt := .utc 1
    payload := Dict.ofList [("id", .str "1002"), ("status", .str "cancelled")]
    valid := rfl }
  accepted := by decide +kernel

/-- Two orders, each read twice. Neither changes between its reads, so that nothing is lost. -/
def repeatedReads : List (AcceptedRead .plain noDatetime .shopify) :=
  [openRead, otherRead, repeatedRead, otherRead]

theorem repeatedReads_agree (first second : AcceptedRead .plain noDatetime .shopify)
    (member : first ∈ repeatedReads) (member' : second ∈ repeatedReads) :
    (observationToken first.observation.objectId = observationToken second.observation.objectId ->
      first.observation.objectId = second.observation.objectId) ∧
    (first.observation.objectId = second.observation.objectId ->
      first.observation.payload = second.observation.payload) := by
  have agree : repeatedReads.all (fun first => repeatedReads.all (fun second => decide (
      (observationToken first.observation.objectId = observationToken second.observation.objectId ->
        first.observation.objectId = second.observation.objectId) ∧
      (first.observation.objectId = second.observation.objectId ->
        first.observation.payload = second.observation.payload)))) = true := by
    decide +kernel
  exact of_decide_eq_true (List.all_eq_true.mp (List.all_eq_true.mp agree first member) second member')

theorem repeatedReads_readable (read : AcceptedRead .plain noDatetime .shopify)
    (member : read ∈ repeatedReads) :
    FirstReadable .plain "demo" "observation" "observed" read.draws read.observation := by
  have readable : repeatedReads.all (fun read =>
      (project read.draws read.observation).toOption.any (fun incoming =>
        compilable .plain "demo" read.observation "observation" "observed" none incoming)) = true := by
    decide +kernel
  rcases (Option.any_eq_true _ _).mp (List.all_eq_true.mp readable read member) with
    ⟨incoming, projected, accepted⟩
  exact ⟨incoming, ok_of_toOption projected, accepted⟩

/-- No read of orders that stay as they are is lost. -/
theorem provider_reads_kept_sample : NothingLost .plain "demo" "observation" "observed" repeatedReads := by
  refine (provider_reads_kept_iff .plain plain_digestsEncodable noDatetime .shopify "demo" "observation"
    "observed" repeatedReads).mpr ⟨⟨?_, ?_⟩, ?_⟩
  · exact fun first member second member' => (repeatedReads_agree first second member member').1
  · exact fun objectId read found => repeatedReads_readable read (firstRead?_some found).1
  · intro objectId first last found newest name value stored
    rcases firstRead?_some found with ⟨member, named⟩
    rcases firstRead?_some newest with ⟨member', named'⟩
    rw [(repeatedReads_agree first last member (List.mem_reverse.mp member')).2 (named.trans named'.symm)]
    exact stored

/-- The order is read open and then cancelled, and World State still holds it open. No error
tells of it. -/
theorem second_read_lost :
    ¬ NothingLost .plain "demo" "observation" "observed" [openRead, cancelledRead] := by
  intro kept
  rcases kept.held "1001" cancelledRead rfl with ⟨state, placed, holds⟩
  have cancelled := holds "status" (.str "cancelled") (by decide +kernel)
  have held : ((deliverAll .plain "demo" "observation" "observed"
      [openRead, cancelledRead]).state.states.get? ("demo", "order", "1001")).bind
        (fun state => state.value? "status") = some (.str "open") := by
    decide +kernel
  rw [show Connector.shopify.objectType = "order" from rfl] at placed
  rw [placed, Option.bind_some, cancelled] at held
  exact absurd held (by decide +kernel)

end Connectors
end RealityLayer
