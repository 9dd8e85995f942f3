import RealityLayer.WorldState.Steps

namespace RealityLayer
namespace WorldState

open Foundation Python RealityGit

/-!
# The in-memory commit history

`list_commits` recovers a tenant's history by walking parent links from the
tenant's head through a map that all tenants share.  `HistorySound` relates that
map with the list of all commits a run has created: it stores exactly those, each
tenant's part of the list is a chain by parents and by hashes, and the head is the
last of them.  Under this invariant the walk returns the whole part.

A poller is part of the system here.  It keeps the last identifier it received
and everything it received, and its polls interleave freely with the calls.
-/

/-! ## Created commits -/

/-- The commits the later service stores under keys the earlier one does not have. A commit
that is stored again under a known key is not among them. -/
def createdBetween (before after : WorldStateService) : List CommitRecord :=
  (after.commits.entries.filter (fun entry => (before.commits.get? entry.1).isNone)).map Prod.snd

def ofTenant (tenantId : Text) (commits : List CommitRecord) : List CommitRecord :=
  commits.filter (fun commit => decide (commit.tenantId = tenantId))

theorem mem_ofTenant {tenantId : Text} {commits : List CommitRecord} {commit : CommitRecord} :
    commit ∈ ofTenant tenantId commits <-> commit ∈ commits ∧ commit.tenantId = tenantId := by
  rw [ofTenant, List.mem_filter, decide_eq_true_iff]

theorem ofTenant_grows (commits : List CommitRecord) (entry : Option CommitRecord) :
    GrowsBy CommitRecord.tenantId entry (fun tenantId => ofTenant tenantId commits)
      (fun tenantId => ofTenant tenantId (commits ++ entry.toList)) :=
  fun _ => List.filter_append _ _

section Created

variable {rt : Runtime} {service after : WorldStateService} {commitId : Text}
variable {entry : Option CommitRecord}

theorem filter_known (service : WorldStateService) :
    service.commits.entries.filter (fun entry => (service.commits.get? entry.1).isNone) = [] := by
  refine List.filter_eq_nil_iff.mpr (fun entry member => ?_)
  rw [(service.commits.mem_entries_iff entry.1 entry.2).mp member]
  exact nofun

/-- The commits between a call and its result are the call's own. -/
theorem CommitEffect.created (effect : CommitEffect rt service commitId entry after)
    (absent : forall tenantId, service.commits.get? (tenantId, commitId) = none) :
    createdBetween service after = entry.toList := by
  unfold createdBetween
  cases effect with
  | quiet _ commits head =>
      rw [commits, filter_known]
      rfl
  | committed commit _ continues named commits head =>
      have unbound : service.commits.get? (commit.tenantId, commit.commitId) = none :=
        named ▸ absent commit.tenantId
      rw [commits, WorldStateService.record, Dict.entries_set_of_absent _ _ unbound,
        List.filter_append, filter_known]
      simp [unbound]

end Created

/-! ## The invariant -/

structure HistorySound (rt : Runtime) (created : List CommitRecord) (service : WorldStateService) :
    Prop where
  stored : forall commit, commit ∈ created ->
    service.commits.get? (commit.tenantId, commit.commitId) = some commit
  size : created.length = service.commits.entries.length
  named : forall commit, commit ∈ created -> commit.commitId ≠ ""
  head : forall tenantId, service.latestCommit.get? tenantId =
    headAfter CommitRecord.commitId none (ofTenant tenantId created)
  distinct : (created.map CommitRecord.commitId).Nodup
  parents : forall tenantId, Linked CommitRecord.parentCommitId CommitRecord.commitId (fun _ => True)
    none (ofTenant tenantId created)
  hashes : forall tenantId, Linked CommitRecord.previousHash CommitRecord.hash (SealedCommit rt) none
    (ofTenant tenantId created)

theorem HistorySound.fresh (rt : Runtime) : HistorySound rt [] .fresh where
  stored := nofun
  size := rfl
  named := nofun
  head := fun _ => rfl
  distinct := List.nodup_nil
  parents := fun _ => True.intro
  hashes := fun _ => True.intro

section Step

variable {rt : Runtime} {created : List CommitRecord} {service after : WorldStateService}
variable {commitId : Text} {entry : Option CommitRecord}

/-- The hash of the head is the newest hash of the tenant's chain. -/
theorem HistorySound.latestHash (sound : HistorySound rt created service) (tenantId : Text) :
    service.latestHash tenantId =
      .ok (headAfter CommitRecord.hash none (ofTenant tenantId created)) := by
  unfold WorldStateService.latestHash
  rw [sound.head tenantId]
  cases chain : (ofTenant tenantId created) using List.reverseRec with
  | nil => rfl
  | append_singleton front last =>
      have member : last ∈ ofTenant tenantId created := by
        rw [chain]
        exact List.mem_append_right _ List.mem_cons_self
      rcases mem_ofTenant.mp member with ⟨known, tenant⟩
      have found := sound.stored last known
      rw [tenant] at found
      rw [headAfter_snoc, headAfter_snoc, truthy?, Option.filter_some,
        if_pos (decide_eq_true (sound.named last known))]
      simp only [found]

/-- A commit that continues the service's chain continues the tenant's list. -/
theorem HistorySound.step (sound : HistorySound rt created service)
    (effect : CommitEffect rt service commitId entry after)
    (absent : forall tenantId, service.commits.get? (tenantId, commitId) = none)
    (nonempty : commitId ≠ "") : HistorySound rt (created ++ entry.toList) after := by
  have grows := ofTenant_grows created entry
  cases effect with
  | quiet _ commits head =>
      rw [Option.toList_none, List.append_nil]
      exact ⟨fun commit member => commits ▸ sound.stored commit member, commits ▸ sound.size,
        sound.named, fun tenantId => head ▸ sound.head tenantId, sound.distinct, sound.parents,
        sound.hashes⟩
  | committed commit _ continues named commits head =>
      have unbound : service.commits.get? (commit.tenantId, commit.commitId) = none :=
        named ▸ absent commit.tenantId
      have unused : forall other, other ∈ created -> other.commitId ≠ commit.commitId := by
        intro other member same
        have found := sound.stored other member
        rw [same, named, absent] at found
        cases found
      have mem : forall other, other ∈ created ++ (some commit).toList ->
          other ∈ created ∨ other = commit := by
        intro other member
        rcases List.mem_append.mp member with earlier | last
        · exact Or.inl earlier
        · exact Or.inr (List.mem_singleton.mp last)
      have parent : commit.parentCommitId = headAfter CommitRecord.commitId none
          (ofTenant commit.tenantId created) :=
        continues.parent.trans (sound.head commit.tenantId)
      have previous : commit.previousHash = headAfter CommitRecord.hash none
          (ofTenant commit.tenantId created) :=
        Except.ok.inj (continues.previous.symm.trans (sound.latestHash commit.tenantId))
      refine ⟨?_, ?_, ?_, ?_, ?_, ?_, ?_⟩
      · intro other member
        rw [commits, WorldStateService.record]
        rcases mem other member with earlier | rfl
        · rw [Dict.get?_set_of_ne]
          · exact sound.stored other earlier
          · intro same
            exact unused other earlier (congrArg Prod.snd same)
        · exact Dict.get?_set_self _ _ _
      · rw [commits, WorldStateService.record, Dict.entries_set_of_absent _ _ unbound,
          List.length_append, List.length_append, sound.size]
        rfl
      · intro other member
        rcases mem other member with earlier | rfl
        · exact sound.named other earlier
        · exact named ▸ nonempty
      · intro tenantId
        rw [head, WorldStateService.record]
        by_cases same : tenantId = commit.tenantId
        · subst same
          rw [Dict.get?_set_self, grows.at_key, headAfter_snoc]
        · rw [Dict.get?_set_of_ne _ _ same, sound.head, grows.elsewhere same]
      · rw [List.map_append, List.nodup_append]
        refine ⟨sound.distinct, List.nodup_singleton _, ?_⟩
        rintro _ earlier _ last rfl
        rcases List.mem_map.mp earlier with ⟨other, member, same⟩
        exact unused other member (same.trans (List.mem_singleton.mp last))
      · exact grows.linked sound.parents (by rintro _ ⟨⟩; exact ⟨parent, True.intro⟩)
      · exact grows.linked sound.hashes (by rintro _ ⟨⟩; exact ⟨previous, continues.genuine⟩)

/-- Walking back from the head recovers the tenant's commits. No commit of the tenant is off
this path. -/
theorem HistorySound.chainOf (sound : HistorySound rt created service) (tenantId : Text) :
    service.chainOf tenantId = ofTenant tenantId created := by
  have shorter : (ofTenant tenantId created).length ≤ created.length := List.length_filter_le _ _
  unfold WorldStateService.chainOf
  rw [sound.head tenantId, walkBack_linked CommitRecord.commitId (ofTenant tenantId created),
    List.reverse_reverse]
  · rw [WorldStateService.walkBound, ← sound.size]
    exact Nat.lt_succ_of_le shorter
  · exact sound.parents tenantId
  · intro commit member
    rcases mem_ofTenant.mp member with ⟨known, tenant⟩
    exact tenant ▸ sound.stored commit known
  · exact sound.distinct.sublist (List.filter_sublist.map _)
  · exact fun _ _ => List.not_mem_nil

theorem HistorySound.listCommits (sound : HistorySound rt created service) (tenantId : Text) :
    service.listCommits tenantId none = .ok (ofTenant tenantId created) := by
  unfold WorldStateService.listCommits
  cases head : service.latestCommit.get? tenantId with
  | some latest => exact congrArg Except.ok (sound.chainOf tenantId)
  | none =>
      rw [sound.head] at head
      cases chain : ofTenant tenantId created using List.reverseRec with
      | nil => rfl
      | append_singleton front last =>
          rw [chain, headAfter_snoc] at head
          cases head

end Step

/-- In a list of distinct commits, what follows a commit is found by its identifier. -/
theorem commitsAfter_split (front : List CommitRecord) (commit : CommitRecord)
    (back : List CommitRecord)
    (distinct : ((front ++ commit :: back).map CommitRecord.commitId).Nodup) :
    WorldStateService.commitsAfter commit.commitId (front ++ commit :: back) = some back := by
  induction front with
  | nil => exact if_pos rfl
  | cons first rest ih =>
      rw [List.cons_append, List.map_cons, List.nodup_cons] at distinct
      have different : first.commitId ≠ commit.commitId := by
        intro same
        refine distinct.1 (List.mem_map.mpr ⟨commit, ?_, same.symm⟩)
        exact List.mem_append_right _ List.mem_cons_self
      rw [List.cons_append, WorldStateService.commitsAfter, if_neg different]
      exact ih distinct.2

theorem HistorySound.listCommits_since {rt : Runtime} {created : List CommitRecord}
    {service : WorldStateService} (sound : HistorySound rt created service) {tenantId : Text}
    {front : List CommitRecord} {commit : CommitRecord} {back : List CommitRecord}
    (split : ofTenant tenantId created = front ++ commit :: back) :
    service.listCommits tenantId (some commit.commitId) = .ok back := by
  have distinct : ((ofTenant tenantId created).map CommitRecord.commitId).Nodup :=
    sound.distinct.sublist (List.filter_sublist.map _)
  have head := sound.head tenantId
  unfold WorldStateService.listCommits
  rw [sound.chainOf tenantId]
  cases latest : service.latestCommit.get? tenantId with
  | none =>
      rw [latest, split] at head
      simp [headAfter] at head
  | some newest =>
      dsimp only
      rw [split] at distinct ⊢
      rw [commitsAfter_split front commit back distinct]

/-! ## Calls and polls -/

/-- The service, with one tenant's poller: the last identifier it received, and
everything it received. -/
structure Polling where
  service : WorldStateService
  cursor : Option Text
  received : List CommitRecord

inductive Activity where
  | call (call : WorldCall)
  | poll

def Polling.next (rt : Runtime) (tenantId : Text) (polling : Polling) : Activity -> Polling
  | .call call => { polling with service := polling.service.perform rt call }
  | .poll =>
      match polling.service.listCommits tenantId polling.cursor with
      | .error _ => polling
      | .ok commits => { polling with
          cursor := headAfter CommitRecord.commitId polling.cursor commits
          received := polling.received ++ commits }

theorem Polling.poll_service (polling : Polling) (rt : Runtime) (tenantId : Text) :
    (polling.next rt tenantId .poll).service = polling.service := by
  dsimp only [Polling.next]
  split
  · rfl
  · rfl

def Polling.DrawsFresh (polling : Polling) : Activity -> Prop
  | .call call => polling.service.DrawsFresh call
  | .poll => True

instance (polling : Polling) : (activity : Activity) -> Decidable (polling.DrawsFresh activity)
  | .call _ => inferInstanceAs (Decidable (_ ∉ _))
  | .poll => isTrue trivial

/-- Calls and polls in any order, from an empty service. The cursor is the last commit that a
poll returned. -/
def pollingSystem (rt : Runtime) (tenantId : Text) : System Polling Activity where
  start := fun polling => polling = ⟨.fresh, none, []⟩
  admits := fun polling activity => polling.DrawsFresh activity
  next := fun polling activity => polling.next rt tenantId activity

instance (rt : Runtime) (tenantId : Text) (polling : Polling) (activity : Activity) :
    Decidable ((pollingSystem rt tenantId).admits polling activity) :=
  inferInstanceAs (Decidable (polling.DrawsFresh activity))

/-- The commits a run created, in the order of creation. -/
def createdIn (history : List (Step Polling Activity)) : List CommitRecord :=
  System.logOf (fun step => createdBetween step.before.service step.after.service) history

/-- What a run leaves for one tenant.  The list is complete, chained and accepted
by the validator; each identifier as cursor yields what follows it; the poller
has received a front of the list, and one more poll delivers the rest. -/
structure CompleteHistory (rt : Runtime) (tenantId : Text)
    (history : List (Step Polling Activity)) (polling : Polling) : Prop where
  listed : polling.service.listCommits tenantId none = .ok (ofTenant tenantId (createdIn history))
  once : ((createdIn history).map CommitRecord.commitId).Nodup
  chained : Linked CommitRecord.parentCommitId CommitRecord.commitId (fun _ => True) none
    (ofTenant tenantId (createdIn history))
  validated : validateCommitChain rt (ofTenant tenantId (createdIn history)) = .ok ()
  unchanged : forall step, step ∈ history -> forall key commit,
    step.after.service.commits.get? key = some commit ->
      polling.service.commits.get? key = some commit
  since : forall front commit back, ofTenant tenantId (createdIn history) = front ++ commit :: back ->
    polling.service.listCommits tenantId (some commit.commitId) = .ok back
  received : polling.received <+: ofTenant tenantId (createdIn history)
  polled : (polling.next rt tenantId .poll).received = ofTenant tenantId (createdIn history)

/-- The invariant of a polled service. What was received is a front of what was created, and
the cursor names its last commit. -/
structure PollingSound (rt : Runtime) (tenantId : Text) (created : List CommitRecord)
    (polling : Polling) : Prop where
  sound : HistorySound rt created polling.service
  received : polling.received <+: ofTenant tenantId created
  cursor : polling.cursor = headAfter CommitRecord.commitId none polling.received

section Poll

variable {rt : Runtime} {tenantId : Text} {created : List CommitRecord} {polling : Polling}

/-- A poll returns exactly the commits that were not received yet. They come oldest first. -/
theorem PollingSound.pending (sound : PollingSound rt tenantId created polling) :
    Exists fun pending => polling.received ++ pending = ofTenant tenantId created ∧
      polling.service.listCommits tenantId polling.cursor = .ok pending := by
  rcases sound.received with ⟨pending, whole⟩
  refine ⟨pending, whole, ?_⟩
  rw [sound.cursor]
  cases received : polling.received using List.reverseRec with
  | nil =>
      rw [received] at whole
      exact (sound.sound.listCommits tenantId).trans (congrArg Except.ok whole.symm)
  | append_singleton front last =>
      rw [received, List.append_assoc] at whole
      rw [headAfter_snoc]
      exact sound.sound.listCommits_since whole.symm

theorem PollingSound.poll (sound : PollingSound rt tenantId created polling) :
    PollingSound rt tenantId created (polling.next rt tenantId .poll) ∧
      (polling.next rt tenantId .poll).received = ofTenant tenantId created := by
  rcases sound.pending with ⟨pending, whole, listed⟩
  have next : polling.next rt tenantId .poll = { polling with
      cursor := headAfter CommitRecord.commitId polling.cursor pending
      received := polling.received ++ pending } := by
    simp only [Polling.next, listed]
  rw [next]
  refine ⟨⟨sound.sound, ?_, ?_⟩, whole⟩
  · exact whole ▸ List.prefix_rfl
  · rw [sound.cursor]
    exact headAfter_headAfter _ none polling.received pending

theorem CommitEffect.keeps {service after : WorldStateService} {commitId : Text}
    {entry : Option CommitRecord} (effect : CommitEffect rt service commitId entry after)
    (absent : forall tenantId, service.commits.get? (tenantId, commitId) = none)
    {key : Text × Text} {commit : CommitRecord} (stored : service.commits.get? key = some commit) :
    after.commits.get? key = some commit := by
  cases effect with
  | quiet _ commits head => exact commits ▸ stored
  | committed new _ continues named commits head =>
      rw [commits, WorldStateService.record, Dict.get?_set_of_ne]
      · exact stored
      · rintro rfl
        rw [named, absent] at stored
        cases stored

end Poll

section Runs

variable {rt : Runtime} {tenantId : Text} {history : List (Step Polling Activity)}
variable {polling : Polling}

theorem newCommitId_nonempty (draws : Draws) : newCommitId draws ≠ "" := by
  intro same
  have codes := congrArg (fun text : Text => text.codes.length) same
  simp only [newCommitId, Text.codes_append, List.length_append] at codes
  exact absurd codes (by simp [Text.ofString])

theorem WorldCall.commitId_nonempty (call : WorldCall) : call.commitId ≠ "" := by
  cases call with
  | ingest draws _ _ _ _ => exact newCommitId_nonempty draws
  | resolveConflict draws _ _ _ _ _ => exact newCommitId_nonempty draws

theorem PollingSound.of_run (run : (pollingSystem rt tenantId).Run history polling) :
    PollingSound rt tenantId (createdIn history) polling := by
  apply System.Run.historyInvariant run
  · rintro _ rfl
    exact ⟨.fresh rt, List.prefix_rfl, rfl⟩
  · intro history polling activity earlier sound admitted
    unfold createdIn at sound ⊢
    rw [System.logOf_snoc]
    cases activity with
    | call call =>
        rcases perform_commits rt polling.service call with ⟨entry, effect⟩
        have absent := admitted.absent
        have created : createdBetween polling.service (polling.service.perform rt call) =
            entry.toList :=
          effect.created absent
        change PollingSound rt tenantId (_ ++ createdBetween polling.service
          (polling.service.perform rt call)) _
        rw [created]
        refine ⟨sound.sound.step effect absent call.commitId_nonempty, sound.received.trans ?_, sound.cursor⟩
        exact (ofTenant_grows _ entry).earlier_front tenantId
    | poll =>
        have still : createdBetween polling.service (polling.next rt tenantId .poll).service = [] := by
          rw [polling.poll_service, createdBetween, filter_known]
          rfl
        change PollingSound rt tenantId (_ ++ createdBetween polling.service
          (polling.next rt tenantId .poll).service) _
        rw [still, List.append_nil]
        exact sound.poll.1

/-- A commit seen after some step of a run is still stored, unchanged, at its end. -/
theorem commits_persist (run : (pollingSystem rt tenantId).Run history polling)
    {step : Step Polling Activity} (member : step ∈ history) {key : Text × Text}
    {commit : CommitRecord} (stored : step.after.service.commits.get? key = some commit) :
    polling.service.commits.get? key = some commit := by
  induction run with
  | begin initial => cases member
  | @extend front before activity earlier admitted ih =>
      rcases List.mem_append.mp member with old | last
      · have kept := ih old
        cases activity with
        | call call =>
            rcases perform_commits rt before.service call with ⟨entry, effect⟩
            exact effect.keeps admitted.absent kept
        | poll =>
            change (before.next rt tenantId .poll).service.commits.get? key = some commit
            rw [before.poll_service]
            exact kept
      · have same := List.mem_singleton.mp last
        subst same
        exact stored

/-- In every run of calls and polls, each tenant's history is complete. Calls that raise are
part of the runs, and create nothing. -/
theorem commit_history_complete (rt : Runtime) (tenantId : Text)
    (run : (pollingSystem rt tenantId).Run history polling) :
    CompleteHistory rt tenantId history polling := by
  have polled := PollingSound.of_run run
  have sound := polled.sound
  exact {
    listed := sound.listCommits tenantId
    once := sound.distinct
    chained := sound.parents tenantId
    validated := (validateCommitChain_ok_iff rt _).mpr (sound.hashes tenantId)
    unchanged := fun step member key commit stored => commits_persist run member stored
    since := fun front commit back split => sound.listCommits_since split
    received := polled.received
    polled := polled.poll.2 }

end Runs

/-! ## An order observed twice -/

/-- Two readings of one order by one connector. -/
def openReading : Observation where
  observationId := "obs_shopify_1001"
  connector := "shopify"
  objectType := "order"
  objectId := "1001"
  observedAt := .utc 0
  payload := Dict.ofList [("id", .str "1001"), ("status", .str "open")]
  valid := by decide +kernel

def cancelledReading : Observation where
  observationId := "obs_shopify_1001_later"
  connector := "shopify"
  objectType := "order"
  objectId := "1001"
  observedAt := .utc 0
  payload := Dict.ofList [("id", .str "1001"), ("status", .str "cancelled")]
  valid := by decide +kernel

def sampleIngest (start : Nat) (tenantId : Text) (observation : Observation) : WorldCall :=
  .ingest (.numbered start) tenantId observation "observation" "observed"

/-- Two tenants observe the order, and a poll falls between the two readings of one. -/
def sampleActivities : List Activity :=
  [.call (sampleIngest 1 "demo" openReading), .call (sampleIngest 2 "other" openReading), .poll,
    .call (sampleIngest 3 "demo" cancelledReading)]

theorem commit_history_complete_sample :
    Exists fun history => Exists fun polling =>
      (ofTenant "demo" (createdIn history)).length = 2 ∧ polling.received.length = 1 ∧
        CompleteHistory .plain "demo" history polling := by
  have admitted : (pollingSystem .plain "demo").AdmitsAll ⟨.fresh, none, []⟩ sampleActivities := by
    decide +kernel
  have run := System.run_trace sampleActivities rfl admitted
  exact ⟨_, _, by decide +kernel, by decide +kernel, commit_history_complete .plain "demo" run⟩

end WorldState
end RealityLayer
