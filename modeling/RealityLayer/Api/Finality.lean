import RealityLayer.Api.Gate
import RealityLayer.Foundation.Register
import RealityLayer.WorldState.Provenance

namespace RealityLayer
namespace Api

open Foundation Python WorldState WorldStateService Actions Connectors

/-!
# The settlement of a conflict

The row of a conflict is a register that is set once.  A request that resolves the conflict
sets it, and every later request reads it instead of resolving again.  The other path that
writes rows is `POST /v1/observations`, which writes all conflicts that its process holds.
It has read all rows of the tenant before, so that a settled row is written back as it was.

A process may also hold a conflict without a row.  Only a conflict that has a row can be
resolved, so no such conflict is ever written as resolved.

A turn is a whole request, with its session and its commit.  The results are about requests
that do not overlap: the endpoint reads the row without a lock and saves it later, so that
of two overlapping requests the one that commits last could replace what the other wrote.
-/

/-! ## Settlements -/

/-- Everything that a conflict says but its candidates. The candidates are re-read from JSON,
and may change in it. -/
def settlementOf (conflict : Conflict) : Conflict := { conflict with candidates := [] }

/-- The settlement that a row shows, once its conflict is resolved. An open row shows none yet. -/
def settlement? (tables : Tables) (id : Text × Text) : Option Conflict :=
  (tables.conflicts.get? id).bind (fun row =>
    if row.conflict.status = ("resolved" : Text) then some (settlementOf row.conflict) else none)

section Showing

variable {rt : Runtime} {tables other : Tables} {id : Text × Text} {settlement : Conflict}

theorem settlement?_eq_some_iff : settlement? tables id = some settlement <->
    Exists fun row : ConflictRow => tables.conflicts.get? id = some row ∧
      row.conflict.status = "resolved" ∧ settlementOf row.conflict = settlement := by
  unfold settlement?
  constructor
  · intro shown
    rcases Option.bind_eq_some_iff.mp shown with ⟨row, stored, shown⟩
    split at shown
    · exact ⟨row, stored, ‹_›, Option.some.inj shown⟩
    · cases shown
  · rintro ⟨row, stored, resolved, rfl⟩
    rw [stored]
    exact if_pos resolved

theorem settlement?_congr (same : other.conflicts.get? id = tables.conflicts.get? id) :
    settlement? other id = settlement? tables id := by
  unfold settlement?
  rw [same]

theorem settlement?_rows (same : other.conflicts = tables.conflicts) (id : Text × Text) :
    settlement? other id = settlement? tables id :=
  settlement?_congr (congrArg (fun rows => rows.get? id) same)

/-- A row that is written for a resolved conflict shows its settlement. -/
theorem settlement?_of_row {conflict : Conflict}
    (stored : tables.conflicts.get? id = some (conflictRow rt conflict))
    (resolved : conflict.status = "resolved") :
    settlement? tables id = some (settlementOf conflict) :=
  settlement?_eq_some_iff.mpr ⟨_, stored, resolved, rfl⟩

/-- Reading a row changes only the candidates. -/
theorem settlementOf_toConflict {row : ConflictRow} {conflict : Conflict}
    (read : Tables.toConflict rt row = .ok conflict) :
    settlementOf conflict = settlementOf row.conflict := by
  rcases toConflict_candidates read with ⟨candidates, rfl⟩
  rfl

end Showing

/-! ## Ingesting resolves nothing -/

section Ingesting

variable {service : WorldStateService} {id : Text × Text} {conflict : Conflict}

/-- A conflict that is resolved after another was recorded was so before. -/
theorem recordConflict_resolved_before {draws : Draws} {place : Nat}
    {tenantId entityType entityId name : Text} {existing incoming : StateAttribute}
    (filed : Filed service)
    (found : (service.recordConflict draws place tenantId entityType entityId name existing
      incoming).conflictsById.get? id = some conflict)
    (settled : conflict.status = "resolved") : service.conflictsById.get? id = some conflict := by
  cases slot : service.openConflict? tenantId entityType entityId name with
  | none =>
      rw [recordConflict_absent slot] at found
      change (service.conflictsById.set _ (openedConflict draws place tenantId entityType entityId name
        existing incoming)).get? id = some conflict at found
      rw [Dict.get?_set] at found
      split at found
      · cases found
        cases settled
      · exact found
  | some waiting =>
      rcases filed.openConflict slot with ⟨_, _, _, waits⟩
      cases listed : waiting.lists incoming with
      | true =>
          rw [recordConflict_listed slot listed] at found
          exact found
      | false =>
          rw [recordConflict_unlisted slot listed] at found
          change (service.conflictsById.set _ (waiting.extended incoming)).get? id = some conflict
            at found
          rw [Dict.get?_set] at found
          split at found
          · cases found
            cases waits.symm.trans settled
          · exact found

/-- A conflict that is resolved after an ingestion was so before. -/
theorem ingest_resolved_before {rt : Runtime} {draws : Draws} {tenantId cause assuranceLevel : Text}
    {observation : Observation} (filed : Filed service)
    (fresh : FreshIds service tenantId draws 0 observation.payload.entries.length)
    (found : (service.ingest rt draws tenantId observation cause assuranceLevel).state.conflictsById.get?
      id = some conflict)
    (settled : conflict.status = "resolved") : service.conflictsById.get? id = some conflict := by
  refine ingest_keeps (fun current => current.conflictsById.get? id = some conflict ->
    service.conflictsById.get? id = some conflict) filed fresh ?_ ?_ (fun held => held) found
  · intro first second same held found
    exact held (same.conflictsById ▸ found)
  · intro current place name value label existing filed' _ _ _ _ held found
    exact held (recordConflict_resolved_before filed' found settled)

end Ingesting

/-! ## One request -/

/-- A request settles a conflict: its row was not resolved, and the request closes it as it
asks to. -/
structure ResolveRequest.Settles (request : ResolveRequest) (tables : Tables) (settlement : Conflict) :
    Prop where
  permitted : request.role ∈ resolverRoles
  closes : Exists fun row : ConflictRow =>
    tables.conflicts.get? (request.tenantId, request.conflictId) = some row ∧
      row.conflict.status ≠ "resolved" ∧
      settlement = settlementOf (row.conflict.closed request.resolvedValue request.role request.reason
        (.utc (request.draws.clock 0)))

/-- What `resolve_conflict` of the API does to the rows. A row that is resolved is answered
as it is, and only an open one is written. -/
inductive Resolving (rt : Runtime) (request : ResolveRequest) (before : Tables) (after : Tables) :
    Except RequestError Conflict -> Prop
  | refused (error : RequestError) (rows : after.conflicts = before.conflicts) :
      Resolving rt request before after (.error error)
  | repeated (row : ConflictRow) (stored : Conflict)
      (found : before.conflicts.get? (request.tenantId, request.conflictId) = some row)
      (read : Tables.toConflict rt row = .ok stored) (settled : stored.status = "resolved")
      (rows : after.conflicts = before.conflicts) :
      Resolving rt request before after (.ok stored)
  | closed (resolved : Conflict) (status : resolved.status = "resolved")
      (settles : request.Settles before (settlementOf resolved))
      (rows : after.conflicts = before.conflicts.set (request.tenantId, request.conflictId)
        (conflictRow rt resolved)) :
      Resolving rt request before after (.ok resolved)

section Requests

variable {rt : Runtime} {request : ResolveRequest}

/-- Resolving a held conflict that is not resolved answers with the closed conflict. -/
theorem resolve_closed {service : WorldStateService} {stored resolved : Conflict}
    (found : service.conflictsById.get? (request.tenantId, request.conflictId) = some stored)
    (unresolved : stored.status ≠ "resolved")
    (returned : (service.resolveConflict rt request.draws request.tenantId request.conflictId
      request.resolvedValue request.role request.reason).result = .ok resolved) :
    resolved = stored.closed request.resolvedValue request.role request.reason
      (.utc (request.draws.clock 0)) := by
  have same : forall other, service.getConflict request.tenantId request.conflictId = .ok other ->
      other = stored := fun other known => Option.some.inj ((getConflict_ok known).symm.trans found)
  have way := resolveConflict_resolution rt service request.draws request.tenantId request.conflictId
    request.resolvedValue request.role request.reason
  generalize service.resolveConflict rt request.draws request.tenantId request.conflictId
    request.resolvedValue request.role request.reason = outcome at way returned
  cases way with
  | unknown error => cases returned
  | settled other known resolved => exact absurd (same other known ▸ resolved) unresolved
  | undumped other state => cases returned
  | refused other state error => cases returned
  | stateless other known =>
      cases same other known
      cases returned
      rfl
  | committed other state commit known =>
      cases same other known
      cases returned
      rfl

theorem resolveHydrated_resolving {store : Store} {hydrated : WorldStateService} {row : ConflictRow}
    {stored : Conflict} {existing : Option OrderState} (permitted : request.role ∈ resolverRoles)
    (found : store.tables.conflicts.get? (request.tenantId, request.conflictId) = some row)
    (read : Tables.toConflict rt row = .ok stored) (unresolved : stored.status ≠ "resolved")
    (named : stored.storedId = (request.tenantId, request.conflictId))
    (held : hydrated.conflictsById.get? (request.tenantId, request.conflictId) = some stored) :
    let outcome := resolveHydrated rt store hydrated stored existing request
    Resolving rt request store.tables outcome.state.tables (outcome.result.mapError .raised) := by
  unfold resolveHydrated
  dsimp only
  cases finished : (hydrated.resolveConflict rt request.draws request.tenantId request.conflictId
      request.resolvedValue request.role request.reason).result with
  | error error => exact .refused _ rfl
  | ok resolved =>
      have closes := resolve_closed held unresolved finished
      have settles : request.Settles store.tables (settlementOf resolved) := by
        refine ⟨permitted, row, found, (toConflict_ok read).2.2 ▸ unresolved, ?_⟩
        rcases toConflict_candidates read with ⟨candidates, rfl⟩
        rw [closes]
        rfl
      have status : resolved.status = "resolved" := by
        rw [closes]
        rfl
      have written : forall tables : Tables, tables.conflicts = store.tables.conflicts ->
          (tables.persistConflict rt resolved).conflicts = store.tables.conflicts.set
            (request.tenantId, request.conflictId) (conflictRow rt resolved) := by
        intro tables same
        rw [← same, ← named, closes]
        rfl
      cases existing with
      | none => exact .closed resolved status settles (written _ rfl)
      | some _ =>
          dsimp only
          split
          · exact .refused _ rfl
          split
          · exact .refused _ rfl
          · exact .closed resolved status settles (written _ (persist_conflicts _ _ _))

theorem resolveConflict_resolving (rt : Runtime) (request : ResolveRequest) (store : Store)
    (keyed : Keyed store.tables) :
    Resolving rt request store.tables (resolveConflict rt store request).state.tables
      (resolveConflict rt store request).result := by
  unfold resolveConflict loadConflict
  split
  · exact .refused _ rfl
  rename_i permitted
  cases found : store.tables.conflicts.get? (request.tenantId, request.conflictId) with
  | none => exact .refused _ rfl
  | some row =>
      dsimp only
      cases read : Tables.toConflict rt row with
      | error error => exact .refused _ rfl
      | ok stored =>
          dsimp only [Except.map]
          have named : stored.storedId = (request.tenantId, request.conflictId) :=
            (toConflict_ok read).1.trans (keyed _ _ found)
          split
          · exact .repeated row stored found read ‹_› rfl
          split
          · exact .refused _ rfl
          · apply resolveHydrated_resolving (not_not.mp permitted) found read ‹_› named
            rw [hydrateConflict_conflictsById, named]
            exact Dict.get?_set_self _ _ _

/-- Writing the conflict back does not touch the service. -/
theorem resolveHydrated_service (store : Store) (hydrated : WorldStateService) (stored : Conflict)
    (existing : Option OrderState) :
    (resolveHydrated rt store hydrated stored existing request).state.service =
      (hydrated.resolveConflict rt request.draws request.tenantId request.conflictId
        request.resolvedValue request.role request.reason).state := by
  unfold resolveHydrated
  dsimp only
  split
  · rfl
  split
  · rfl
  split
  · rfl
  split
  · rfl
  · rfl

/-- Resolving a held conflict changes that conflict only. The place of its attribute in the
index is emptied as well. -/
theorem resolve_others {service : WorldStateService} {stored : Conflict}
    (found : service.conflictsById.get? (request.tenantId, request.conflictId) = some stored)
    (named : stored.storedId = (request.tenantId, request.conflictId)) {id : Text × Text}
    (other : id ≠ (request.tenantId, request.conflictId)) :
    (service.resolveConflict rt request.draws request.tenantId request.conflictId request.resolvedValue
      request.role request.reason).state.conflictsById.get? id = service.conflictsById.get? id := by
  have way := resolveConflict_resolution rt service request.draws request.tenantId request.conflictId
    request.resolvedValue request.role request.reason
  have unmoved : forall (conflict : Conflict) (base : WorldStateService),
      service.getConflict request.tenantId request.conflictId = .ok conflict ->
      base.conflictsById = service.conflictsById ->
      (base.closeConflict request.tenantId conflict request.resolvedValue request.role request.reason
        (.utc (request.draws.clock 0))).state.conflictsById.get? id =
          service.conflictsById.get? id := by
    intro conflict base known same
    cases (getConflict_ok known).symm.trans found
    change (base.conflictsById.set stored.storedId _).get? id = _
    rw [named, Dict.get?_set_of_ne _ _ other, same]
  generalize service.resolveConflict rt request.draws request.tenantId request.conflictId
    request.resolvedValue request.role request.reason = outcome at way ⊢
  cases way with
  | unknown error => rfl
  | settled conflict known resolved => rfl
  | undumped conflict state => rfl
  | refused conflict state error => rfl
  | stateless conflict known => exact unmoved conflict service known rfl
  | committed conflict state commit known => exact unmoved conflict _ known rfl

/-- A request that changes the process names a conflict with a row, and changes no other. -/
theorem resolveConflict_held (rt : Runtime) (request : ResolveRequest) (store : Store)
    (keyed : Keyed store.tables) :
    (resolveConflict rt store request).state.service = store.service ∨
      (store.tables.conflicts.get? (request.tenantId, request.conflictId)).isSome = true ∧
        forall id, id ≠ (request.tenantId, request.conflictId) ->
          (resolveConflict rt store request).state.service.conflictsById.get? id =
            store.service.conflictsById.get? id := by
  unfold resolveConflict loadConflict
  split
  · exact Or.inl rfl
  cases found : store.tables.conflicts.get? (request.tenantId, request.conflictId) with
  | none => exact Or.inl rfl
  | some row =>
      dsimp only
      cases read : Tables.toConflict rt row with
      | error error => exact Or.inl rfl
      | ok stored =>
          dsimp only [Except.map]
          have named : stored.storedId = (request.tenantId, request.conflictId) :=
            (toConflict_ok read).1.trans (keyed _ _ found)
          split
          · exact Or.inl rfl
          split
          · exact Or.inl rfl
          rename_i existing _
          refine Or.inr ⟨rfl, ?_⟩
          intro id other
          have same := hydrateFrom_sameConflicts store.service store.tables request.tenantId existing
          have held : ((store.service.hydrateFrom store.tables request.tenantId
              existing).hydrateConflict stored).conflictsById.get? id =
                store.service.conflictsById.get? id := by
            rw [hydrateConflict_conflictsById, named, Dict.get?_set_of_ne _ _ other,
              same.conflictsById]
          rw [← held, resolveHydrated_service]
          apply resolve_others _ named other
          rw [hydrateConflict_conflictsById, named, Dict.get?_set_self]

variable {before after : Tables} {result : Except RequestError Conflict} {id : Text × Text}
variable {settlement : Conflict}

/-- A request leaves the settlements that the rows show. A request that overlaps another one
is a different matter. -/
theorem Resolving.stays (way : Resolving rt request before after result)
    (shown : settlement? before id = some settlement) : settlement? after id = some settlement := by
  cases way with
  | refused error rows =>
      rw [settlement?_rows rows]
      exact shown
  | repeated row stored found read settled rows =>
      rw [settlement?_rows rows]
      exact shown
  | closed resolved status settles rows =>
      rcases settles.closes with ⟨row, found, unresolved, _⟩
      rcases settlement?_eq_some_iff.mp shown with ⟨row', found', settled, _⟩
      apply Eq.trans (settlement?_congr _) shown
      rw [rows, Dict.get?_set_of_ne]
      rintro rfl
      rw [found] at found'
      cases found'
      exact unresolved settled

/-- What a request answers is what the row shows afterwards. -/
theorem Resolving.answers (way : Resolving rt request before after result) {resolved : Conflict}
    (answered : result = .ok resolved) :
    settlement? after (request.tenantId, request.conflictId) = some (settlementOf resolved) := by
  cases way with
  | refused error rows => cases answered
  | repeated row stored found read settled rows =>
      cases answered
      rw [settlement?_rows rows, settlementOf_toConflict read]
      exact settlement?_eq_some_iff.mpr ⟨row, found, (toConflict_ok read).2.2 ▸ settled, rfl⟩
  | closed other status settles rows =>
      cases answered
      have written : after.conflicts.get? (request.tenantId, request.conflictId) =
          some (conflictRow rt resolved) := by
        rw [rows, Dict.get?_set_self]
      exact settlement?_of_row written status

/-- A settlement that the rows show only afterwards is the request's. -/
theorem Resolving.source (way : Resolving rt request before after result)
    (unshown : settlement? before id ≠ some settlement) (shown : settlement? after id = some settlement) :
    id = (request.tenantId, request.conflictId) ∧ request.Settles before settlement ∧
      Exists fun resolved : Conflict => result = .ok resolved ∧ settlementOf resolved = settlement := by
  cases way with
  | refused error rows =>
      rw [settlement?_rows rows] at shown
      exact absurd shown unshown
  | repeated row stored found read settled rows =>
      rw [settlement?_rows rows] at shown
      exact absurd shown unshown
  | closed resolved status settles rows =>
      by_cases same : id = (request.tenantId, request.conflictId)
      · subst same
        have written : after.conflicts.get? (request.tenantId, request.conflictId) =
            some (conflictRow rt resolved) := by
          rw [rows, Dict.get?_set_self]
        rw [settlement?_of_row written status] at shown
        cases shown
        exact ⟨rfl, settles, resolved, rfl, rfl⟩
      · have unmoved : after.conflicts.get? id = before.conflicts.get? id := by
          rw [rows, Dict.get?_set_of_ne _ _ same]
        rw [settlement?_congr unmoved] at shown
        exact absurd shown unshown

end Requests

/-! ## Rows and held conflicts -/

/-- A service holds a resolved conflict only if the conflict has a row. It may be that
another process has resolved it differently since. -/
def Backed (tables : Tables) (service : WorldStateService) : Prop :=
  forall id conflict, service.conflictsById.get? id = some conflict -> conflict.status = "resolved" ->
    (tables.conflicts.get? id).isSome = true

/-- No row is lost. Rows may still be overwritten, under their own identifiers. -/
def RowsKept (before after : Tables) : Prop :=
  forall id, (before.conflicts.get? id).isSome = true -> (after.conflicts.get? id).isSome = true

section Backing

variable {tables later : Tables} {service other : WorldStateService} {tenantId : Text}

theorem RowsKept.of_rows (same : later.conflicts = tables.conflicts) : RowsKept tables later := by
  intro id stored
  rw [same]
  exact stored

theorem Backed.fresh : Backed tables .fresh := by
  intro id conflict held
  cases held

theorem Backed.mono (backed : Backed tables service) (kept : RowsKept tables later) :
    Backed later service :=
  fun id conflict held resolved => kept id (backed id conflict held resolved)

theorem Backed.congr (backed : Backed tables service) (same : SameConflicts service other) :
    Backed tables other := by
  intro id conflict held resolved
  rw [← same.conflictsById] at held
  exact backed id conflict held resolved

theorem persistConflicts_kept {rt : Runtime} (filed : Filed service) :
    RowsKept tables (tables.persistConflicts rt service tenantId) := by
  intro id stored
  rw [persistConflicts_get? filed]
  split
  · exact stored
  split
  · rfl
  · exact stored

theorem Resolving.kept {rt : Runtime} {request : ResolveRequest} {result : Except RequestError Conflict}
    (way : Resolving rt request tables later result) : RowsKept tables later := by
  cases way with
  | refused error rows => exact .of_rows rows
  | repeated row stored found read settled rows => exact .of_rows rows
  | closed resolved status settles rows =>
      intro id stored
      rw [rows, Dict.get?_set]
      split
      · rfl
      · exact stored

/-- A service that has hydrated the rows of a tenant holds each of them as it reads. -/
theorem listed_held {rt : Runtime} {conflicts : List Conflict}
    (listed : Listed rt tables tenantId conflicts) (base : WorldStateService) (keyed : Keyed tables)
    {id : Text × Text} {row : ConflictRow} (stored : tables.conflicts.get? id = some row)
    (owner : id.1 = tenantId) : Exists fun conflict : Conflict =>
      Tables.toConflict rt row = .ok conflict ∧
        (conflicts.foldl WorldStateService.hydrateConflict base).conflictsById.get? id =
          some conflict := by
  have named := keyed id row stored
  rcases listed.all id row stored ((congrArg Prod.fst named).trans owner) with ⟨conflict, member, read⟩
  refine ⟨conflict, read, ?_⟩
  rw [hydrateAll_conflictsById, ← named, ← (toConflict_ok read).1]
  exact (Dict.get?_foldl_set Conflict.storedId (fun conflict => conflict) conflicts listed.distinct
    base.conflictsById).1 conflict member

theorem Backed.hydrated {rt : Runtime} {conflicts : List Conflict} (backed : Backed tables service)
    (listed : Listed rt tables tenantId conflicts) :
    Backed tables (conflicts.foldl WorldStateService.hydrateConflict service) := by
  intro id conflict held resolved
  by_cases inside : id ∈ conflicts.map Conflict.storedId
  · rcases List.mem_map.mp inside with ⟨member, listed', rfl⟩
    rcases listed.rows member listed' with ⟨row, found, _⟩
    rw [found]
    rfl
  · rw [hydrateAll_conflictsById, (Dict.get?_foldl_set Conflict.storedId (fun conflict => conflict)
      conflicts listed.distinct service.conflictsById).2 id inside] at held
    exact backed id conflict held resolved

end Backing

/-! ## One ingestion -/

section Ingestions

variable {host : Host} {registry : Registry} {site : Site} {call : IngestCall} {ingesting : Ingesting}

/-- The base of a call of `ingest` is backed as its process is. -/
theorem Backed.base (sound : SiteSound registry site)
    (backed : Backed site.database.tables site.process.world)
    (prepared : call.ingesting host site = some ingesting) :
    Backed site.database.tables ingesting.base := by
  cases call with
  | observe draws tenantId observation =>
      rcases observeIngesting_listed sound.keyed prepared with ⟨_, conflicts, base, listed, same, based⟩
      rw [based]
      exact (backed.congr same).hydrated listed
  | verify request =>
      dsimp only [IngestCall.ingesting] at prepared
      split at prepared
      · cases prepared
      split at prepared
      · cases prepared
      · cases prepared
        exact backed.congr (hydrateFrom_sameConflicts _ _ _ _)
  | workerRead stores tenantId attempt =>
      dsimp only [IngestCall.ingesting] at prepared
      split at prepared
      · cases prepared
      split at prepared
      · cases prepared
      · cases prepared
        exact backed.congr (hydrateFrom_sameConflicts _ _ _ _)

/-- Ingesting resolves nothing, so that the process stays backed. -/
theorem Backed.ingested (sound : SiteSound registry site) (fresh : SiteFresh site ingesting)
    (backed : Backed site.database.tables site.process.world)
    (prepared : call.ingesting host site = some ingesting) :
    Backed site.database.tables (ingesting.outcome host.rt).state := by
  rcases ingesting_outcome sound prepared fresh with ⟨base, new, _, _⟩
  intro id conflict held resolved
  exact backed.base sound prepared id conflict (ingest_resolved_before base.filed new held resolved)
    resolved

/-- Where `POST /v1/observations` writes its conflicts back, the settled rows stay settled as
they are, and no other row becomes settled. -/
theorem observed_settlement {draws : Draws} {tenantId : Text} {observation : Observation}
    (sound : SiteSound registry site) (fresh : SiteFresh site ingesting)
    (backed : Backed site.database.tables site.process.world)
    (prepared : (IngestCall.observe draws tenantId observation).ingesting host site = some ingesting)
    (id : Text × Text) :
    settlement? (site.database.tables.persistConflicts host.rt (ingesting.outcome host.rt).state
      ingesting.tenantId) id = settlement? site.database.tables id := by
  rcases ingesting_outcome sound prepared fresh with ⟨base, new, filed, _⟩
  have based := backed.base sound prepared
  rcases observeIngesting_listed sound.keyed prepared with ⟨rfl, conflicts, first, listed, _, hydrated⟩
  have written : (site.database.tables.persistConflicts host.rt (ingesting.outcome host.rt).state
      ingesting.tenantId).conflicts.get? id = _ := persistConflicts_get? filed id
  cases held : (ingesting.outcome host.rt).state.conflictsById.get? id with
  | none =>
      rw [held] at written
      exact settlement?_congr written
  | some conflict =>
      rw [held] at written
      dsimp only at written
      by_cases owner : id.1 = ingesting.tenantId
      · rw [if_pos owner] at written
        -- Once either is resolved, the conflict that is written is the row that was read.
        have read : forall row, site.database.tables.conflicts.get? id = some row ->
            conflict.status = "resolved" ∨ row.conflict.status = "resolved" ->
              Tables.toConflict host.rt row = .ok conflict := by
          intro row found resolved
          rcases listed_held listed first sound.keyed found owner with ⟨stored, read, kept⟩
          rw [← hydrated] at kept
          rcases resolved with after | before
          · rw [ingest_resolved_before base.filed new held after] at kept
            cases kept
            exact read
          · have later : (ingesting.outcome host.rt).state.conflictsById.get? id = some stored :=
              ingest_resolved base.filed new kept ((toConflict_ok read).2.2.trans before)
            cases later.symm.trans held
            exact read
        apply Option.ext
        intro settlement
        rw [settlement?_eq_some_iff, settlement?_eq_some_iff]
        constructor
        · rintro ⟨_, stored, resolved, rfl⟩
          rw [written] at stored
          cases stored
          have known := ingest_resolved_before base.filed new held resolved
          rcases Option.isSome_iff_exists.mp (based id conflict known resolved) with ⟨row, found⟩
          have read := read row found (Or.inl resolved)
          exact ⟨row, found, (toConflict_ok read).2.2.symm.trans resolved,
            (settlementOf_toConflict read).symm⟩
        · rintro ⟨row, found, resolved, rfl⟩
          have read := read row found (Or.inr resolved)
          exact ⟨_, written, (toConflict_ok read).2.2.trans resolved, settlementOf_toConflict read⟩
      · rw [if_neg owner] at written
        exact settlement?_congr written

/-- What an ingestion call does to the settlements, the rows and the process. It may add open
conflicts and candidates, and it settles nothing. -/
structure Harmless (before after : Site) : Prop where
  settlements : forall id,
    settlement? after.database.tables id = settlement? before.database.tables id
  kept : RowsKept before.database.tables after.database.tables
  backed : Backed after.database.tables after.process.world

theorem perform_harmless (sound : SiteSound registry site)
    (fresh : forall ingesting, call.ingesting host site = some ingesting -> SiteFresh site ingesting)
    (backed : Backed site.database.tables site.process.world) :
    Harmless site (call.perform host site).state := by
  cases perform_effect host call site with
  | quiet _ world rows =>
      exact ⟨settlement?_rows rows, .of_rows rows, (backed.congr world).mono (.of_rows rows)⟩
  | ingested ingesting prepared world _ _ rows =>
      have later := backed.ingested sound (fresh ingesting prepared) prepared
      exact ⟨settlement?_rows rows, .of_rows rows, (world ▸ later).mono (.of_rows rows)⟩
  | persisted ingesting prepared world _ persists rows =>
      have later := backed.ingested sound (fresh ingesting prepared) prepared
      rcases ingesting_outcome sound prepared (fresh ingesting prepared) with ⟨_, _, filed, _⟩
      have kept : RowsKept site.database.tables (call.perform host site).state.database.tables := by
        intro id stored
        rw [rows]
        exact persistConflicts_kept filed id stored
      refine ⟨?_, kept, (world ▸ later).mono kept⟩
      intro id
      rw [settlement?_rows rows]
      cases call with
      | observe draws tenantId observation =>
          exact observed_settlement sound (fresh ingesting prepared) backed prepared id
      | verify request => exact persists.elim
      | workerRead stores tenantId attempt => exact persists.elim

end Ingestions

/-! ## The cluster -/

/-- What a turn does to the settlements: nothing, unless it resolves a conflict. Then it
changes the settlement of the one conflict that the request names. -/
inductive TurnSettles {W : Type} [DecidableEq W] (host : Host) (cluster : Cluster W) (turn : Turn W) :
    Prop
  | silent (unasked : forall request, turn.request ≠ .resolve request)
      (same : forall id, settlement? (cluster.next host turn).database.tables id =
        settlement? cluster.database.tables id) : TurnSettles host cluster turn
  | resolving (request : ResolveRequest) (asked : turn.request = .resolve request)
      (way : Resolving host.rt request cluster.database.tables
        (cluster.next host turn).database.tables
        (resolveConflict host.rt (cluster.site turn.worker).store request).result) :
      TurnSettles host cluster turn

/-- All processes are backed by the rows. -/
def Cluster.Backed {W : Type} (cluster : Cluster W) : Prop :=
  forall worker, Api.Backed cluster.database.tables (cluster.processes worker).world

section Turns

variable {W : Type} [DecidableEq W] {host : Host} {cluster : Cluster W}

/-- The process that has taken a turn is backed, and the others lose no row. -/
theorem Cluster.Backed.updated {worker : W} {after : Site} (backed : cluster.Backed)
    (kept : RowsKept cluster.database.tables after.database.tables)
    (own : Api.Backed after.database.tables after.process.world) :
    Cluster.Backed ⟨Function.update cluster.processes worker after.process, after.database⟩ := by
  intro other
  dsimp only
  by_cases same : other = worker
  · rw [same, Function.update_self]
    exact own
  · rw [Function.update_of_ne same]
    exact (backed other).mono kept

/-- A resolution leaves its process backed: the conflict that it closes has a row. -/
theorem resolve_backed {store : Store} {request : ResolveRequest} (keyed : Keyed store.tables)
    (backed : Api.Backed store.tables store.service) :
    Api.Backed (resolveConflict host.rt store request).state.tables
      (resolveConflict host.rt store request).state.service := by
  have kept := (resolveConflict_resolving host.rt request store keyed).kept
  rcases resolveConflict_held host.rt request store keyed with same | ⟨found, others⟩
  · rw [same]
    exact backed.mono kept
  · intro id conflict held resolved
    apply kept
    by_cases named : id = (request.tenantId, request.conflictId)
    · rw [named]
      exact found
    · rw [others id named] at held
      exact backed id conflict held resolved

theorem turn_settles (sound : cluster.Sound) (backed : cluster.Backed) (turn : Turn W)
    (admitted : cluster.Admits host turn) :
    TurnSettles host cluster turn ∧ (cluster.next host turn).Backed := by
  rcases sound with ⟨registry, sound⟩
  rcases turn with ⟨worker, request⟩
  have site := sound.site worker
  cases request with
  | ingest call =>
      have harmless : Harmless (cluster.site worker) (call.perform host (cluster.site worker)).state := by
        refine perform_harmless site ?_ (backed worker)
        intro ingesting prepared
        have drawn := admitted ingesting prepared
        exact ⟨drawn.rows, drawn.held worker⟩
      exact ⟨.silent (fun _ same => by cases same) harmless.settlements,
        backed.updated harmless.kept harmless.backed⟩
  | propose request =>
      rcases proposeAction_frame host.rt host.float host.settings
        (cluster.site worker) request with ⟨world, tables⟩
      have rows := congrArg Tables.conflicts tables
      exact ⟨.silent (fun _ same => by cases same) (settlement?_rows rows),
        backed.updated (.of_rows rows) (((backed worker).congr (world ▸ .refl _)).mono (.of_rows rows))⟩
  | resolve request =>
      have way : Resolving host.rt request cluster.database.tables
          (resolveConflict host.rt (cluster.site worker).store request).state.tables
          (resolveConflict host.rt (cluster.site worker).store request).result :=
        resolveConflict_resolving host.rt request (cluster.site worker).store site.keyed
      exact ⟨.resolving request rfl way,
        backed.updated way.kept (resolve_backed site.keyed (backed worker))⟩
  | restart =>
      exact ⟨.silent (fun _ same => by cases same) (fun _ => rfl), backed.updated (.of_rows rfl) .fresh⟩
  | other after =>
      rcases admitted with ⟨world, rows⟩
      exact ⟨.silent (fun _ same => by cases same) (settlement?_rows rows),
        backed.updated (.of_rows rows) (((backed worker).congr world).mono (.of_rows rows))⟩

variable {history : List (Step (Cluster W) (Turn W))}

theorem run_backed (run : (clusterSystem W host).Run history cluster) :
    cluster.Sound ∧ cluster.Backed := by
  apply System.Run.invariant run
  · intro first initial
    refine ⟨start_sound first initial, ?_⟩
    intro worker
    rw [initial.1 worker]
    exact .fresh
  · rintro first turn ⟨sound, backed⟩ admitted
    exact ⟨sound.next turn admitted, (turn_settles sound backed turn admitted).2⟩

/-- Each step of a run settles as its turn does. -/
theorem settles_of_run (run : (clusterSystem W host).Run history cluster)
    {step : Step (Cluster W) (Turn W)} (member : step ∈ history) :
    step.after = step.before.next host step.label ∧ TurnSettles host step.before step.label := by
  rcases List.append_of_mem member with ⟨front, back, parts⟩
  rcases run.cut parts with ⟨before, admitted, after⟩
  rcases run_backed before with ⟨sound, backed⟩
  exact ⟨after, (turn_settles sound backed step.label admitted).1⟩

end Turns

/-! ## Finality -/

section Final

variable {W : Type} [DecidableEq W]

/-- A step of a process answers a request to resolve a conflict.  The step is the whole
request, so the row that is read is still the one that is replaced. -/
structure AnswersResolution (host : Host) (id : Text × Text) (step : Step (Cluster W) (Turn W))
    (request : ResolveRequest) (resolved : Conflict) : Prop where
  asked : step.label.request = .resolve request
  named : id = (request.tenantId, request.conflictId)
  answered : (resolveConflict host.rt (step.before.site step.label.worker).store request).result =
    .ok resolved

/-- Whichever processes take the turns, one request at a time, all answers to requests that
resolve a conflict agree with what its row shows in the end.  What it shows was shown from
the beginning, or is what a permitted request asked for, and its answer. -/
theorem resolutions_final (host : Host) {history : List (Step (Cluster W) (Turn W))}
    {cluster : Cluster W} (run : (clusterSystem W host).Run history cluster) (id : Text × Text) :
    (forall step request resolved, step ∈ history -> AnswersResolution host id step request resolved ->
      settlement? cluster.database.tables id = some (settlementOf resolved)) ∧
    forall settlement, settlement? cluster.database.tables id = some settlement ->
      (forall step, step ∈ history -> settlement? step.before.database.tables id = some settlement) ∨
      Exists fun step => Exists fun request => Exists fun resolved => step ∈ history ∧
        AnswersResolution host id step request resolved ∧ settlementOf resolved = settlement ∧
        request.Settles step.before.database.tables settlement := by
  constructor
  · intro step request resolved member answers
    refine run.decided_stays (fun cluster : Cluster W => settlement? cluster.database.tables id) ?_
      member ?_
    · intro step member settlement shown
      rcases settles_of_run run member with ⟨after, silent⟩
      rw [after]
      cases silent with
      | silent unasked same => exact (same id).trans shown
      | resolving request asked way => exact way.stays shown
    · rcases settles_of_run run member with ⟨after, settles⟩
      rcases answers with ⟨asked, rfl, answered⟩
      rw [after]
      cases settles with
      | silent unasked same => exact absurd asked (unasked request)
      | resolving other asked' way =>
          cases asked.symm.trans asked'
          exact way.answers answered
  · intro settlement shown
    rcases run.decided_source (fun cluster : Cluster W => settlement? cluster.database.tables id)
      shown with always | ⟨step, member, unset, set⟩
    · exact Or.inl always
    · rcases settles_of_run run member with ⟨after, settles⟩
      rw [after] at set
      cases settles with
      | silent unasked same => exact absurd ((same id).symm.trans set) unset
      | resolving request asked way =>
          rcases way.source unset set with ⟨named, settles, resolved, answered, agrees⟩
          exact Or.inr ⟨step, request, resolved, member, ⟨asked, named, answered⟩, agrees, settles⟩

end Final

/-- Shopify and the back office disagree on the status of an order, and a process resolves the
conflict. -/
def settlingTurns : List (Turn Bool) :=
  [⟨false, .ingest (observeCall 1 disagreeingReading)⟩,
    ⟨false, .ingest (observeCall 2 openReading)⟩,
    ⟨true, .resolve ⟨"cnf_4000000000000000", "demo", "operations", .str "cancelled", "Called the shop.",
      .numbered 3⟩⟩]

def settledCluster : Cluster Bool :=
  ((clusterSystem Bool sampleHost).trace sampleCluster settlingTurns).2

theorem settledCluster_run : (clusterSystem Bool sampleHost).Run
    ((clusterSystem Bool sampleHost).trace sampleCluster settlingTurns).1 settledCluster := by
  have start : (clusterSystem Bool sampleHost).start sampleCluster := by
    refine ⟨fun _ => rfl, ?_⟩
    intro id row stored
    cases stored
  have first : sampleCluster.Admits sampleHost ⟨false, .ingest (observeCall 1 disagreeingReading)⟩ :=
    admits_of_none ⟨rfl, fun _ => rfl⟩ _ _ (by decide +kernel)
  have second : observedCluster.Admits sampleHost ⟨false, .ingest (observeCall 2 openReading)⟩ :=
    admits_of_none observedCluster_noConflicts _ _ (by decide +kernel)
  exact System.run_trace settlingTurns start ⟨first, second, trivial, trivial⟩

/-- The other process asks for another value. It has read the conflict while it was open. -/
def contraryRequest : ResolveRequest :=
  ⟨"cnf_4000000000000000", "demo", "admin", .str "open", "Shopify is right.", .numbered 4⟩

/-- It answers with the value that was settled. -/
theorem resolutions_final_sample : Exists fun resolved : Conflict =>
    (resolveConflict sampleHost.rt (settledCluster.site false).store contraryRequest).result =
        .ok resolved ∧
      resolved.resolvedValue = .str "cancelled" ∧
      settlement? (settledCluster.next sampleHost ⟨false, .resolve contraryRequest⟩).database.tables
        (contraryRequest.tenantId, contraryRequest.conflictId) = some (settlementOf resolved) := by
  have answers : ((resolveConflict sampleHost.rt (settledCluster.site false).store
      contraryRequest).result.toOption.map Conflict.resolvedValue) = some (.str "cancelled") := by
    decide +kernel
  rcases Option.map_eq_some_iff.mp answers with ⟨resolved, returned, value⟩
  have answered := ok_of_toOption returned
  have admitted : (clusterSystem Bool sampleHost).admits settledCluster
      ⟨false, .resolve contraryRequest⟩ := trivial
  have run := System.Run.extend _ settledCluster_run admitted
  have answers : AnswersResolution sampleHost (contraryRequest.tenantId, contraryRequest.conflictId)
      ⟨settledCluster, ⟨false, .resolve contraryRequest⟩,
        settledCluster.next sampleHost ⟨false, .resolve contraryRequest⟩⟩ contraryRequest resolved := by
    refine ⟨rfl, rfl, ?_⟩
    dsimp only
    exact answered
  refine ⟨resolved, answered, value, ?_⟩
  exact (resolutions_final sampleHost run _).1 _ contraryRequest resolved
    (List.mem_append_right _ (List.mem_singleton_self _)) answers

end Api
end RealityLayer
