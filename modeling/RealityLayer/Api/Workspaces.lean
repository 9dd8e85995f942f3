import RealityLayer.Api.Database
import RealityLayer.Foundation.Register

namespace RealityLayer
namespace Api

open Foundation Python WorldState WorldStateService Actions

/-!
# Workspaces and connector checks

An operator decides in the database what a tenant's agents may do: the mode of the
workspace admits proposals, and the capabilities of its connectors admit writes and reads.
A workspace starts in `observe_only`, with connectors that can do nothing.  Only
`set_mode` and `record_connector_checks` change that.

A tenant can have several workspaces, and the first one counts.  It stays the first one,
because a later one is added behind it, so a new workspace never undoes what an operator
decided.  In every run the policy of a tenant is the mode set last, and a capability is
what the check recorded last.
-/

/-! ## Rows -/

/-- `WorkspaceMode`. A workspace begins in the first of them, and only an operator's call
leaves it. -/
inductive WorkspaceMode where
  | observeOnly
  | demoProposal
deriving DecidableEq

def WorkspaceMode.value : WorkspaceMode -> Text
  | .observeOnly => observeOnlyMode
  | .demoProposal => "demo_proposal"

/-- `ConnectorKind`. -/
inductive ConnectorKind where
  | shopify
  | easypost
deriving DecidableEq

def ConnectorKind.value : ConnectorKind -> Text
  | .shopify => "shopify"
  | .easypost => "easypost"

/-- The connectors that `initialize` sets up unless it is told otherwise. -/
def ConnectorKind.defaults : List ConnectorKind := [.shopify, .easypost]

/-- A whole row of the `connector` table. The policy and the capabilities are read from the
columns of a `ConnectorRow` alone. -/
structure ConnectorEntry extends ConnectorRow where
  connectorId : Text
  displayName : Text
  requiredScopes : List Json
  configRef : Option Text
  lastCheck : Dict Text Json

/-- The two tables, under their primary keys and in the order of creation. The first
workspace of a tenant is the one that counts. -/
structure Directory where
  workspaces : Dict Text Workspace
  connectors : Dict Text ConnectorEntry

structure WorkspaceBootstrap where
  workspaceId : Text
  tenantId : Text
  mode : Text
  connectorIds : List Text
deriving DecidableEq

/-- What a call raises: a `ValueError`, or the database's refusal of a row whose key is taken. -/
inductive DirectoryError where
  | raised (error : PyError)
  | rejected
deriving DecidableEq

namespace Directory

def empty : Directory := ⟨.empty, .empty⟩

/-- The database that the other services see. -/
def database (directory : Directory) (tables : Tables) (events : List ActionEventRecord) : Database where
  tables := tables
  events := events
  workspaces := directory.workspaces.values
  connectors := directory.connectors.values.map ConnectorEntry.toConnectorRow

/-! ## Reading -/

/-- `_primary_workspace`. It is the first that was set up, so the rows are kept in that order. -/
def primaryWorkspace (directory : Directory) (tenantId : Text) : Option Workspace :=
  directory.workspaces.values.find? (fun workspace => decide (workspace.tenantId = tenantId))

/-- The connectors of a tenant's workspace. -/
def connectorsOf (directory : Directory) (tenantId workspaceId : Text) : List ConnectorEntry :=
  directory.connectors.values.filter (fun connector =>
    decide (connector.tenantId = tenantId) && decide (connector.workspaceId = workspaceId))

/-- `WorkspaceMode(mode)`. A text that is no mode raises, and the message prints it. -/
def modeFrom (rt : Runtime) (mode : Text) : Except DirectoryError Text :=
  if mode ∈ workspaceModes then .ok mode
  else .error (.raised (.valueError (rt.repr (.str mode) ++ " is not a valid WorkspaceMode")))

def bootstrap (directory : Directory) (workspace : Workspace) (tenantId mode : Text) :
    WorkspaceBootstrap where
  workspaceId := workspace.workspaceId
  tenantId := tenantId
  mode := mode
  connectorIds := (directory.connectorsOf tenantId workspace.workspaceId).map ConnectorEntry.connectorId

/-! ## Writing -/

/-- Insert a row, unless its key is taken or a text is too long for its column. A refused row
ends the call that asked for it. -/
def addWorkspace (directory : Directory) (workspace : Workspace) : Except DirectoryError Directory :=
  if directory.workspaces.contains workspace.workspaceId || decide (64 < workspace.workspaceId.length) ||
      decide (255 < workspace.tenantId.length) then .error .rejected
  else .ok { directory with
    workspaces := directory.workspaces.set workspace.workspaceId workspace }

def addConnector (directory : Directory) (connector : ConnectorEntry) : Except DirectoryError Directory :=
  if directory.connectors.contains connector.connectorId ||
      decide (64 < connector.connectorId.length) then .error .rejected
  else .ok { directory with
    connectors := directory.connectors.set connector.connectorId connector }

def capabilitiesFrom (read write : Bool) : Dict Text Json :=
  Dict.ofList [("read", .bool read), ("write", .bool write)]

/-- A connector that can do nothing yet. Its capabilities come with its first check. -/
def newConnector (tenantId workspaceId : Text) (kind : ConnectorKind) : ConnectorEntry where
  connectorId := workspaceId ++ "_" ++ kind.value
  tenantId := tenantId
  workspaceId := workspaceId
  kind := kind.value
  displayName := capitalize kind.value
  capabilities := capabilitiesFrom false false
  requiredScopes := []
  configRef := some ("settings:" ++ kind.value)
  lastCheck := Dict.empty

def newWorkspace (tenantId workspaceId : Text) : Workspace :=
  ⟨workspaceId, tenantId, WorkspaceMode.observeOnly.value, Dict.empty⟩

/-- `initialize`. A workspace that is there already is answered as it stands. -/
def initializeWorkspace (rt : Runtime) (directory : Directory) (draws : Draws) (tenantId : Text)
    (workspaceId : Option Text) (kinds : List ConnectorKind) :
    Except DirectoryError (Directory × WorkspaceBootstrap) :=
  match directory.workspaces.values.find? (fun workspace => decide (workspace.tenantId = tenantId) &&
      workspaceId.all (fun identifier => decide (workspace.workspaceId = identifier))) with
  | some existing =>
      (modeFrom rt existing.mode).map (fun mode =>
        (directory, directory.bootstrap existing tenantId mode))
  | none => do
      let identifier := (truthy? workspaceId).getD ("ws_" ++ draws.hex16 0)
      let connectors := kinds.map (newConnector tenantId identifier)
      let created <- directory.addWorkspace (newWorkspace tenantId identifier)
      let filled <- connectors.foldlM addConnector created
      return (filled, {
        workspaceId := identifier
        tenantId := tenantId
        mode := WorkspaceMode.observeOnly.value
        connectorIds := connectors.map ConnectorEntry.connectorId })

def noWorkspace (tenantId : Text) : DirectoryError :=
  .raised (.valueError ("No workspace is initialized for tenant " ++ tenantId ++ "."))

/-- `set_mode`. It raises for a tenant without a workspace, and leaves the connectors alone. -/
def setMode (directory : Directory) (tenantId : Text) (mode : WorkspaceMode) :
    Except DirectoryError (Directory × WorkspaceBootstrap) :=
  match directory.primaryWorkspace tenantId with
  | none => .error (noWorkspace tenantId)
  | some workspace =>
      let after := { directory with
        workspaces := directory.workspaces.set workspace.workspaceId
          { workspace with mode := mode.value } }
      .ok (after, after.bootstrap workspace tenantId mode.value)

/-- `bool(result.get(name))`. -/
def flag (result : Dict Text Json) (name : Text) : Bool := ((result.get? name).getD .null).truthy

/-- A connector after its check. Both capabilities are those of the last check, so that a
failed one takes them away. -/
def checkedConnector (connector : ConnectorEntry) (result : Dict Text Json) : ConnectorEntry :=
  { connector with
    capabilities := capabilitiesFrom (flag result "read_capability") (flag result "write_capability")
    lastCheck := Dict.ofList [("authenticated", .bool (flag result "authenticated")),
      ("error", (result.get? "error").getD .null)] }

/-- `connectors[kind]` of a workspace. -/
def connectorFor (directory : Directory) (tenantId workspaceId kind : Text) : Option ConnectorEntry :=
  (Dict.ofList ((directory.connectorsOf tenantId workspaceId).map (fun connector =>
    (connector.kind, connector)))).get? kind

/-- One round of the loop of `record_connector_checks`. A result for a kind that the
workspace does not have changes nothing. -/
def recordCheck (rt : Runtime) (directory : Directory) (tenantId workspaceId : Text)
    (result : Dict Text Json) : Except DirectoryError Directory :=
  let name := (result.get? "connector").getD .null
  match name.text?.bind (directory.connectorFor tenantId workspaceId) with
  | none => .error (.raised (.valueError
      ("Connector is not configured for workspace: " ++ rt.repr name ++ ".")))
  | some connector => .ok { directory with
      connectors := directory.connectors.set connector.connectorId (checkedConnector connector result) }

/-- `record_connector_checks`. -/
def recordConnectorChecks (rt : Runtime) (directory : Directory) (tenantId : Text)
    (results : List (Dict Text Json)) : Except DirectoryError Directory :=
  match directory.primaryWorkspace tenantId with
  | none => .error (noWorkspace tenantId)
  | some workspace => results.foldlM (fun directory result =>
      directory.recordCheck rt tenantId workspace.workspaceId result) directory

end Directory

/-! ## The directory as a system -/

/-- An operator's call; what raises is rolled back. The checks come as the connectors
answered them and are not validated before. -/
inductive DirectoryCall where
  | initializeWorkspace (draws : Draws) (tenantId : Text) (workspaceId : Option Text)
  | setMode (tenantId : Text) (mode : WorkspaceMode)
  | recordConnectorChecks (tenantId : Text) (results : List (Dict Text Json))

def DirectoryCall.perform (rt : Runtime) (directory : Directory) :
    DirectoryCall -> Except DirectoryError Directory
  | .initializeWorkspace draws tenantId workspaceId =>
      (directory.initializeWorkspace rt draws tenantId workspaceId ConnectorKind.defaults).map Prod.fst
  | .setMode tenantId mode => (directory.setMode tenantId mode).map Prod.fst
  | .recordConnectorChecks tenantId results => directory.recordConnectorChecks rt tenantId results

def DirectoryCall.after (rt : Runtime) (directory : Directory) (call : DirectoryCall) : Directory :=
  (call.perform rt directory).toOption.getD directory

/-- The directory from an empty database on. -/
def directorySystem (rt : Runtime) : System Directory DirectoryCall where
  start := fun directory => directory = .empty
  admits := fun _ _ => True
  next := fun directory call => call.after rt directory

/-! ## What a run keeps -/

/-- The rows belong together: a connector is one of an existing workspace of its tenant,
and the only one of its kind there. -/
structure Kept (directory : Directory) : Prop where
  workspaces : directory.workspaces.All (fun workspaceId workspace =>
    workspace.workspaceId = workspaceId ∧ workspace.mode ∈ workspaceModes ∧
      workspace.thresholds = Dict.empty)
  connectors : directory.connectors.All (fun connectorId connector =>
    connector.connectorId = connectorId ∧ Exists fun workspace =>
      directory.workspaces.get? connector.workspaceId = some workspace ∧
        workspace.tenantId = connector.tenantId)
  sole : forall first second connector connector',
    directory.connectors.get? first = some connector ->
    directory.connectors.get? second = some connector' ->
    connector.workspaceId = connector'.workspaceId -> connector.kind = connector'.kind ->
      first = second

/-- The mode of a tenant's first workspace. A tenant without one only observes. -/
def Directory.mode (directory : Directory) (tenantId : Text) : Text :=
  ((directory.primaryWorkspace tenantId).map Workspace.mode).getD observeOnlyMode

/-- A connector of the tenant's first workspace has a capability. -/
def Directory.Enables (directory : Directory) (tenantId kind capability : Text) : Prop :=
  Exists fun workspace => directory.primaryWorkspace tenantId = some workspace ∧
    Exists fun connectorId => Exists fun connector : ConnectorEntry =>
      directory.connectors.get? connectorId = some connector ∧
        connector.workspaceId = workspace.workspaceId ∧ connector.kind = kind ∧
        connector.capabilities.get? capability = some (.bool true)

section Rows

variable {directory : Directory} {tenantId : Text}

theorem Kept.empty : Kept .empty where
  workspaces := .empty _
  connectors := .empty _
  sole := fun _ _ _ _ absent => by cases absent

/-- The first workspace of a tenant is stored, under its own identifier. -/
theorem primaryWorkspace_held (kept : Kept directory) {workspace : Workspace}
    (primary : directory.primaryWorkspace tenantId = some workspace) :
    directory.workspaces.get? workspace.workspaceId = some workspace ∧ workspace.tenantId = tenantId := by
  have tenant := List.find?_some primary
  rcases (directory.workspaces.mem_values_iff workspace).mp (List.mem_of_find?_eq_some primary) with
    ⟨workspaceId, held⟩
  rw [(kept.workspaces _ _ held).1]
  exact ⟨held, of_decide_eq_true tenant⟩

theorem Kept.policy (kept : Kept directory) (rt : Runtime) (float : ToFloat) (tables : Tables)
    (events : List ActionEventRecord) (tenantId : Text) :
    (directory.database tables events).policy rt float tenantId =
      .ok ⟨directory.mode tenantId, none⟩ := by
  unfold Database.policy Directory.mode
  have same : (directory.database tables events).workspaceOf tenantId =
    directory.primaryWorkspace tenantId := rfl
  rw [same]
  cases primary : directory.primaryWorkspace tenantId with
  | none => rfl
  | some workspace =>
      rcases kept.workspaces _ _ (primaryWorkspace_held kept primary).1 with ⟨_, known, unlimited⟩
      dsimp only
      unfold Database.thresholdLimit
      rw [unlimited]
      exact if_pos known

/-- The connector that `has_capability` finds is the only one of its kind. -/
theorem Kept.found (kept : Kept directory) {workspace : Workspace} {kind : Text}
    (primary : directory.primaryWorkspace tenantId = some workspace) {connectorId : Text}
    {connector : ConnectorEntry} (held : directory.connectors.get? connectorId = some connector)
    (housed : connector.workspaceId = workspace.workspaceId) (same : connector.kind = kind) :
    directory.connectors.values.find? (fun connector => decide (connector.tenantId = tenantId ∧
      connector.workspaceId = workspace.workspaceId ∧ connector.kind = kind)) = some connector := by
  have owner : connector.tenantId = tenantId := by
    rcases (kept.connectors _ _ held).2 with ⟨home, stored, tenant⟩
    rcases primaryWorkspace_held kept primary with ⟨found, owned⟩
    rw [housed, found] at stored
    cases stored
    exact tenant.symm.trans owned
  cases chosen : directory.connectors.values.find? (fun connector => decide
      (connector.tenantId = tenantId ∧ connector.workspaceId = workspace.workspaceId ∧
        connector.kind = kind)) with
  | none =>
      have member := (directory.connectors.mem_values_iff connector).mpr ⟨_, held⟩
      exact absurd (decide_eq_true ⟨owner, housed, same⟩) (List.find?_eq_none.mp chosen _ member)
  | some other =>
      have fits := List.find?_some chosen
      rcases of_decide_eq_true fits with ⟨_, housed', same'⟩
      rcases (directory.connectors.mem_values_iff other).mp (List.mem_of_find?_eq_some chosen) with
        ⟨otherId, held'⟩
      have equal := kept.sole _ _ _ _ held' held (housed'.trans housed.symm) (same'.trans same.symm)
      subst equal
      exact held'.symm.trans held

theorem Kept.hasCapability_iff (kept : Kept directory) (tables : Tables)
    (events : List ActionEventRecord) (tenantId kind capability : Text) :
    (directory.database tables events).hasCapability tenantId kind capability = true <->
      directory.Enables tenantId kind capability := by
  unfold Database.hasCapability Directory.Enables
  have same : (directory.database tables events).workspaceOf tenantId =
    directory.primaryWorkspace tenantId := rfl
  rw [same]
  cases primary : directory.primaryWorkspace tenantId with
  | none => simp
  | some workspace =>
      unfold Directory.database
      dsimp only
      rw [List.find?_map]
      constructor
      · intro enabled
        cases chosen : directory.connectors.values.find? ((fun connector : ConnectorRow => decide
            (connector.tenantId = tenantId ∧ connector.workspaceId = workspace.workspaceId ∧
              connector.kind = kind)) ∘ ConnectorEntry.toConnectorRow) with
        | none =>
            rw [chosen] at enabled
            cases enabled
        | some connector =>
            rw [chosen] at enabled
            have fits := List.find?_some chosen
            rw [Function.comp_apply] at fits
            rcases of_decide_eq_true fits with ⟨_, housed, same'⟩
            rcases (directory.connectors.mem_values_iff connector).mp
              (List.mem_of_find?_eq_some chosen) with ⟨connectorId, held⟩
            exact ⟨workspace, rfl, connectorId, connector, held, housed, same',
              of_decide_eq_true enabled⟩
      · rintro ⟨_, ⟨⟩, connectorId, connector, held, housed, same', enabled⟩
        have chosen : directory.connectors.values.find? ((fun connector : ConnectorRow => decide
            (connector.tenantId = tenantId ∧ connector.workspaceId = workspace.workspaceId ∧
              connector.kind = kind)) ∘ ConnectorEntry.toConnectorRow) = some connector :=
          kept.found primary held housed same'
        rw [chosen]
        exact decide_eq_true enabled

end Rows

/-! ## What a call does -/

section Calls

variable {rt : Runtime} {directory after : Directory} {tenantId workspaceId : Text}

theorem connectorFor_some {kind : Text} {connector : ConnectorEntry}
    (found : directory.connectorFor tenantId workspaceId kind = some connector) :
    Exists fun connectorId => directory.connectors.get? connectorId = some connector ∧
      connector.tenantId = tenantId ∧ connector.workspaceId = workspaceId ∧ connector.kind = kind := by
  have listed : (Dict.ofList ((directory.connectorsOf tenantId workspaceId).map (fun connector =>
      (connector.kind, connector)))).All (fun kind connector =>
        connector ∈ directory.connectorsOf tenantId workspaceId ∧ connector.kind = kind) := by
    apply Dict.All.ofList
    intro entry member
    rcases List.mem_map.mp member with ⟨connector, inside, rfl⟩
    exact ⟨inside, rfl⟩
  rcases listed kind connector found with ⟨inside, same⟩
  rcases List.mem_filter.mp inside with ⟨member, fits⟩
  rcases (directory.connectors.mem_values_iff connector).mp member with ⟨connectorId, held⟩
  rcases Bool.and_eq_true_iff.mp fits with ⟨owner, housed⟩
  exact ⟨connectorId, held, of_decide_eq_true owner, of_decide_eq_true housed, same⟩

/-- A row in the place of one with the same home and kind. -/
theorem Kept.replaced (kept : Kept directory) {connectorId : Text} {connector new : ConnectorEntry}
    (held : directory.connectors.get? connectorId = some connector)
    (named : new.connectorId = connector.connectorId) (owner : new.tenantId = connector.tenantId)
    (housed : new.workspaceId = connector.workspaceId) (kind : new.kind = connector.kind) :
    Kept { directory with connectors := directory.connectors.set connectorId new } where
  workspaces := kept.workspaces
  connectors := by
    apply kept.connectors.set
    rcases kept.connectors _ _ held with ⟨same, home, stored, tenant⟩
    exact ⟨named.trans same, home, housed ▸ stored, tenant.trans owner.symm⟩
  sole := by
    intro first second left right found found' homes kinds
    rw [Dict.get?_set] at found found'
    -- Either row may be the new one, which stands where `connector` stood.
    split at found
    · rename_i same
      cases found
      split at found'
      · rename_i same'
        exact same.trans same'.symm
      · exact same.trans (kept.sole _ _ _ _ held found' (housed.symm.trans homes)
          (kind.symm.trans kinds))
    · split at found'
      · rename_i same'
        cases found'
        exact (kept.sole _ _ _ _ found held (homes.trans housed) (kinds.trans kind)).trans same'.symm
      · exact kept.sole _ _ _ _ found found' homes kinds

theorem get?_checked (connector : ConnectorEntry) (result : Dict Text Json) {capability : Text}
    (known : capability ∈ (["read", "write"] : List Text)) :
    (Directory.checkedConnector connector result).capabilities.get? capability =
      some (.bool (Directory.flag result (capability ++ "_capability"))) := by
  unfold Directory.checkedConnector
  dsimp only
  simp only [List.mem_cons, List.not_mem_nil, or_false] at known
  rcases known with rfl | rfl
  · rw [show ("read" : Text) ++ "_capability" = "read_capability" by decide]
    generalize Directory.flag result "read_capability" = read
    generalize Directory.flag result "write_capability" = write
    cases read <;> cases write <;> decide +kernel
  · rw [show ("write" : Text) ++ "_capability" = "write_capability" by decide]
    generalize Directory.flag result "read_capability" = read
    generalize Directory.flag result "write_capability" = write
    cases read <;> cases write <;> decide +kernel

/-- Two first workspaces with one identifier are of one tenant. -/
theorem Kept.tenant_eq (kept : Kept directory) {other : Text} {first second : Workspace}
    (primary : directory.primaryWorkspace tenantId = some first)
    (primary' : directory.primaryWorkspace other = some second)
    (same : second.workspaceId = first.workspaceId) : other = tenantId := by
  rcases primaryWorkspace_held kept primary with ⟨held, owner⟩
  rcases primaryWorkspace_held kept primary' with ⟨held', owner'⟩
  rw [same, held] at held'
  cases held'
  exact owner'.symm.trans owner

/-- The check of a connector decides its capabilities, and no others. -/
theorem recordCheck_effect (kept : Kept directory) {workspace : Workspace} {result : Dict Text Json}
    (primary : directory.primaryWorkspace tenantId = some workspace)
    (done : directory.recordCheck rt tenantId workspace.workspaceId result = .ok after) :
    Kept after ∧ after.workspaces = directory.workspaces ∧
      Exists fun name : Text => result.get? "connector" = some (.str name) ∧
        forall other kind capability, capability ∈ (["read", "write"] : List Text) ->
          (after.Enables other kind capability <->
            if other = tenantId ∧ kind = name then
              Directory.flag result (capability ++ "_capability") = true
            else directory.Enables other kind capability) := by
  unfold Directory.recordCheck at done
  dsimp only at done
  split at done
  · cases done
  rename_i connector chosen
  cases done
  rcases Option.bind_eq_some_iff.mp chosen with ⟨name, read, found⟩
  rcases connectorFor_some found with ⟨connectorId, held, owner, housed, kind⟩
  have stored : connector.connectorId = connectorId := (kept.connectors _ _ held).1
  subst stored
  have mentioned : result.get? "connector" = some (.str name) := by
    cases value : result.get? "connector" with
    | none =>
        rw [value] at read
        cases read
    | some json =>
        rw [value, Option.getD_some] at read
        cases json <;> cases read
        rfl
  refine ⟨kept.replaced held rfl rfl rfl rfl, rfl, name, mentioned, ?_⟩
  intro other wanted capability known
  unfold Directory.Enables
  by_cases target : other = tenantId ∧ wanted = name
  · rw [if_pos target]
    rcases target with ⟨rfl, rfl⟩
    constructor
    · rintro ⟨home, primary', connectorId, entry, held', housed', kind', enabled⟩
      cases primary.symm.trans primary'
      rw [Dict.get?_set] at held'
      split at held'
      · cases held'
        rw [get?_checked connector result known] at enabled
        exact Json.bool.inj (Option.some.inj enabled)
      · rename_i different
        exact absurd (kept.sole _ _ _ _ held' held (housed'.trans housed.symm) (kind'.trans kind.symm))
          different
    · intro enabled
      refine ⟨workspace, primary, _, _, Dict.get?_set_self _ _ _, housed, kind, ?_⟩
      rw [get?_checked connector result known, enabled]
  · rw [if_neg target]
    -- The checked connector is not one that `other` asks for.
    have elsewhere : forall home, directory.primaryWorkspace other = some home ->
        connector.workspaceId = home.workspaceId -> connector.kind = wanted -> False := by
      intro home primary' housed' kind'
      exact target ⟨kept.tenant_eq primary primary' (housed'.symm.trans housed), kind'.symm.trans kind⟩
    constructor
    · rintro ⟨home, primary', connectorId, entry, held', housed', kind', enabled⟩
      rw [Dict.get?_set] at held'
      split at held'
      · cases held'
        exact (elsewhere home primary' housed' kind').elim
      · exact ⟨home, primary', connectorId, entry, held', housed', kind', enabled⟩
    · rintro ⟨home, primary', connectorId, entry, held', housed', kind', enabled⟩
      refine ⟨home, primary', connectorId, entry, ?_, housed', kind', enabled⟩
      rw [Dict.get?_set_of_ne]
      · exact held'
      · rintro rfl
        cases held.symm.trans held'
        exact elsewhere home primary' housed' kind'

/-- The last check of a connector. A batch may check one more than once. -/
def lastCheck (kind : Text) (results : List (Dict Text Json)) : Option (Dict Text Json) :=
  (results.filter (fun result => decide (result.get? "connector" = some (.str kind)))).getLast?

theorem lastCheck_cons (kind : Text) (first : Dict Text Json) (rest : List (Dict Text Json)) :
    lastCheck kind (first :: rest) = (lastCheck kind rest).or
      (if first.get? "connector" = some (.str kind) then some first else none) := by
  unfold lastCheck
  rw [List.filter_cons]
  by_cases mentions : first.get? "connector" = some (.str kind)
  · rw [if_pos (decide_eq_true mentions), if_pos mentions, List.getLast?_cons]
    cases (rest.filter (fun result => decide (result.get? "connector" = some (.str kind)))).getLast? with
    | none => rfl
    | some last => rfl
  · rw [if_neg (fun same => mentions (of_decide_eq_true same)), if_neg mentions, Option.or_none]

/-- The capability that a batch of checks leaves. -/
def Directory.EnablesAfter (directory : Directory) (tenantId : Text) (results : List (Dict Text Json))
    (other kind capability : Text) : Prop :=
  match (if other = tenantId then lastCheck kind results else none) with
  | some result => Directory.flag result (capability ++ "_capability") = true
  | none => directory.Enables other kind capability

theorem recordChecks_effect (kept : Kept directory) {workspace : Workspace}
    (primary : directory.primaryWorkspace tenantId = some workspace) {results : List (Dict Text Json)}
    (done : results.foldlM (fun directory result =>
      directory.recordCheck rt tenantId workspace.workspaceId result) directory = .ok after) :
    Kept after ∧ after.workspaces = directory.workspaces ∧
      forall other kind capability, capability ∈ (["read", "write"] : List Text) ->
        (after.Enables other kind capability <->
          directory.EnablesAfter tenantId results other kind capability) := by
  induction results generalizing directory with
  | nil =>
      cases done
      refine ⟨kept, rfl, fun other kind capability _ => ?_⟩
      have unchecked : lastCheck kind [] = none := rfl
      unfold Directory.EnablesAfter
      rw [unchecked, ite_self]
  | cons first rest ih =>
      rw [List.foldlM_cons] at done
      rcases bind_ok done with ⟨middle, checked, done⟩
      rcases recordCheck_effect kept primary checked with ⟨kept', same, name, mentions, decides⟩
      have primary' : middle.primaryWorkspace tenantId = some workspace := by
        unfold Directory.primaryWorkspace
        rw [same]
        exact primary
      rcases ih kept' primary' done with ⟨kept'', same', later⟩
      refine ⟨kept'', same'.trans same, ?_⟩
      intro other kind capability known
      rw [later other kind capability known]
      unfold Directory.EnablesAfter
      by_cases target : other = tenantId
      · rw [if_pos target, if_pos target, lastCheck_cons, mentions]
        cases lastCheck kind rest with
        | some result =>
            rw [Option.some_or]
        | none =>
            rw [Option.none_or]
            dsimp only
            rw [decides other kind capability known]
            by_cases named : name = kind
            · subst named
              rw [if_pos rfl, if_pos ⟨target, rfl⟩]
            · rw [if_neg (fun both => named both.2.symm),
                if_neg (fun same => named (Json.str.inj (Option.some.inj same)))]
      · rw [if_neg target, if_neg target]
        dsimp only
        rw [decides other kind capability known, if_neg (fun both => target both.1)]

/-! ## New workspaces and modes -/

theorem primaryWorkspace_added {workspace : Workspace}
    (absent : directory.workspaces.get? workspace.workspaceId = none) (other : Text) :
    ({ directory with workspaces := directory.workspaces.set workspace.workspaceId workspace } :
        Directory).primaryWorkspace other =
      (directory.primaryWorkspace other).or (if workspace.tenantId = other then some workspace else none) := by
  unfold Directory.primaryWorkspace Dict.values
  dsimp only
  rw [Dict.entries_set_of_absent _ _ absent, List.map_append, List.find?_append]
  refine congrArg _ ?_
  rw [List.map_cons, List.map_nil, List.find?_cons]
  by_cases same : workspace.tenantId = other
  · rw [if_pos same, decide_eq_true same]
  · rw [if_neg same, decide_eq_false same]
    rfl

/-- A new row that can do nothing, of a kind that its workspace does not have yet. -/
theorem addConnector_effect (kept : Kept directory) {new : ConnectorEntry} {workspace : Workspace}
    (home : directory.workspaces.get? new.workspaceId = some workspace)
    (owner : workspace.tenantId = new.tenantId)
    (idle : new.capabilities = Directory.capabilitiesFrom false false)
    (free : forall connectorId connector, directory.connectors.get? connectorId = some connector ->
      connector.workspaceId = new.workspaceId -> connector.kind ≠ new.kind)
    (done : directory.addConnector new = .ok after) :
    Kept after ∧ after.workspaces = directory.workspaces ∧
      after.connectors = directory.connectors.set new.connectorId new ∧
      forall other kind capability,
        after.Enables other kind capability <-> directory.Enables other kind capability := by
  unfold Directory.addConnector at done
  split at done
  · cases done
  rename_i room
  cases done
  have absent : directory.connectors.get? new.connectorId = none := by
    rw [Bool.or_eq_true, not_or, Bool.not_eq_true] at room
    exact Option.isNone_iff_eq_none.mp (by simpa [Dict.contains] using room.1)
  have powerless : forall capability, new.capabilities.get? capability ≠ some (.bool true) := by
    intro capability enabled
    have off : (Directory.capabilitiesFrom false false).All (fun _ value => value = .bool false) :=
      Dict.All.ofList _ (by simp)
    rw [idle] at enabled
    cases off capability _ enabled
  refine ⟨⟨kept.workspaces, ?_, ?_⟩, rfl, rfl, ?_⟩
  · exact kept.connectors.set ⟨rfl, workspace, home, owner⟩
  · intro first second left right found found' homes kinds
    rw [Dict.get?_set] at found found'
    split at found
    · rename_i same
      cases found
      split at found'
      · rename_i same'
        exact same.trans same'.symm
      · exact absurd kinds.symm (free _ _ found' homes.symm)
    · split at found'
      · cases found'
        exact absurd kinds (free _ _ found homes)
      · exact kept.sole _ _ _ _ found found' homes kinds
  · intro other kind capability
    constructor
    · rintro ⟨first, primary, connectorId, connector, held, housed, same, enabled⟩
      rw [Dict.get?_set] at held
      split at held
      · cases held
        exact absurd enabled (powerless capability)
      · exact ⟨first, primary, connectorId, connector, held, housed, same, enabled⟩
    · rintro ⟨first, primary, connectorId, connector, held, housed, same, enabled⟩
      refine ⟨first, primary, connectorId, connector, ?_, housed, same, enabled⟩
      rw [Dict.get?_set_of_ne]
      · exact held
      · rintro rfl
        rw [absent] at held
        cases held

/-- A new workspace has no connector yet, and is no tenant's first one if there is another. -/
theorem addWorkspace_effect (kept : Kept directory)
    (done : directory.addWorkspace (Directory.newWorkspace tenantId workspaceId) = .ok after) :
    Kept after ∧ after.connectors = directory.connectors ∧
      after.workspaces.get? workspaceId = some (Directory.newWorkspace tenantId workspaceId) ∧
      (forall connectorId connector, after.connectors.get? connectorId = some connector ->
        connector.workspaceId ≠ workspaceId) ∧
      (forall other, after.mode other = directory.mode other) ∧
      forall other kind capability,
        after.Enables other kind capability <-> directory.Enables other kind capability := by
  unfold Directory.addWorkspace at done
  split at done
  · cases done
  rename_i room
  cases done
  have absent : directory.workspaces.get? workspaceId = none := by
    rw [Bool.or_eq_true, Bool.or_eq_true, not_or, not_or] at room
    exact Option.isNone_iff_eq_none.mp (by simpa [Dict.contains, Directory.newWorkspace] using room.1.1)
  have empty : forall connectorId connector, directory.connectors.get? connectorId = some connector ->
      connector.workspaceId ≠ workspaceId := by
    rintro connectorId connector held rfl
    rcases (kept.connectors _ _ held).2 with ⟨home, stored, _⟩
    rw [absent] at stored
    cases stored
  have first := @primaryWorkspace_added _ (Directory.newWorkspace tenantId workspaceId) absent
  refine ⟨⟨?_, ?_, kept.sole⟩, rfl, Dict.get?_set_self _ _ _, empty, ?_, ?_⟩
  · exact kept.workspaces.set ⟨rfl, (by decide : WorkspaceMode.observeOnly.value ∈ workspaceModes), rfl⟩
  · intro connectorId connector held
    rcases kept.connectors _ _ held with ⟨same, home, stored, owner⟩
    refine ⟨same, home, ?_, owner⟩
    exact (Dict.get?_set_of_ne _ _ (empty _ _ held)).trans stored
  · intro other
    unfold Directory.mode
    rw [first]
    cases directory.primaryWorkspace other with
    | some workspace => rfl
    | none =>
        rw [Option.none_or]
        split
        · rfl
        · rfl
  · intro other kind capability
    unfold Directory.Enables
    rw [first]
    cases directory.primaryWorkspace other with
    | some workspace => exact Iff.rfl
    | none =>
        rw [Option.none_or]
        constructor
        · rintro ⟨workspace, primary, connectorId, connector, held, housed, _⟩
          split at primary
          · cases primary
            exact absurd housed (empty _ _ held)
          · cases primary
        · rintro ⟨workspace, absent', _⟩
          cases absent'

/-- Initializing a workspace changes neither a tenant's mode nor any capability. A second
workspace of the tenant never becomes its first. -/
theorem initializeWorkspace_effect (kept : Kept directory) {draws : Draws} {requested : Option Text}
    {bootstrap : WorkspaceBootstrap}
    (done : directory.initializeWorkspace rt draws tenantId requested ConnectorKind.defaults =
      .ok (after, bootstrap)) :
    Kept after ∧ (forall other, after.mode other = directory.mode other) ∧
      forall other kind capability,
        after.Enables other kind capability <-> directory.Enables other kind capability := by
  unfold Directory.initializeWorkspace at done
  split at done
  · rename_i existing found
    unfold Directory.modeFrom at done
    split at done
    · cases done
      exact ⟨kept, fun _ => rfl, fun _ _ _ => Iff.rfl⟩
    · cases done
  generalize (truthy? requested).getD ("ws_" ++ draws.hex16 0) = identifier at done
  rcases bind_ok done with ⟨created, added, done⟩
  rcases bind_ok done with ⟨filled, connected, done⟩
  cases done
  rw [ConnectorKind.defaults, List.map_cons, List.map_cons, List.map_nil, List.foldlM_cons] at connected
  rcases bind_ok connected with ⟨first, shopify, connected⟩
  rcases bind_ok connected with ⟨second, easypost, connected⟩
  cases connected
  rcases addWorkspace_effect kept added with ⟨kept, rows, home, empty, modes, enables⟩
  rcases addConnector_effect kept home rfl rfl (fun id held found same => absurd same (empty id held found))
    shopify with ⟨kept', same', connectors, enables'⟩
  have home' : first.workspaces.get? identifier = some (Directory.newWorkspace tenantId identifier) := by
    rw [same']
    exact home
  have free : forall id held, first.connectors.get? id = some held -> held.workspaceId = identifier ->
      held.kind ≠ ConnectorKind.easypost.value := by
    intro id held found housed
    rw [connectors, Dict.get?_set] at found
    split at found
    · cases found
      exact (by decide : ConnectorKind.shopify.value ≠ ConnectorKind.easypost.value)
    · exact absurd housed (empty id held found)
  rcases addConnector_effect kept' home' rfl rfl free easypost with ⟨kept'', same'', _, enables''⟩
  refine ⟨kept'', ?_, ?_⟩
  · intro other
    rw [← modes other]
    unfold Directory.mode Directory.primaryWorkspace
    rw [same'', same']
  · intro other kind capability
    rw [enables'', enables', enables]

/-- Values that know their own keys keep their places when one of them is set. -/
theorem find?_setEntries {V : Type} (name : V -> Text) {key : Text} {old new : V} (selects : V -> Bool)
    (same : selects new = selects old) (entries : List (Text × V))
    (distinct : (entries.map Prod.fst).Nodup) (named : forall entry, entry ∈ entries -> name entry.2 = entry.1)
    (held : (key, old) ∈ entries) :
    ((Dict.setEntries key new entries).map Prod.snd).find? selects =
      ((entries.map Prod.snd).find? selects).map (fun value => if name value = key then new else value) := by
  induction entries with
  | nil => cases held
  | cons head rest ih =>
      rw [List.map_cons, List.nodup_cons] at distinct
      have headNamed := named head List.mem_cons_self
      rw [Dict.setEntries]
      by_cases here : head.1 = key
      · rw [if_pos here, List.map_cons, List.map_cons, List.find?_cons, List.find?_cons]
        have value : head.2 = old := by
          rcases List.mem_cons.mp held with equal | later
          · exact congrArg Prod.snd equal.symm
          · exact absurd (List.mem_map_of_mem (f := Prod.fst) later) (here ▸ distinct.1)
        rw [value, same]
        cases selects old with
        | true => rw [Option.map_some, if_pos (value ▸ headNamed.trans here)]
        | false =>
            -- No later value has this key.
            cases found : (rest.map Prod.snd).find? selects with
            | none => rfl
            | some other =>
                rcases List.mem_map.mp (List.mem_of_find?_eq_some found) with ⟨entry, member, rfl⟩
                dsimp only
                rw [Option.map_some, if_neg]
                intro equal
                rw [named entry (List.mem_cons_of_mem _ member), ← here] at equal
                exact distinct.1 (equal ▸ List.mem_map_of_mem member)
      · rw [if_neg here, List.map_cons, List.map_cons, List.find?_cons, List.find?_cons]
        cases selects head.2 with
        | true => rw [Option.map_some, if_neg (fun equal => here (headNamed.symm.trans equal))]
        | false =>
            rcases List.mem_cons.mp held with equal | later
            · exact absurd (congrArg Prod.fst equal.symm) here
            · exact ih distinct.2 (fun entry member => named entry (List.mem_cons_of_mem _ member)) later

theorem mode_known (mode : WorkspaceMode) : mode.value ∈ workspaceModes := by
  cases mode <;> decide

/-- Setting the mode of a tenant changes that mode and nothing else. -/
theorem setMode_effect (kept : Kept directory) {mode : WorkspaceMode} {bootstrap : WorkspaceBootstrap}
    (done : directory.setMode tenantId mode = .ok (after, bootstrap)) :
    Kept after ∧
      (forall other, after.mode other = if other = tenantId then mode.value else directory.mode other) ∧
      forall other kind capability,
        after.Enables other kind capability <-> directory.Enables other kind capability := by
  unfold Directory.setMode at done
  split at done
  · cases done
  rename_i workspace primary
  cases done
  rcases primaryWorkspace_held kept primary with ⟨held, owner⟩
  have firsts : forall other, Directory.primaryWorkspace
      ⟨directory.workspaces.set workspace.workspaceId { workspace with mode := mode.value },
        directory.connectors⟩ other =
        (directory.primaryWorkspace other).map (fun home =>
          if home.workspaceId = workspace.workspaceId then { workspace with mode := mode.value }
          else home) := by
    intro other
    refine find?_setEntries Workspace.workspaceId _ ?_ _ directory.workspaces.distinct ?_
      ((directory.workspaces.mem_entries_iff _ _).mpr held)
    · rfl
    · intro entry member
      exact (kept.workspaces _ _ ((directory.workspaces.mem_entries_iff _ _).mp member)).1
  -- Another tenant has another first workspace.
  have apart : forall other home, directory.primaryWorkspace other = some home ->
      home.workspaceId = workspace.workspaceId -> other = tenantId :=
    fun other home primary' same => kept.tenant_eq primary primary' same
  rcases kept.workspaces _ _ held with ⟨same, _, unlimited⟩
  refine ⟨⟨?_, ?_, kept.sole⟩, ?_, ?_⟩
  · exact kept.workspaces.set ⟨rfl, mode_known mode, unlimited⟩
  · intro connectorId connector stored
    rcases kept.connectors _ _ stored with ⟨same, home, found, tenant⟩
    refine ⟨same, ?_⟩
    rw [Dict.get?_set]
    split
    · rename_i here
      rw [here, held] at found
      cases found
      exact ⟨_, rfl, tenant⟩
    · exact ⟨home, found, tenant⟩
  · intro other
    unfold Directory.mode
    rw [firsts other]
    by_cases target : other = tenantId
    · subst target
      rw [if_pos rfl, primary, Option.map_some, if_pos rfl]
      rfl
    · rw [if_neg target]
      cases primary' : directory.primaryWorkspace other with
      | none => rfl
      | some home => rw [Option.map_some, if_neg (fun equal => target (apart other home primary' equal))]
  · intro other kind capability
    unfold Directory.Enables
    rw [firsts other]
    cases primary' : directory.primaryWorkspace other with
    | none => simp
    | some home =>
        rw [Option.map_some]
        by_cases equal : home.workspaceId = workspace.workspaceId
        · rw [if_pos equal]
          simp [equal]
        · rw [if_neg equal]

end Calls

/-! ## What an operator decided last -/

/-- The mode that a step sets for a tenant. -/
def modeWritten (rt : Runtime) (tenantId : Text) (step : Step Directory DirectoryCall) : Option Text :=
  match step.label, (step.label.perform rt step.before).toOption with
  | .setMode other mode, some _ => if tenantId = other then some mode.value else none
  | _, _ => none

/-- The capability that a step records for a tenant's connector. -/
def capabilityWritten (rt : Runtime) (tenantId kind capability : Text)
    (step : Step Directory DirectoryCall) : Option Bool :=
  match step.label, (step.label.perform rt step.before).toOption with
  | .recordConnectorChecks other results, some _ =>
      (if tenantId = other then lastCheck kind results else none).map (fun result =>
        Directory.flag result (capability ++ "_capability"))
  | _, _ => none

/-- What a step does to the directory. Modes and capabilities are said separately, because a
check never changes a mode. -/
structure StepEffect (rt : Runtime) (step : Step Directory DirectoryCall) : Prop where
  kept : Kept step.after
  mode : forall tenantId, step.after.mode tenantId =
    (modeWritten rt tenantId step).getD (step.before.mode tenantId)
  enables : forall tenantId kind capability, capability ∈ (["read", "write"] : List Text) ->
    (step.after.Enables tenantId kind capability <->
      match capabilityWritten rt tenantId kind capability step with
      | some value => value = true
      | none => step.before.Enables tenantId kind capability)

section Runs

variable {rt : Runtime} {history : List (Step Directory DirectoryCall)} {directory : Directory}

theorem Kept.step (kept : Kept directory) (call : DirectoryCall) :
    StepEffect rt ⟨directory, call, call.after rt directory⟩ := by
  cases performed : call.perform rt directory with
  | error error =>
      have same : call.after rt directory = directory := by
        unfold DirectoryCall.after
        rw [performed]
        rfl
      rw [same]
      refine ⟨kept, fun tenantId => ?_, fun tenantId kind capability _ => ?_⟩
      · unfold modeWritten
        rw [performed]
        cases call <;> rfl
      · unfold capabilityWritten
        rw [performed]
        cases call <;> exact Iff.rfl
  | ok after =>
      have same : call.after rt directory = after := by
        unfold DirectoryCall.after
        rw [performed]
        rfl
      rw [same]
      cases call with
      | initializeWorkspace draws tenant workspaceId =>
          cases done : directory.initializeWorkspace rt draws tenant workspaceId ConnectorKind.defaults with
          | error error =>
              rw [DirectoryCall.perform, done] at performed
              cases performed
          | ok answer =>
              rw [DirectoryCall.perform, done] at performed
              cases performed
              rcases initializeWorkspace_effect kept done with ⟨kept', modes, enables⟩
              exact ⟨kept', modes, fun other kind capability _ => enables other kind capability⟩
      | setMode tenant mode =>
          cases done : directory.setMode tenant mode with
          | error error =>
              rw [DirectoryCall.perform, done] at performed
              cases performed
          | ok answer =>
              rw [DirectoryCall.perform, done] at performed
              cases performed
              rcases setMode_effect kept done with ⟨kept', modes, enables⟩
              refine ⟨kept', fun other => ?_, fun other kind capability _ => enables other kind capability⟩
              dsimp only
              rw [modes other, modeWritten, DirectoryCall.perform, done]
              dsimp only [Except.map, Except.toOption]
              split
              · rfl
              · rfl
      | recordConnectorChecks tenant results =>
          have done := performed
          rw [DirectoryCall.perform, Directory.recordConnectorChecks] at done
          split at done
          · cases done
          rename_i workspace primary
          rcases recordChecks_effect kept primary done with ⟨kept', rows, enables⟩
          refine ⟨kept', fun other => ?_, fun other kind capability known => ?_⟩
          · have written : modeWritten rt other
                ⟨directory, .recordConnectorChecks tenant results, after⟩ = none := by
              unfold modeWritten
              rw [performed]
            rw [written, Option.getD_none]
            unfold Directory.mode Directory.primaryWorkspace
            rw [rows]
          · rw [enables other kind capability known, Directory.EnablesAfter, capabilityWritten, performed]
            dsimp only [Except.toOption]
            cases (if other = tenant then lastCheck kind results else none) with
            | none => exact Iff.rfl
            | some result => exact Iff.rfl

theorem Kept.of_run (run : (directorySystem rt).Run history directory) : Kept directory := by
  apply System.Run.invariant run
  · rintro _ rfl
    exact .empty
  · intro directory call kept _
    exact (kept.step call).kept

/-- The policy of a tenant is the mode that was set last. Without one it is the mode of a new
workspace. -/
theorem policy_remembered (float : ToFloat) (run : (directorySystem rt).Run history directory)
    (tables : Tables) (events : List ActionEventRecord) (tenantId : Text) :
    (directory.database tables events).policy rt float tenantId =
      .ok ⟨lastWritten (modeWritten rt tenantId) observeOnlyMode history, none⟩ := by
  rw [(Kept.of_run run).policy]
  refine congrArg (fun mode => Except.ok (WorkspacePolicy.mk mode none)) ?_
  apply run.shows_lastWritten (fun directory => directory.mode tenantId)
  · rintro _ rfl
    rfl
  · intro history directory call earlier _
    exact ((Kept.of_run earlier).step call).mode tenantId

/-- A connector has the capability that its last check recorded. Checks of other connectors
in between do not matter. -/
theorem capability_remembered (run : (directorySystem rt).Run history directory) (tables : Tables)
    (events : List ActionEventRecord) (tenantId kind : Text) {capability : Text}
    (known : capability ∈ (["read", "write"] : List Text)) :
    (directory.database tables events).hasCapability tenantId kind capability =
      lastWritten (capabilityWritten rt tenantId kind capability) false history := by
  apply run.shows_lastWritten (fun directory =>
    (directory.database tables events).hasCapability tenantId kind capability)
  · rintro _ rfl
    rfl
  · intro history directory call earlier _
    have before := Kept.of_run earlier
    have effect : StepEffect rt ⟨directory, call, (directorySystem rt).next directory call⟩ :=
      before.step call
    rw [Bool.eq_iff_iff, effect.kept.hasCapability_iff, effect.enables tenantId kind capability known]
    cases capabilityWritten rt tenantId kind capability
        ⟨directory, call, (directorySystem rt).next directory call⟩ with
    | none => rw [Option.getD_none, before.hasCapability_iff]
    | some value => rw [Option.getD_some]

/-- In every run the policy of a tenant is the mode that was set last, and a connector has
the capability that its last check recorded. -/
theorem workspace_remembers (rt : Runtime) (float : ToFloat)
    (run : (directorySystem rt).Run history directory) (tables : Tables)
    (events : List ActionEventRecord) (tenantId : Text) :
    (directory.database tables events).policy rt float tenantId =
        .ok ⟨lastWritten (modeWritten rt tenantId) observeOnlyMode history, none⟩ ∧
      forall kind capability, capability ∈ (["read", "write"] : List Text) ->
        (directory.database tables events).hasCapability tenantId kind capability =
          lastWritten (capabilityWritten rt tenantId kind capability) false history :=
  ⟨policy_remembered float run tables events tenantId,
    fun kind _ known => capability_remembered run tables events tenantId kind known⟩

end Runs

/-- A workspace is set up, opened for proposals, and its Shopify connector checked. -/
def sampleSetup : List DirectoryCall :=
  [.initializeWorkspace (.numbered 1) "demo" none, .setMode "demo" .demoProposal,
    .recordConnectorChecks "demo" [Dict.ofList [("connector", .str "shopify"),
      ("read_capability", .bool true), ("write_capability", .bool true)]]]

/-- The directory after the setup. -/
def sampleDirectory : Directory := ((directorySystem .plain).trace .empty sampleSetup).2

theorem sampleDirectory_reached :
    (directorySystem .plain).Run ((directorySystem .plain).trace .empty sampleSetup).1 sampleDirectory :=
  System.run_trace sampleSetup rfl ⟨trivial, trivial, trivial, trivial⟩

theorem workspace_remembers_sample :
    (sampleDirectory.database .empty []).policy .plain (fun _ => .error .typeError) "demo" =
        .ok ⟨"demo_proposal", none⟩ ∧
      (sampleDirectory.database .empty []).hasCapability "demo" "shopify" "write" = true := by
  rcases workspace_remembers .plain (fun _ => .error .typeError) sampleDirectory_reached .empty [] "demo"
    with ⟨policy, capabilities⟩
  have written : lastWritten (modeWritten .plain "demo") observeOnlyMode
        ((directorySystem .plain).trace .empty sampleSetup).1 = "demo_proposal" ∧
      lastWritten (capabilityWritten .plain "demo" "shopify" "write") false
        ((directorySystem .plain).trace .empty sampleSetup).1 = true := by
    decide +kernel
  rw [policy, capabilities "shopify" "write" (by decide), written.1, written.2]
  exact ⟨rfl, rfl⟩

end Api
end RealityLayer
