import RealityLayer.Actions.Workers
import RealityLayer.WorldState.Persistence

namespace RealityLayer
namespace Api

open Foundation Python WorldState Actions

/-!
# The processes of the API and their database

With persistence enabled every API process has its own two services, and all of them
share one database.  A request works on both.  The session's writes are kept when it
commits and dropped when the request raises; what the request did to the services
stays either way.

The database has the tables of World State, the event table, and the workspaces with
their connectors.  `float` is a parameter: its results are compared and never looked
into.
-/

/-! ## Numbers -/

/-- Why `float` refuses a value. Only the first two are caught where a price is read; the
last one ends the request. -/
inductive FloatError where
  | typeError
  | valueError
  | overflowError
deriving DecidableEq

/-- `float`, on the values of a JSON document. -/
abbrev ToFloat := Json -> Except FloatError PyFloat

/-- The exceptions of a request: those of the services, the `OverflowError` of an integer
that no float can hold, and an answer that the endpoint raises itself. -/
inductive RequestError where
  | raised (error : PyError)
  | overflow
  | http (status : Nat) (detail : Text)
deriving DecidableEq

/-- A caught refusal of `float` has a replacement; an overflow is not caught. The source
names `TypeError` and `ValueError` only. -/
def floatOr {A : Type} (float : ToFloat) (value : Json) (number : PyFloat -> A)
    (replacement : Except RequestError A) : Except RequestError A :=
  match float value with
  | .ok parsed => .ok (number parsed)
  | .error .overflowError => .error .overflow
  | .error .typeError => replacement
  | .error .valueError => replacement

/-! ## Rows and services -/

/-- A row of the `workspace` table. The mode is a text in the row, and reading the policy
raises for one that is no known mode. -/
structure Workspace where
  workspaceId : Text
  tenantId : Text
  mode : Text
  thresholds : Dict Text Json

/-- A row of the `connector` table. A check replaces its capabilities as a whole. -/
structure ConnectorRow where
  tenantId : Text
  workspaceId : Text
  kind : Text
  capabilities : Dict Text Json

/-- The workspaces are in the order of their creation. No query asks for an order of the
events, so a reader may be given them in any. -/
structure Database where
  tables : Tables
  events : List ActionEventRecord
  workspaces : List Workspace
  connectors : List ConnectorRow

/-- The services of one process. Both are caches of the database, and a restart empties them. -/
structure Process where
  actions : ActionService
  world : WorldStateService

def Process.fresh : Process := ⟨.fresh, .fresh⟩

/-- What a request works on: its process, and the database that all processes share. -/
structure Site where
  process : Process
  database : Database

namespace Site

/-- Replace the action service of the process. -/
def withActions (site : Site) (actions : ActionService) : Site :=
  { site with process := { site.process with actions } }

/-- Replace the World State service of the process. -/
def withWorld (site : Site) (world : WorldStateService) : Site :=
  { site with process := { site.process with world } }

end Site

/-- The setting that a proposal depends on: persistence takes the workspace mode from
the database. -/
structure Settings where
  writeValueLimit : Option PyFloat

/-! ## Workspaces -/

structure WorkspacePolicy where
  mode : Text
  valueLimit : Option PyFloat
deriving DecidableEq

/-- `WorkspaceMode`. -/
def workspaceModes : List Text := [observeOnlyMode, "demo_proposal"]

namespace Database

/-- The first workspace of a tenant. Others of the same tenant have no say. -/
def workspaceOf (database : Database) (tenantId : Text) : Option Workspace :=
  database.workspaces.find? (fun workspace => decide (workspace.tenantId = tenantId))

/-- The limit that a workspace's thresholds set, if they set one. -/
def thresholdLimit (float : ToFloat) (workspace : Workspace) :
    Except RequestError (Option PyFloat) :=
  match workspace.thresholds.get? "write_value_limit" with
  | none => .ok none
  | some .null => .ok none
  | some limit => floatOr float limit some
      (.error (.raised (.valueError "Workspace write value limit must be numeric.")))

/-- `WorkspaceService.policy`. -/
def policy (rt : Runtime) (float : ToFloat) (database : Database) (tenantId : Text) :
    Except RequestError WorkspacePolicy :=
  match database.workspaceOf tenantId with
  | none => .ok ⟨observeOnlyMode, none⟩
  | some workspace =>
      match thresholdLimit float workspace with
      | .error error => .error error
      | .ok valueLimit =>
          if workspace.mode ∈ workspaceModes then .ok ⟨workspace.mode, valueLimit⟩
          else .error (.raised (.valueError
            (rt.repr (.str workspace.mode) ++ " is not a valid WorkspaceMode")))

/-- `WorkspaceService.has_capability`. A tenant without a workspace has none, and neither has
one without the connector. -/
def hasCapability (database : Database) (tenantId kind capability : Text) : Bool :=
  match database.workspaceOf tenantId with
  | none => false
  | some workspace =>
      match database.connectors.find? (fun connector => decide (connector.tenantId = tenantId ∧
          connector.workspaceId = workspace.workspaceId ∧ connector.kind = kind)) with
      | none => false
      | some connector => decide (connector.capabilities.get? capability = some (.bool true))

end Database

/-! ## Conflicts and events -/

/-- A row is an open conflict of an entity. The attribute that it is about does not matter. -/
def openRow (tenantId entityType entityId : Text) (row : ConflictRow) : Bool :=
  decide (row.conflict.tenantId = tenantId ∧ row.conflict.entityType = entityType ∧
    row.conflict.entityId = entityId ∧ row.conflict.status = "open")

/-- `has_open_conflict_for_entity`. -/
def hasOpenConflictForEntity (tables : Tables) (tenantId entityType entityId : Text) : Bool :=
  tables.conflicts.values.any (openRow tenantId entityType entityId)

/-- `persist_action_events`. An action that the tenant does not have raises before any row is
written. -/
def persistEventsOf (database : Database) (actions : ActionService) (actionId tenantId : Text) :
    Except PyError Database :=
  (actions.listEvents actionId tenantId).map (fun events =>
    { database with events := persistActionEvents database.events events })

/-- `text.partition(":")`, without the separator. A text without a colon has nothing behind it. -/
def partitionColon (text : Text) : Text × Text :=
  (⟨text.codes.takeWhile (fun code => code ≠ 58)⟩,
    ⟨(text.codes.dropWhile (fun code => code ≠ 58)).drop 1⟩)

theorem partitionColon_append (front back : Text) (plain : 58 ∉ front.codes) :
    partitionColon (front ++ ":" ++ back) = (front, back) := by
  have before : forall code, code ∈ front.codes -> decide (code ≠ 58) = true := by
    intro code member
    exact decide_eq_true (fun same => plain (same ▸ member))
  have codes : (front ++ ":" ++ back).codes = front.codes ++ 58 :: back.codes :=
    List.append_assoc _ [58] _
  unfold partitionColon
  rw [codes, List.takeWhile_append_of_pos before, List.dropWhile_append_of_pos before,
    List.takeWhile_cons_of_neg (by decide), List.dropWhile_cons_of_neg (by decide), List.append_nil]
  rfl

end Api
end RealityLayer
