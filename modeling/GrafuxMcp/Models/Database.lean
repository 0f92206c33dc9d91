import GrafuxMcp.Models.Uuid

/-! # Registry and invocation rows

The rows of `app/models` that the modelled code reads or writes, and a registry
database with the keys its tables declare. Time stamps are left out.
-/

namespace GrafuxMcp

inductive ServerType
  | localPlugin
  | remoteSse
  | remoteHttp
  | composio
  | e2b
  | device
deriving DecidableEq, Repr

inductive ServerStatus
  | active
  | inactive
  | connecting
  | error
deriving DecidableEq, Repr

inductive ToolStatus
  | available
  | unavailable
  | deprecated
deriving DecidableEq, Repr

inductive InvocationStatus
  | pending
  | running
  | done
  | failed
  | cancelled
  | timeout
deriving DecidableEq, Repr

/-- The statuses a run ends in. -/
def InvocationStatus.isTerminal : InvocationStatus → Bool
  | .done | .failed | .cancelled => true
  | .pending | .running | .timeout => false

structure MCPServer where
  id : Uuid
  orgId : Uuid
  name : String
  slug : String
  serverType : ServerType
  transport : String
  endpointUrl : Option String
  config : List (String × Value)
  status : ServerStatus

structure MCPTool where
  id : Uuid
  serverId : Uuid
  orgId : Uuid
  projectId : Option Uuid
  name : String
  description : String
  inputSchema : List (String × Value)
  toolType : String
  category : Option String
  status : ToolStatus

structure OrgMCPTool where
  orgId : Uuid
  toolId : Uuid
  enabled : Bool

structure ProjectMCPTool where
  projectId : Uuid
  toolId : Uuid
  enabled : Bool

structure MCPInvocation where
  orgId : Uuid
  projectId : Option Uuid
  userId : Option String
  sessionId : Option Uuid
  toolId : Option Uuid
  toolName : String
  serverType : ServerType
  status : InvocationStatus
  input : List (String × Value)

/-- The registry tables. Primary keys are unique and every tool has its
server. -/
structure Database where
  servers : List MCPServer
  tools : List MCPTool
  orgTools : List OrgMCPTool
  projectTools : List ProjectMCPTool
  servers_nodup : (servers.map (·.id)).Nodup
  tools_nodup : (tools.map (·.id)).Nodup
  orgTools_nodup : (orgTools.map fun row => (row.orgId, row.toolId)).Nodup
  projectTools_nodup :
    (projectTools.map fun row => (row.projectId, row.toolId)).Nodup
  server_exists : ∀ tool ∈ tools, ∃ server ∈ servers, server.id = tool.serverId

/-- `result.scalar_one_or_none()` of a query that a unique key answers. -/
def scalarOneOrNone {Row : Type} (rows : List Row) : Option Row := rows.head?

/-- A query by a unique key finds the row with that key. -/
theorem scalarOneOrNone_filter {Row Key : Type} [DecidableEq Key]
    {rows : List Row} {key : Row → Key} (unique : (rows.map key).Nodup)
    {row : Row} (member : row ∈ rows) :
    scalarOneOrNone (rows.filter fun other => key other = key row) =
      some row := by
  unfold scalarOneOrNone
  induction rows with
  | nil => cases member
  | cons head tail induction =>
      rw [List.map_cons, List.nodup_cons] at unique
      rcases List.mem_cons.mp member with rfl | later
      · rw [List.filter_cons_of_pos (by simp)]
        rfl
      · have other : key head ≠ key row := by
          intro same
          apply unique.1
          rw [same]
          exact List.mem_map_of_mem later
        rw [List.filter_cons_of_neg (by simp [other])]
        exact induction unique.2 later

/-- The identity a validated token carries. -/
structure AuthContext where
  userId : String
  orgId : Text
  projectId : Option Text
  role : String

/-! ## An example registry -/

/-- A remote server of the org with the nil UUID. -/
def exampleServer : MCPServer where
  id := Uuid.zero
  orgId := Uuid.zero
  name := "Weather"
  slug := "weather"
  serverType := .remoteHttp
  transport := "http"
  endpointUrl := some "http://weather.internal/mcp"
  config := []
  status := .active

def exampleTool : MCPTool where
  id := Uuid.zero
  serverId := exampleServer.id
  orgId := exampleServer.orgId
  projectId := none
  name := "forecast"
  description := ""
  inputSchema := []
  toolType := "remote"
  category := none
  status := .available

def exampleDatabase : Database where
  servers := [exampleServer]
  tools := [exampleTool]
  orgTools := []
  projectTools := []
  servers_nodup := by simp
  tools_nodup := by simp
  orgTools_nodup := List.nodup_nil
  projectTools_nodup := List.nodup_nil
  server_exists := by simp [exampleTool]

/-- A user of the org whose UUID repeats `digit`. -/
def exampleAuth (digit : Char) : AuthContext where
  userId := "user"
  orgId := List.replicate 32 digit
  projectId := none
  role := "member"

end GrafuxMcp
