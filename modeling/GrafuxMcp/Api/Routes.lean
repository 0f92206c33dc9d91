import GrafuxMcp.Discovery.DiscoveryService
import GrafuxMcp.Discovery.ListTools
import GrafuxMcp.Security.Permissions
import Mathlib.Data.List.Sort

/-! # The routes of the registry, of tools and of sessions

`app/api/v1/registry.py`, `app/api/v1/discovery.py` and `app/api/v1/sessions.py` with the
functions of `app/core/registry/server_registry.py` and `app/services/session_service.py`, over
the tables and the cached tool lists. A request awaits each of its operations; what the server
manager and a remote server do is one operation that the surroundings decide. -/

namespace GrafuxMcp.Routes

open GrafuxMcp Discovery

/-! ### Rows -/

/-- A row of `mcp_servers` with its `created_at`. -/
structure ServerRow extends MCPServer where
  createdAt : Nat

/-- A row of `mcp_sessions`. -/
structure SessionRow where
  id : Uuid
  orgId : Uuid
  projectId : Option Uuid
  userId : String
  serverIds : List Text
  createdAt : Nat
  expiresAt : Nat

abbrev ToolRow := DiscoveryService.ToolRow

structure Tables where
  servers : List ServerRow := []
  tools : DiscoveryService.ToolTable := ⟨[], List.nodup_nil⟩
  sessions : List SessionRow := []
  /-- The tool lists in the cache. -/
  lists : Text → Option (List ToolData) := fun _ => none

/-! ### Requests -/

structure RegisterServerRequest where
  name : String
  slug : String
  serverType : ServerType
  transport : String := "http"
  endpointUrl : Option String := none
  config : List (String × Value) := []

structure UpdateServerRequest where
  name : Option String := none
  endpointUrl : Option String := none
  config : Option (List (String × Value)) := none
  status : Option ServerStatus := none

structure MCPSessionCreate where
  projectId : Option Uuid := none
  serverIds : List Uuid := []
  ttlSeconds : Nat := 3600

inductive Request
  | registerServer (body : RegisterServerRequest)
  | listMcpServers
  | getMcpServer (serverId : Uuid)
  | updateMcpServer (serverId : Uuid) (body : UpdateServerRequest)
  | unregisterServer (serverId : Uuid)
  | connectServer (serverId : Uuid)
  | disconnectServer (serverId : Uuid)
  | listTools (request : ListRequest)
  | getTool (toolId : Uuid)
  | getToolSchema (toolId : Uuid)
  | triggerDiscovery (serverId : Option Uuid)
  | createSession (body : MCPSessionCreate)
  | getSession (sessionId : Uuid)
  | endSession (sessionId : Uuid)

inductive Response
  | server (row : ServerRow)
  | servers (rows : List ServerRow)
  | connected (result : List (String × Value)) (toolsDiscovered : Nat)
  | disconnected (serverId : Uuid)
  | tools (tools : List ListedTool)
  | tool (row : ToolRow)
  | schema (inputSchema : List (String × Value))
  | discovered (count : Nat) (orgId : Text)
  | session (row : SessionRow)
  | noContent

/-! ### Operations -/

structure SessionData where
  projectId : Option Uuid
  userId : String
  serverIds : List Text
  ttlSeconds : Nat

inductive Op
  | selectServer (orgId serverId : Uuid)
  /-- The servers of the org, newest first. -/
  | listServers (orgId : Uuid)
  /-- The servers of the org that are active. -/
  | selectActive (orgId : Uuid)
  /-- `add`, `commit` and `refresh`. -/
  | insertServer (orgId : Uuid) (body : RegisterServerRequest)
  /-- `commit` of the changed attributes, and `refresh`. -/
  | updateServer (serverId : Uuid) (changes : UpdateServerRequest)
  /-- `delete` and `commit`. The tools of the server go with it. -/
  | deleteServer (serverId : Uuid)
  | connect (server : ServerRow)
  | disconnect (server : ServerRow)
  /-- `_discover_server` -/
  | discoverServer (server : ServerRow)
  | queryTools (orgId : Uuid) (request : ListRequest)
  | selectTool (orgId toolId : Uuid)
  | listLocalTools
  | cacheGet (key : Text)
  | cacheSet (key : Text) (tools : List ToolData)
  | cacheDelete (key : Text)
  | insertSession (orgId : Uuid) (data : SessionData)
  | selectSession (orgId sessionId : Uuid)
  | deleteSession (sessionId : Uuid)
  /-- The entry of the session in the cache is written or deleted. -/
  | cacheSession (sessionId : Uuid)

@[reducible] def Op.Answer : Op → Type
  | .selectServer _ _ => Option ServerRow
  | .listServers _ | .selectActive _ => List ServerRow
  | .insertServer _ _ | .updateServer _ _ => ServerRow
  | .connect _ => List (String × Value)
  | .discoverServer _ => Nat
  | .queryTools _ _ => List ToolData
  | .selectTool _ _ => Option ToolRow
  | .listLocalTools => List LocalTool
  | .cacheGet _ => Option (List ToolData)
  | .insertSession _ _ => SessionRow
  | .selectSession _ _ => Option SessionRow
  | _ => Unit

@[reducible] def effects : Interface where
  Op := Op
  Answer := Op.Answer
  Exc := Exc
  mayRaise _ _ := true

abbrev Api (α : Type) := Program effects α

@[reducible] def perform (op : Op) : Api op.Answer :=
  Program.call (I := effects) op

/-! ### Handlers -/

def serverNotFound : Exc := ⟨.HTTPException, "404: Server not found"⟩
def sessionNotFound : Exc := ⟨.HTTPException, "404: Session not found"⟩

section Handlers

variable (auth : AuthContext)

/-- `uuid.UUID(text)` -/
def uuidOf (text : Text) : Api Uuid :=
  match Permissions.uuidOf text with
  | .ok uuid => pure uuid
  | .error exc => throw exc

def serverOr404 (serverId : Uuid) : Api ServerRow := do
  let orgId ← uuidOf auth.orgId
  match ← perform (.selectServer orgId serverId) with
  | some server => return server
  | none => throw serverNotFound

def registerServer (body : RegisterServerRequest) : Api Response := do
  let orgId ← uuidOf auth.orgId
  let server ← perform (.insertServer orgId body)
  return .server server

def listMcpServers : Api Response := do
  let orgId ← uuidOf auth.orgId
  let servers ← perform (.listServers orgId)
  return .servers servers

def getMcpServer (serverId : Uuid) : Api Response := do
  let server ← serverOr404 auth serverId
  return .server server

/-- The attributes whose values differ from those that were loaded. -/
def changesOf (server : ServerRow) (body : UpdateServerRequest) : UpdateServerRequest where
  name := body.name.filter fun name => name ≠ server.name
  endpointUrl := body.endpointUrl.filter fun url => some url ≠ server.endpointUrl
  config := body.config
  status := body.status.filter fun status => status ≠ server.status

def updateMcpServer (serverId : Uuid) (body : UpdateServerRequest) : Api Response := do
  let server ← serverOr404 auth serverId
  let server ← perform (.updateServer server.id (changesOf server body))
  return .server server

def unregisterServer (serverId : Uuid) : Api Response := do
  let server ← serverOr404 auth serverId
  tryCatch (perform (.disconnect server)) fun exc =>
    if exc.isException then return () else throw exc
  perform (.deleteServer server.id)
  perform (.cacheDelete (MCPKeys.orgTools auth.orgId))
  return .noContent

/-- The loop of `discover`; a failure of one server is logged. -/
def discoverEach : List ServerRow → Nat → Api Nat
  | [], total => return total
  | server :: servers, total => do
      let count ← tryCatch (perform (.discoverServer server)) fun exc =>
        if exc.isException then return (0 : Nat) else throw exc
      discoverEach servers (total + count)

/-- `DiscoveryService.discover` -/
def discover (orgId : Uuid) (serverId : Option Uuid) : Api Nat := do
  let servers ←
    match serverId with
    | some serverId => Option.toList <$> perform (.selectServer orgId serverId)
    | none => perform (.selectActive orgId)
  let total ← discoverEach servers 0
  perform (.cacheDelete (MCPKeys.orgTools orgId.str))
  return total

def connectServer (serverId : Uuid) : Api Response := do
  let server ← serverOr404 auth serverId
  let result ← tryCatch (perform (.connect server)) fun exc =>
    if exc.isException then throw ⟨.HTTPException, "502: " ++ exc.message⟩ else throw exc
  let orgId ← uuidOf auth.orgId
  let discovered ← discover orgId (some serverId)
  return .connected result discovered

def disconnectServer (serverId : Uuid) : Api Response := do
  let server ← serverOr404 auth serverId
  perform (.disconnect server)
  return .disconnected serverId

/-- The registered tools, from the cache or the table. -/
def registered (request : ListRequest) : Api (List ToolData) := do
  let cached ← perform (.cacheGet (cacheKey auth.orgId request.projectId))
  match cached.filter (!·.isEmpty) with
  | some tools => return tools
  | none => do
      let orgId ← uuidOf auth.orgId
      let tools ← perform (.queryTools orgId request)
      perform (.cacheSet (cacheKey auth.orgId request.projectId) tools)
      return tools

def listTools (request : ListRequest) : Api Response := do
  let tools ← registered auth request
  let localTools ← if request.includeLocal then perform .listLocalTools else pure []
  return .tools (mergeLocal localTools request tools)

def toolOr404 (toolId : Uuid) : Api ToolRow := do
  let orgId ← uuidOf auth.orgId
  match ← perform (.selectTool orgId toolId) with
  | some tool => return tool
  | none => throw Permissions.notFound

def getTool (toolId : Uuid) : Api Response := do
  let tool ← toolOr404 auth toolId
  return .tool tool

def getToolSchema (toolId : Uuid) : Api Response := do
  let tool ← toolOr404 auth toolId
  return .schema tool.inputSchema

def triggerDiscovery (serverId : Option Uuid) : Api Response := do
  let orgId ← uuidOf auth.orgId
  let count ← discover orgId serverId
  return .discovered count auth.orgId

/-- `body.project_id or (uuid.UUID(auth.project_id) if auth.project_id else None)` -/
def sessionProject (body : MCPSessionCreate) : Api (Option Uuid) :=
  match body.projectId, Permissions.projectInContext auth with
  | some projectId, _ => pure (some projectId)
  | none, some text => some <$> uuidOf text
  | none, none => pure none

def createSession (body : MCPSessionCreate) : Api Response := do
  let orgId ← uuidOf auth.orgId
  let projectId ← sessionProject auth body
  let session ← perform (.insertSession orgId {
    projectId := projectId
    userId := auth.userId
    serverIds := body.serverIds.map (·.str)
    ttlSeconds := body.ttlSeconds })
  perform (.cacheSession session.id)
  return .session session

def sessionOr404 (sessionId : Uuid) : Api SessionRow := do
  let orgId ← uuidOf auth.orgId
  match ← perform (.selectSession orgId sessionId) with
  | some session => return session
  | none => throw sessionNotFound

def getSession (sessionId : Uuid) : Api Response := do
  let session ← sessionOr404 auth sessionId
  return .session session

def endSession (sessionId : Uuid) : Api Response := do
  let session ← sessionOr404 auth sessionId
  perform (.deleteSession session.id)
  perform (.cacheSession session.id)
  return .noContent

def program : Request → Api Response
  | .registerServer body => registerServer auth body
  | .listMcpServers => listMcpServers auth
  | .getMcpServer serverId => getMcpServer auth serverId
  | .updateMcpServer serverId body => updateMcpServer auth serverId body
  | .unregisterServer serverId => unregisterServer auth serverId
  | .connectServer serverId => connectServer auth serverId
  | .disconnectServer serverId => disconnectServer auth serverId
  | .listTools request => listTools auth request
  | .getTool toolId => getTool auth toolId
  | .getToolSchema toolId => getToolSchema auth toolId
  | .triggerDiscovery serverId => triggerDiscovery auth serverId
  | .createSession body => createSession auth body
  | .getSession sessionId => getSession auth sessionId
  | .endSession sessionId => endSession auth sessionId

end Handlers

/-! ### The tables -/

/-- What an operation leaves open. -/
structure Choice where
  /-- It raises, and may have taken effect. -/
  raises : Option (Exc × Bool) := none
  newId : Uuid
  now : Nat := 0
  /-- The entry of the cache has expired. -/
  expired : Bool := false
  /-- What the server manager writes to the row of a server, and returns. -/
  status : ServerStatus := .active
  connectResult : List (String × Value) := []
  /-- What the client of a server lists; `none` when there is no client, or it raises. -/
  listing : Option (List DiscoveryService.DiscoveredTool) := none
  toolId : String → Uuid
  localTools : List LocalTool := []

def violated : Exc := ⟨.Exception, "duplicate key value violates unique constraint"⟩
def noRow : Exc := ⟨.Exception, "UPDATE statement on table expected to update 1 row(s)"⟩

def UpdateServerRequest.apply (changes : UpdateServerRequest) (row : ServerRow) : ServerRow :=
  { row with
    name := changes.name.getD row.name
    endpointUrl := changes.endpointUrl <|> row.endpointUrl
    config := changes.config.getD row.config
    status := changes.status.getD row.status }

namespace Tables

variable (s : Tables)

def setStatus (serverId : Uuid) (status : ServerStatus) : Tables :=
  { s with
    servers := updateWhere (fun row => row.id = serverId)
      (fun row => { row with status := status }) s.servers }

def newServer (orgId : Uuid) (body : RegisterServerRequest) (choice : Choice) : ServerRow where
  id := choice.newId
  orgId := orgId
  name := body.name
  slug := body.slug
  serverType := body.serverType
  transport := body.transport
  endpointUrl := body.endpointUrl
  config := body.config
  status := .inactive
  createdAt := choice.now

def newSession (orgId : Uuid) (data : SessionData) (choice : Choice) : SessionRow where
  id := choice.newId
  orgId := orgId
  projectId := data.projectId
  userId := data.userId
  serverIds := data.serverIds
  createdAt := choice.now
  expiresAt := choice.now + data.ttlSeconds

/-- The transaction of `upsert_tools`: a failure of the `INSERT` rolls it back. A tool needs
its server. -/
def upsertTools (server : ServerRow) (tools : List DiscoveryService.DiscoveredTool)
    (choice : Choice) : Option Tables :=
  if s.servers.any fun row => row.id = server.id then
    ((s.tools.markMissing server.id (tools.map (·.name)) choice.now).insertTools server.id
      server.orgId tools choice.now choice.toolId).map fun table => { s with tools := table }
  else none

/-- `_discover_server`, as `discover` sees it. -/
def discoverServer (server : ServerRow) (choice : Choice) : Nat × Tables :=
  if server.serverType = .localPlugin then (choice.localTools.length, s)
  else
    match choice.listing with
    | none | some [] => (0, s)
    | some tools =>
        match s.upsertTools server tools choice with
        | some next => (tools.length, next)
        | none => (0, s)

/-- What an operation comes to when nothing else fails. -/
def serve (choice : Choice) : (op : Op) → Except Exc op.Answer × Tables
  | .selectServer orgId serverId =>
      (.ok (scalarOneOrNone (s.servers.filter fun row => row.id = serverId ∧ row.orgId = orgId)), s)
  | .listServers orgId =>
      (.ok ((s.servers.filter fun row => row.orgId = orgId).insertionSort
        fun left right => right.createdAt ≤ left.createdAt), s)
  | .selectActive orgId =>
      (.ok (s.servers.filter fun row => row.orgId = orgId ∧ row.status = .active), s)
  | .insertServer orgId body =>
      if s.servers.any fun row => row.orgId = orgId ∧ row.slug = body.slug then (.error violated, s)
      else
        let row := newServer orgId body choice
        (.ok row, { s with servers := s.servers ++ [row] })
  | .updateServer serverId changes =>
      match s.servers.find? fun row => row.id = serverId with
      | some row =>
          (.ok (changes.apply row), { s with
            servers := updateWhere (fun row => row.id = serverId) changes.apply s.servers })
      | none => (.error noRow, s)
  | .deleteServer serverId =>
      (.ok (), { s with
        servers := s.servers.filter fun row => row.id ≠ serverId
        tools := ⟨s.tools.rows.filter fun row => row.serverId ≠ serverId,
          s.tools.unique.sublist (List.filter_sublist.map _)⟩ })
  | .connect server => (.ok choice.connectResult, s.setStatus server.id choice.status)
  | .disconnect server => (.ok (), s.setStatus server.id choice.status)
  | .discoverServer server =>
      let discovered := s.discoverServer server choice
      (.ok discovered.1, discovered.2)
  | .queryTools orgId request =>
      (.ok (registeredTools (s.tools.rows.map (·.toMCPTool)) orgId request), s)
  | .selectTool orgId toolId =>
      (.ok (scalarOneOrNone (s.tools.rows.filter fun row => row.id = toolId ∧ row.orgId = orgId)),
        s)
  | .listLocalTools => (.ok choice.localTools, s)
  | .cacheGet key => (.ok (if choice.expired then none else s.lists key), s)
  | .cacheSet key tools => (.ok (), { s with lists := Function.update s.lists key (some tools) })
  | .cacheDelete key => (.ok (), { s with lists := Function.update s.lists key none })
  | .insertSession orgId data =>
      let row := newSession orgId data choice
      (.ok row, { s with sessions := s.sessions ++ [row] })
  | .selectSession orgId sessionId =>
      (.ok (scalarOneOrNone (s.sessions.filter fun row => row.id = sessionId ∧ row.orgId = orgId)),
        s)
  | .deleteSession sessionId =>
      (.ok (), { s with sessions := s.sessions.filter fun row => row.id ≠ sessionId })
  | .cacheSession _ => (.ok (), s)

/-- The id is that of another row. -/
def taken (id : Uuid) : Op → Bool
  | .insertServer _ _ => s.servers.any fun row => row.id = id
  | .insertSession _ _ => s.sessions.any fun row => row.id = id
  | _ => false

def answer (op : Op) (choice : Choice) : Option (Except Exc op.Answer × Tables) :=
  if s.taken choice.newId op then none
  else
    match choice.raises with
    | some (exc, applied) => some (.error exc, if applied then (s.serve choice op).2 else s)
    | none => some (s.serve choice op)

end Tables

end GrafuxMcp.Routes
