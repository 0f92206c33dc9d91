import GrafuxMcp.Models.Database

/-! # Tool access checks

`app/security/permissions.py`.
-/

namespace GrafuxMcp.Permissions

open GrafuxMcp

/-- `select(MCPTool).where(id == tool_id, org_id == org_id)`. -/
def selectTool (db : Database) (toolId orgId : Uuid) : Option MCPTool :=
  scalarOneOrNone (db.tools.filter fun tool =>
    tool.id = toolId ∧ tool.orgId = orgId)

def selectOrgTool (db : Database) (toolId orgId : Uuid) : Option OrgMCPTool :=
  scalarOneOrNone (db.orgTools.filter fun row =>
    row.toolId = toolId ∧ row.orgId = orgId)

def selectProjectTool (db : Database) (toolId projectId : Uuid) :
    Option ProjectMCPTool :=
  scalarOneOrNone (db.projectTools.filter fun row =>
    row.toolId = toolId ∧ row.projectId = projectId)

def notFound : Exc := ⟨.HTTPException, "404: Tool not found"⟩
def disabledForOrg : Exc := ⟨.HTTPException, "403: Tool disabled for org"⟩
def disabledForProject : Exc :=
  ⟨.HTTPException, "403: Tool disabled for project"⟩
def badUuid : Exc := ⟨.ValueError, "badly formed hexadecimal UUID string"⟩

/-- `uuid.UUID(text)`. -/
def uuidOf (text : Text) : Except Exc Uuid :=
  match Uuid.parse text with
  | some uuid => .ok uuid
  | none => .error badUuid

/-- A token's project that is missing or empty is no project in context. -/
def projectInContext (auth : AuthContext) : Option Text :=
  auth.projectId.filter (!·.isEmpty)

def assertToolAccessible (db : Database) (toolId : Uuid) (auth : AuthContext) :
    Except Exc MCPTool := do
  let orgId ← uuidOf auth.orgId
  match selectTool db toolId orgId with
  | none => throw notFound
  | some tool =>
      match selectOrgTool db toolId orgId with
      | some ⟨_, _, false⟩ => throw disabledForOrg
      | _ =>
          match projectInContext auth with
          | none => return tool
          | some text =>
              let projectId ← uuidOf text
              match selectProjectTool db toolId projectId with
              | some ⟨_, _, false⟩ => throw disabledForProject
              | _ => return tool

end GrafuxMcp.Permissions
