import GrafuxMcp.Models.Uuid

/-! # Redis keys

The keys of `MCPKeys` in `app/cache/keys.py` for tool lists and for servers.
-/

namespace GrafuxMcp.MCPKeys

open GrafuxMcp

def orgTools (orgId : Text) : Text :=
  "mcp:".toList ++ orgId ++ ":tools".toList

def projectTools (orgId projectId : Text) : Text :=
  "mcp:".toList ++ orgId ++ ":project:".toList ++ projectId ++ ":tools".toList

def serverHealth (orgId serverId : Text) : Text :=
  "mcp:".toList ++ orgId ++ ":server:".toList ++ serverId ++ ":health".toList

def serverStatusPattern (orgId : Text) : Text :=
  "mcp:".toList ++ orgId ++ ":server:*:health".toList

def serverCapabilities (serverId : Text) : Text :=
  "mcp:capabilities:".toList ++ serverId

theorem projectTools_injective {orgId left right : Text}
    (same : projectTools orgId left = projectTools orgId right) :
    left = right := by
  exact List.append_cancel_left (List.append_cancel_right same)

/-- The two kinds of key of one org never meet. -/
theorem orgTools_ne_projectTools (orgId projectId : Text) :
    orgTools orgId ≠ projectTools orgId projectId := by
  intro same
  have keys : "mcp:".toList ++ orgId ++ ":tools".toList =
      "mcp:".toList ++ orgId ++ ":project:".toList ++ projectId ++ ":tools".toList := same
  have shorter : 0 < ":project:".toList.length := by decide
  have lengths := congrArg List.length keys
  simp only [List.length_append] at lengths
  omega

end GrafuxMcp.MCPKeys
