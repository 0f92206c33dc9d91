import GrafuxMcp.Api.Routes
import GrafuxMcp.Lifecycle.HealthKeys

/-! # The tables by org

Every row belongs to the org that its id was made for. An operation that is confined to an org
keeps the tables consistent. -/

namespace GrafuxMcp

/-! ### The text of a UUID -/

namespace Uuid

theorem removeFrom_of_notMem {c : Char} {word text : Text} (absent : c ∉ text) :
    removeFrom (c :: word) 0 text = text := by
  induction text with
  | nil => rfl
  | cons first text induction =>
      rw [List.mem_cons, not_or] at absent
      have apart : (c :: word).isPrefixOf (first :: text) = false := by
        rw [List.isPrefixOf, beq_false_of_ne absent.1, Bool.false_and]
      rw [removeFrom, apart, induction absent.2]
      rfl

theorem dropWhile_isBrace {text : Text} (plain : ∀ c ∈ text, isBrace c = false) :
    text.dropWhile isBrace = text := by
  cases text with
  | nil => rfl
  | cons first text => rw [List.dropWhile_cons_of_neg (by simp [plain first List.mem_cons_self])]

/-- `uuid.UUID(str(uuid)) == uuid` -/
theorem parse_str (uuid : Uuid) : parse uuid.str = some uuid := by
  have absent : ∀ c, isHexDigit c = false → c ≠ '-' → c ∉ uuid.str := by
    intro c other hyphen member
    rw [isHexDigit_of_mem_str member hyphen] at other
    cases other
  have plain : ∀ c ∈ uuid.str, isBrace c = false := by
    intro c member
    cases brace : isBrace c with
    | false => rfl
    | true =>
        rcases Bool.or_eq_true_iff.mp brace with left | right
        · rw [eq_of_beq left] at member
          exact absurd member (absent '{' (by decide) (by decide))
        · rw [eq_of_beq right] at member
          exact absurd member (absent '}' (by decide) (by decide))
  have urn : removeFrom "urn:".toList 0 uuid.str = uuid.str :=
    removeFrom_of_notMem (absent 'u' (by decide) (by decide))
  have word : removeFrom "uuid:".toList 0 uuid.str = uuid.str :=
    removeFrom_of_notMem (absent 'u' (by decide) (by decide))
  have bare : stripBraces uuid.str = uuid.str := by
    rw [stripBraces, dropWhile_isBrace plain, dropWhile_isBrace, List.reverse_reverse]
    exact fun c member => plain c (List.mem_reverse.mp member)
  have lower : uuid.digits.map Char.toLower = uuid.digits := by
    have all : "0123456789abcdef".toList.all (fun c => c.toLower = c) = true := by decide
    calc uuid.digits.map Char.toLower = uuid.digits.map id := by
          apply List.map_congr_left
          intro c member
          have hex := List.all_eq_true.mp uuid.hex_digits c member
          exact of_decide_eq_true (List.all_eq_true.mp all c (List.contains_iff_mem.mp hex))
      _ = uuid.digits := List.map_id _
  have digits : ((stripBraces (removeFrom "uuid:".toList 0
      (removeFrom "urn:".toList 0 uuid.str))).filter (· ≠ '-')).map Char.toLower = uuid.digits := by
    rw [urn, word, bare, filter_hyphen_str, lower]
  unfold parse
  dsimp only
  split
  case isTrue valid => exact congrArg some (ext digits)
  case isFalse invalid =>
    rw [digits] at invalid
    exact absurd ⟨uuid.length_digits, uuid.hex_digits⟩ invalid

end Uuid

/-! ### Keys of tool lists -/

namespace Discovery

/-- The key of a tool list tells how its org was spelled. -/
theorem orgId_of_cacheKey {left right : Text} {first second : Option Uuid}
    (org : IsOrgText left) (other : IsOrgText right)
    (same : cacheKey left first = cacheKey right second) : left = right := by
  have foreign : ∀ {text rest : Text}, IsOrgText (text ++ ":project:".toList ++ rest) → False := by
    intro text rest spelled
    have member : 'j' ∈ text ++ ":project:".toList ++ rest :=
      List.mem_append_left _ (List.mem_append_right _ (by decide))
    rcases spelled.chars 'j' member with mark | hex
    · exact absurd mark (by decide)
    · exact absurd hex (by decide)
  cases first with
  | none =>
      cases second with
      | none => exact List.append_cancel_left (List.append_cancel_right same)
      | some second =>
          have keys : "mcp:".toList ++ left ++ ":tools".toList =
              "mcp:".toList ++ right ++ ":project:".toList ++ second.str ++ ":tools".toList := same
          have front := List.append_cancel_right keys
          rw [List.append_assoc, List.append_assoc] at front
          have spelled : left = right ++ (":project:".toList ++ second.str) :=
            List.append_cancel_left front
          rw [← List.append_assoc] at spelled
          exact (foreign (spelled ▸ org)).elim
  | some first =>
      cases second with
      | none =>
          have keys : "mcp:".toList ++ left ++ ":project:".toList ++ first.str ++ ":tools".toList =
              "mcp:".toList ++ right ++ ":tools".toList := same
          have front := List.append_cancel_right keys
          rw [List.append_assoc, List.append_assoc] at front
          have spelled : left ++ (":project:".toList ++ first.str) = right :=
            List.append_cancel_left front
          rw [← List.append_assoc] at spelled
          exact (foreign (spelled.symm ▸ other)).elim
      | some second =>
          have keys : "mcp:".toList ++ left ++ ":project:".toList ++ first.str =
              "mcp:".toList ++ right ++ ":project:".toList ++ second.str :=
            List.append_cancel_right same
          have lengths : first.str.length = second.str.length := by
            rw [Uuid.length_str, Uuid.length_str]
          have front := (List.append_inj' keys lengths).1
          exact List.append_cancel_left (List.append_cancel_right front)

end Discovery

namespace Routes

open Discovery

/-! ### Rows by their owner -/

section Rows

variable {Row : Type} {key org : Row → Uuid} {ownerOf : Uuid → Uuid} {rows : List Row} {id : Uuid}

/-- The rows with a key are rows of its owner. -/
theorem filter_key (owned : ∀ row ∈ rows, ownerOf (key row) = org row) :
    rows.filter (fun row => key row = id) =
      (rows.filter fun row => org row = ownerOf id).filter fun row => key row = id := by
  rw [List.filter_filter]
  apply List.filter_congr
  intro row member
  by_cases same : key row = id
  · simp [same, ← owned row member]
  · simp [same]

theorem find_key (owned : ∀ row ∈ rows, ownerOf (key row) = org row) :
    rows.find? (fun row => key row = id) =
      (rows.filter fun row => org row = ownerOf id).find? fun row => key row = id := by
  rw [← List.head?_filter, ← List.head?_filter, filter_key owned]

theorem any_key (owned : ∀ row ∈ rows, ownerOf (key row) = org row) :
    rows.any (fun row => key row = id) =
      (rows.filter fun row => org row = ownerOf id).any fun row => key row = id := by
  rw [← List.isSome_find?, ← List.isSome_find?, find_key owned]

/-- Without the rows of a key, the others of an org are the same. -/
theorem filter_without_key {other : Uuid} (owned : ∀ row ∈ rows, ownerOf (key row) = org row)
    (different : other ≠ ownerOf id) :
    (rows.filter fun row => key row ≠ id).filter (fun row => org row = other) =
      rows.filter fun row => org row = other := by
  rw [List.filter_filter]
  apply List.filter_congr
  intro row member
  by_cases mine : org row = other
  · have apart : key row ≠ id := by
      rintro rfl
      exact different (mine.symm.trans (owned row member).symm)
    simp [mine, apart]
  · simp [mine]

theorem filter_update_other {change : Row → Row} {other : Uuid}
    (owned : ∀ row ∈ rows, ownerOf (key row) = org row) (different : other ≠ ownerOf id)
    (same : ∀ row, org (change row) = org row) {wanted : Row → Bool}
    (wants : ∀ row, wanted row = true → key row = id) :
    (updateWhere wanted change rows).filter (fun row => org row = other) =
      rows.filter fun row => org row = other := by
  rw [filter_updateWhere fun row => by rw [same row]]
  apply updateWhere_eq_self
  intro row member
  have parts := List.mem_filter.mp member
  cases chosen : wanted row with
  | false => rfl
  | true =>
      have mine : org row = other := of_decide_eq_true parts.2
      have owner := owned row parts.1
      rw [wants row chosen, mine] at owner
      exact absurd owner.symm different

end Rows

/-! ### What an org sees -/

structure View where
  servers : List ServerRow
  tools : List ToolRow
  sessions : List SessionRow
  lists : Text → Option Uuid → Option (List ToolData)

namespace Tables

variable (s : Tables)

def view (org : Uuid) : View where
  servers := s.servers.filter fun row => row.orgId = org
  tools := s.tools.rows.filter fun row => row.orgId = org
  sessions := s.sessions.filter fun row => row.orgId = org
  lists text project :=
    if Uuid.parse text = some org then s.lists (cacheKey text project) else none

theorem view_eq_iff {s t : Tables} {org : Uuid} : s.view org = t.view org ↔
    s.servers.filter (fun row => row.orgId = org) = t.servers.filter (fun row => row.orgId = org) ∧
    s.tools.rows.filter (fun row => row.orgId = org) =
      t.tools.rows.filter (fun row => row.orgId = org) ∧
    s.sessions.filter (fun row => row.orgId = org) =
      t.sessions.filter (fun row => row.orgId = org) ∧
    ∀ text project, Uuid.parse text = some org →
      s.lists (cacheKey text project) = t.lists (cacheKey text project) := by
  rw [view, view, View.mk.injEq]
  refine and_congr Iff.rfl (and_congr Iff.rfl (and_congr Iff.rfl ?_))
  constructor
  · intro same text project spelled
    simpa [spelled] using congrFun (congrFun same text) project
  · intro same
    funext text project
    split
    case isTrue spelled => exact same text project spelled
    case isFalse => rfl

/-- The keys that the tables declare, and the orgs of the rows. -/
structure Consistent (ownerOf : Uuid → Uuid) : Prop where
  serverIds : (s.servers.map fun row => row.id).Nodup
  slugs : (s.servers.map fun row => (row.orgId, row.slug)).Nodup
  sessionIds : (s.sessions.map fun row => row.id).Nodup
  /-- A tool has its server. -/
  serverExists : ∀ tool ∈ s.tools.rows, ∃ server ∈ s.servers, server.id = tool.serverId
  servers : ∀ row ∈ s.servers, ownerOf row.id = row.orgId
  tools : ∀ row ∈ s.tools.rows, ownerOf row.serverId = row.orgId
  sessions : ∀ row ∈ s.sessions, ownerOf row.id = row.orgId

end Tables

/-! ### Confined operations -/

section Confined

variable (ownerOf : Uuid → Uuid) (org : Uuid)

def Owns (row : ServerRow) : Prop :=
  ownerOf row.id = org ∧ row.orgId = org

def IsListKey (key : Text) : Prop :=
  ∃ text project, Uuid.parse text = some org ∧ key = cacheKey text project

def Confined : Op → Prop
  | .selectServer orgId _ | .listServers orgId | .selectActive orgId | .insertServer orgId _
  | .queryTools orgId _ | .selectTool orgId _ | .insertSession orgId _
  | .selectSession orgId _ => orgId = org
  | .updateServer serverId _ | .deleteServer serverId => ownerOf serverId = org
  | .connect server | .disconnect server | .discoverServer server => Owns ownerOf org server
  | .cacheGet key | .cacheSet key _ | .cacheDelete key => IsListKey org key
  | .deleteSession sessionId => ownerOf sessionId = org
  | .listLocalTools | .cacheSession _ => True

def Known : (op : Op) → op.Answer → Prop
  | .selectServer _ _, found => ∀ row ∈ found, Owns ownerOf org row
  | .selectActive _, found => ∀ row ∈ found, Owns ownerOf org row
  | .selectSession _ _, found => ∀ row ∈ found, ownerOf row.id = org
  | _, _ => True

end Confined

/-! ### The tables stay consistent -/

section Serving

variable {ownerOf : Uuid → Uuid} {org : Uuid} {s t : Tables} {choice : Choice} {op : Op}

namespace Tables

/-- A change of rows that keeps what the keys are made of. -/
theorem Consistent.change {wanted : ServerRow → Bool} {change : ServerRow → ServerRow}
    (consistent : s.Consistent ownerOf)
    (same : ∀ row, (change row).id = row.id ∧ (change row).orgId = row.orgId ∧
      (change row).slug = row.slug) :
    Consistent { s with servers := updateWhere wanted change s.servers } ownerOf := by
  have ids : (updateWhere wanted change s.servers).map (fun row => row.id) =
      s.servers.map fun row => row.id :=
    map_updateWhere fun row _ _ => (same row).1
  have slugs : (updateWhere wanted change s.servers).map (fun row => (row.orgId, row.slug)) =
      s.servers.map fun row => (row.orgId, row.slug) :=
    map_updateWhere fun row _ _ => by rw [(same row).2.1, (same row).2.2]
  constructor
  · rw [ids]
    exact consistent.serverIds
  · rw [slugs]
    exact consistent.slugs
  · exact consistent.sessionIds
  · intro tool member
    rcases consistent.serverExists tool member with ⟨server, inside, named⟩
    have kept : tool.serverId ∈ (updateWhere wanted change s.servers).map fun row => row.id := by
      rw [ids, ← named]
      exact List.mem_map_of_mem inside
    rcases List.mem_map.mp kept with ⟨row, present, equal⟩
    exact ⟨row, present, equal⟩
  · intro row member
    rcases mem_updateWhere member with ⟨old, inside, ⟨_, changed⟩ | ⟨_, unchanged⟩⟩
    · rw [changed, (same old).1, (same old).2.1]
      exact consistent.servers old inside
    · rw [unchanged]
      exact consistent.servers old inside
  · exact consistent.tools
  · exact consistent.sessions

theorem Consistent.insertServer {orgId : Uuid} {body : RegisterServerRequest}
    (consistent : s.Consistent ownerOf) (owned : ownerOf choice.newId = orgId)
    (free : s.taken choice.newId (.insertServer orgId body) = false)
    (unused : s.servers.any (fun row => row.orgId = orgId ∧ row.slug = body.slug) = false) :
    Consistent { s with servers := s.servers ++ [newServer orgId body choice] } ownerOf := by
  have freeId : choice.newId ∉ s.servers.map fun row => row.id := by
    intro member
    rcases List.mem_map.mp member with ⟨row, inside, same⟩
    have none := List.any_eq_false.mp free row inside
    exact none (decide_eq_true same)
  have freeSlug : (orgId, body.slug) ∉ s.servers.map fun row => (row.orgId, row.slug) := by
    intro member
    rcases List.mem_map.mp member with ⟨row, inside, same⟩
    have none := List.any_eq_false.mp unused row inside
    exact none (decide_eq_true ⟨congrArg Prod.fst same, congrArg Prod.snd same⟩)
  constructor
  · rw [List.map_append]
    exact consistent.serverIds.append (List.nodup_singleton _)
      (List.disjoint_singleton.mpr freeId)
  · rw [List.map_append]
    exact consistent.slugs.append (List.nodup_singleton _)
      (List.disjoint_singleton.mpr freeSlug)
  · exact consistent.sessionIds
  · intro tool member
    rcases consistent.serverExists tool member with ⟨server, inside, named⟩
    exact ⟨server, List.mem_append_left _ inside, named⟩
  · intro row member
    rcases List.mem_append.mp member with old | new
    · exact consistent.servers row old
    · rw [List.mem_singleton.mp new]
      exact owned
  · exact consistent.tools
  · exact consistent.sessions

theorem Consistent.deleteServer {serverId : Uuid} (consistent : s.Consistent ownerOf) :
    (s.serve choice (.deleteServer serverId)).2.Consistent ownerOf := by
  constructor
  · exact consistent.serverIds.sublist (List.filter_sublist.map _)
  · exact consistent.slugs.sublist (List.filter_sublist.map _)
  · exact consistent.sessionIds
  · intro tool member
    have parts := List.mem_filter.mp member
    rcases consistent.serverExists tool parts.1 with ⟨server, inside, named⟩
    refine ⟨server, List.mem_filter.mpr ⟨inside, ?_⟩, named⟩
    rw [named]
    exact parts.2
  · exact fun row member => consistent.servers row (List.mem_of_mem_filter member)
  · exact fun row member => consistent.tools row (List.mem_of_mem_filter member)
  · exact consistent.sessions

theorem Consistent.upsertTools {server : ServerRow} {tools : List DiscoveryService.DiscoveredTool}
    (consistent : s.Consistent ownerOf) (owns : Owns ownerOf org server)
    (upserted : s.upsertTools server tools choice = some t) : t.Consistent ownerOf := by
  unfold Tables.upsertTools at upserted
  split at upserted
  case isFalse => cases upserted
  case isTrue present =>
    rcases Option.map_eq_some_iff.mp upserted with ⟨table, inserted, rfl⟩
    unfold DiscoveryService.ToolTable.insertTools at inserted
    split at inserted
    case isFalse => cases inserted
    case isTrue =>
      rw [← Option.some.inj inserted]
      -- each row was there, or is a new one of the server
      have rows : ∀ row ∈ upsertRows DiscoveryService.ToolRow.key DiscoveryService.takeExcluded
          (DiscoveryService.newRows server.id server.orgId tools choice.now choice.toolId)
          (s.tools.markMissing server.id (tools.map (·.name)) choice.now).rows,
          (∃ old ∈ s.tools.rows, row.serverId = old.serverId ∧ row.orgId = old.orgId) ∨
            row.serverId = server.id ∧ row.orgId = server.orgId := by
        intro row member
        rcases mem_upsertRows member with ⟨old, inside, merged⟩ | ⟨new, _⟩
        · left
          have keys : row.key = old.key := by
            rw [merged, key_mergeInto DiscoveryService.key_takeExcluded]
          have first := congrArg Prod.fst keys
          have second := congrArg (fun key => key.2.1) keys
          rcases mem_updateWhere inside with ⟨before, known, ⟨_, changed⟩ | ⟨_, unchanged⟩⟩
          · rw [changed] at first second
            exact ⟨before, known, first, second⟩
          · rw [unchanged] at first second
            exact ⟨before, known, first, second⟩
        · right
          rcases List.mem_map.mp new with ⟨tool, _, equal⟩
          rw [← equal]
          exact ⟨rfl, rfl⟩
      refine ⟨consistent.serverIds, consistent.slugs, consistent.sessionIds, ?_,
        consistent.servers, ?_, consistent.sessions⟩
      · intro row member
        rcases rows row member with ⟨old, inside, serverId, _⟩ | ⟨serverId, _⟩
        · rw [serverId]
          exact consistent.serverExists old inside
        · rcases List.any_eq_true.mp present with ⟨found, inside, same⟩
          exact ⟨found, inside, (of_decide_eq_true same).trans serverId.symm⟩
      · intro row member
        rcases rows row member with ⟨old, inside, serverId, orgId⟩ | ⟨serverId, orgId⟩
        · rw [serverId, orgId]
          exact consistent.tools old inside
        · rw [serverId, orgId, owns.1, owns.2]

theorem Consistent.insertSession {orgId : Uuid} {data : SessionData}
    (consistent : s.Consistent ownerOf) (owned : ownerOf choice.newId = orgId)
    (free : s.taken choice.newId (.insertSession orgId data) = false) :
    Consistent { s with sessions := s.sessions ++ [newSession orgId data choice] } ownerOf := by
  have freeId : choice.newId ∉ s.sessions.map fun row => row.id := by
    intro member
    rcases List.mem_map.mp member with ⟨row, inside, same⟩
    have none := List.any_eq_false.mp free row inside
    exact none (decide_eq_true same)
  refine ⟨consistent.serverIds, consistent.slugs, ?_, consistent.serverExists, consistent.servers,
    consistent.tools, ?_⟩
  · rw [List.map_append]
    exact consistent.sessionIds.append (List.nodup_singleton _)
      (List.disjoint_singleton.mpr freeId)
  · intro row member
    rcases List.mem_append.mp member with old | new
    · exact consistent.sessions row old
    · rw [List.mem_singleton.mp new]
      exact owned

theorem Consistent.serve (consistent : s.Consistent ownerOf) (confined : Confined ownerOf org op)
    (owned : ownerOf choice.newId = org) (free : s.taken choice.newId op = false) :
    (s.serve choice op).2.Consistent ownerOf := by
  cases op with
  | insertServer orgId body =>
      have mine : orgId = org := confined
      simp only [Tables.serve]
      split
      case isTrue => exact consistent
      case isFalse unused =>
        exact consistent.insertServer (owned.trans mine.symm) free (by simpa using unused)
  | updateServer serverId changes =>
      simp only [Tables.serve]
      split
      · exact consistent.change fun row => ⟨rfl, rfl, rfl⟩
      · exact consistent
  | deleteServer serverId => exact consistent.deleteServer
  | connect server | disconnect server => exact consistent.change fun row => ⟨rfl, rfl, rfl⟩
  | discoverServer server =>
      simp only [Tables.serve, Tables.discoverServer]
      split
      case isTrue => exact consistent
      case isFalse =>
        split
        · exact consistent
        · exact consistent
        · split
          case h_1 next upserted => exact consistent.upsertTools confined upserted
          case h_2 => exact consistent
  | insertSession orgId data =>
      have mine : orgId = org := confined
      exact consistent.insertSession (owned.trans mine.symm) free
  | deleteSession sessionId =>
      exact ⟨consistent.serverIds, consistent.slugs,
        consistent.sessionIds.sublist (List.filter_sublist.map _), consistent.serverExists,
        consistent.servers, consistent.tools,
        fun row member => consistent.sessions row (List.mem_of_mem_filter member)⟩
  | cacheSet key tools | cacheDelete key =>
      exact ⟨consistent.serverIds, consistent.slugs, consistent.sessionIds,
        consistent.serverExists, consistent.servers, consistent.tools, consistent.sessions⟩
  | _ => exact consistent

end Tables

end Serving

end Routes

end GrafuxMcp
