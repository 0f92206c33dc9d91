import GrafuxMcp.Api.Tables
import GrafuxMcp.Foundation.SharedStore

/-! # The orgs that share the registry

The requests of several orgs take turns at the tables and the cached tool lists. Each keeps to
the org of its token, so an org is answered as if it were alone. -/

namespace GrafuxMcp.Routes

open Discovery Confinement

section Serving

variable {ownerOf : Uuid → Uuid} {org : Uuid} {s t : Tables} {choice : Choice} {op : Op}

namespace Tables

/-! ### What others see of an operation -/

variable {other : Uuid}

theorem view_change_other {serverId : Uuid} {change : ServerRow → ServerRow}
    (consistent : s.Consistent ownerOf) (different : other ≠ ownerOf serverId)
    (same : ∀ row, (change row).orgId = row.orgId) :
    view { s with servers := updateWhere (fun row => row.id = serverId) change s.servers } other =
      s.view other :=
  view_eq_iff.mpr ⟨filter_update_other consistent.servers different same
    fun _ wants => of_decide_eq_true wants, rfl, rfl, fun _ _ _ => rfl⟩

theorem view_upsertTools_other {server : ServerRow}
    {tools : List DiscoveryService.DiscoveredTool} (consistent : s.Consistent ownerOf)
    (owns : Owns ownerOf org server) (different : other ≠ org)
    (upserted : s.upsertTools server tools choice = some t) : t.view other = s.view other := by
  unfold Tables.upsertTools at upserted
  split at upserted
  case isFalse => cases upserted
  case isTrue =>
    rcases Option.map_eq_some_iff.mp upserted with ⟨table, inserted, rfl⟩
    unfold DiscoveryService.ToolTable.insertTools at inserted
    split at inserted
    case isFalse => cases inserted
    case isTrue =>
      rw [← Option.some.inj inserted]
      refine view_eq_iff.mpr ⟨rfl, ?_, rfl, fun _ _ _ => rfl⟩
      have apart : ∀ row ∈ DiscoveryService.newRows server.id server.orgId tools choice.now
          choice.toolId, decide (row.key.2.1 = other) = false := by
        intro row member
        rcases List.mem_map.mp member with ⟨tool, _, equal⟩
        rw [← equal]
        apply decide_eq_false
        intro mine
        exact different (mine.symm.trans owns.2)
      have named : ∀ row, DiscoveryService.isMissing server.id (tools.map (·.name)) row = true →
          row.serverId = server.id :=
        fun row wants => of_decide_eq_true (Bool.and_eq_true_iff.mp wants).1
      have spared : ∀ row, (DiscoveryService.setUnavailable choice.now row).orgId = row.orgId :=
        fun _ => rfl
      have marked := filter_update_other consistent.tools (owns.1.symm ▸ different) spared named
      exact (filter_upsertRows_of_apart DiscoveryService.key_takeExcluded
        (fun key => decide (key.2.1 = other)) apart).trans marked

theorem view_lists_other {key : Text} {tools : Option (List ToolData)}
    (named : IsListKey org key) (different : other ≠ org) :
    view { s with lists := Function.update s.lists key tools } other = s.view other := by
  refine view_eq_iff.mpr ⟨rfl, rfl, rfl, ?_⟩
  intro text project spelled
  rcases named with ⟨own, ownProject, parsed, equal⟩
  apply Function.update_of_ne
  intro same
  rw [equal] at same
  have texts := orgId_of_cacheKey (Uuid.isOrgText_of_parse spelled)
    (Uuid.isOrgText_of_parse parsed) same
  rw [texts, parsed, Option.some.injEq] at spelled
  exact different spelled.symm

theorem view_serve_other (consistent : s.Consistent ownerOf)
    (confined : Confined ownerOf org op) (different : other ≠ org) :
    (s.serve choice op).2.view other = s.view other := by
  cases op with
  | insertServer orgId body =>
      have mine : orgId = org := confined
      simp only [Tables.serve]
      split
      case isTrue => rfl
      case isFalse =>
        refine view_eq_iff.mpr ⟨?_, rfl, rfl, fun _ _ _ => rfl⟩
        have apart : ¬ (newServer orgId body choice).orgId = other := by
          intro equal
          exact different (equal.symm.trans mine)
        rw [List.filter_append, List.filter_cons_of_neg (by simpa using apart), List.filter_nil,
          List.append_nil]
  | updateServer serverId changes =>
      simp only [Tables.serve]
      split
      · have apart : other ≠ ownerOf serverId := fun equal => different (equal.trans confined)
        exact view_change_other consistent apart fun _ => rfl
      · rfl
  | deleteServer serverId =>
      have apart : other ≠ ownerOf serverId := fun equal => different (equal.trans confined)
      exact view_eq_iff.mpr ⟨filter_without_key consistent.servers apart,
        filter_without_key consistent.tools apart, rfl, fun _ _ _ => rfl⟩
  | connect server | disconnect server =>
      have owner : ownerOf server.id = org := confined.1
      exact view_change_other consistent (owner.symm ▸ different) fun _ => rfl
  | discoverServer server =>
      simp only [Tables.serve, Tables.discoverServer]
      split
      case isTrue => rfl
      case isFalse =>
        split
        · rfl
        · rfl
        · split
          case h_1 next upserted =>
            exact view_upsertTools_other consistent confined different upserted
          case h_2 => rfl
  | insertSession orgId data =>
      have mine : orgId = org := confined
      refine view_eq_iff.mpr ⟨rfl, rfl, ?_, fun _ _ _ => rfl⟩
      have apart : ¬ (newSession orgId data choice).orgId = other := by
        intro equal
        exact different (equal.symm.trans mine)
      change (s.sessions ++ [newSession orgId data choice]).filter _ = _
      rw [List.filter_append, List.filter_cons_of_neg (by simpa using apart), List.filter_nil,
        List.append_nil]
  | deleteSession sessionId =>
      have apart : other ≠ ownerOf sessionId := fun equal => different (equal.trans confined)
      exact view_eq_iff.mpr ⟨rfl, rfl, filter_without_key consistent.sessions apart,
        fun _ _ _ => rfl⟩
  | cacheSet key tools | cacheDelete key => exact view_lists_other confined different
  | _ => rfl

/-! ### What its own org sees -/

theorem view_change {wanted : ServerRow → Bool} {change : ServerRow → ServerRow}
    (alike : s.view org = t.view org) (same : ∀ row, (change row).orgId = row.orgId) :
    view { s with servers := updateWhere wanted change s.servers } org =
      view { t with servers := updateWhere wanted change t.servers } org := by
  have parts := view_eq_iff.mp alike
  refine view_eq_iff.mpr ⟨?_, parts.2⟩
  have keeps : ∀ row, decide ((change row).orgId = org) = decide (row.orgId = org) :=
    fun row => by rw [same row]
  change (updateWhere wanted change s.servers).filter _ =
    (updateWhere wanted change t.servers).filter _
  rw [filter_updateWhere keeps, filter_updateWhere keeps, parts.1]

theorem any_server_of_view {serverId : Uuid} (consistent : s.Consistent ownerOf)
    (consistent' : t.Consistent ownerOf) (owned : ownerOf serverId = org)
    (alike : s.view org = t.view org) :
    s.servers.any (fun row => row.id = serverId) = t.servers.any fun row => row.id = serverId := by
  rw [any_key consistent.servers, any_key consistent'.servers, owned, (view_eq_iff.mp alike).1]

/-- The rows of an org after `upsert_tools` for it. -/
theorem filter_upsert {server : ServerRow} {tools : List DiscoveryService.DiscoveredTool}
    (owns : server.orgId = org) (rows : List ToolRow) :
    (upsertRows DiscoveryService.ToolRow.key DiscoveryService.takeExcluded
      (DiscoveryService.newRows server.id server.orgId tools choice.now choice.toolId)
      (updateWhere (DiscoveryService.isMissing server.id (tools.map (·.name)))
        (DiscoveryService.setUnavailable choice.now) rows)).filter (fun row => row.orgId = org) =
      upsertRows DiscoveryService.ToolRow.key DiscoveryService.takeExcluded
        (DiscoveryService.newRows server.id server.orgId tools choice.now choice.toolId)
        (updateWhere (DiscoveryService.isMissing server.id (tools.map (·.name)))
          (DiscoveryService.setUnavailable choice.now)
          (rows.filter fun row => row.orgId = org)) := by
  have belongs : ∀ row ∈ DiscoveryService.newRows server.id server.orgId tools choice.now
      choice.toolId, decide (row.key.2.1 = org) = true := by
    intro row member
    rcases List.mem_map.mp member with ⟨tool, _, equal⟩
    rw [← equal]
    exact decide_eq_true owns
  refine (filter_upsertRows DiscoveryService.key_takeExcluded
    (fun key : DiscoveryService.ToolKey => decide (key.2.1 = org)) belongs).trans (congrArg _ ?_)
  exact filter_updateWhere fun _ => rfl

theorem filter_and {Row : Type} {first second : Row → Prop} [DecidablePred first]
    [DecidablePred second] (rows : List Row) :
    rows.filter (fun row => first row ∧ second row) =
      (rows.filter fun row => second row).filter fun row => first row := by
  rw [List.filter_filter]
  apply List.filter_congr
  intro row _
  exact Bool.decide_and _ _

theorem registeredTools_of_org (rows : List ToolRow) (request : ListRequest) :
    registeredTools (rows.map (·.toMCPTool)) org request =
      registeredTools ((rows.filter fun row => row.orgId = org).map (·.toMCPTool)) org request := by
  unfold registeredTools queryTools
  rw [List.filter_map, List.filter_map, List.filter_filter]
  congr 2
  apply List.filter_congr
  intro row _
  rw [Function.comp_apply]
  by_cases mine : row.orgId = org
  · simp [mine]
  · simp [mine]

theorem view_upsertTools {server : ServerRow} (tools : List DiscoveryService.DiscoveredTool)
    (choice : Choice) (consistent : s.Consistent ownerOf) (consistent' : t.Consistent ownerOf)
    (owns : Owns ownerOf org server) (alike : s.view org = t.view org) :
    (s.upsertTools server tools choice = none ∧ t.upsertTools server tools choice = none) ∨
      ∃ s' t', s.upsertTools server tools choice = some s' ∧
        t.upsertTools server tools choice = some t' ∧ s'.view org = t'.view org := by
  have present := any_server_of_view consistent consistent' owns.1 alike
  unfold Tables.upsertTools
  rw [present]
  split
  case isFalse => exact Or.inl ⟨rfl, rfl⟩
  case isTrue =>
    unfold DiscoveryService.ToolTable.insertTools
    split
    case isFalse => exact Or.inl ⟨rfl, rfl⟩
    case isTrue =>
      refine Or.inr ⟨_, _, rfl, rfl, ?_⟩
      have parts := view_eq_iff.mp alike
      refine view_eq_iff.mpr ⟨parts.1, ?_, parts.2.2⟩
      exact (filter_upsert owns.2 s.tools.rows).trans
        ((congrArg _ (congrArg _ parts.2.1)).trans (filter_upsert owns.2 t.tools.rows).symm)

theorem discoverServer_of_view {server : ServerRow} (choice : Choice)
    (consistent : s.Consistent ownerOf) (consistent' : t.Consistent ownerOf)
    (owns : Owns ownerOf org server) (alike : s.view org = t.view org) :
    (s.discoverServer server choice).1 = (t.discoverServer server choice).1 ∧
      (s.discoverServer server choice).2.view org =
        (t.discoverServer server choice).2.view org := by
  unfold Tables.discoverServer
  split
  case isTrue => exact ⟨rfl, alike⟩
  case isFalse =>
    split
    · exact ⟨rfl, alike⟩
    · exact ⟨rfl, alike⟩
    case h_3 tools _ _ =>
      rcases view_upsertTools tools choice consistent consistent' owns alike with
        ⟨left, right⟩ | ⟨s', t', left, right, same⟩
      · rw [left, right]
        exact ⟨rfl, alike⟩
      · rw [left, right]
        exact ⟨rfl, same⟩

/-- What an operation comes to is decided by the rows and lists of its org. -/
theorem serve_of_view (choice : Choice) (consistent : s.Consistent ownerOf)
    (consistent' : t.Consistent ownerOf) (confined : Confined ownerOf org op)
    (alike : s.view org = t.view org) :
    (s.serve choice op).1 = (t.serve choice op).1 ∧
      (s.serve choice op).2.view org = (t.serve choice op).2.view org := by
  have parts := view_eq_iff.mp alike
  cases op with
  | selectServer orgId serverId =>
      obtain rfl : orgId = org := confined
      refine ⟨congrArg (fun rows => Except.ok (scalarOneOrNone rows)) ?_, alike⟩
      rw [filter_and, parts.1, ← filter_and]
  | listServers orgId =>
      obtain rfl : orgId = org := confined
      refine ⟨congrArg Except.ok ?_, alike⟩
      exact congrArg (List.insertionSort _) parts.1
  | selectActive orgId =>
      obtain rfl : orgId = org := confined
      refine ⟨congrArg Except.ok ?_, alike⟩
      rw [filter_and, List.filter_comm, parts.1, List.filter_comm, ← filter_and]
  | insertServer orgId body =>
      obtain rfl : orgId = org := confined
      have slugs : s.servers.any (fun row => row.orgId = orgId ∧ row.slug = body.slug) =
          t.servers.any fun row => row.orgId = orgId ∧ row.slug = body.slug := by
        have all := congrArg (List.any · fun row => row.slug = body.slug) parts.1
        simpa only [List.any_filter, Bool.decide_and] using all
      simp only [Tables.serve, slugs]
      split
      case isTrue => exact ⟨rfl, alike⟩
      case isFalse =>
        refine ⟨rfl, view_eq_iff.mpr ⟨?_, parts.2⟩⟩
        rw [List.filter_append, List.filter_append, parts.1]
  | updateServer serverId changes =>
      obtain rfl : ownerOf serverId = org := confined
      have found : s.servers.find? (fun row => row.id = serverId) =
          t.servers.find? fun row => row.id = serverId := by
        rw [find_key consistent.servers, find_key consistent'.servers, parts.1]
      simp only [Tables.serve, found]
      split
      · exact ⟨rfl, view_change alike fun _ => rfl⟩
      · exact ⟨rfl, alike⟩
  | deleteServer serverId =>
      refine ⟨rfl, view_eq_iff.mpr ⟨?_, ?_, parts.2.2⟩⟩
      · change (s.servers.filter _).filter _ = (t.servers.filter _).filter _
        rw [List.filter_comm, parts.1, List.filter_comm]
      · change (s.tools.rows.filter _).filter _ = (t.tools.rows.filter _).filter _
        rw [List.filter_comm, parts.2.1, List.filter_comm]
  | connect server | disconnect server => exact ⟨rfl, view_change alike fun _ => rfl⟩
  | discoverServer server =>
      have same := discoverServer_of_view choice consistent consistent' confined alike
      exact ⟨congrArg Except.ok same.1, same.2⟩
  | queryTools orgId request =>
      obtain rfl : orgId = org := confined
      refine ⟨congrArg Except.ok ?_, alike⟩
      rw [registeredTools_of_org, parts.2.1, ← registeredTools_of_org]
  | selectTool orgId toolId =>
      obtain rfl : orgId = org := confined
      refine ⟨congrArg (fun rows => Except.ok (scalarOneOrNone rows)) ?_, alike⟩
      rw [filter_and, parts.2.1, ← filter_and]
  | listLocalTools => exact ⟨rfl, alike⟩
  | cacheGet key =>
      rcases confined with ⟨text, project, spelled, rfl⟩
      refine ⟨?_, alike⟩
      change Except.ok (if _ then _ else s.lists _) = Except.ok (if _ then _ else t.lists _)
      rw [parts.2.2.2 text project spelled]
  | cacheSet key tools =>
      refine ⟨rfl, view_eq_iff.mpr ⟨parts.1, parts.2.1, parts.2.2.1, ?_⟩⟩
      intro text project spelled
      simp only [Tables.serve, Function.update_apply, parts.2.2.2 text project spelled]
  | cacheDelete key =>
      refine ⟨rfl, view_eq_iff.mpr ⟨parts.1, parts.2.1, parts.2.2.1, ?_⟩⟩
      intro text project spelled
      simp only [Tables.serve, Function.update_apply, parts.2.2.2 text project spelled]
  | insertSession orgId data =>
      refine ⟨rfl, view_eq_iff.mpr ⟨parts.1, parts.2.1, ?_, parts.2.2.2⟩⟩
      change (s.sessions ++ _).filter _ = (t.sessions ++ _).filter _
      rw [List.filter_append, List.filter_append, parts.2.2.1]
  | selectSession orgId sessionId =>
      obtain rfl : orgId = org := confined
      refine ⟨congrArg (fun rows => Except.ok (scalarOneOrNone rows)) ?_, alike⟩
      rw [filter_and, parts.2.2.1, ← filter_and]
  | deleteSession sessionId =>
      refine ⟨rfl, view_eq_iff.mpr ⟨parts.1, parts.2.1, ?_, parts.2.2.2⟩⟩
      change (s.sessions.filter _).filter _ = (t.sessions.filter _).filter _
      rw [List.filter_comm, parts.2.2.1, List.filter_comm]
  | cacheSession sessionId => exact ⟨rfl, alike⟩

theorem taken_of_view (consistent : s.Consistent ownerOf) (consistent' : t.Consistent ownerOf)
    (owned : ownerOf choice.newId = org) (alike : s.view org = t.view org) :
    s.taken choice.newId op = t.taken choice.newId op := by
  have parts := view_eq_iff.mp alike
  cases op with
  | insertServer orgId body =>
      change s.servers.any _ = t.servers.any _
      rw [any_key consistent.servers, any_key consistent'.servers, owned, parts.1]
  | insertSession orgId data =>
      change s.sessions.any _ = t.sessions.any _
      rw [any_key consistent.sessions, any_key consistent'.sessions, owned, parts.2.2.1]
  | _ => rfl

theorem known_serve {answer : op.Answer} (consistent : s.Consistent ownerOf)
    (confined : Confined ownerOf org op) (answered : (s.serve choice op).1 = .ok answer) :
    Known ownerOf org op answer := by
  cases op with
  | selectServer orgId serverId =>
      obtain rfl : orgId = org := confined
      cases answered
      intro row found
      have parts := List.mem_filter.mp (List.mem_of_mem_head? found)
      have mine := (of_decide_eq_true parts.2).2
      exact ⟨(consistent.servers row parts.1).trans mine, mine⟩
  | selectActive orgId =>
      obtain rfl : orgId = org := confined
      cases answered
      intro row found
      have parts := List.mem_filter.mp found
      have mine := (of_decide_eq_true parts.2).1
      exact ⟨(consistent.servers row parts.1).trans mine, mine⟩
  | selectSession orgId sessionId =>
      obtain rfl : orgId = org := confined
      cases answered
      intro row found
      have parts := List.mem_filter.mp (List.mem_of_mem_head? found)
      exact (consistent.sessions row parts.1).trans (of_decide_eq_true parts.2).2
  | _ => trivial

/-- An operation raises, with or without its effect, or is served. -/
theorem answer_cases {result : Except Exc op.Answer}
    (answered : s.answer op choice = some (result, t)) :
    s.taken choice.newId op = false ∧
      ((∃ exc applied, choice.raises = some (exc, applied) ∧ result = .error exc ∧
          t = if applied then (s.serve choice op).2 else s) ∨
        choice.raises = none ∧ result = (s.serve choice op).1 ∧ t = (s.serve choice op).2) := by
  unfold Tables.answer at answered
  cases free : s.taken choice.newId op with
  | true => simp [free] at answered
  | false =>
      refine ⟨rfl, ?_⟩
      rw [free] at answered
      cases raises : choice.raises with
      | some raised =>
          rcases raised with ⟨exc, applied⟩
          rw [raises] at answered
          cases answered
          exact Or.inl ⟨exc, applied, rfl, rfl, rfl⟩
      | none =>
          rw [raises] at answered
          have pair := Option.some.inj answered
          exact Or.inr ⟨rfl, (congrArg Prod.fst pair).symm, (congrArg Prod.snd pair).symm⟩

end Tables

/-! ### Confinement -/

def answering : Answering effects Tables Choice :=
  Tables.answer

def confinement (ownerOf : Uuid → Uuid) : Confinement answering Uuid View where
  safe s := s.Consistent ownerOf
  chosen org choice := ownerOf choice.newId = org
  confined := Confined ownerOf
  known := Known ownerOf
  view org s := s.view org
  kept := by
    intro org s op choice result s' consistent confined owned answered
    rcases Tables.answer_cases answered with ⟨free, ⟨exc, applied, _, rfl, rfl⟩ | ⟨_, rfl, rfl⟩⟩
    · refine ⟨?_, fun _ impossible => nomatch impossible⟩
      split
      · exact consistent.serve confined owned free
      · exact consistent
    · exact ⟨consistent.serve confined owned free,
        fun answer served => Tables.known_serve consistent confined served⟩
  hidden := by
    intro org other s op choice result s' consistent confined owned different answered
    rcases Tables.answer_cases answered with ⟨free, ⟨exc, applied, _, rfl, rfl⟩ | ⟨_, rfl, rfl⟩⟩
    · split
      · exact Tables.view_serve_other consistent confined different
      · rfl
    · exact Tables.view_serve_other consistent confined different
  visible := by
    intro org s t op choice result s' consistent consistent' confined owned alike answered
    have same := Tables.serve_of_view choice consistent consistent' confined alike
    rcases Tables.answer_cases answered with
      ⟨free, ⟨exc, applied, raises, rfl, rfl⟩ | ⟨raises, rfl, rfl⟩⟩
    · rw [Tables.taken_of_view consistent consistent' owned alike] at free
      refine ⟨if applied then (t.serve choice op).2 else t, ?_, ?_⟩
      · simp [answering, Tables.answer, free, raises]
      · split
        · exact same.2
        · exact alike
    · rw [Tables.taken_of_view consistent consistent' owned alike] at free
      refine ⟨(t.serve choice op).2, ?_, same.2⟩
      simp [answering, Tables.answer, free, raises, same.1]

/-! ### Requests -/

section Requests

variable {auth : AuthContext} {serverId toolId sessionId : Uuid}

theorem uuidOf_of_parse {text : Text} {uuid : Uuid} (parsed : Uuid.parse text = some uuid) :
    uuidOf text = pure uuid := by
  unfold uuidOf Permissions.uuidOf
  rw [parsed]

theorem isListKey_orgTools (parsed : Uuid.parse auth.orgId = some org) :
    IsListKey org (MCPKeys.orgTools auth.orgId) :=
  ⟨auth.orgId, none, parsed, rfl⟩

theorem within_perform (confined : Confined ownerOf org op) :
    (confinement ownerOf).Within org (perform op) (Known ownerOf org op) :=
  Confinement.within_call confined

/-- An operation whose answer is not used to reach rows. -/
theorem within_step (confined : Confined ownerOf org op) :
    (confinement ownerOf).Within org (perform op) fun _ => True :=
  (within_perform confined).mono fun _ _ => trivial

theorem within_serverOr404 (parsed : Uuid.parse auth.orgId = some org) :
    (confinement ownerOf).Within org (serverOr404 auth serverId) (Owns ownerOf org) := by
  rw [serverOr404, uuidOf_of_parse parsed]
  have selected : Confined ownerOf org (.selectServer org serverId) := rfl
  refine (within_perform selected).bind ?_
  intro found known
  cases found with
  | some server => exact within_pure (known server rfl)
  | none => exact within_throw _

theorem within_sessionOr404 (parsed : Uuid.parse auth.orgId = some org) :
    (confinement ownerOf).Within org (sessionOr404 auth sessionId)
      fun session => ownerOf session.id = org := by
  rw [sessionOr404, uuidOf_of_parse parsed]
  have selected : Confined ownerOf org (.selectSession org sessionId) := rfl
  refine (within_perform selected).bind ?_
  intro found known
  cases found with
  | some session => exact within_pure (known session rfl)
  | none => exact within_throw _

theorem within_toolOr404 (parsed : Uuid.parse auth.orgId = some org) :
    (confinement ownerOf).Within org (toolOr404 auth toolId) fun _ => True := by
  rw [toolOr404, uuidOf_of_parse parsed]
  have selected : Confined ownerOf org (.selectTool org toolId) := rfl
  refine (within_step selected).followed ?_
  intro found
  cases found with
  | some tool => exact within_return _
  | none => exact within_throw _

theorem within_discoverEach {servers : List ServerRow}
    (owns : ∀ server ∈ servers, Owns ownerOf org server) (total : Nat) :
    (confinement ownerOf).Within org (discoverEach servers total) fun _ => True := by
  induction servers generalizing total with
  | nil => exact within_return _
  | cons server servers induction =>
      have first : Confined ownerOf org (.discoverServer server) := owns server List.mem_cons_self
      have others : ∀ other ∈ servers, Owns ownerOf org other :=
        fun other member => owns other (List.mem_cons_of_mem _ member)
      refine Within.followed ?_ fun count => induction others (total + count)
      refine (within_step first).tryCatch ?_
      intro exc
      split
      · exact within_return _
      · exact within_throw _

theorem within_discover (wanted : Option Uuid) :
    (confinement ownerOf).Within org (discover org wanted) fun _ => True := by
  have key : IsListKey org (MCPKeys.orgTools org.str) := ⟨org.str, none, Uuid.parse_str org, rfl⟩
  have rest : ∀ servers : List ServerRow, (∀ server ∈ servers, Owns ownerOf org server) →
      (confinement ownerOf).Within org (do
        let total ← discoverEach servers 0
        perform (.cacheDelete (MCPKeys.orgTools org.str))
        return total) fun _ => True := by
    intro servers owns
    refine (within_discoverEach owns 0).followed fun total => ?_
    have deleted : Confined ownerOf org (.cacheDelete (MCPKeys.orgTools org.str)) := key
    exact (within_step deleted).followed fun _ => within_return _
  unfold discover
  cases wanted with
  | some serverId =>
      have selected : Confined ownerOf org (.selectServer org serverId) := rfl
      have found : (confinement ownerOf).Within org
          (Option.toList <$> perform (.selectServer org serverId))
          fun servers => ∀ server ∈ servers, Owns ownerOf org server :=
        (within_perform selected).bind fun found known =>
          within_pure fun server member => known server (Option.mem_toList.mp member)
      exact found.bind rest
  | none =>
      have selected : Confined ownerOf org (.selectActive org) := rfl
      exact (within_perform selected).bind rest

theorem within_sessionProject (body : MCPSessionCreate) :
    (confinement ownerOf).Within org (sessionProject auth body) fun _ => True := by
  have parsing : ∀ text, (confinement ownerOf).Within org (uuidOf text) fun _ => True := by
    intro text
    unfold uuidOf
    split
    · exact within_return _
    · exact within_throw _
  unfold sessionProject
  split
  · exact within_return _
  · exact (parsing _).followed fun _ => within_return _
  · exact within_return _

theorem within_registered (parsed : Uuid.parse auth.orgId = some org) (request : ListRequest) :
    (confinement ownerOf).Within org (registered auth request) fun _ => True := by
  have key : IsListKey org (cacheKey auth.orgId request.projectId) :=
    ⟨auth.orgId, request.projectId, parsed, rfl⟩
  have looked : Confined ownerOf org (.cacheGet (cacheKey auth.orgId request.projectId)) := key
  have queried : Confined ownerOf org (.queryTools org request) := rfl
  rw [registered, uuidOf_of_parse parsed]
  refine (within_step looked).followed fun cached => ?_
  split
  · exact within_return _
  · refine (within_step queried).followed fun tools => ?_
    have stored : Confined ownerOf org
        (.cacheSet (cacheKey auth.orgId request.projectId) tools) := key
    exact (within_step stored).followed fun _ => within_return _

theorem within_registerServer (parsed : Uuid.parse auth.orgId = some org)
    (body : RegisterServerRequest) :
    (confinement ownerOf).Within org (registerServer auth body) fun _ => True := by
  have inserted : Confined ownerOf org (.insertServer org body) := rfl
  rw [registerServer, uuidOf_of_parse parsed]
  exact (within_step inserted).followed fun _ => within_return _

theorem within_listMcpServers (parsed : Uuid.parse auth.orgId = some org) :
    (confinement ownerOf).Within org (listMcpServers auth) fun _ => True := by
  have listed : Confined ownerOf org (.listServers org) := rfl
  rw [listMcpServers, uuidOf_of_parse parsed]
  exact (within_step listed).followed fun _ => within_return _

theorem within_updateMcpServer (parsed : Uuid.parse auth.orgId = some org)
    (body : UpdateServerRequest) :
    (confinement ownerOf).Within org (updateMcpServer auth serverId body) fun _ => True := by
  refine (within_serverOr404 parsed).bind fun server owns => ?_
  have updated : Confined ownerOf org (.updateServer server.id (changesOf server body)) := owns.1
  exact (within_step updated).followed fun _ => within_return _

theorem within_unregisterServer (parsed : Uuid.parse auth.orgId = some org) :
    (confinement ownerOf).Within org (unregisterServer auth serverId) fun _ => True := by
  refine (within_serverOr404 parsed).bind fun server owns => ?_
  have disconnected : Confined ownerOf org (.disconnect server) := owns
  have deleted : Confined ownerOf org (.deleteServer server.id) := owns.1
  have forgotten : Confined ownerOf org (.cacheDelete (MCPKeys.orgTools auth.orgId)) :=
    isListKey_orgTools parsed
  refine Within.followed ((within_step disconnected).tryCatch fun exc => ?_) fun _ => ?_
  · split
    · exact within_return _
    · exact within_throw _
  · refine (within_step deleted).followed fun _ => ?_
    exact (within_step forgotten).followed fun _ => within_return _

theorem within_connectServer (parsed : Uuid.parse auth.orgId = some org) :
    (confinement ownerOf).Within org (connectServer auth serverId) fun _ => True := by
  unfold connectServer
  rw [uuidOf_of_parse parsed]
  refine (within_serverOr404 parsed).bind fun server owns => ?_
  have connected : Confined ownerOf org (.connect server) := owns
  refine Within.followed ((within_step connected).tryCatch fun exc => ?_) fun _ => ?_
  · split
    · exact within_throw _
    · exact within_throw _
  · exact (within_discover (some serverId)).followed fun _ => within_return _

theorem within_disconnectServer (parsed : Uuid.parse auth.orgId = some org) :
    (confinement ownerOf).Within org (disconnectServer auth serverId) fun _ => True := by
  refine (within_serverOr404 parsed).bind fun server owns => ?_
  have disconnected : Confined ownerOf org (.disconnect server) := owns
  exact (within_step disconnected).followed fun _ => within_return _

theorem within_listTools (parsed : Uuid.parse auth.orgId = some org) (request : ListRequest) :
    (confinement ownerOf).Within org (listTools auth request) fun _ => True := by
  have asked : Confined ownerOf org .listLocalTools := trivial
  refine (within_registered parsed request).followed fun tools => ?_
  split
  · exact (within_step asked).followed fun _ => within_return _
  · exact within_return _

theorem within_createSession (parsed : Uuid.parse auth.orgId = some org)
    (body : MCPSessionCreate) :
    (confinement ownerOf).Within org (createSession auth body) fun _ => True := by
  rw [createSession, uuidOf_of_parse parsed]
  refine (within_sessionProject body).followed fun projectId => ?_
  have inserted : ∀ data, Confined ownerOf org (.insertSession org data) := fun _ => rfl
  refine (within_step (inserted _)).followed fun session => ?_
  have cached : Confined ownerOf org (.cacheSession session.id) := trivial
  exact (within_step cached).followed fun _ => within_return _

theorem within_endSession (parsed : Uuid.parse auth.orgId = some org) :
    (confinement ownerOf).Within org (endSession auth sessionId) fun _ => True := by
  refine (within_sessionOr404 parsed).bind fun session owned => ?_
  have deleted : Confined ownerOf org (.deleteSession session.id) := owned
  have forgotten : Confined ownerOf org (.cacheSession session.id) := trivial
  refine (within_step deleted).followed fun _ => ?_
  exact (within_step forgotten).followed fun _ => within_return _

/-- A request is confined to the org of its token. -/
theorem within_program (parsed : Uuid.parse auth.orgId = some org) (request : Request) :
    (confinement ownerOf).Within org (program auth request) fun _ => True := by
  cases request with
  | registerServer body => exact within_registerServer parsed body
  | listMcpServers => exact within_listMcpServers parsed
  | getMcpServer serverId => exact (within_serverOr404 parsed).bind fun _ _ => within_return _
  | updateMcpServer serverId body => exact within_updateMcpServer parsed body
  | unregisterServer serverId => exact within_unregisterServer parsed
  | connectServer serverId => exact within_connectServer parsed
  | disconnectServer serverId => exact within_disconnectServer parsed
  | listTools request => exact within_listTools parsed request
  | getTool toolId => exact (within_toolOr404 parsed).followed fun _ => within_return _
  | getToolSchema toolId => exact (within_toolOr404 parsed).followed fun _ => within_return _
  | triggerDiscovery wanted =>
      change (confinement ownerOf).Within org (triggerDiscovery auth wanted) _
      rw [triggerDiscovery, uuidOf_of_parse parsed]
      exact (within_discover wanted).followed fun _ => within_return _
  | createSession body => exact within_createSession parsed body
  | getSession sessionId => exact (within_sessionOr404 parsed).bind fun _ _ => within_return _
  | endSession sessionId => exact within_endSession parsed

end Requests

end Serving

/-! ### Histories of requests -/

abbrev History := List (Turn effects Uuid Choice Response)

/-- A request comes with a token, and the ids that are made for different orgs differ. -/
def Served (ownerOf : Uuid → Uuid) : Turn effects Uuid Choice Response → Prop
  | .start task program => ∃ auth request, Uuid.parse auth.orgId = some task.1 ∧
      program = Routes.program auth request
  | .move task choice => ownerOf choice.newId = task.1

/-- The machine after the requests of a history, from empty tables. -/
def after (history : History) : Option (Machine effects Uuid Tables Response) :=
  Machine.run { store := {} } answering history

section Histories

variable {ownerOf : Uuid → Uuid} {history : History}
  {m : Machine effects Uuid Tables Response}

theorem allowed_of_served {turn : Turn effects Uuid Choice Response}
    (served : Served ownerOf turn) : turn.Allowed (confinement ownerOf) := by
  cases turn with
  | start task program =>
      rcases served with ⟨auth, request, parsed, rfl⟩
      exact within_program parsed request
  | move task choice => exact served

theorem consistent_empty (ownerOf : Uuid → Uuid) : ({} : Tables).Consistent ownerOf :=
  ⟨List.nodup_nil, List.nodup_nil, List.nodup_nil, fun _ none => absurd none List.not_mem_nil,
    fun _ none => absurd none List.not_mem_nil, fun _ none => absurd none List.not_mem_nil,
    fun _ none => absurd none List.not_mem_nil⟩

theorem safe_empty (ownerOf : Uuid → Uuid) :
    Machine.Safe (confinement ownerOf)
      ({ store := {} } : Machine effects Uuid Tables Response) :=
  ⟨consistent_empty ownerOf, fun _ _ running => nomatch running⟩

theorem consistent_after (served : ∀ turn ∈ history, Served ownerOf turn)
    (reached : after history = some m) : m.store.Consistent ownerOf :=
  ((safe_empty ownerOf).run (fun turn member => allowed_of_served (served turn member))
    reached).store

end Histories

/-- However the requests of the orgs take turns, the ids and the slugs of servers stay unique
and a tool has a server of its own org. -/
theorem tables_keep_their_orgs (ownerOf : Uuid → Uuid) (history : History)
    (m : Machine effects Uuid Tables Response)
    (served : ∀ turn ∈ history, Served ownerOf turn) (reached : after history = some m) :
    (m.store.servers.map fun row => row.id).Nodup ∧
      (m.store.servers.map fun row => (row.orgId, row.slug)).Nodup ∧
      ∀ tool ∈ m.store.tools.rows, ∃ server ∈ m.store.servers,
        server.id = tool.serverId ∧ server.orgId = tool.orgId := by
  have consistent := consistent_after served reached
  refine ⟨consistent.serverIds, consistent.slugs, ?_⟩
  intro tool member
  rcases consistent.serverExists tool member with ⟨server, inside, named⟩
  refine ⟨server, inside, named, ?_⟩
  rw [← consistent.servers server inside, named, consistent.tools tool member]

/-- However the requests of the orgs take turns, an org gets the answers, and is left with the
rows and cached lists, of its own requests alone. -/
theorem served_as_alone (ownerOf : Uuid → Uuid) (history : History)
    (m : Machine effects Uuid Tables Response) (org : Uuid)
    (served : ∀ turn ∈ history, Served ownerOf turn) (reached : after history = some m) :
    ∃ alone, after (history.filter fun turn => turn.task.1 = org) = some alone ∧
      m.resultsOf org = alone.resultsOf org ∧ m.store.view org = alone.store.view org := by
  rcases (confinement ownerOf).alone org (safe_empty ownerOf)
    (fun turn member => allowed_of_served (served turn member)) reached with
    ⟨alone, possible, alike⟩
  refine ⟨alone, ?_, alike.results, alike.view⟩
  have own : withoutSecret (Turn.secret org) history =
      history.filter fun turn => turn.task.1 = org := by
    apply List.filter_congr
    intro turn _
    simp [Turn.secret]
  rw [← own]
  exact possible

/-! ### Two orgs -/

def firstOrg : Uuid := .zero
def secondOrg : Uuid := ⟨List.replicate 32 'a', rfl, rfl⟩
def firstServer : Uuid := ⟨List.replicate 32 'b', rfl, rfl⟩
def secondServer : Uuid := ⟨List.replicate 32 'c', rfl, rfl⟩

def exampleOwner (id : Uuid) : Uuid :=
  if id = secondServer then secondOrg else firstOrg

def tokenOf (org : Uuid) : AuthContext :=
  ⟨"user", org.str, none, "member"⟩

def weather : RegisterServerRequest where
  name := "Weather"
  slug := "weather"
  serverType := .remoteHttp

def firstMove (n : Nat) : Turn effects Uuid Choice Response :=
  .move (firstOrg, n) {
    newId := firstServer
    listing := some [{ name := "forecast" }]
    toolId := fun _ => firstServer }

def secondMove : Turn effects Uuid Choice Response :=
  .move (secondOrg, 0) { newId := secondServer, toolId := fun _ => secondServer }

/-- Both orgs register a server with the same slug, and the first connects to its own. -/
def exampleHistory : History :=
  [.start (firstOrg, 0) (program (tokenOf firstOrg) (.registerServer weather)),
    .start (secondOrg, 0) (program (tokenOf secondOrg) (.registerServer weather)),
    firstMove 0, secondMove, secondMove, firstMove 0,
    .start (firstOrg, 1) (program (tokenOf firstOrg) (.connectServer firstServer)),
    firstMove 1, firstMove 1, firstMove 1, firstMove 1, firstMove 1, firstMove 1]

theorem exampleReached : (after exampleHistory).isSome = true := by
  decide +kernel

example : (after exampleHistory).map (fun m =>
    (m.store.servers.map (·.slug), m.store.tools.rows.map (·.name))) =
      some (["weather", "weather"], ["forecast"]) := by
  decide +kernel

theorem exampleServed : ∀ turn ∈ exampleHistory, Served exampleOwner turn := by
  have asks : ∀ org n request,
      Served exampleOwner (.start (org, n) (program (tokenOf org) request)) :=
    fun org n request => ⟨tokenOf org, request, Uuid.parse_str org, rfl⟩
  have first : ∀ n, Served exampleOwner (firstMove n) := by
    intro n
    change exampleOwner firstServer = firstOrg
    decide
  have second : Served exampleOwner secondMove := by
    change exampleOwner secondServer = secondOrg
    decide
  simp [exampleHistory, asks, first, second]

theorem tables_keep_their_orgs_of_two :
    let reached := (after exampleHistory).get exampleReached
    (reached.store.servers.map fun row => row.id).Nodup ∧
      (reached.store.servers.map fun row => (row.orgId, row.slug)).Nodup ∧
      ∀ tool ∈ reached.store.tools.rows, ∃ server ∈ reached.store.servers,
        server.id = tool.serverId ∧ server.orgId = tool.orgId :=
  tables_keep_their_orgs exampleOwner exampleHistory _ exampleServed
    (Option.some_get exampleReached).symm

theorem first_served_as_alone :
    let reached := (after exampleHistory).get exampleReached
    ∃ alone, after (exampleHistory.filter fun turn => turn.task.1 = firstOrg) = some alone ∧
      reached.resultsOf firstOrg = alone.resultsOf firstOrg ∧
      reached.store.view firstOrg = alone.store.view firstOrg :=
  served_as_alone exampleOwner exampleHistory _ firstOrg exampleServed
    (Option.some_get exampleReached).symm

end GrafuxMcp.Routes
