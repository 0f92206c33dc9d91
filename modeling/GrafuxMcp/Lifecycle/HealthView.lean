import GrafuxMcp.Foundation.AllRuns
import GrafuxMcp.Lifecycle.HealthKeys
import GrafuxMcp.Lifecycle.HealthMonitor
import GrafuxMcp.Lifecycle.ServerState

/-! # Visible health

Connects, disconnects, rounds of the monitor and status queries, interleaved at their
operations while time passes. The manager writes where a query looks, the monitor does
not. -/

namespace GrafuxMcp.HealthView

open GrafuxMcp Program
open GrafuxMcp.Lifecycle (ClientId Call ttlHealth)
open GrafuxMcp.HealthMonitor (Entry Store handleServerStatus)

/-! ### The system -/

inductive Source where
  | manager
  | monitor
  deriving DecidableEq

structure Check where
  server : Text
  status : String
  time : Nat
  source : Source
  deriving DecidableEq

/-- `server_id` and `status` of a health entry. -/
def reading : Value → Option (Text × String)
  | .dict items =>
      match items.lookup "server_id", items.lookup "status" with
      | some (.str server), some (.str status) => some (server.toList, status)
      | _, _ => none
  | _ => none

structure System where
  now : Nat := 0
  /-- `_active_connections` -/
  active : OrderedDict Text ClientId := .empty
  store : Store := .empty
  /-- The checks that were made, the newest first. -/
  checks : List Check := []
  calls : List (MCPServer × Lifecycle.Run Unit) := []
  rounds : List (HealthMonitor.Run Unit) := []

inductive Action where
  | wait (ticks : Nat)
  | start (server : MCPServer) (call : Call)
  /-- A call performs its next operation. -/
  | advance (index : Nat) (outcome : (op : Lifecycle.Op) → Outcome Lifecycle.effects op)
  | startRound
  | advanceRound (index : Nat)
      (outcome : (op : HealthMonitor.Op) → Outcome HealthMonitor.effects op)
  | query (auth : Option Text)

namespace System

-- How many ticks of the clock a second has.
variable (second : Nat) (s : System)

def put (key : Text) (value : Value) (ttl : Nat) : Store :=
  s.store.set key ⟨value, s.now + ttl * second⟩

def record (source : Source) (value : Value) : List Check :=
  match reading value with
  | some (server, status) => ⟨server, status, s.now, source⟩ :: s.checks
  | none => s.checks

/-- What an operation of a call for this server changes. -/
def observe (server : MCPServer) : Lifecycle.RunEvent → System
  | ⟨.store serverId client, _⟩ => { s with active := s.active.set serverId client }
  | ⟨.pop serverId, _⟩ => { s with active := s.active.pop serverId }
  | ⟨.cacheSet key value ttl, outcome⟩ =>
      if outcome.applied then
        { s with
          store := s.put second key value ttl
          checks :=
            if key = MCPKeys.serverHealth server.orgId.str server.id.str then
              s.record .manager value
            else s.checks }
      else s
  | _ => s

/-- A check of the monitor counts, whether its entry is stored or not. -/
def observeRound : HealthMonitor.RunEvent → System
  | ⟨.cacheSet key value ttl, outcome⟩ =>
      { s with
        store := if outcome.applied then s.put second key value ttl else s.store
        checks := s.record .monitor value }
  | _ => s

def step : Action → System
  | .wait ticks => { s with now := s.now + ticks }
  | .start server call => { s with calls := s.calls ++ [(server, call.program server)] }
  | .advance index outcome =>
      match s.calls[index]? with
      | some (server, .perform op resume) =>
          { s.observe second server ⟨op, outcome op⟩ with
            calls := s.calls.set index (server, resume (outcome op).result) }
      | _ => s
  | .startRound => { s with rounds := s.rounds ++ [HealthMonitor.checkAll] }
  | .advanceRound index outcome =>
      match s.rounds[index]? with
      | some (.perform op resume) =>
          { s.observeRound second ⟨op, outcome op⟩ with
            rounds := s.rounds.set index (resume (outcome op).result) }
      | _ => s
  | .query _ => s

/-- The answers agree with the map. -/
def Faithful : Lifecycle.RunEvent → Prop
  | ⟨.contains serverId, .returned answer⟩ => answer = (s.active.get serverId).isSome
  | ⟨.pop serverId, .returned client⟩ => client = s.active.get serverId
  | _ => True

def FaithfulRound : HealthMonitor.RunEvent → Prop
  | ⟨.activeConnections, .returned connections⟩ => connections = s.active.items
  | _ => True

-- The org of the row with this id.
variable (orgOf : Uuid → Uuid)

def Fits : Action → Prop
  | .start server _ => server.orgId = orgOf server.id
  | .advance index outcome =>
      match s.calls[index]? with
      | some (_, .perform op _) => s.Faithful ⟨op, outcome op⟩
      | _ => True
  | .advanceRound index outcome =>
      match s.rounds[index]? with
      | some (.perform op _) => s.FaithfulRound ⟨op, outcome op⟩
      | _ => True
  | _ => True

/-! ### The property -/

def lastCheck (server : Text) : Option Check :=
  s.checks.find? fun check => check.server = server

/-- The last time that the manager itself wrote the health of the server. -/
def lastManaged (server : Text) : Option Check :=
  s.checks.find? fun check => check.source = .manager && check.server = server

def IsRecent (check : Check) : Prop :=
  s.now < check.time + ttlHealth * second

/-- A query of the server's org should report this check. -/
structure Concerns (auth : Option Text) (server : Uuid) (check : Check) : Prop where
  org : auth.bind Uuid.parse = some (orgOf server)
  active : (s.active.get server.str).isSome = true
  last : s.lastCheck server.str = some check
  recent : s.IsRecent second check

/-- The server is reported, and with this status alone. -/
structure Shows (statuses : List Value) (server : Text) (status : String) : Prop where
  shown : ∃ value ∈ statuses, reading value = some (server, status)
  only : ∀ value ∈ statuses, ∀ other, reading value = some (server, other) → other = status

def Reports (globMatches : Text → Text → Bool) : Action → Prop
  | .query auth => ∀ server check, s.Concerns second orgOf auth server check →
      Shows (handleServerStatus globMatches s.store s.now auth) server.str check.status
  | _ => True

/-- The token spells the org as its keys do, and the check is the manager's own or agrees
with the manager's entry, if that is not expired. -/
def IsVisible : Action → Prop
  | .query auth => ∀ server check, s.Concerns second orgOf auth server check →
      auth = some (orgOf server).str ∧
        (check.source = .manager ∨ ∃ own, s.lastManaged server.str = some own ∧
          s.IsRecent second own ∧ own.status = check.status)
  | _ => True

end System

/-! ### What the programs write -/

section Writes

/-- A call writes the capabilities of its server or its health entry. -/
def Writes (server : MCPServer) : Lifecycle.Op → Prop
  | .cacheSet key value ttl =>
      key = MCPKeys.serverCapabilities server.id.str ∨
        key = MCPKeys.serverHealth server.orgId.str server.id.str ∧ ttl = ttlHealth ∧
          ∃ status, reading value = some (server.id.str, status)
  | _ => True

def writing (server : MCPServer) : Contract Lifecycle.effects Unit where
  observe s _ := s
  assume _ _ := True
  guarantee _ event := Writes server event.op

/-- Every operation of the program writes what it may. -/
abbrev OnlyWrites {α : Type} (server : MCPServer) (program : Lifecycle.Run α) : Prop :=
  Keeps (writing server) (fun _ => True) program

variable {server : MCPServer}

theorem onlyWrites_perform {op : Lifecycle.Op} (writes : Writes server op) :
    OnlyWrites server (Lifecycle.perform op) :=
  keeps_call fun _ _ _ _ => ⟨writes, trivial⟩

theorem onlyWrites_then {α : Type} {op : Lifecycle.Op} {next : op.Answer → Lifecycle.Run α}
    (writes : Writes server op) (rest : ∀ answer, OnlyWrites server (next answer)) :
    OnlyWrites server (Lifecycle.perform op >>= next) :=
  keeps_bind (onlyWrites_perform writes) rest

theorem onlyWrites_rethrow {α : Type} {handled : Lifecycle.Run α} {caught : Bool} {exc : Exc}
    (keeps : OnlyWrites server handled) :
    OnlyWrites server (if caught = true then handled else throw exc) := by
  cases caught with
  | true => exact keeps
  | false => exact keeps_throw (I := Lifecycle.effects) exc

theorem onlyWrites_writeHealth (status : String) (error : Option String) :
    OnlyWrites server (Lifecycle.writeHealth server status error) := by
  apply onlyWrites_then (by trivial)
  intro now
  apply onlyWrites_perform
  refine Or.inr ⟨rfl, rfl, status, ?_⟩
  simp [reading, Lifecycle.serverId, List.lookup_cons]

theorem onlyWrites_recordConnected (capabilities : List (String × Value)) :
    OnlyWrites server (Lifecycle.recordConnected server capabilities) := by
  apply onlyWrites_then (by trivial)
  intro now
  apply onlyWrites_then (by trivial)
  intro _
  apply onlyWrites_then (by trivial)
  intro _
  apply onlyWrites_then (by trivial)
  intro _
  exact onlyWrites_writeHealth _ _

theorem onlyWrites_recordError (error : String) :
    OnlyWrites server (Lifecycle.recordError server error) := by
  apply onlyWrites_then (by trivial)
  intro _
  apply onlyWrites_then (by trivial)
  intro _
  exact onlyWrites_writeHealth _ _

theorem onlyWrites_clientConnect (client : ClientId) (endpointUrl : String) :
    OnlyWrites server (Lifecycle.MCPClientWrapper.connect client endpointUrl) := by
  apply keeps_tryCatch
  · apply onlyWrites_then (by trivial)
    intro _
    apply onlyWrites_then (by trivial)
    intro _
    apply onlyWrites_then (by trivial)
    intro _
    apply onlyWrites_then (by trivial)
    intro _
    apply onlyWrites_then (by trivial)
    intro _
    exact keeps_pure _
  · intro exc
    split
    · apply keeps_tryCatch (onlyWrites_perform (by trivial))
      intro exc
      exact onlyWrites_rethrow (keeps_pure _)
    · exact onlyWrites_rethrow (keeps_throw _)

theorem onlyWrites_openConnection (endpointUrl : String) :
    OnlyWrites server (Lifecycle.openConnection server endpointUrl) := by
  apply onlyWrites_then (by trivial)
  intro client
  apply keeps_bind (onlyWrites_clientConnect _ _)
  intro capabilities
  apply onlyWrites_then (by trivial)
  intro _
  apply onlyWrites_then (by exact Or.inl rfl)
  intro _
  apply keeps_bind (onlyWrites_recordConnected _)
  intro _
  exact keeps_pure _

theorem onlyWrites_connect : OnlyWrites server (Lifecycle.connect server) := by
  apply onlyWrites_then (by trivial)
  intro present
  split
  · exact keeps_pure _
  · apply onlyWrites_then (by trivial)
    intro _
    apply onlyWrites_then (by trivial)
    intro _
    split
    · apply keeps_bind (onlyWrites_recordConnected _)
      intro _
      exact keeps_pure _
    · split
      · apply keeps_bind (onlyWrites_recordError _)
        intro _
        exact keeps_throw _
      · apply keeps_tryCatch (onlyWrites_openConnection _)
        intro exc
        apply onlyWrites_rethrow
        apply keeps_bind (onlyWrites_recordError _)
        intro _
        exact keeps_throw _

theorem onlyWrites_disconnectClient (client : Option ClientId) :
    OnlyWrites server (Lifecycle.disconnectClient client) := by
  cases client with
  | none => exact keeps_pure _
  | some client =>
      apply keeps_tryCatch
      · apply onlyWrites_then (by trivial)
        intro held
        split
        · apply keeps_tryFinally
          · apply keeps_tryCatch
            · apply onlyWrites_then (by trivial)
              intro _
              exact onlyWrites_perform (by trivial)
            · intro exc
              exact onlyWrites_rethrow (keeps_pure _)
          · exact onlyWrites_perform (by trivial)
        · exact keeps_pure _
      · intro exc
        exact onlyWrites_rethrow (keeps_pure _)

theorem onlyWrites_disconnect : OnlyWrites server (Lifecycle.disconnect server) := by
  apply onlyWrites_then (by trivial)
  intro client
  apply keeps_bind (onlyWrites_disconnectClient client)
  intro _
  apply onlyWrites_then (by trivial)
  intro _
  apply onlyWrites_then (by trivial)
  intro connection
  have ends : OnlyWrites server (do
      Lifecycle.perform .commit
      Lifecycle.writeHealth server "disconnected") := by
    apply onlyWrites_then (by trivial)
    intro _
    exact onlyWrites_writeHealth _ _
  cases connection with
  | none => exact ends
  | some connection =>
      apply onlyWrites_then (by trivial)
      intro now
      apply onlyWrites_then (by trivial)
      intro _
      exact ends

theorem onlyWrites_program (call : Call) : OnlyWrites server (call.program server) := by
  cases call with
  | connect =>
      apply keeps_bind onlyWrites_connect
      intro _
      exact keeps_pure _
  | disconnect => exact onlyWrites_disconnect

end Writes

section Rounds

/-- A round writes under the monitor's own keys. -/
def WritesRound : HealthMonitor.Op → Prop
  | .cacheSet key _ _ => ∃ serverId, key = HealthMonitor.healthKey serverId
  | _ => True

def monitoring : Contract HealthMonitor.effects Unit where
  observe s _ := s
  assume _ _ := True
  guarantee _ event := WritesRound event.op

abbrev OnlyChecks {α : Type} (program : HealthMonitor.Run α) : Prop :=
  Keeps monitoring (fun _ => True) program

theorem onlyChecks_perform {op : HealthMonitor.Op} (writes : WritesRound op) :
    OnlyChecks (HealthMonitor.perform op) :=
  keeps_call fun _ _ _ _ => ⟨writes, trivial⟩

theorem onlyChecks_then {α : Type} {op : HealthMonitor.Op} {next : op.Answer → HealthMonitor.Run α}
    (writes : WritesRound op) (rest : ∀ answer, OnlyChecks (next answer)) :
    OnlyChecks (HealthMonitor.perform op >>= next) :=
  keeps_bind (onlyChecks_perform writes) rest

theorem onlyChecks_probe (client : ClientId) : OnlyChecks (HealthMonitor.probe client) := by
  apply keeps_tryCatch
  · apply onlyChecks_then (by trivial)
    intro _
    apply onlyChecks_then (by trivial)
    intro latency
    exact keeps_pure _
  · intro exc
    split
    · exact keeps_pure _
    · split
      · apply onlyChecks_then (by trivial)
        intro latency
        exact keeps_pure _
      · exact keeps_throw _

theorem onlyChecks_checkEach (connections : List (Text × ClientId)) :
    OnlyChecks (HealthMonitor.checkEach connections) := by
  induction connections with
  | nil => exact keeps_pure _
  | cons connection connections induction =>
      apply keeps_bind (onlyChecks_probe connection.2)
      intro probe
      apply onlyChecks_then (by exact ⟨connection.1, rfl⟩)
      intro _
      exact induction

theorem onlyChecks_checkAll : OnlyChecks HealthMonitor.checkAll := by
  apply onlyChecks_then (by trivial)
  exact onlyChecks_checkEach

end Rounds

/-! ### What the store holds -/

section Store

variable {second : Nat} {orgOf : Uuid → Uuid} {s : System} {key : Text} {value : Value} {ttl : Nat}

/-- The key of a server's health in its org. -/
def healthKeyOf (orgOf : Uuid → Uuid) (server : Uuid) : Text :=
  MCPKeys.serverHealth (orgOf server).str server.str

/-- A key at which no query looks. -/
def IsForeign (key : Text) : Prop :=
  (∃ serverId, key = MCPKeys.serverCapabilities serverId) ∨
    ∃ serverId, key = HealthMonitor.healthKey serverId

theorem statusKey_ne_of_isForeign (foreign : IsForeign key) {text : Text} (org : IsOrgText text)
    (middle : Text) : MCPKeys.statusKey text middle ≠ key := by
  rcases foreign with ⟨serverId, same⟩ | ⟨serverId, same⟩
  · rw [same]
    exact MCPKeys.statusKey_ne_capabilities org serverId
  · rw [same]
    exact MCPKeys.statusKey_ne "health:".toList 'h' org (by decide) (by decide) (by decide)

theorem healthKeyOf_ne_of_isForeign (foreign : IsForeign key) (server : Uuid) :
    healthKeyOf orgOf server ≠ key := by
  rw [healthKeyOf, MCPKeys.serverHealth_eq]
  exact statusKey_ne_of_isForeign foreign (Uuid.isOrgText_str _) _

/-- The entry of a server is the one that the manager wrote last. -/
def Stored (second : Nat) (orgOf : Uuid → Uuid) (s : System) (server : Uuid) : Prop :=
  match s.lastManaged server.str with
  | none => s.store.get (healthKeyOf orgOf server) = none
  | some check => ∃ value,
      s.store.get (healthKeyOf orgOf server) = some ⟨value, check.time + ttlHealth * second⟩ ∧
        reading value = some (server.str, check.status)

structure StoreInv (second : Nat) (orgOf : Uuid → Uuid) (s : System) : Prop where
  stored : ∀ server, Stored second orgOf s server
  keys : ∀ item ∈ s.store.items, IsForeign item.1 ∨ ∃ server, item.1 = healthKeyOf orgOf server

structure Inv (second : Nat) (orgOf : Uuid → Uuid) (s : System) : Prop where
  store : StoreInv second orgOf s
  calls : ∀ call ∈ s.calls, call.1.orgId = orgOf call.1.id ∧
    call.2.Meets (writing call.1) () fun _ _ => True
  rounds : ∀ round ∈ s.rounds, round.Meets monitoring () fun _ _ => True

theorem Stored.congr {t : System} {server : Uuid} (stored : Stored second orgOf s server)
    (managed : t.lastManaged server.str = s.lastManaged server.str)
    (entry : t.store.get (healthKeyOf orgOf server) = s.store.get (healthKeyOf orgOf server)) :
    Stored second orgOf t server := by
  unfold Stored at stored ⊢
  rw [managed, entry]
  exact stored

theorem mem_put {item : Text × Entry} (member : item ∈ (s.put second key value ttl).items)
    (keys : ∀ item ∈ s.store.items, IsForeign item.1 ∨ ∃ server, item.1 = healthKeyOf orgOf server)
    (new : IsForeign key ∨ ∃ server, key = healthKeyOf orgOf server) :
    IsForeign item.1 ∨ ∃ server, item.1 = healthKeyOf orgOf server := by
  rcases OrderedDict.mem_of_mem_set member with same | old
  · rw [same]
    exact new
  · exact keys item old

theorem get_put_of_ne {other : Text} (apart : other ≠ key) :
    (s.put second key value ttl).get other = s.store.get other := by
  rw [System.put, OrderedDict.get_set, if_neg apart]

theorem get_put_self :
    (s.put second key value ttl).get key = some ⟨value, s.now + ttl * second⟩ := by
  rw [System.put, OrderedDict.get_set, if_pos rfl]

theorem StoreInv.congr {t : System} (inv : StoreInv second orgOf s) (store : t.store = s.store)
    (checks : t.checks = s.checks) : StoreInv second orgOf t := by
  constructor
  · intro server
    apply (inv.stored server).congr
    · rw [System.lastManaged, checks]
      rfl
    · rw [store]
  · rw [store]
    exact inv.keys

/-- A check of the monitor is no write of the manager. -/
theorem find?_record_monitor (server : Text) :
    (s.record .monitor value).find? (fun check => check.source = .manager && check.server = server) =
      s.lastManaged server := by
  unfold System.record
  split
  · rw [List.find?_cons_of_neg (by simp)]
    rfl
  · rfl

variable (value ttl) in
theorem storeInv_foreign {t : System} (inv : StoreInv second orgOf s) (foreign : IsForeign key)
    (store : t.store = s.put second key value ttl)
    (managed : ∀ server, t.lastManaged server = s.lastManaged server) :
    StoreInv second orgOf t := by
  constructor
  · intro server
    apply (inv.stored server).congr (managed _)
    rw [store]
    exact get_put_of_ne (healthKeyOf_ne_of_isForeign foreign server)
  · intro item member
    rw [store] at member
    exact mem_put member inv.keys (Or.inl foreign)

theorem storeInv_observeRound (inv : StoreInv second orgOf s) {event : HealthMonitor.RunEvent}
    (writes : WritesRound event.op) : StoreInv second orgOf (s.observeRound second event) := by
  rcases event with ⟨op, outcome⟩
  cases op with
  | cacheSet key value ttl =>
      have foreign : IsForeign key := Or.inr writes
      cases applied : outcome.applied with
      | true =>
          apply storeInv_foreign value ttl inv foreign
          · simp [System.observeRound, applied]
          · intro server
            exact find?_record_monitor server
      | false =>
          constructor
          · intro server
            apply (inv.stored server).congr
            · exact find?_record_monitor _
            · simp [System.observeRound, applied]
          · simp only [System.observeRound, applied]
            exact inv.keys
  | _ => exact inv

section Manager

variable {server : MCPServer}

/-- The manager writes the entry of its server. -/
theorem storeInv_manage {status : String} (inv : StoreInv second orgOf s)
    (belongs : server.orgId = orgOf server.id)
    (read : reading value = some (server.id.str, status)) :
    StoreInv second orgOf { s with
      store := s.put second (MCPKeys.serverHealth server.orgId.str server.id.str) value ttlHealth
      checks := s.record .manager value } := by
  have ownKey : MCPKeys.serverHealth server.orgId.str server.id.str =
      healthKeyOf orgOf server.id := by
    rw [healthKeyOf, belongs]
  rw [ownKey]
  have recorded : s.record .manager value = ⟨server.id.str, status, s.now, .manager⟩ :: s.checks := by
    rw [System.record, read]
  constructor
  · intro other
    by_cases same : other = server.id
    · rw [same]
      have last : System.lastManaged { s with
          store := s.put second (healthKeyOf orgOf server.id) value ttlHealth
          checks := s.record .manager value } server.id.str =
            some ⟨server.id.str, status, s.now, .manager⟩ := by
        rw [System.lastManaged, recorded, List.find?_cons_of_pos (by simp)]
      unfold Stored
      rw [last]
      exact ⟨value, get_put_self, read⟩
    · apply (inv.stored other).congr
      · have apart : server.id.str ≠ other.str := fun equal => same (Uuid.str_injective equal).symm
        rw [System.lastManaged, recorded, List.find?_cons_of_neg (by simp [apart])]
        rfl
      · apply get_put_of_ne
        intro equal
        exact same (MCPKeys.serverHealth_injective equal)
  · intro item member
    exact mem_put member inv.keys (Or.inr ⟨server.id, rfl⟩)

theorem storeInv_observe (inv : StoreInv second orgOf s) (belongs : server.orgId = orgOf server.id)
    {event : Lifecycle.RunEvent} (writes : Writes server event.op) :
    StoreInv second orgOf (s.observe second server event) := by
  rcases event with ⟨op, outcome⟩
  cases op with
  | cacheSet key value ttl =>
      simp only [System.observe]
      split
      · rcases writes with capabilities | ⟨health, ttlIs, status, read⟩
        · have apart : key ≠ MCPKeys.serverHealth server.orgId.str server.id.str := by
            rw [capabilities, MCPKeys.serverHealth_eq]
            exact (MCPKeys.statusKey_ne_capabilities (Uuid.isOrgText_str _) _).symm
          rw [if_neg apart]
          exact storeInv_foreign value ttl inv (Or.inl ⟨_, capabilities⟩) rfl
            fun _ => rfl
        · rw [if_pos health, health, ttlIs]
          exact storeInv_manage inv belongs read
      · exact inv
  | store serverId client => exact inv.congr rfl rfl
  | pop serverId => exact inv.congr rfl rfl
  | _ => exact inv

end Manager

/-! ### One step -/

theorem rounds_observe (server : MCPServer) (event : Lifecycle.RunEvent) :
    (s.observe second server event).rounds = s.rounds := by
  unfold System.observe
  split
  · rfl
  · rfl
  · split <;> rfl
  · rfl

theorem calls_observeRound (event : HealthMonitor.RunEvent) :
    (s.observeRound second event).calls = s.calls := by
  unfold System.observeRound
  split <;> rfl

theorem inv_step (inv : Inv second orgOf s) {action : Action} (fits : s.Fits orgOf action) :
    Inv second orgOf (s.step second action) := by
  cases action with
  | wait ticks => exact ⟨inv.store.congr rfl rfl, inv.calls, inv.rounds⟩
  | query auth => exact inv
  | start server call =>
      refine ⟨inv.store.congr rfl rfl, ?_, inv.rounds⟩
      intro task member
      rcases List.mem_append.mp member with old | new
      · exact inv.calls task old
      · rw [List.mem_singleton.mp new]
        exact ⟨fits, onlyWrites_program call () trivial⟩
  | startRound =>
      refine ⟨inv.store.congr rfl rfl, inv.calls, ?_⟩
      intro round member
      rcases List.mem_append.mp member with old | new
      · exact inv.rounds round old
      · rw [List.mem_singleton.mp new]
        exact onlyChecks_checkAll () trivial
  | advance index outcome =>
      simp only [System.step]
      split
      case h_1 server op resume here =>
        have before := inv.calls _ (List.mem_of_getElem? here)
        -- the operation keeps the contract, and so does the rest
        have next : Writes server op ∧
            (resume (outcome op).result).Meets (writing server) () fun _ _ => True :=
          before.2 (outcome op) trivial
        refine ⟨(storeInv_observe inv.store before.1 next.1).congr rfl rfl, ?_, ?_⟩
        · intro task member
          rcases List.mem_or_eq_of_mem_set member with old | new
          · exact inv.calls task old
          · rw [new]
            exact ⟨before.1, next.2⟩
        · rw [rounds_observe]
          exact inv.rounds
      case h_2 => exact inv
  | advanceRound index outcome =>
      simp only [System.step]
      split
      case h_1 op resume here =>
        have next : WritesRound op ∧
            (resume (outcome op).result).Meets monitoring () fun _ _ => True :=
          inv.rounds _ (List.mem_of_getElem? here) (outcome op) trivial
        refine ⟨(storeInv_observeRound inv.store next.1).congr rfl rfl, ?_, ?_⟩
        · rw [calls_observeRound]
          exact inv.calls
        · intro round member
          rcases List.mem_or_eq_of_mem_set member with old | new
          · exact inv.rounds round old
          · rw [new]
            exact next.2
      case h_2 => exact inv

end Store

/-! ### What a query finds -/

section Query

variable {second : Nat} {orgOf : Uuid → Uuid} {s : System} {globMatches : Text → Text → Bool}
  {auth : Option Text} {server : Uuid} {check : Check} {value : Value}

/-- A star matches any text, where nothing else in the pattern is special. -/
def MatchesStar (globMatches : Text → Text → Bool) : Prop :=
  ∀ front back : Text, (∀ c ∈ front ++ back, c ∉ ['*', '?', '[', '\\']) →
    ∀ key, globMatches (front ++ '*' :: back) key = true ↔
      ∃ middle, key = front ++ middle ++ back

theorem isOrgText_literal {text : Text} (org : IsOrgText text) :
    ∀ c ∈ text, c ∉ ['*', '?', '[', '\\'] := by
  intro c member special
  have marks : ['*', '?', '[', '\\'].all (fun other => !uuidMarks.contains other) = true := by
    decide
  have digits : ['*', '?', '[', '\\'].all (fun other => !isHexDigit other.toLower) = true := by
    decide
  rcases org.chars c member with mark | hex
  · simpa [mark] using List.all_eq_true.mp marks c special
  · simpa [hex] using List.all_eq_true.mp digits c special

/-- What the pattern of an org matches. -/
theorem matches_statusPattern (star : MatchesStar globMatches) {text : Text}
    (org : IsOrgText text) (key : Text) :
    globMatches (MCPKeys.serverStatusPattern text) key = true ↔
      ∃ middle, key = MCPKeys.statusKey text middle := by
  have pattern : MCPKeys.serverStatusPattern text =
      ("mcp:".toList ++ text ++ ":server:".toList) ++ '*' :: ":health".toList := by
    simp [MCPKeys.serverStatusPattern]
  have literal : ∀ c ∈ ("mcp:".toList ++ text ++ ":server:".toList) ++ ":health".toList,
      c ∉ ['*', '?', '[', '\\'] := by
    have ordinary : ("mcp:".toList ++ ":server:".toList ++ ":health".toList).all
        (fun c => !(['*', '?', '[', '\\'].contains c)) = true := by decide
    have words : ∀ c ∈ "mcp:".toList ++ ":server:".toList ++ ":health".toList,
        c ∉ ['*', '?', '[', '\\'] := by
      intro c member special
      have apart := List.all_eq_true.mp ordinary c member
      rw [List.contains_iff_mem.mpr special] at apart
      cases apart
    intro c member
    simp only [List.mem_append] at member words
    rcases member with ((first | inText) | second) | last
    · exact words c (Or.inl (Or.inl first))
    · exact isOrgText_literal org c inText
    · exact words c (Or.inl (Or.inr second))
    · exact words c (Or.inr last)
  rw [pattern, star _ _ literal]
  simp [MCPKeys.statusKey]

theorem mem_handleServerStatus {text : Text} :
    value ∈ handleServerStatus globMatches s.store s.now (some text) ↔
      ∃ item ∈ s.store.items, s.now < item.2.expiry ∧
        globMatches (MCPKeys.serverStatusPattern text) item.1 = true ∧ item.2.value = value := by
  simp only [handleServerStatus, List.mem_filterMap, Option.getD_some, Option.ite_none_right_eq_some,
    Bool.and_eq_true, decide_eq_true_eq, Option.some.injEq, and_assoc]

variable (server) in
/-- A query shows what the manager wrote last, if that is not expired. -/
theorem exists_status_iff (status : String) (inv : StoreInv second orgOf s) (star : MatchesStar globMatches)
    {text : Text} (org : IsOrgText text) :
    (∃ value ∈ handleServerStatus globMatches s.store s.now (some text),
        reading value = some (server.str, status)) ↔
      text = (orgOf server).str ∧ ∃ own, s.lastManaged server.str = some own ∧
        s.IsRecent second own ∧ own.status = status := by
  have stored := inv.stored server
  constructor
  · rintro ⟨value, member, read⟩
    rcases mem_handleServerStatus.mp member with ⟨item, inside, live, found, same⟩
    rcases (matches_statusPattern star org item.1).mp found with ⟨middle, key⟩
    rcases inv.keys item inside with foreign | ⟨other, ownKey⟩
    · exact absurd key.symm (statusKey_ne_of_isForeign foreign org middle)
    · have entry : s.store.get (healthKeyOf orgOf other) = some item.2 := by
        rw [← ownKey]
        exact OrderedDict.get_of_mem inside
      have written := inv.stored other
      unfold Stored at written
      cases last : s.lastManaged other.str with
      | none =>
          rw [last, entry] at written
          cases written
      | some own =>
          rw [last, entry] at written
          rcases written with ⟨stored, equal, readsOwn⟩
          rw [Option.some.inj equal] at same live
          rw [← same, readsOwn] at read
          have parts := Prod.mk.inj (Option.some.inj read)
          have isServer : other = server := Uuid.str_injective parts.1
          rw [isServer] at last ownKey
          rw [ownKey] at key
          exact ⟨MCPKeys.orgId_of_statusKey org key.symm, own, last, live, parts.2⟩
  · rintro ⟨spelled, own, last, recent, same⟩
    unfold Stored at stored
    rw [last] at stored
    rcases stored with ⟨value, entry, read⟩
    refine ⟨value, ?_, by rw [read, same]⟩
    apply mem_handleServerStatus.mpr
    refine ⟨_, OrderedDict.mem_of_get entry, recent, ?_, rfl⟩
    apply (matches_statusPattern star org _).mpr
    exact ⟨server.str, by rw [healthKeyOf, MCPKeys.serverHealth_eq, spelled]⟩

/-- A check of the manager that is the last one is what it wrote last. -/
theorem lastManaged_of_lastCheck {server : Text} (last : s.lastCheck server = some check)
    (own : check.source = .manager) : s.lastManaged server = some check := by
  rcases List.find?_eq_some_iff_append.mp last with ⟨here, newer, older, split, others⟩
  refine List.find?_eq_some_iff_append.mpr ⟨?_, newer, older, split, ?_⟩
  · rw [own]
    exact here
  · intro other member
    have apart := others other member
    rw [Bool.not_eq_true'] at apart ⊢
    rw [apart, Bool.and_false]

theorem reports_iff_isVisible (inv : StoreInv second orgOf s) (star : MatchesStar globMatches)
    (action : Action) :
    s.Reports second orgOf globMatches action ↔ s.IsVisible second orgOf action := by
  cases action with
  | query auth =>
      refine forall_congr' fun server => forall_congr' fun check => forall_congr' fun concerns => ?_
      cases auth with
      | none => cases concerns.org
      | some text =>
          have org : IsOrgText text := Uuid.isOrgText_of_parse concerns.org
          have shown := exists_status_iff server check.status inv star org
          rw [Option.some.injEq]
          constructor
          · intro shows
            have both := shown.mp shows.shown
            exact ⟨both.1, Or.inr both.2⟩
          · rintro ⟨spelled, visible⟩
            have found : ∃ own, s.lastManaged server.str = some own ∧ s.IsRecent second own ∧
                own.status = check.status := by
              rcases visible with own | older
              · exact ⟨check, lastManaged_of_lastCheck concerns.last own, concerns.recent, rfl⟩
              · exact older
            refine ⟨shown.mpr ⟨spelled, found⟩, ?_⟩
            intro value member other read
            have shownOther := (exists_status_iff server other inv star org).mp ⟨value, member, read⟩
            rcases shownOther.2 with ⟨own, last, _, same⟩
            rcases found with ⟨first, firstLast, _, firstSame⟩
            rw [last, Option.some.injEq] at firstLast
            rw [← same, firstLast, firstSame]
  | _ => exact Iff.rfl

/-- In every run, at every query: each server of the org that is registered and was
checked within the TTL is reported with its last status exactly when the token spells the
org as the keys do, and the last check is the manager's own or agrees with its entry. -/
theorem health_visible_iff (star : MatchesStar globMatches) {actions : List Action}
    (fits : EachStep (System.step second) (fun s => s.Fits orgOf) {} actions) :
    EachStep (System.step second)
      (fun s action =>
        s.Reports second orgOf globMatches action ↔ s.IsVisible second orgOf action) {} actions := by
  have initially : Inv second orgOf {} := by
    exact ⟨⟨fun server => rfl, nofun⟩, nofun, nofun⟩
  exact fits.of_invariant initially (fun s action inv fits => inv_step inv fits)
    fun s action inv _ => reports_iff_isVisible inv.store star action

end Query

/-! ### Two runs -/

/-- A pattern with one star. -/
def starMatches (pattern key : Text) : Bool :=
  let front := pattern.takeWhile (· ≠ '*')
  let back := (pattern.dropWhile (· ≠ '*')).tail
  decide (front.length + back.length ≤ key.length) && front.isPrefixOf key && back.isSuffixOf key

theorem starMatches_star : MatchesStar starMatches := by
  intro front back literal key
  have plain : ∀ c ∈ front, decide (c ≠ '*') = true := by
    intro c member
    have special := literal c (List.mem_append_left _ member)
    simp only [List.mem_cons, not_or] at special
    exact decide_eq_true special.1
  have before : (front ++ '*' :: back).takeWhile (· ≠ '*') = front := by
    rw [List.takeWhile_append_of_pos plain]
    simp
  have behind : (front ++ '*' :: back).dropWhile (· ≠ '*') = '*' :: back := by
    rw [List.dropWhile_append_of_pos plain]
    simp
  simp only [starMatches, before, behind, List.tail_cons, Bool.and_eq_true, decide_eq_true_eq,
    List.isPrefixOf_iff_prefix, List.isSuffixOf_iff_suffix]
  constructor
  · rintro ⟨⟨fits, rest, starts⟩, ends⟩
    rw [← starts] at ends fits
    have short : back.length ≤ rest.length := by
      rw [List.length_append] at fits
      omega
    rcases List.suffix_of_suffix_length_le ends (List.suffix_append front rest) short with
      ⟨middle, split⟩
    exact ⟨middle, by rw [← starts, ← split, List.append_assoc]⟩
  · rintro ⟨middle, split⟩
    rw [split]
    refine ⟨⟨?_, ?_⟩, List.suffix_append _ _⟩
    · simp only [List.length_append]
      omega
    · rw [List.append_assoc]
      exact List.prefix_append _ _

/-- Every operation of the connect returns. -/
def connected : List Action :=
  .start exampleServer .connect ::
    List.replicate 17 (.advance 0 (Lifecycle.undisturbed ⟨{}, []⟩ []))

/-- The server lists its tools. -/
def listing : (op : HealthMonitor.Op) → Outcome HealthMonitor.effects op
  | .activeConnections => .returned [(exampleServer.id.str, 0)]
  | .latency => .returned (.int 5)
  | .listTools _ | .cacheSet _ _ _ => .returned ()

def checkedOnce : List Action :=
  .startRound :: List.replicate 4 (.advanceRound 0 listing)

def exampleQuery : Action :=
  .query (some exampleServer.orgId.str)

instance (s : System) : (event : Lifecycle.RunEvent) → Decidable (s.Faithful event)
  | ⟨.contains serverId, .returned answer⟩ => decEq answer (s.active.get serverId).isSome
  | ⟨.pop serverId, .returned client⟩ => decEq client (s.active.get serverId)
  | ⟨.contains _, .raised _ _ _⟩ | ⟨.pop _, .raised _ _ _⟩ | ⟨.store _ _, _⟩ | ⟨.now, _⟩
  | ⟨.updateStatus _ _, _⟩ | ⟨.selectConnected _, _⟩ | ⟨.add _, _⟩ | ⟨.setDisconnected _ _, _⟩
  | ⟨.commit, _⟩ | ⟨.newClient _ _, _⟩ | ⟨.importSdk, _⟩ | ⟨.enter _ _, _⟩
  | ⟨.initializeSession _, _⟩ | ⟨.keepSession _, _⟩ | ⟨.hasSession _, _⟩ | ⟨.leave _ _, _⟩
  | ⟨.dropSession _, _⟩ | ⟨.probe _, _⟩ | ⟨.cacheSet _ _ _, _⟩ => .isTrue trivial

instance (s : System) (event : HealthMonitor.RunEvent) : Decidable (s.FaithfulRound event) := by
  unfold System.FaithfulRound
  split <;> infer_instance

instance (orgOf : Uuid → Uuid) (s : System) (action : Action) : Decidable (s.Fits orgOf action) := by
  unfold System.Fits
  split
  · infer_instance
  · split <;> infer_instance
  · split <;> infer_instance
  · infer_instance

theorem health_visible_connected :
    EachStep (System.step 1)
      (fun s action =>
        s.Reports 1 (fun _ => .zero) starMatches action ↔ s.IsVisible 1 (fun _ => .zero) action) {}
      (connected ++ [exampleQuery]) :=
  health_visible_iff starMatches_star (by decide +kernel)

/-- The monitor finds the server healthy 25 seconds after its connect, and 10 seconds
later a query shows nothing. -/
theorem checked_server_hidden :
    ¬ ∀ second orgOf globMatches actions, MatchesStar globMatches →
      EachStep (System.step second) (fun s => s.Fits orgOf) {} actions →
        EachStep (System.step second) (fun s => s.Reports second orgOf globMatches) {} actions := by
  intro every
  let run := connected ++ .wait 25 :: checkedOnce ++ [.wait 10]
  have reports := every 1 (fun _ => .zero) starMatches (run ++ [exampleQuery]) starMatches_star
    (by decide +kernel) run exampleQuery [] rfl
  have concerns : (run.foldl (System.step 1) {}).Concerns 1 (fun _ => .zero)
      (some exampleServer.orgId.str) exampleServer.id
      ⟨exampleServer.id.str, "healthy", 25, .monitor⟩ :=
    ⟨by decide +kernel, by decide +kernel, by decide +kernel,
      by unfold System.IsRecent; decide +kernel⟩
  have shows := reports _ _ concerns
  rcases shows.shown with ⟨value, member, _⟩
  have nothing : (handleServerStatus starMatches (run.foldl (System.step 1) {}).store
      (run.foldl (System.step 1) {}).now (some exampleServer.orgId.str)).isEmpty = true := by
    decide +kernel
  rw [List.isEmpty_iff.mp nothing] at member
  cases member

end GrafuxMcp.HealthView
