import GrafuxMcp.Cache.InMemoryRedis
import GrafuxMcp.Cache.Keys
import Mathlib.Data.List.Induction

/-! # The capability caches

`app/core/protocol/negotiation.py` keeps the capabilities that a server has reported and
`app/core/registry/capability_registry.py` the names of what it offers. Both keep them
under the same key. -/

namespace GrafuxMcp.Capabilities

open GrafuxMcp InMemoryRedis

def ttlCapabilities : Int := 600

inductive Call
  | cacheCapabilities (serverId : Text) (capabilities : List (String × Value))
  | storeCapabilities (serverId : Text) (tools : List String)
      (resources prompts : Option (List String))
  | invalidateCapabilities (serverId : Text)
  | getCachedCapabilities (serverId : Text)
  | getCapabilities (serverId : Text)

/-- `names or []`. -/
def names (given : Option (List String)) : Value :=
  .list ((given.getD []).map .str)

/-- The payload of `store_capabilities`. -/
def payload (serverId : Text) (tools : List String) (resources prompts : Option (List String)) :
    Value :=
  .dict [("server_id", .str (String.ofList serverId)), ("tools", .list (tools.map .str)),
    ("resources", names resources), ("prompts", names prompts)]

variable (json : Json) (now : Int)

def getCachedCapabilities (serverId : Text) (redis : Store) : Option Value × Store :=
  cacheGet now (MCPKeys.serverCapabilities serverId) redis json

def getCapabilities (serverId : Text) (redis : Store) : Option Value × Store :=
  cacheGet now (MCPKeys.serverCapabilities serverId) redis json

def perform (redis : Store) : Call → Store
  | .cacheCapabilities serverId capabilities =>
      cacheSet now (MCPKeys.serverCapabilities serverId) redis json (.dict capabilities)
        (some ttlCapabilities)
  | .storeCapabilities serverId tools resources prompts =>
      cacheSet now (MCPKeys.serverCapabilities serverId) redis json
        (payload serverId tools resources prompts) (some ttlCapabilities)
  | .invalidateCapabilities serverId => cacheDelete (MCPKeys.serverCapabilities serverId) redis
  | .getCachedCapabilities serverId => (getCachedCapabilities json now serverId redis).2
  | .getCapabilities serverId => (getCapabilities json now serverId redis).2

/-- The store after calls at their times. -/
def run (history : List (Int × Call)) : Store :=
  history.foldl (fun redis entry => perform json entry.1 redis entry.2) .empty

/-! ### What the callers expect -/

/-- What a call makes of the value that was last written by some of the calls. -/
def noted (writes : Call → Option (Text × Value)) (serverId : Text) (last : Option Value)
    (call : Call) : Option Value :=
  match call with
  | .invalidateCapabilities other => if other = serverId then none else last
  | call =>
      match writes call with
      | some (other, value) => if other = serverId then some value else last
      | none => last

def cached : Call → Option (Text × Value)
  | .cacheCapabilities serverId capabilities => some (serverId, .dict capabilities)
  | _ => none

def stored : Call → Option (Text × Value)
  | .storeCapabilities serverId tools resources prompts =>
      some (serverId, payload serverId tools resources prompts)
  | _ => none

def written (call : Call) : Option (Text × Value) :=
  (cached call).or (stored call)

/-- What these calls have last written for a server since its last invalidation. -/
def last (writes : Call → Option (Text × Value)) (serverId : Text) (history : List (Int × Call)) :
    Option Value :=
  history.foldl (fun last entry => noted writes serverId last entry.2) none

def InTtl (now : Int) (entry : Int × Call) : Prop :=
  entry.1 ≤ now ∧ now < entry.1 + seconds ttlCapabilities

/-- What the call writes is read back from its JSON text. -/
def RoundTrips (json : Json) (call : Call) : Prop :=
  ∀ item ∈ written call, json.loads (json.dumps item.2) = some item.2

/-! ### What the store answers -/

variable {json now} {redis : Store} {serverId : Text} {value : Option Value}

/-- Up to this time the store answers reads for the server with this value. -/
structure Serves (json : Json) (now : Int) (redis : Store) (serverId : Text)
    (value : Option Value) : Prop where
  answers : (redis.get (MCPKeys.serverCapabilities serverId)).map
    (fun item => deserialized json item.value) = value
  live : ∀ item, redis.get (MCPKeys.serverCapabilities serverId) = some item →
    item.isExpired now = false

theorem serverCapabilities_injective {left right : Text}
    (same : MCPKeys.serverCapabilities left = MCPKeys.serverCapabilities right) : left = right :=
  List.append_cancel_left same

/-- A read before the entry expires answers with the value and leaves the store. -/
theorem Serves.cacheGet {earlier : Int} (serves : Serves json now redis serverId value)
    (before : earlier ≤ now) :
    cacheGet earlier (MCPKeys.serverCapabilities serverId) redis json = (value, redis) := by
  have answers := serves.answers
  cases found : redis.get (MCPKeys.serverCapabilities serverId) with
  | none =>
      rw [found, Option.map_none] at answers
      simp only [InMemoryRedis.cacheGet, get_of_missing found, Option.map_none, answers]
  | some item =>
      have live := isExpired_earlier before (serves.live item found)
      rw [found, Option.map_some] at answers
      simp only [InMemoryRedis.cacheGet, get_of_live found live, Option.map_some, answers]

theorem serves_read {other : Text} {earlier : Int} (serves : Serves json now redis serverId value)
    (before : earlier ≤ now) :
    Serves json now (InMemoryRedis.cacheGet earlier (MCPKeys.serverCapabilities other) redis json).2
      serverId value := by
  by_cases same : other = serverId
  · rw [same, serves.cacheGet before]
    exact serves
  · have different : MCPKeys.serverCapabilities serverId ≠ MCPKeys.serverCapabilities other :=
      fun equal => same (serverCapabilities_injective equal).symm
    have frame : (InMemoryRedis.cacheGet earlier (MCPKeys.serverCapabilities other) redis json).2.get
        (MCPKeys.serverCapabilities serverId) =
        redis.get (MCPKeys.serverCapabilities serverId) := get_get_of_ne different
    constructor
    · rw [frame]
      exact serves.answers
    · rw [frame]
      exact serves.live

/-- A write of a dictionary is served until its TTL is over. -/
theorem serves_write {other : Text} {time : Int} {items : List (String × Value)}
    (serves : Serves json now redis serverId value) (inTtl : now < time + seconds ttlCapabilities)
    (inverts : json.loads (json.dumps (.dict items)) = some (.dict items)) :
    Serves json now (cacheSet time (MCPKeys.serverCapabilities other) redis json (.dict items)
        (some ttlCapabilities)) serverId
      (if other = serverId then some (.dict items) else value) := by
  have stored : cacheSet time (MCPKeys.serverCapabilities other) redis json (.dict items)
      (some ttlCapabilities) =
      redis.set (MCPKeys.serverCapabilities other)
        ⟨json.dumps (.dict items), some (time + seconds ttlCapabilities)⟩ := rfl
  rw [stored]
  by_cases same : other = serverId
  · rw [if_pos same, same]
    constructor
    · rw [OrderedDict.get_set, if_pos rfl, Option.map_some, deserialized, inverts,
        Option.getD_some]
    · intro item found
      rw [OrderedDict.get_set, if_pos rfl] at found
      cases found
      rw [Item.isExpired, Option.any_some, decide_eq_false_iff_not]
      omega
  · have different : MCPKeys.serverCapabilities serverId ≠ MCPKeys.serverCapabilities other :=
      fun equal => same (serverCapabilities_injective equal).symm
    rw [if_neg same]
    constructor
    · rw [OrderedDict.get_set, if_neg different]
      exact serves.answers
    · rw [OrderedDict.get_set, if_neg different]
      exact serves.live

theorem serves_delete {other : Text} (serves : Serves json now redis serverId value) :
    Serves json now (cacheDelete (MCPKeys.serverCapabilities other) redis) serverId
      (if other = serverId then none else value) := by
  have deleted : cacheDelete (MCPKeys.serverCapabilities other) redis =
      redis.pop (MCPKeys.serverCapabilities other) := rfl
  rw [deleted]
  by_cases same : other = serverId
  · rw [if_pos same, same]
    constructor
    · rw [OrderedDict.get_pop_self, Option.map_none]
    · intro item found
      rw [OrderedDict.get_pop_self] at found
      cases found
  · have different : MCPKeys.serverCapabilities serverId ≠ MCPKeys.serverCapabilities other :=
      fun equal => same (serverCapabilities_injective equal).symm
    rw [if_neg same]
    constructor
    · rw [OrderedDict.get_pop, if_neg different]
      exact serves.answers
    · rw [OrderedDict.get_pop, if_neg different]
      exact serves.live

/-- A call within the TTL makes the store serve what it has written. -/
theorem serves_perform (serves : Serves json now redis serverId value) {entry : Int × Call}
    (inTtl : InTtl now entry) (inverts : RoundTrips json entry.2) :
    Serves json now (perform json entry.1 redis entry.2) serverId
      (noted written serverId value entry.2) := by
  rcases entry with ⟨time, call⟩
  cases call with
  | cacheCapabilities other capabilities =>
      exact serves_write serves inTtl.2 (inverts (other, .dict capabilities) rfl)
  | storeCapabilities other tools resources prompts =>
      exact serves_write serves inTtl.2 (inverts (other, payload other tools resources prompts) rfl)
  | invalidateCapabilities other => exact serves_delete serves
  | getCachedCapabilities other => exact serves_read serves inTtl.1
  | getCapabilities other => exact serves_read serves inTtl.1

/-- Whichever module asks, the store answers with what either has last written. -/
theorem serves_run (serverId : Text) {history : List (Int × Call)}
    (inTtl : ∀ entry ∈ history, InTtl now entry)
    (inverts : ∀ entry ∈ history, RoundTrips json entry.2) :
    Serves json now (run json history) serverId (last written serverId history) := by
  have generally : ∀ (redis : Store) (value : Option Value),
      Serves json now redis serverId value →
      Serves json now (history.foldl (fun redis entry => perform json entry.1 redis entry.2) redis)
        serverId (history.foldl (fun last entry => noted written serverId last entry.2) value) := by
    induction history with
    | nil => exact fun redis value serves => serves
    | cons entry history induction =>
        intro redis value serves
        have first := serves_perform serves (inTtl entry List.mem_cons_self)
          (inverts entry List.mem_cons_self)
        exact induction (fun later member => inTtl later (List.mem_cons_of_mem _ member))
          (fun later member => inverts later (List.mem_cons_of_mem _ member)) _ _ first
  refine generally .empty none ⟨rfl, ?_⟩
  intro item found
  cases found

/-! ### Two kinds of payload, one entry -/

/-- What was last written is what one of the two was last given. -/
theorem last_written (serverId : Text) (history : List (Int × Call)) :
    last written serverId history = last cached serverId history ∨
      last written serverId history = last stored serverId history := by
  induction history using List.reverseRecOn with
  | nil => exact Or.inl rfl
  | append_singleton history entry induction =>
      simp only [last, List.foldl_append, List.foldl_cons, List.foldl_nil] at induction ⊢
      rcases entry with ⟨time, call⟩
      cases call with
      | cacheCapabilities other capabilities =>
          by_cases same : other = serverId
          · simp [noted, written, cached, same]
          · simpa [noted, written, cached, stored, same] using induction
      | storeCapabilities other tools resources prompts =>
          by_cases same : other = serverId
          · simp [noted, written, cached, stored, same]
          · simpa [noted, written, cached, stored, same] using induction
      | invalidateCapabilities other =>
          by_cases same : other = serverId
          · simp [noted, same]
          · simpa [noted, same] using induction
      | getCachedCapabilities other => exact induction
      | getCapabilities other => exact induction

/-! ### A connect and the discovery behind it -/

section Connect

def exampleId : Text := "weather".toList

/-- What the server reports. -/
def reported : List (String × Value) := [("tools", .dict [])]

def reportedText : Text := "\x7b\"tools\": \x7b\x7d\x7d".toList

def payloadText : Text :=
  "\x7b\"server_id\": \"weather\", \"tools\": [\"add7\"], \"resources\": [], \"prompts\": []\x7d".toList

/-- `json` on these two dictionaries. -/
def exampleJson : Json where
  dumps
    | .dict [("tools", .dict [])] => reportedText
    | _ => payloadText
  loads text :=
    if text = reportedText then some (.dict reported)
    else if text = payloadText then some (payload exampleId ["add7"] none none)
    else none

/-- The calls of `connect_server`. -/
def connected : List (Int × Call) :=
  [(0, .cacheCapabilities exampleId reported), (1, .storeCapabilities exampleId ["add7"] none none)]

def disconnected : List (Int × Call) :=
  connected ++ [(2, .invalidateCapabilities exampleId)]

theorem inTtl_disconnected : ∀ entry ∈ disconnected, InTtl 3 entry := by
  simp only [disconnected, connected, List.cons_append, List.nil_append, List.forall_mem_cons, InTtl]
  decide

theorem roundTrips_disconnected : ∀ entry ∈ disconnected, RoundTrips exampleJson entry.2 := by
  have apart : payloadText ≠ reportedText := by decide
  have reads : exampleJson.loads reportedText = some (.dict reported) := by
    simp only [exampleJson, if_true]
  have readsPayload : exampleJson.loads payloadText = some (payload exampleId ["add7"] none none) := by
    simp only [exampleJson, apart, if_false, if_true]
  intro entry member item writes
  simp only [disconnected, connected, List.cons_append, List.nil_append, List.mem_cons,
    List.not_mem_nil, or_false] at member
  rcases member with rfl | rfl | rfl
  · cases writes
    exact reads
  · cases writes
    exact readsPayload
  · cases writes

end Connect

/-- Both caches answer a server rightly just where both have the same answer to give. -/
theorem answers_iff (json : Json) (now : Int) (history : List (Int × Call)) (serverId : Text)
    (inTtl : ∀ entry ∈ history, InTtl now entry)
    (inverts : ∀ entry ∈ history, RoundTrips json entry.2) :
    ((getCachedCapabilities json now serverId (run json history)).1 =
        last cached serverId history ∧
      (getCapabilities json now serverId (run json history)).1 = last stored serverId history) ↔
      last cached serverId history = last stored serverId history := by
  have serves := serves_run serverId inTtl inverts
  have answer := serves.cacheGet (Int.le_refl now)
  simp only [getCachedCapabilities, getCapabilities, answer]
  constructor
  · intro answers
    exact answers.1.symm.trans answers.2
  · intro same
    rcases last_written serverId history with asCached | asStored
    · exact ⟨asCached, asCached.trans same⟩
    · exact ⟨asStored.trans same.symm, asStored⟩

theorem answers_disconnected :
    (getCachedCapabilities exampleJson 3 exampleId (run exampleJson disconnected)).1 = none ∧
      (getCapabilities exampleJson 3 exampleId (run exampleJson disconnected)).1 = none :=
  (answers_iff exampleJson 3 disconnected exampleId inTtl_disconnected
    roundTrips_disconnected).mpr rfl

theorem capabilities_clobbered :
    ¬ ∀ (json : Json) (now : Int) (history : List (Int × Call)) (serverId : Text),
      (∀ entry ∈ history, InTtl now entry) → (∀ entry ∈ history, RoundTrips json entry.2) →
        (getCachedCapabilities json now serverId (run json history)).1 =
            last cached serverId history ∧
          (getCapabilities json now serverId (run json history)).1 =
            last stored serverId history := by
  intro answers
  have inTtl : ∀ entry ∈ connected, InTtl 3 entry := fun entry member =>
    inTtl_disconnected entry (List.mem_append_left _ member)
  have inverts : ∀ entry ∈ connected, RoundTrips exampleJson entry.2 := fun entry member =>
    roundTrips_disconnected entry (List.mem_append_left _ member)
  have answer := answers exampleJson 3 connected exampleId inTtl inverts
  have serves := (serves_run exampleId inTtl inverts).cacheGet (Int.le_refl 3)
  have payloadServed : (getCachedCapabilities exampleJson 3 exampleId
      (run exampleJson connected)).1 = some (payload exampleId ["add7"] none none) :=
    congrArg Prod.fst serves
  have same : some (payload exampleId ["add7"] none none) = some (.dict reported) :=
    payloadServed.symm.trans answer.1
  simp [payload, reported] at same

end GrafuxMcp.Capabilities
