import GrafuxMcp.Cache.InMemoryRedis
import GrafuxMcp.Foundation.ExpiringMap
import Mathlib.Data.List.Induction

/-! # The in-process store as a map with expiry times

`_InMemoryRedis` drops an entry that has expired only when an operation comes upon it.
Whatever the operations and their times, the store answers like a map whose entries are
gone as soon as they expire. -/

namespace GrafuxMcp.InMemoryRedis

open GrafuxMcp

/-! ### The operations on several keys -/

/-- `delete` of several keys, and how many of them there were. -/
def deleteKeys : List Text → Store → Nat × Store
  | [], store => (0, store)
  | key :: keys, store =>
      let rest := deleteKeys keys (delete key store)
      (if (OrderedDict.get store key).isSome then rest.1 + 1 else rest.1, rest.2)

section Scan

variable (fnmatch : Text → Text → Bool) (pattern : Text) (now : Text → Int)
  (consume : Text → Store → Store)

/-- The loop of `scan_iter` ended the keys that are left, with what its consumer does to the
store at each key that it is given. The clock is read at each key. -/
def scanKeys : List Text → Store → List Text × Store
  | [], store => ([], store)
  | key :: keys, store =>
      match expired (now key) key store with
      | (true, left) => scanKeys keys left
      | (false, left) =>
          if fnmatch key pattern then
            let rest := scanKeys keys (consume key left)
            (key :: rest.1, rest.2)
          else scanKeys keys left

def scanIter (store : Store) : List Text × Store :=
  scanKeys fnmatch pattern now consume (store.items.map Prod.fst) store

def cacheDeletePattern (store : Store) : Nat × Store :=
  let scanned := scanIter fnmatch pattern now delete store
  (scanned.1.length, scanned.2)

end Scan

/-! ### Histories -/

inductive Operation
  | get (key : Text)
  | set (key value : Text)
  | setex (key : Text) (ttl : Int) (value : Text)
  | delete (keys : List Text)
  | scanIter (pattern : Text)
  | cacheDeletePattern (pattern : Text)

/-- An operation and the times at which it looks at the keys. -/
structure Call where
  operation : Operation
  start : Int
  finish : Int
  now : Text → Int
  during : ∀ key, start ≤ now key ∧ now key ≤ finish

inductive Answer
  | value (found : Option Text)
  | written
  | removed (count : Nat)
  | keys (yielded : List Text)
deriving DecidableEq

/-- Each call begins when those before it are ended. -/
def Ordered (history : List Call) : Prop :=
  history.Pairwise fun earlier later => earlier.finish ≤ later.start

variable (fnmatch : Text → Text → Bool)

def perform (store : Store) (call : Call) : Answer × Store :=
  match call.operation with
  | .get key =>
      let (found, left) := get (call.now key) key store
      (.value found, left)
  | .set key value => (.written, set key store value)
  | .setex key ttl value => (.written, setex (call.now key) key store ttl value)
  | .delete keys =>
      let (count, left) := deleteKeys keys store
      (.removed count, left)
  | .scanIter pattern =>
      let (yielded, left) := scanIter fnmatch pattern call.now (fun _ store => store) store
      (.keys yielded, left)
  | .cacheDeletePattern pattern =>
      let (count, left) := cacheDeletePattern fnmatch pattern call.now store
      (.removed count, left)

def run (store : Store) (history : List Call) : Store :=
  history.foldl (fun store call => (perform fnmatch store call).2) store

/-! ### The map that the store stands for -/

abbrev TtlMap := ExpiringMap Text Text Int

namespace TtlMap

variable (map : TtlMap)

/-- The keys of a pattern that are there at the time of their look-up. -/
def matching (now : Text → Int) (pattern key : Text) : Bool :=
  fnmatch key pattern && (map.get (now key) key).isSome

/-- Only writes and deletions change the map. -/
def next (call : Call) : TtlMap :=
  match call.operation with
  | .get _ => map
  | .set key value => map.put key value none
  | .setex key ttl value => map.put key value (some (call.now key + seconds ttl))
  | .delete keys => map.remove keys.contains
  | .scanIter _ => map
  | .cacheDeletePattern pattern => map.remove (matching fnmatch map call.now pattern)

/-- The answers of the map. How many keys `delete` counts is left open: an entry that has
expired counts until it is dropped. -/
def Answers (call : Call) (answer : Answer) : Prop :=
  match call.operation with
  | .get key => answer = .value (map.get (call.now key) key)
  | .set _ _ => answer = .written
  | .setex _ _ _ => answer = .written
  | .delete _ => ∃ count, answer = .removed count
  | .scanIter pattern => ∃ yielded : List Text, yielded.Nodup ∧
      (∀ key, key ∈ yielded ↔ matching fnmatch map call.now pattern key = true) ∧
      answer = .keys yielded
  | .cacheDeletePattern pattern => ∃ removed : List Text, removed.Nodup ∧
      (∀ key, key ∈ removed ↔ matching fnmatch map call.now pattern key = true) ∧
      answer = .removed removed.length

def after (history : List Call) : TtlMap :=
  history.foldl (next fnmatch) ExpiringMap.empty

end TtlMap

/-- What the store has written down for each key. -/
def entries (store : Store) : TtlMap :=
  fun key => (OrderedDict.get store key).map fun item => (item.value, item.expiry)

/-! ### What the operations leave -/

section Operations

variable {fnmatch} {pattern : Text} {now : Text → Int} {key : Text} {store : Store}
  {consume : Text → Store → Store}

theorem isExpired_eq (now : Int) (item : Item) :
    item.isExpired now = !ExpiringMap.isLive now (item.value, item.expiry) := by
  rw [Item.isExpired, ExpiringMap.isLive]
  cases item.expiry with
  | none => rfl
  | some expiry =>
      rw [Option.any_some, Option.all_some, ← decide_not]
      exact decide_eq_decide.mpr Int.not_lt.symm

theorem get_entries (now : Int) (key : Text) :
    (entries store).get now key =
      ((OrderedDict.get store key).filter fun item => !item.isExpired now).map Item.value := by
  rw [ExpiringMap.get, ExpiringMap.live, entries]
  cases OrderedDict.get store key with
  | none => rfl
  | some item =>
      rw [Option.map_some, Option.filter_some, Option.filter_some, isExpired_eq, Bool.not_not]
      cases ExpiringMap.isLive now (item.value, item.expiry) <;> rfl

/-- What `_expired` does, by what there is under the key. -/
theorem expired_cases (now : Int) (key : Text) (store : Store) :
    ((OrderedDict.get store key).filter (fun item => !item.isExpired now) = none ∧
        (expired now key store).1 = true ∧
        ((expired now key store).2 = store ∧ OrderedDict.get store key = none ∨
          (expired now key store).2 = OrderedDict.pop store key)) ∨
      ∃ item, OrderedDict.get store key = some item ∧ item.isExpired now = false ∧
        expired now key store = (false, store) := by
  cases found : OrderedDict.get store key with
  | none =>
      left
      have same : expired now key store = (true, store) := by simp only [expired, found]
      rw [same]
      exact ⟨rfl, rfl, Or.inl ⟨rfl, rfl⟩⟩
  | some item =>
      cases ended : item.isExpired now with
      | true =>
          left
          have same : expired now key store = (true, OrderedDict.pop store key) := by
            simp only [expired, found, ended, if_true]
          rw [same, Option.filter_some, ended]
          exact ⟨rfl, rfl, Or.inr rfl⟩
      | false =>
          right
          refine ⟨item, rfl, ended, ?_⟩
          simp only [expired, found, ended, Bool.false_eq_true, if_false]

/-- What is looked at is dropped if it has expired. -/
theorem get_expired (now : Int) (key other : Text) (store : Store) :
    OrderedDict.get (expired now key store).2 other =
      if other = key then (OrderedDict.get store key).filter fun item => !item.isExpired now
      else OrderedDict.get store other := by
  rcases expired_cases now key store with ⟨gone, -, ⟨same, missing⟩ | dropped⟩ |
    ⟨item, found, live, same⟩
  · rw [same, gone]
    split
    case isTrue equal => rw [equal, missing]
    case isFalse => rfl
  · rw [dropped, gone, OrderedDict.get_pop]
  · rw [same]
    split
    case isTrue equal =>
      rw [equal, found, Option.filter_some, live]
      rfl
    case isFalse => rfl

theorem expired_fst (now : Int) (key : Text) (store : Store) :
    (expired now key store).1 = !((entries store).get now key).isSome := by
  rw [get_entries]
  rcases expired_cases now key store with ⟨gone, isGone, -⟩ | ⟨item, found, live, same⟩
  · rw [gone, isGone]
    rfl
  · rw [same, found, Option.filter_some, live]
    rfl

theorem get_deleteKeys (keys : List Text) (store : Store) (key : Text) :
    OrderedDict.get (deleteKeys keys store).2 key =
      if key ∈ keys then none else OrderedDict.get store key := by
  induction keys generalizing store with
  | nil => rfl
  | cons first keys induction =>
      rw [deleteKeys, induction, delete, OrderedDict.get_pop]
      by_cases later : key ∈ keys
      · rw [if_pos later, if_pos (List.mem_cons_of_mem first later)]
      · by_cases same : key = first
        · simp [same]
        · simp [same, later]

/-! ### The scan -/

/-- What a scan leaves of an entry that it comes upon. -/
def visited (fnmatch : Text → Text → Bool) (pattern : Text) (now : Text → Int)
    (effect : Item → Option Item) (key : Text) (had : Option Item) : Option Item :=
  (had.filter fun item => !item.isExpired (now key)).bind fun item =>
    if fnmatch key pattern then effect item else some item

/-- The consumer changes the entry of the key that it is given, and no other. -/
structure Consumes (consume : Text → Store → Store) (effect : Item → Option Item) : Prop where
  own : ∀ key store item, OrderedDict.get store key = some item →
    OrderedDict.get (consume key store) key = effect item
  frame : ∀ key store other, other ≠ key →
    OrderedDict.get (consume key store) other = OrderedDict.get store other

theorem consumes_nothing : Consumes (fun _ store => store) some := by
  constructor
  · exact fun _ _ _ found => found
  · exact fun _ _ _ _ => rfl

theorem consumes_delete : Consumes delete fun _ => none := by
  constructor
  · exact fun _ _ _ _ => OrderedDict.get_pop_self
  · exact fun _ _ other different => (OrderedDict.get_pop other).trans (if_neg different)

/-- The scan yields the keys that match and are there, and visits each key once. -/
theorem scanKeys_spec (fnmatch : Text → Text → Bool) (pattern : Text) (now : Text → Int)
    {effect : Item → Option Item} (consumes : Consumes consume effect) {keys : List Text}
    (nodup : keys.Nodup) (store : Store) :
    (scanKeys fnmatch pattern now consume keys store).1 =
        keys.filter (TtlMap.matching fnmatch (entries store) now pattern) ∧
      ∀ key, OrderedDict.get (scanKeys fnmatch pattern now consume keys store).2 key =
        if key ∈ keys then visited fnmatch pattern now effect key (OrderedDict.get store key)
        else OrderedDict.get store key := by
  induction keys generalizing store with
  | nil => exact ⟨rfl, fun key => rfl⟩
  | cons first keys induction =>
      rcases List.nodup_cons.mp nodup with ⟨once, nodup⟩
      -- the rest of the scan goes on in a store that differs at the first key only
      have goesOn : ∀ (left : Store) (final : Option Item),
          (∀ key, key ≠ first → OrderedDict.get left key = OrderedDict.get store key) →
          OrderedDict.get left first = final →
          visited fnmatch pattern now effect first (OrderedDict.get store first) = final →
          (scanKeys fnmatch pattern now consume keys left).1 =
              keys.filter (TtlMap.matching fnmatch (entries store) now pattern) ∧
            ∀ key, OrderedDict.get (scanKeys fnmatch pattern now consume keys left).2 key =
              if key ∈ first :: keys then
                visited fnmatch pattern now effect key (OrderedDict.get store key)
              else OrderedDict.get store key := by
        intro left final frame own effective
        rcases induction nodup left with ⟨yields, leaves⟩
        constructor
        · rw [yields]
          apply List.filter_congr
          intro key member
          have different : key ≠ first := fun same => once (same ▸ member)
          rw [TtlMap.matching, TtlMap.matching, get_entries, get_entries, frame key different]
        · intro key
          rw [leaves key]
          by_cases same : key = first
          · rw [same, if_neg once, if_pos List.mem_cons_self, own, effective]
          · rw [frame key same]
            by_cases member : key ∈ keys
            · rw [if_pos member, if_pos (List.mem_cons_of_mem first member)]
            · rw [if_neg member, if_neg (fun either => (List.mem_cons.mp either).elim same member)]
      have looked : ∀ key, key ≠ first →
          OrderedDict.get (expired (now first) first store).2 key = OrderedDict.get store key :=
        fun key different => (get_expired (now first) first key store).trans (if_neg different)
      have own := (get_expired (now first) first first store).trans (if_pos rfl)
      have verdict := expired_fst (now first) first store
      rw [scanKeys]
      generalize expired (now first) first store = answer at looked own verdict ⊢
      rcases answer with ⟨gone, left⟩
      cases gone with
      | true =>
          have missing : (entries store).get (now first) first = none := by
            simpa using verdict.symm
          have dropped := missing
          rw [get_entries, Option.map_eq_none_iff] at dropped
          rw [dropped] at own
          have effective : visited fnmatch pattern now effect first
              (OrderedDict.get store first) = none := by
            rw [visited, dropped, Option.bind_none]
          rcases goesOn left none looked own effective with ⟨yields, leaves⟩
          refine ⟨?_, leaves⟩
          rw [yields, List.filter_cons_of_neg]
          simp [TtlMap.matching, missing]
      | false =>
          have there : ((entries store).get (now first) first).isSome = true := by
            simpa using verdict.symm
          have kept := there
          rw [get_entries, Option.isSome_map, Option.isSome_iff_exists] at kept
          rcases kept with ⟨item, kept⟩
          rw [kept] at own
          cases matches' : fnmatch first pattern with
          | true =>
              have effective : visited fnmatch pattern now effect first
                  (OrderedDict.get store first) = effect item := by
                rw [visited, kept, Option.bind_some, if_pos matches']
              have frame : ∀ key, key ≠ first → OrderedDict.get (consume first left) key =
                  OrderedDict.get store key := fun key different =>
                (consumes.frame first left key different).trans (looked key different)
              rcases goesOn (consume first left) (effect item) frame
                (consumes.own first left item own) effective with ⟨yields, leaves⟩
              dsimp only
              rw [if_pos rfl]
              refine ⟨?_, leaves⟩
              rw [yields, List.filter_cons_of_pos]
              simp [TtlMap.matching, matches', there]
          | false =>
              have effective : visited fnmatch pattern now effect first
                  (OrderedDict.get store first) = some item := by
                rw [visited, kept, Option.bind_some, matches', if_neg Bool.false_ne_true]
              rcases goesOn left (some item) looked own effective with ⟨yields, leaves⟩
              dsimp only
              rw [if_neg Bool.false_ne_true]
              refine ⟨?_, leaves⟩
              rw [yields, List.filter_cons_of_neg]
              simp [TtlMap.matching, matches']

/-- A key that the scan misses has no entry. -/
theorem scanIter_spec (fnmatch : Text → Text → Bool) (pattern : Text) (now : Text → Int)
    {effect : Item → Option Item} (consumes : Consumes consume effect) (store : Store) :
    (scanIter fnmatch pattern now consume store).1.Nodup ∧
      (∀ key, key ∈ (scanIter fnmatch pattern now consume store).1 ↔
        TtlMap.matching fnmatch (entries store) now pattern key = true) ∧
      ∀ key, OrderedDict.get (scanIter fnmatch pattern now consume store).2 key =
        visited fnmatch pattern now effect key (OrderedDict.get store key) := by
  rcases scanKeys_spec fnmatch pattern now consumes store.nodup store with ⟨yields, leaves⟩
  rw [scanIter]
  refine ⟨?_, ?_, ?_⟩
  · rw [yields]
    exact store.nodup.filter _
  · intro key
    rw [yields, List.mem_filter]
    constructor
    · exact fun both => both.2
    · intro isMatch
      refine ⟨?_, isMatch⟩
      rw [TtlMap.matching, Bool.and_eq_true, get_entries, Option.isSome_map] at isMatch
      rcases Option.isSome_iff_exists.mp isMatch.2 with ⟨item, kept⟩
      have found := (Option.filter_eq_some_iff.mp kept).1
      exact OrderedDict.isSome_get.mp (Option.isSome_of_eq_some found)
  · intro key
    rw [leaves key]
    split
    · rfl
    · rename_i missing
      have absent : OrderedDict.get store key = none := by
        rw [← OrderedDict.isSome_get, Bool.not_eq_true, Option.isSome_eq_false_iff,
          Option.isNone_iff_eq_none] at missing
        exact missing
      rw [absent]
      rfl

end Operations

/-! ### The store is the map -/

section Simulation

variable {fnmatch} {store : Store} {call : Call} {left right : TtlMap}

theorem Call.start_le_finish (call : Call) : call.start ≤ call.finish :=
  (call.during []).1.trans (call.during []).2

/-- What a look-up drops has expired when the call is finished. -/
theorem shed_of_filter {key : Text} {had : Option Item} (call : Call) (left : Option Item)
    (dropped : left = had.filter fun item => !item.isExpired (call.now key)) :
    left = had ∨ left = none ∧ ∀ item, had = some item →
      ExpiringMap.isLive call.finish (item.value, item.expiry) = false := by
  cases had with
  | none => exact Or.inl dropped
  | some item =>
      rw [Option.filter_some] at dropped
      cases ended : item.isExpired (call.now key) with
      | false =>
          rw [ended] at dropped
          exact Or.inl dropped
      | true =>
          rw [ended] at dropped
          refine Or.inr ⟨dropped, ?_⟩
          intro other same
          rw [← Option.some.inj same]
          rw [isExpired_eq, Bool.not_eq_true'] at ended
          cases isLive : ExpiringMap.isLive call.finish (item.value, item.expiry) with
          | false => rfl
          | true =>
              have contrary := ExpiringMap.isLive_earlier (call.during key).2 isLive
              rw [ended] at contrary
              cases contrary

/-- Keys that are removed, and entries dropped by look-ups. -/
theorem agrees_of_looked {left : Store} (gone : Text → Bool)
    (each : ∀ key, gone key = true ∧ OrderedDict.get left key = none ∨
      gone key = false ∧ (OrderedDict.get left key = OrderedDict.get store key ∨
        OrderedDict.get left key =
          (OrderedDict.get store key).filter fun item => !item.isExpired (call.now key))) :
    ExpiringMap.Agrees call.finish (entries left) ((entries store).remove gone) := by
  apply ExpiringMap.agrees_of_shed
  intro key
  rw [ExpiringMap.remove, entries, entries]
  rcases each key with ⟨isGone, missing⟩ | ⟨stays, same | dropped⟩
  · rw [isGone, missing]
    exact Or.inl rfl
  · rw [stays, same]
    exact Or.inl rfl
  · rw [stays, if_neg Bool.false_ne_true]
    rcases shed_of_filter call _ dropped with same | ⟨lost, ended⟩
    · rw [same]
      exact Or.inl rfl
    · rw [lost]
      refine Or.inr ⟨rfl, ?_⟩
      intro entry had
      rcases Option.map_eq_some_iff.mp had with ⟨item, found, rfl⟩
      exact ended item found

theorem agrees_of_dropped {left : Store}
    (each : ∀ key, OrderedDict.get left key = OrderedDict.get store key ∨
      OrderedDict.get left key =
        (OrderedDict.get store key).filter fun item => !item.isExpired (call.now key)) :
    ExpiringMap.Agrees call.finish (entries left) (entries store) :=
  agrees_of_looked (fun _ => false) fun key => Or.inr ⟨rfl, each key⟩

theorem entries_set (store : Store) (key value : Text) (expiry : Option Int) :
    entries (OrderedDict.set store key ⟨value, expiry⟩) =
      (entries store).put key value expiry := by
  funext other
  rw [entries, OrderedDict.get_set, ExpiringMap.put]
  split
  · rfl
  · rfl

theorem entries_deleteKeys (keys : List Text) (store : Store) :
    entries (deleteKeys keys store).2 = (entries store).remove keys.contains := by
  funext other
  rw [entries, get_deleteKeys, ExpiringMap.remove, List.contains_eq_mem]
  by_cases member : other ∈ keys
  · rw [if_pos member, if_pos (decide_eq_true member)]
    rfl
  · rw [if_neg member, if_neg (by simpa using member)]
    rfl

theorem get_snd (now : Int) (key : Text) (store : Store) :
    (get now key store).2 = (expired now key store).2 := by
  rw [get]
  split <;> rename_i answer <;> rw [answer]

theorem get_fst (now : Int) (key : Text) (store : Store) :
    (get now key store).1 = (entries store).get now key := by
  rw [get_entries]
  rcases expired_cases now key store with ⟨gone, isGone, -⟩ | ⟨item, found, live, -⟩
  · rw [gone, get]
    generalize expired now key store = answer at isGone
    rcases answer with ⟨verdict, left⟩
    cases isGone
    rfl
  · rw [get_of_live found live, found, Option.filter_some, live]
    rfl

theorem agrees_of_get (key : Text) (store : Store) (call : Call) :
    ExpiringMap.Agrees call.finish (entries (get (call.now key) key store).2) (entries store) := by
  apply agrees_of_dropped
  intro other
  rw [get_snd, get_expired]
  split
  case isTrue same =>
    rw [same]
    exact Or.inr rfl
  case isFalse => exact Or.inl rfl

theorem agrees_of_scan (fnmatch : Text → Text → Bool) (pattern : Text) (store : Store)
    (call : Call) :
    ExpiringMap.Agrees call.finish
      (entries (scanIter fnmatch pattern call.now (fun _ store => store) store).2)
      (entries store) := by
  apply agrees_of_dropped
  intro key
  right
  rw [(scanIter_spec fnmatch pattern call.now consumes_nothing store).2.2 key, visited]
  simp only [ite_self]
  exact Option.bind_fun_some _

theorem agrees_of_deletion (fnmatch : Text → Text → Bool) (pattern : Text) (store : Store)
    (call : Call) :
    ExpiringMap.Agrees call.finish
      (entries (cacheDeletePattern fnmatch pattern call.now store).2)
      ((entries store).remove (TtlMap.matching fnmatch (entries store) call.now pattern)) := by
  apply agrees_of_looked
  intro key
  have left := (scanIter_spec fnmatch pattern call.now consumes_delete store).2.2 key
  rw [cacheDeletePattern, left, visited, TtlMap.matching, get_entries, Option.isSome_map]
  cases fnmatch key pattern with
  | false => exact Or.inr ⟨rfl, Or.inr (Option.bind_fun_some _)⟩
  | true =>
      cases (OrderedDict.get store key).filter fun item => !item.isExpired (call.now key) with
      | none => exact Or.inr ⟨rfl, Or.inr rfl⟩
      | some item => exact Or.inl ⟨rfl, rfl⟩

/-- A call answers as the map with the entries of the store does, and leaves the store with
the entries of the next map. -/
theorem perform_spec (fnmatch : Text → Text → Bool) (store : Store) (call : Call) :
    TtlMap.Answers fnmatch (entries store) call (perform fnmatch store call).1 ∧
      ExpiringMap.Agrees call.finish (entries (perform fnmatch store call).2)
        (TtlMap.next fnmatch (entries store) call) := by
  rw [TtlMap.Answers, TtlMap.next, perform]
  cases call.operation with
  | get key => exact ⟨congrArg Answer.value (get_fst _ _ _), agrees_of_get key store call⟩
  | set key value =>
      refine ⟨rfl, ?_⟩
      dsimp only
      rw [← entries_set]
      exact ExpiringMap.agrees_refl _ _
  | setex key ttl value =>
      refine ⟨rfl, ?_⟩
      dsimp only
      rw [← entries_set]
      exact ExpiringMap.agrees_refl _ _
  | delete keys =>
      refine ⟨⟨_, rfl⟩, ?_⟩
      dsimp only
      rw [← entries_deleteKeys]
      exact ExpiringMap.agrees_refl _ _
  | scanIter pattern =>
      refine ⟨?_, agrees_of_scan fnmatch pattern store call⟩
      have spec := scanIter_spec fnmatch pattern call.now consumes_nothing store
      exact ⟨_, spec.1, spec.2.1, rfl⟩
  | cacheDeletePattern pattern =>
      refine ⟨?_, agrees_of_deletion fnmatch pattern store call⟩
      have spec := scanIter_spec fnmatch pattern call.now consumes_delete store
      exact ⟨_, spec.1, spec.2.1, rfl⟩

/-- Maps that agree when a call starts answer alike and agree when it is finished. -/
theorem matching_congr (agrees : ExpiringMap.Agrees call.start left right) (pattern : Text) :
    TtlMap.matching fnmatch left call.now pattern =
      TtlMap.matching fnmatch right call.now pattern := by
  funext key
  rw [TtlMap.matching, TtlMap.matching, agrees.get_eq (call.during key).1]

theorem answers_congr (agrees : ExpiringMap.Agrees call.start left right) {answer : Answer}
    (answers : TtlMap.Answers fnmatch left call answer) :
    TtlMap.Answers fnmatch right call answer := by
  rw [TtlMap.Answers] at answers ⊢
  cases operation : call.operation with
  | get key =>
      rw [operation] at answers
      dsimp only at answers ⊢
      rw [← agrees.get_eq (call.during key).1]
      exact answers
  | set key value =>
      rw [operation] at answers
      exact answers
  | setex key ttl value =>
      rw [operation] at answers
      exact answers
  | delete keys =>
      rw [operation] at answers
      exact answers
  | scanIter pattern =>
      rw [operation] at answers
      dsimp only at answers ⊢
      rw [← matching_congr agrees]
      exact answers
  | cacheDeletePattern pattern =>
      rw [operation] at answers
      dsimp only at answers ⊢
      rw [← matching_congr agrees]
      exact answers

theorem agrees_next (agrees : ExpiringMap.Agrees call.start left right) :
    ExpiringMap.Agrees call.finish (TtlMap.next fnmatch left call)
      (TtlMap.next fnmatch right call) := by
  apply ExpiringMap.Agrees.later _ call.start_le_finish
  rw [TtlMap.next, TtlMap.next]
  cases call.operation with
  | get key => exact agrees
  | set key value => exact agrees.put key value none
  | setex key ttl value => exact agrees.put key value _
  | delete keys => exact agrees.remove _
  | scanIter pattern => exact agrees
  | cacheDeletePattern pattern =>
      dsimp only
      rw [matching_congr agrees]
      exact agrees.remove _

/-- The store stays in step with the map. -/
theorem agrees_perform (fnmatch : Text → Text → Bool)
    (agrees : ExpiringMap.Agrees call.start (entries store) right) :
    TtlMap.Answers fnmatch right call (perform fnmatch store call).1 ∧
      ExpiringMap.Agrees call.finish (entries (perform fnmatch store call).2)
        (TtlMap.next fnmatch right call) := by
  have spec := perform_spec fnmatch store call
  exact ⟨answers_congr agrees spec.1, spec.2.trans (agrees_next agrees)⟩

theorem Ordered.append_singleton {history : List Call}
    (ordered : Ordered (history ++ [call])) :
    Ordered history ∧ ∀ earlier ∈ history, earlier.finish ≤ call.start := by
  have parts := List.pairwise_append.mp ordered
  exact ⟨parts.1, fun earlier member => parts.2.2 earlier member call List.mem_cons_self⟩

theorem agrees_run {history : List Call} (ordered : Ordered history) {now : Int}
    (past : ∀ call ∈ history, call.finish ≤ now) :
    ExpiringMap.Agrees now (entries (run fnmatch .empty history))
      (TtlMap.after fnmatch history) := by
  induction history using List.reverseRecOn generalizing now with
  | nil => exact ExpiringMap.agrees_refl _ _
  | append_singleton history call induction =>
      rcases ordered.append_singleton with ⟨ordered, before⟩
      have step := (agrees_perform fnmatch (induction ordered before)).2
      rw [run, TtlMap.after, List.foldl_append, List.foldl_append]
      exact step.later (past call (List.mem_append_right _ List.mem_cons_self))

end Simulation

/-- In every history the store answers as a map whose entries are gone when they expire, and
holds the entries of this map. -/
theorem store_is_ttl_map (history : List Call) (call : Call)
    (ordered : Ordered (history ++ [call])) :
    TtlMap.Answers fnmatch (TtlMap.after fnmatch history) call
        (perform fnmatch (run fnmatch .empty history) call).1 ∧
      ∀ now, call.finish ≤ now →
        (entries (perform fnmatch (run fnmatch .empty history) call).2).live now =
          (TtlMap.next fnmatch (TtlMap.after fnmatch history) call).live now := by
  rcases ordered.append_singleton with ⟨ordered, before⟩
  exact agrees_perform fnmatch (agrees_run ordered before)

/-! ### A pattern deletion after an entry has expired -/

/-- A call that takes no time. -/
def Call.instant (operation : Operation) (time : Int) : Call where
  operation := operation
  start := time
  finish := time
  now := fun _ => time
  during := fun _ => ⟨Int.le_refl time, Int.le_refl time⟩

/-- `fnmatch` for `*` and for patterns without special characters. -/
def plainMatch (key pattern : Text) : Bool :=
  pattern == ['*'] || key == pattern

def filled : List Call :=
  [.instant (.setex ['a'] 1 ['1']) 0, .instant (.set ['b'] ['2']) 5]

theorem store_is_ttl_map_filled :
    TtlMap.Answers plainMatch (TtlMap.after plainMatch filled)
      (.instant (.cacheDeletePattern ['*']) (seconds 2))
      (perform plainMatch (run plainMatch .empty filled)
        (.instant (.cacheDeletePattern ['*']) (seconds 2))).1 :=
  (store_is_ttl_map plainMatch filled (.instant (.cacheDeletePattern ['*']) (seconds 2))
    (by simp [Ordered, filled, Call.instant, seconds])).1

/-- Only the entry that has not expired counts. -/
example : (perform plainMatch (run plainMatch .empty filled)
    (.instant (.cacheDeletePattern ['*']) (seconds 2))).1 = .removed 1 := by decide

end GrafuxMcp.InMemoryRedis
