import GrafuxMcp.Cache.TtlMap

/-! # What is read back from the cache

`cache_set` stores a string as it is, and `cache_get` reads every text as JSON first. -/

namespace GrafuxMcp.InMemoryRedis

open GrafuxMcp

variable {fnmatch : Text → Text → Bool} {key : Text} {item : Item} {store : Store} {call : Call}

/-- The operation may change what is stored under the key. -/
def Operation.Writes (fnmatch : Text → Text → Bool) (key : Text) : Operation → Prop
  | .get _ => False
  | .set other _ => other = key
  | .setex other _ _ => other = key
  | .delete keys => key ∈ keys
  | .scanIter _ => False
  | .cacheDeletePattern pattern => fnmatch key pattern = true

/-- The value is no string, or a string whose text is not the JSON of something else. -/
def ReadsBack (json : Json) (value : Value) : Prop :=
  ∀ text, value = .str text →
    json.loads text.toList = none ∨ json.loads text.toList = some (.str text)

/-- No other operation drops an item before it expires. -/
theorem get_perform (found : OrderedDict.get store key = some item)
    (untouched : ¬ call.operation.Writes fnmatch key)
    (live : item.isExpired (call.now key) = false) :
    OrderedDict.get (perform fnmatch store call).2 key = some item := by
  have kept : ((OrderedDict.get store key).filter fun item => !item.isExpired (call.now key)) =
      some item := by
    rw [found, Option.filter_some, live]
    rfl
  rw [perform]
  cases operation : call.operation with
  | get other =>
      dsimp only
      rw [get_snd, get_expired]
      split
      case isTrue same =>
        rw [← same]
        exact kept
      case isFalse => exact found
  | set other value =>
      rw [operation, Operation.Writes] at untouched
      exact (OrderedDict.get_set key).trans ((if_neg (Ne.symm untouched)).trans found)
  | setex other ttl value =>
      rw [operation, Operation.Writes] at untouched
      exact (OrderedDict.get_set key).trans ((if_neg (Ne.symm untouched)).trans found)
  | delete keys =>
      rw [operation, Operation.Writes] at untouched
      exact (get_deleteKeys keys store key).trans ((if_neg untouched).trans found)
  | scanIter pattern =>
      have left := (scanIter_spec fnmatch pattern call.now consumes_nothing store).2.2 key
      rw [visited, kept, Option.bind_some, ite_self] at left
      exact left
  | cacheDeletePattern pattern =>
      rw [operation, Operation.Writes] at untouched
      have left := (scanIter_spec fnmatch pattern call.now consumes_delete store).2.2 key
      rw [visited, kept, Option.bind_some, if_neg untouched] at left
      exact left

theorem get_run {now : Int} {calls : List Call} (found : OrderedDict.get store key = some item)
    (untouched : ∀ call ∈ calls, ¬ call.operation.Writes fnmatch key)
    (past : ∀ call ∈ calls, call.finish ≤ now) (live : item.isExpired now = false) :
    OrderedDict.get (run fnmatch store calls) key = some item := by
  induction calls generalizing store with
  | nil => exact found
  | cons call calls induction =>
      have before := (call.during key).2.trans (past call List.mem_cons_self)
      have step := get_perform found (untouched call List.mem_cons_self)
        (isExpired_earlier before live)
      exact induction step (fun call member => untouched call (List.mem_cons_of_mem _ member))
        fun call member => past call (List.mem_cons_of_mem _ member)

/-- A write is there until it expires, and for good without a TTL or with a TTL of zero. -/
theorem get_cacheSet (json : Json) (key : Text) (value : Value) (ttl : Option Int)
    (store : Store) {time now : Int}
    (unexpired : ∀ limit, ttl = some limit → limit ≠ 0 → now < time + seconds limit) :
    ∃ item, OrderedDict.get (cacheSet time key store json value ttl) key = some item ∧
      item.value = serialized json value ∧ item.isExpired now = false := by
  rw [cacheSet]
  cases given : ttl.filter (· != 0) with
  | none => exact ⟨_, (OrderedDict.get_set key).trans (if_pos rfl), rfl, rfl⟩
  | some limit =>
      rcases Option.filter_eq_some_iff.mp given with ⟨same, nonzero⟩
      have later := unexpired limit same (bne_iff_ne.mp nonzero)
      refine ⟨_, (OrderedDict.get_set key).trans (if_pos rfl), rfl, ?_⟩
      rw [Item.isExpired, Option.any_some, decide_eq_false_iff_not]
      omega

/-- Decoding what was stored. -/
theorem deserialized_serialized {json : Json} {value : Value}
    (inverts : json.loads (json.dumps value) = some value) :
    deserialized json (serialized json value) = value ↔ ReadsBack json value := by
  have encoded : (∀ text, value ≠ .str text) → deserialized json (json.dumps value) = value ∧
      ReadsBack json value := by
    intro noString
    constructor
    · rw [deserialized, inverts, Option.getD_some]
    · exact fun text same => absurd same (noString text)
  cases value with
  | str text =>
      rw [serialized, deserialized, String.ofList_toList]
      constructor
      · intro same other equal
        cases equal
        cases loaded : json.loads text.toList with
        | none => exact Or.inl rfl
        | some read =>
            rw [loaded, Option.getD_some] at same
            exact Or.inr (congrArg some same)
      · intro readsBack
        rcases readsBack text rfl with raw | same
        · rw [raw, Option.getD_none]
        · rw [same, Option.getD_some]
  | none => exact iff_of_true (encoded (by simp)).1 (encoded (by simp)).2
  | bool value => exact iff_of_true (encoded (by simp)).1 (encoded (by simp)).2
  | int value => exact iff_of_true (encoded (by simp)).1 (encoded (by simp)).2
  | list items => exact iff_of_true (encoded (by simp)).1 (encoded (by simp)).2
  | dict items => exact iff_of_true (encoded (by simp)).1 (encoded (by simp)).2
  | object identity => exact iff_of_true (encoded (by simp)).1 (encoded (by simp)).2

/-- A value that was set is read back just where it is no string that is JSON itself. -/
theorem round_trips_iff (fnmatch : Text → Text → Bool) (json : Json) (key : Text) (value : Value)
    (ttl : Option Int) (store : Store) (time now : Int) (calls : List Call)
    (untouched : ∀ call ∈ calls, ¬ call.operation.Writes fnmatch key)
    (past : ∀ call ∈ calls, call.finish ≤ now)
    (unexpired : ∀ limit, ttl = some limit → limit ≠ 0 → now < time + seconds limit)
    (inverts : json.loads (json.dumps value) = some value) :
    (cacheGet now key (run fnmatch (cacheSet time key store json value ttl) calls) json).1 =
        some value ↔ ReadsBack json value := by
  rcases get_cacheSet json key value ttl store unexpired with ⟨item, found, stored, live⟩
  have kept := get_run found untouched past live
  rw [cacheGet, get_of_live kept live, Option.map_some, stored, Option.some.injEq]
  exact deserialized_serialized inverts

/-! ### A string of digits -/

def digits : Text := ['1', '2', '3']

/-- `json` on `123` and on the string of these digits. -/
def digitsJson : Json where
  dumps
    | .str _ => '"' :: digits ++ ['"']
    | _ => digits
  loads text :=
    if text = digits then some (.int 123)
    else if text = '"' :: digits ++ ['"'] then some (.str "123")
    else none

theorem round_trips_digits :
    (cacheGet 5 digits (run plainMatch (cacheSet 0 digits .empty digitsJson (.int 123) (some 1))
      [.instant (.get digits) 3]) digitsJson).1 = some (.int 123) := by
  apply (round_trips_iff plainMatch digitsJson digits (.int 123) (some 1) .empty 0 5
    [.instant (.get digits) 3] _ _ _ rfl).mpr
  · intro text same
    cases same
  · simp [Operation.Writes, Call.instant]
  · simp [Call.instant]
  · intro limit same nonzero
    cases same
    decide

/-- The string comes back as a number. -/
theorem digits_become_number :
    ¬ ∀ (fnmatch : Text → Text → Bool) (json : Json) (key : Text) (value : Value)
      (ttl : Option Int) (store : Store) (time now : Int) (calls : List Call),
      (∀ call ∈ calls, ¬ call.operation.Writes fnmatch key) →
      (∀ call ∈ calls, call.finish ≤ now) →
      (∀ limit, ttl = some limit → limit ≠ 0 → now < time + seconds limit) →
      json.loads (json.dumps value) = some value →
      (cacheGet now key (run fnmatch (cacheSet time key store json value ttl) calls) json).1 =
        some value := by
  intro roundTrips
  have read := roundTrips plainMatch digitsJson digits (.str "123") none .empty 0 5 [] (by simp)
    (by simp) (by simp) rfl
  have answer : (cacheGet 5 digits (run plainMatch
      (cacheSet 0 digits .empty digitsJson (.str "123") none) []) digitsJson).1 =
      some (.int 123) := rfl
  cases answer.symm.trans read

end GrafuxMcp.InMemoryRedis
