import SupplyChainTracker.Core.Run
import SupplyChainTracker.Core.TtlMap
import SupplyChainTracker.Libs.Messaging

/-!
# The in-memory cache

`InMemoryCacheAdapter` keeps values and expiry times in two dictionaries. A `set` without a
time to live and `close` leave the expiry time of a key behind, so the adapter is a map whose
entries expire as long as no key is asked for whose expiry time has outlived its entry.
-/

namespace SupplyChainTracker

/-- A time to live. A `timedelta` is one of at most 270 years, whose `total_seconds` lose
nothing. -/
inductive Ttl : Type
  | int (seconds : Int)
  | timedelta (microseconds : Int)

/-- The `timedelta(seconds=…)` made of it, in microseconds. -/
def Ttl.microseconds : Ttl → Int
  | int seconds => seconds * 1000000
  | timedelta microseconds => microseconds

/-- `datetime.min`. -/
def minDateTime : DateTime := -62135596800000000

/-- `datetime.max`. -/
def maxDateTime : DateTime := 253402300799999999

/-- The exceptions of the cache. -/
inductive CacheError : Type
  | keyError (key : String)
  | overflowError
  deriving DecidableEq

/-- A call of `CachePort`, without a model and with a value that is no model; `contains` is
`exists`. -/
inductive CacheCall (V : Type) : Type
  | get (key : String)
  | set (key : String) (value : V) (ttl : Option Ttl)
  | delete (key : String)
  | contains (key : String)
  | close

/-- What a call returns. -/
abbrev CacheCall.Ans {V : Type} : CacheCall V → Type
  | get _ => Option V
  | set .. => Bool
  | delete _ => Bool
  | contains _ => Bool
  | close => Unit

/-- A `set` with a time to live gives a positive one. -/
def CacheCall.TtlPositive {V : Type} : CacheCall V → Prop
  | set _ _ ttl => ∀ d ∈ ttl, 0 < d.microseconds
  | _ => True

/-- The two dictionaries. -/
structure InMemoryCache (V : Type) where
  storage : String → Option V
  expiry : String → Option DateTime

namespace InMemoryCache

variable {V : Type}

/-- `__init__`. -/
def empty : InMemoryCache V := ⟨fun _ => none, fun _ => none⟩

/-- `d[key] = value`, or `del d[key]` for `none`. -/
def assign {α : Type} (d : String → Option α) (key : String) (value : Option α) :
    String → Option α :=
  fun k => if k = key then value else d k

/-- `key in self._expiry and datetime.now() > self._expiry[key]`. -/
def expired (cache : InMemoryCache V) (key : String) (now : DateTime) : Bool :=
  match cache.expiry key with
  | some expiry => expiry < now
  | none => false

/-- The answer to a call at a time. -/
def act (now : DateTime) : (op : CacheCall V) → InMemoryCache V →
    Except CacheError op.Ans × InMemoryCache V
  | .get key, cache =>
      if cache.expired key now then
        if (cache.storage key).isSome then
          (.ok none, ⟨assign cache.storage key none, assign cache.expiry key none⟩)
        else (.error (.keyError key), cache)
      else (.ok (cache.storage key), cache)
  | .set key value ttl, cache =>
      let storage := assign cache.storage key (some value)
      match ttl with
      | none => (.ok true, { cache with storage := storage })
      | some ttl =>
          if ttl.microseconds = 0 then (.ok true, { cache with storage := storage })
          else if minDateTime ≤ now + ttl.microseconds ∧
              now + ttl.microseconds ≤ maxDateTime then
            (.ok true, ⟨storage, assign cache.expiry key (some (now + ttl.microseconds))⟩)
          else (.error .overflowError, { cache with storage := storage })
  | .delete key, cache =>
      if (cache.storage key).isSome then
        (.ok true, ⟨assign cache.storage key none, assign cache.expiry key none⟩)
      else (.ok false, cache)
  | .contains key, cache =>
      if cache.expired key now then (.ok false, cache)
      else (.ok (cache.storage key).isSome, cache)
  | .close, cache => (.ok (), { cache with storage := fun _ => none })

end InMemoryCache

/-- What a call does to the entry of a key. -/
def CacheCall.effect {V : Type} : DateTime × CacheCall V → String →
    KeyEffect (TtlEntry V DateTime)
  | (now, set key value ttl), k =>
      if k = key then .put ⟨value, ttl.map (now + ·.microseconds)⟩ else .keep
  | (_, delete key), k => if k = key then .discard else .keep
  | (_, close), _ => .discard
  | (_, get _), _ => .keep
  | (_, contains _), _ => .keep

namespace InMemoryCache

variable {V : Type}

/-- The adapter beside the map of the calls so far. -/
structure Watched (V : Type) where
  cache : InMemoryCache V
  entries : TtlMap String V DateTime

/-- Nothing has been called. -/
def Watched.initial : Watched V := ⟨empty, fun _ => none⟩

/-- A call at a time. -/
def Watched.step (call : DateTime × CacheCall V) (w : Watched V) : Watched V :=
  ⟨(act call.1 call.2 w.cache).2, applyEffect CacheCall.effect w.entries call⟩

/-- A call does not raise and answers as the map does. -/
def Watched.Meets (w : Watched V) (call : DateTime × CacheCall V) : Prop :=
  match call with
  | (now, .get key) => (act now (.get key) w.cache).1 = .ok (w.entries.lookup key now)
  | (now, .contains key) =>
      (act now (.contains key) w.cache).1 = .ok (w.entries.lookup key now).isSome ∧
        ((act now (.contains key) w.cache).1 = .ok true ↔
          ∃ v, (act now (.get key) w.cache).1 = .ok (some v))
  | (now, op) => ∃ answer, (act now op w.cache).1 = .ok answer

/-- The recorded expiry time of the key has passed, but the key has no entry that expires. -/
def Watched.Outlived (w : Watched V) (key : String) (now : DateTime) : Prop :=
  w.cache.expired key now = true ∧ ∀ entry, w.entries key = some entry → entry.deadline = none

/-- What a call must avoid: asking for a key whose expiry time has outlived its entry, and
an expiry time that no `datetime` can hold. -/
def Watched.Allowed (w : Watched V) : DateTime × CacheCall V → Prop
  | (now, .get key) => ¬ w.Outlived key now
  | (now, .contains key) => ¬ (w.Outlived key now ∧ (w.entries key).isSome)
  | (now, .set _ _ (some ttl)) =>
      minDateTime ≤ now + ttl.microseconds ∧ now + ttl.microseconds ≤ maxDateTime
  | _ => True

@[simp] theorem assign_self {α : Type} (d : String → Option α) (key : String)
    (value : Option α) : assign d key value key = value := if_pos rfl

@[simp] theorem assign_of_ne {α : Type} (d : String → Option α) {key k : String}
    (value : Option α) (h : k ≠ key) : assign d key value k = d k := if_neg h

@[simp] theorem assign_same {α : Type} (d : String → Option α) (key : String) :
    assign d key (d key) = d := by
  funext k
  rcases eq_or_ne k key with rfl | hne
  · exact assign_self d k (d k)
  · exact assign_of_ne d (d key) hne

/-- How the two dictionaries and the map stand to each other at one key. -/
inductive KeyAgrees (now : DateTime) :
    Option V → Option DateTime → Option (TtlEntry V DateTime) → Prop
  | absent (expiry : Option DateTime) : KeyAgrees now none expiry none
  | lasting (v : V) (expiry : Option DateTime) : KeyAgrees now (some v) expiry (some ⟨v, none⟩)
  | expiring (v : V) (e : DateTime) : KeyAgrees now (some v) (some e) (some ⟨v, some e⟩)
  | evicted (v : V) (e : DateTime) (h : e < now) : KeyAgrees now none none (some ⟨v, some e⟩)

theorem KeyAgrees.later {now later : DateTime} {value : Option V} {expiry : Option DateTime}
    {entry : Option (TtlEntry V DateTime)} (h : KeyAgrees now value expiry entry)
    (hle : now ≤ later) : KeyAgrees later value expiry entry := by
  cases h with
  | absent expiry => exact .absent expiry
  | lasting v expiry => exact .lasting v expiry
  | expiring v e => exact .expiring v e
  | evicted v e h => exact .evicted v e (lt_of_lt_of_le h hle)

/-- They agree at every key. -/
def Watched.Agrees (w : Watched V) (now : DateTime) : Prop :=
  ∀ key, KeyAgrees now (w.cache.storage key) (w.cache.expiry key) (w.entries key)

theorem Watched.agrees_initial (now : DateTime) : (initial : Watched V).Agrees now :=
  fun _ => .absent none

theorem Watched.Agrees.later {w : Watched V} {now later : DateTime} (h : w.Agrees now)
    (hle : now ≤ later) : w.Agrees later := fun key => (h key).later hle

/-- A key whose expiry time has not passed reads as it is stored. -/
theorem Watched.Agrees.lookup_of_fresh {w : Watched V} {now : DateTime} (h : w.Agrees now)
    {key : String} (hexp : w.cache.expired key now = false) :
    w.entries.lookup key now = w.cache.storage key := by
  have hkey := h key
  rw [expired] at hexp
  generalize w.cache.storage key = value at hkey ⊢
  generalize w.cache.expiry key = expiry at hkey hexp
  generalize hm : w.entries key = entry at hkey
  rw [TtlMap.lookup, hm]
  cases hkey with
  | absent expiry => rfl
  | lasting v expiry => rfl
  | expiring v e => exact TtlEntry.read_of_le v (not_lt.mp (of_decide_eq_false hexp))
  | evicted v e hlt => exact TtlEntry.read_of_not_le v (not_le.mpr hlt)

/-- A key whose expiry time has passed is stored under an entry that has expired, unless that
time has outlived the entry; then the key reads as it is stored. -/
theorem Watched.Agrees.expired_cases {w : Watched V} {now : DateTime} (h : w.Agrees now)
    {key : String} (hexp : w.cache.expired key now = true) :
    (¬ w.Outlived key now ∧ ∃ v e, e < now ∧ w.cache.storage key = some v ∧
        w.entries key = some ⟨v, some e⟩) ∨
      (w.Outlived key now ∧ w.entries.lookup key now = w.cache.storage key ∧
        (w.entries key).isSome = (w.cache.storage key).isSome) := by
  have hkey := h key
  rw [Outlived, and_iff_right hexp]
  rw [expired] at hexp
  rw [TtlMap.lookup]
  generalize w.cache.storage key = value at hkey ⊢
  generalize w.cache.expiry key = expiry at hkey hexp
  generalize w.entries key = entry at hkey ⊢
  cases hkey with
  | absent expiry => exact .inr ⟨by simp, rfl, rfl⟩
  | lasting v expiry => exact .inr ⟨by simp, rfl, rfl⟩
  | expiring v e =>
    have hlt : e < now := of_decide_eq_true hexp
    exact .inl ⟨by simp, v, e, hlt, rfl, rfl⟩
  | evicted v e hlt => simp at hexp

/-- An expiry time that has not passed has outlived nothing. -/
theorem Watched.not_outlived_of_fresh {w : Watched V} {now : DateTime} {key : String}
    (hexp : w.cache.expired key now = false) : ¬ w.Outlived key now := by
  rintro ⟨h, -⟩
  rw [hexp] at h
  cases h

/-- `get` answers as the map does unless the expiry time of its key has outlived the entry. -/
theorem Watched.Agrees.meets_get {w : Watched V} {now : DateTime} (h : w.Agrees now)
    (key : String) : w.Meets (now, .get key) ↔ w.Allowed (now, .get key) := by
  cases hexp : w.cache.expired key now with
  | false =>
    refine iff_of_true ?_ (not_outlived_of_fresh hexp)
    simp [Meets, act, hexp, h.lookup_of_fresh hexp]
  | true =>
    rcases h.expired_cases hexp with ⟨hlive, v, e, hlt, hs, hm⟩ | ⟨hout, hlook, -⟩
    · refine iff_of_true ?_ hlive
      simp [Meets, act, hexp, hs, TtlMap.lookup, hm, TtlEntry.read_of_not_le v (not_le.mpr hlt)]
    · -- Either the lasting value is dropped or there is nothing to drop.
      refine iff_of_false ?_ (not_not_intro hout)
      cases hs : w.cache.storage key <;> simp [Meets, act, hexp, hlook, hs]

/-- `exists` answers whether `get` would return a value, in every state. -/
theorem contains_iff_get (cache : InMemoryCache V) (now : DateTime) (key : String) :
    (act now (.contains key) cache).1 = .ok true ↔
      ∃ v, (act now (.get key) cache).1 = .ok (some v) := by
  cases he : cache.expired key now with
  | true => cases hs : cache.storage key <;> simp [act, he, hs]
  | false => simp [act, he, Option.isSome_iff_exists]

/-- `exists` answers as the map does unless the expiry time has outlived a later entry. -/
theorem Watched.Agrees.meets_contains {w : Watched V} {now : DateTime} (h : w.Agrees now)
    (key : String) : w.Meets (now, .contains key) ↔ w.Allowed (now, .contains key) := by
  rw [Meets, and_iff_left (contains_iff_get w.cache now key)]
  cases hexp : w.cache.expired key now with
  | false =>
    refine iff_of_true ?_ fun hout => not_outlived_of_fresh hexp hout.1
    simp [act, hexp, h.lookup_of_fresh hexp]
  | true =>
    rcases h.expired_cases hexp with ⟨hlive, v, e, hlt, -, hm⟩ | ⟨hout, hlook, hsome⟩
    · refine iff_of_true ?_ fun hout => hlive hout.1
      simp [act, hexp, TtlMap.lookup, hm, TtlEntry.read_of_not_le v (not_le.mpr hlt)]
    · simp [Allowed, act, hexp, hout, hlook, hsome]

/-- `set` raises only for an expiry time that no `datetime` holds. -/
theorem Watched.meets_set (w : Watched V) (now : DateTime) (key : String) (value : V)
    {ttl : Option Ttl} (hpos : ∀ d ∈ ttl, 0 < d.microseconds) :
    w.Meets (now, .set key value ttl) ↔ w.Allowed (now, .set key value ttl) := by
  cases ttl with
  | none => exact iff_of_true ⟨true, rfl⟩ trivial
  | some d =>
    have hne : d.microseconds ≠ 0 := (hpos d rfl).ne'
    by_cases hrange : minDateTime ≤ now + d.microseconds ∧ now + d.microseconds ≤ maxDateTime
    · simp [Meets, Allowed, act, hne, hrange]
    · simp [Meets, Allowed, act, hne, hrange]

/-- `delete` and `close` never raise. -/
theorem Watched.meets_delete (w : Watched V) (now : DateTime) (key : String) :
    w.Meets (now, .delete key) := by
  cases hs : (w.cache.storage key).isSome with
  | true => exact ⟨true, by simp [act, hs]⟩
  | false => exact ⟨false, by simp [act, hs]⟩

/-- Where the dictionaries agree with the map, exactly the allowed calls behave. -/
theorem Watched.Agrees.meets_iff {w : Watched V} {now : DateTime} (h : w.Agrees now)
    {op : CacheCall V} (hpos : op.TtlPositive) : w.Meets (now, op) ↔ w.Allowed (now, op) := by
  cases op with
  | get key => exact h.meets_get key
  | set key value ttl => exact w.meets_set now key value hpos
  | delete key => exact iff_of_true (w.meets_delete now key) trivial
  | contains key => exact h.meets_contains key
  | close => exact iff_of_true ⟨(), rfl⟩ trivial

/-- A call that changes no dictionary and keeps every entry keeps the agreement. -/
theorem Watched.Agrees.step_of_keep {w : Watched V} {now : DateTime} (h : w.Agrees now)
    {op : CacheCall V} (hcache : (act now op w.cache).2 = w.cache)
    (hkeep : ∀ k, CacheCall.effect (now, op) k = .keep) : (w.step (now, op)).Agrees now := by
  intro k
  simpa only [Watched.step, hcache, applyEffect, hkeep, KeyEffect.on] using h k

/-- A call that changes the dictionaries and the map at one key keeps the agreement if it does
so there. -/
theorem Watched.Agrees.step_at {w : Watched V} {now : DateTime} (h : w.Agrees now)
    {op : CacheCall V} (key : String) (value : Option V) (expiry : Option DateTime)
    (hcache : (act now op w.cache).2 =
      ⟨assign w.cache.storage key value, assign w.cache.expiry key expiry⟩)
    (hkeep : ∀ k, k ≠ key → CacheCall.effect (now, op) k = .keep)
    (hkey : KeyAgrees now value expiry ((CacheCall.effect (now, op) key).on (w.entries key))) :
    (w.step (now, op)).Agrees now := by
  intro k
  rcases eq_or_ne k key with rfl | hne
  · simpa only [Watched.step, hcache, assign_self, applyEffect] using hkey
  · simpa only [Watched.step, hcache, assign_of_ne _ _ hne, applyEffect, hkeep k hne,
      KeyEffect.on] using h k

/-- An allowed call keeps the agreement. -/
theorem Watched.Agrees.step {w : Watched V} {now : DateTime} (h : w.Agrees now)
    {op : CacheCall V} (hpos : op.TtlPositive) (hallowed : w.Allowed (now, op)) :
    (w.step (now, op)).Agrees now := by
  cases op with
  | get key =>
    cases hexp : w.cache.expired key now with
    | false => exact h.step_of_keep (by simp [act, hexp]) fun _ => rfl
    | true =>
      rcases h.expired_cases hexp with ⟨-, v, e, hlt, hs, hm⟩ | ⟨hout, -⟩
      · refine h.step_at key none none (by simp [act, hexp, hs]) (fun _ _ => rfl) ?_
        simpa only [CacheCall.effect, KeyEffect.on, hm] using .evicted v e hlt
      · exact absurd hout hallowed
  | set key value ttl =>
    cases ttl with
    | none =>
      refine h.step_at key (some value) (w.cache.expiry key) (by simp [act])
        (fun k hne => if_neg hne) ?_
      simpa [CacheCall.effect, KeyEffect.on] using .lasting value (w.cache.expiry key)
    | some d =>
      have hne : d.microseconds ≠ 0 := (hpos d rfl).ne'
      have hrange : minDateTime ≤ now + d.microseconds ∧ now + d.microseconds ≤ maxDateTime :=
        hallowed
      refine h.step_at key (some value) (some (now + d.microseconds)) (by simp [act, hne, hrange])
        (fun k hne => if_neg hne) ?_
      simpa [CacheCall.effect, KeyEffect.on] using .expiring value (now + d.microseconds)
  | delete key =>
    cases hs : w.cache.storage key with
    | none =>
      have hsame : assign w.cache.storage key none = w.cache.storage := by
        rw [← hs, assign_same]
      refine h.step_at key none (w.cache.expiry key) (by simp [act, hs, hsame])
        (fun k hne => if_neg hne) ?_
      simpa [CacheCall.effect, KeyEffect.on] using .absent (w.cache.expiry key)
    | some v =>
      refine h.step_at key none none (by simp [act, hs]) (fun k hne => if_neg hne) ?_
      simpa [CacheCall.effect, KeyEffect.on] using .absent none
  | contains key =>
    refine h.step_of_keep ?_ fun _ => rfl
    cases hexp : w.cache.expired key now <;> simp [act, hexp]
  | close => exact fun k => .absent _

/-- The map after a history is made of the effects of its calls. -/
theorem Watched.entries_foldl (calls : List (DateTime × CacheCall V)) (w : Watched V) :
    (calls.foldl (fun w call => w.step call) w).entries =
      calls.foldl (applyEffect CacheCall.effect) w.entries := by
  induction calls generalizing w with
  | nil => rfl
  | cons call calls ih => exact ih (w.step call)

/-- Only a `set` of a key puts an entry under it. -/
theorem effect_eq_put_iff (call : DateTime × CacheCall V) (key : String)
    (entry : TtlEntry V DateTime) :
    CacheCall.effect call key = .put entry ↔ ∃ value ttl, call.2 = .set key value ttl ∧
      entry = ⟨value, ttl.map (call.1 + ·.microseconds)⟩ := by
  obtain ⟨now, op⟩ := call
  cases op with
  | set k value ttl =>
    rcases eq_or_ne key k with rfl | hne
    · simp [CacheCall.effect, eq_comm]
    · simp [CacheCall.effect, hne, hne.symm]
  | delete k => rcases eq_or_ne key k with rfl | hne <;> simp [CacheCall.effect, *]
  | get k => simp [CacheCall.effect]
  | contains k => simp [CacheCall.effect]
  | close => simp [CacheCall.effect]

/-- A key has the entry of its latest `set` that no `delete` of it and no `close` follows. -/
theorem Watched.entries_eq_some_iff (calls : List (DateTime × CacheCall V)) (key : String)
    (entry : TtlEntry V DateTime) :
    (calls.foldl (fun w call => w.step call) initial).entries key = some entry ↔
      ∃ before now value ttl after, calls = before ++ (now, .set key value ttl) :: after ∧
        entry = ⟨value, ttl.map (now + ·.microseconds)⟩ ∧
        ∀ call ∈ after, CacheCall.effect call key = .keep := by
  rw [entries_foldl, show initial.entries = fun _ : String => none from rfl, ← mapAfter,
    mapAfter_eq_some_iff]
  constructor
  · rintro ⟨before, ⟨now, op⟩, after, hcalls, hput, hkeep⟩
    obtain ⟨value, ttl, rfl, hentry⟩ := (effect_eq_put_iff _ _ _).mp hput
    exact ⟨before, now, value, ttl, after, hcalls, hentry, hkeep⟩
  · rintro ⟨before, now, value, ttl, after, hcalls, hentry, hkeep⟩
    exact ⟨before, _, after, hcalls, (effect_eq_put_iff _ _ _).mpr ⟨value, ttl, rfl, hentry⟩,
      hkeep⟩

/-- From a state that agrees with the map, the calls all behave exactly when all are allowed. -/
theorem Watched.Agrees.run {calls : List (DateTime × CacheCall V)} {w : Watched V}
    (h : ∀ call ∈ calls, w.Agrees call.1) (hpos : ∀ call ∈ calls, call.2.TtlPositive)
    (hclock : calls.Pairwise fun call later => call.1 ≤ later.1) :
    EachStep Watched.step Watched.Meets calls w ↔
      EachStep Watched.step Watched.Allowed calls w := by
  induction calls generalizing w with
  | nil => exact Iff.rfl
  | cons call calls ih =>
    have hagrees : w.Agrees call.1 := h call (List.mem_cons_self ..)
    have hcall : call.2.TtlPositive := hpos call (List.mem_cons_self ..)
    obtain ⟨hnow, hclock⟩ := List.pairwise_cons.mp hclock
    rw [EachStep, EachStep, show w.Meets call ↔ w.Allowed call from hagrees.meets_iff hcall]
    refine and_congr_right fun hallowed => ih (fun later hlater => ?_)
      (fun later hlater => hpos later (List.mem_cons_of_mem _ hlater)) hclock
    exact Watched.Agrees.later (hagrees.step hcall hallowed) (hnow later hlater)

/-- Along every history the calls raise nothing and answer as the map does exactly when no
`get` or `exists` comes on an expiry time that has outlived its entry, and no `set` gives an
expiry time that no `datetime` holds. -/
theorem cache_meets_iff_allowed (calls : List (DateTime × CacheCall V))
    (hpos : ∀ call ∈ calls, call.2.TtlPositive)
    (hclock : calls.Pairwise fun call later => call.1 ≤ later.1) :
    EachStep Watched.step Watched.Meets calls Watched.initial ↔
      EachStep Watched.step Watched.Allowed calls Watched.initial :=
  Watched.Agrees.run (fun call _ => Watched.agrees_initial call.1) hpos hclock

/-- A key is set for a second, set again for good and asked for two seconds later. -/
def overwritten : List (DateTime × CacheCall String) :=
  [(0, .set "shipment" "created" (some (.int 1))), (0, .set "shipment" "delivered" none),
    (2000000, .get "shipment")]

theorem overwritten_ttlPositive : ∀ call ∈ overwritten, call.2.TtlPositive := by
  simp [overwritten, CacheCall.TtlPositive, Ttl.microseconds]

theorem overwritten_clock : overwritten.Pairwise fun call later => call.1 ≤ later.1 := by
  simp [overwritten]

theorem cache_meets_iff_allowed_overwritten :
    EachStep Watched.step Watched.Meets overwritten Watched.initial ↔
      EachStep Watched.step Watched.Allowed overwritten Watched.initial :=
  cache_meets_iff_allowed overwritten overwritten_ttlPositive overwritten_clock

/-- The expiry time of the first `set` takes the value of the second one away. -/
theorem overwritten_lost :
    ¬ ∀ calls : List (DateTime × CacheCall String), (∀ call ∈ calls, call.2.TtlPositive) →
      (calls.Pairwise fun call later => call.1 ≤ later.1) →
        EachStep Watched.step Watched.Meets calls Watched.initial := by
  intro h
  obtain ⟨-, -, hget, -⟩ := h overwritten overwritten_ttlPositive overwritten_clock
  have hlost : (Except.ok none : Except CacheError (Option String)) = .ok (some "delivered") :=
    hget
  cases hlost

end InMemoryCache

end SupplyChainTracker
