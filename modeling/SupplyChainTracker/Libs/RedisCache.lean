import SupplyChainTracker.Libs.Cache
import SupplyChainTracker.Python.JsonRoundTrip

/-!
# The Redis cache

`RedisCacheAdapter` keeps a text for a value. `set` chooses the text by the type of the value, but
`get` has only the text: it returns what `json.loads` reads from it, and the text itself where that
fails. So a boolean comes back as a text, and a text that is JSON as what it stands for, where
`InMemoryCacheAdapter` returns the value that was set.
-/

namespace SupplyChainTracker

open JsonDecoder (loads)
open JsonEncoder (Convertible Convertibles convertibles_scalar dumps encode intRepr)

/-- The texts in Redis, with the times up to which they are kept. -/
abbrev RedisTexts : Type := TtlMap String PyStr DateTime

/-- `RedisCacheAdapter`. -/
structure RedisCacheAdapter where
  servicePrefix : String
  defaultTtl : Int

namespace RedisCacheAdapter

variable (adapter : RedisCacheAdapter)

/-- `_make_key`. -/
def makeKey (key : String) : String :=
  if adapter.servicePrefix ≠ "" then adapter.servicePrefix ++ ":" ++ key else key

/-- The text that `set` writes for a value that is no model. -/
def serialize : JsonValue → Except JsonError PyStr
  | .dict items => dumps (.dict items)
  | .list items => dumps (.list items)
  | .none => .ok (.ofString "None")
  | .bool value => .ok (.ofString (if value then "True" else "False"))
  | .int value => intRepr value
  | .float repr => .ok repr
  | .str text => .ok text

/-- The seconds that Redis is told to keep a text: the client takes the whole seconds of a
`timedelta`. -/
def expirySeconds : Option Ttl → Int
  | none => adapter.defaultTtl
  | some (.int seconds) => seconds
  | some (.timedelta microseconds) => microseconds.tdiv 1000000

/-- `set`. Redis refuses a time to live that is not positive. -/
def set (server : RedisTexts) (now : DateTime) (key : String) (value : JsonValue)
    (ttl : Option Ttl) : Bool × RedisTexts :=
  match serialize value with
  | .ok text =>
      if 0 < adapter.expirySeconds ttl then
        (true, fun k =>
          if k = adapter.makeKey key then
            some ⟨text, some (now + adapter.expirySeconds ttl * 1000000)⟩
          else server k)
      else (false, server)
  | .error _ => (false, server)

section Get

-- `repr(float(literal))`.
variable (floatRepr : PyStr → PyStr)

/-- What `get` makes of a text: `None` where `json.loads` raises anything but a
`JSONDecodeError`. -/
def deserialize (text : PyStr) : JsonValue :=
  match loads floatRepr text with
  | .ok data => data
  | .error .jsonDecodeError => .str text
  | .error _ => .none

/-- `get` without a model. -/
def get (server : RedisTexts) (now : DateTime) (key : String) : JsonValue :=
  match server.lookup (adapter.makeKey key) now with
  | none => .none
  | some text => deserialize floatRepr text

/-- A value comes back from its text: a text if it is not JSON, an integer if it can be converted,
and a list or a `dict` if its integers can and no text in it has a high surrogate before a low
one. -/
def Survives : JsonValue → Prop
  | .str text => loads floatRepr text = .error .jsonDecodeError
  | .int value => Convertible value
  | .list items => Convertibles (.list items) ∧ (JsonValue.list items).Joined
  | .dict items => Convertibles (.dict items) ∧ (JsonValue.dict items).Joined
  | .none | .bool _ | .float _ => False

end Get

variable {adapter} {floatRepr : PyStr → PyStr} {value : JsonValue}

/-- The texts of the booleans and of `None` are not JSON. -/
theorem loads_of_python_constant {text : String} (h : text ∈ ["None", "True", "False"]) :
    loads floatRepr (.ofString text) = .error .jsonDecodeError := by
  simp only [List.mem_cons, List.not_mem_nil, or_false] at h
  rcases h with rfl | rfl | rfl
  · exact JsonDecoder.loads_of_no_value (c := CodePoint.ofChar 'N') (by decide)
      (show _ = _ :: PyStr.ofString "one" by decide) (by decide) (by decide) (by decide)
  · exact JsonDecoder.loads_of_no_value (c := CodePoint.ofChar 'T') (by decide)
      (show _ = _ :: PyStr.ofString "rue" by decide) (by decide) (by decide) (by decide)
  · exact JsonDecoder.loads_of_no_value (c := CodePoint.ofChar 'F') (by decide)
      (show _ = _ :: PyStr.ofString "alse" by decide) (by decide) (by decide) (by decide)

/-- What `get` makes of a text has no integer that could not have been written. -/
theorem convertibles_deserialize (text : PyStr) : Convertibles (deserialize floatRepr text) := by
  unfold deserialize
  split
  · rename_i data h
    exact (JsonDecoder.accepted_of_loads h).convertibles
  · exact convertibles_scalar (by simp) (by simp) (by simp)
  · exact convertibles_scalar (by simp) (by simp) (by simp)

theorem convertibles_get (server : RedisTexts) (now : DateTime) (key : String) :
    Convertibles (adapter.get floatRepr server now key) := by
  unfold get
  split
  · exact convertibles_scalar (by simp) (by simp) (by simp)
  · exact convertibles_deserialize _

/-- A text is made of every value whose integers can be converted. -/
theorem exists_serialize (h : Convertibles value) : ∃ text, serialize value = .ok text := by
  cases value with
  | int n =>
    have hn : Convertible n := h n (by simp [JsonValue.scalars])
    exact ⟨JsonEncoder.intText n, by rw [serialize, intRepr, if_pos hn]⟩
  | list items => exact ⟨_, JsonEncoder.dumps_of_convertibles h⟩
  | dict items => exact ⟨_, JsonEncoder.dumps_of_convertibles h⟩
  | _ => exact ⟨_, rfl⟩

theorem Survives.convertibles (h : Survives floatRepr value) : Convertibles value := by
  cases value with
  | str text => exact convertibles_scalar (by simp) (by simp) (by simp)
  | int value =>
    rw [Survives] at h
    refine convertibles_scalar (by simp) (by simp) fun n hn => ?_
    cases hn
    exact h
  | list items => exact h.1
  | dict items => exact h.1
  | none => exact h.elim
  | bool value => exact h.elim
  | float repr => exact h.elim

/-- A text comes back as it is exactly if it is not JSON. -/
theorem deserialize_text_iff {text : PyStr} :
    deserialize floatRepr text = .str text ↔ loads floatRepr text = .error .jsonDecodeError := by
  unfold deserialize
  split
  · rename_i data h
    refine iff_of_false ?_ (by rw [h]; simp)
    rintro rfl
    exact JsonDecoder.loads_ne_self text h
  · rename_i h
    exact iff_of_true rfl h
  · rename_i error hne h
    rw [h]
    exact iff_of_false (by simp) (by simpa using hne)

/-- A list or a `dict` comes back exactly if there are no surrogates to be joined in it. -/
theorem deserialize_encode_iff (hwf : value.WellFormed) (hfloat : value.FloatFree)
    (hint : Convertibles value) : deserialize floatRepr (encode value) = value ↔ value.Joined := by
  have hok : loads floatRepr (encode value) = .ok value.throughJson :=
    JsonDecoder.loads_encode hfloat hint
  have hback : deserialize floatRepr (encode value) = value.throughJson := by
    rw [deserialize, hok]
  rw [hback, ← JsonDecoder.loads_encode_iff hwf hfloat hint, hok, Except.ok.injEq]

/-- What `get` makes of the text of a value is the value exactly if it survives. -/
theorem deserialize_serialize_iff (hwf : value.WellFormed) (hfloat : value.FloatFree)
    (hint : Convertibles value) {text : PyStr} (h : serialize value = .ok text) :
    deserialize floatRepr text = value ↔ Survives floatRepr value := by
  have hconstant : ∀ name ∈ ["None", "True", "False"],
      deserialize floatRepr (.ofString name) = .str (.ofString name) :=
    fun name hname => deserialize_text_iff.mpr (loads_of_python_constant hname)
  cases value with
  | none =>
    cases h
    rw [hconstant _ (by simp)]
    exact iff_of_false (by simp) id
  | bool value =>
    cases h
    cases value with
    | true =>
      rw [if_pos rfl, hconstant _ (by simp)]
      exact iff_of_false (by simp) id
    | false =>
      rw [if_neg (by simp), hconstant _ (by simp)]
      exact iff_of_false (by simp) id
  | int n =>
    have hn : Convertible n := hint n (by simp [JsonValue.scalars])
    rw [serialize, intRepr, if_pos hn] at h
    cases h
    have hjoined : (JsonValue.int n).Joined := fun text htext => by
      simp [JsonValue.scalars] at htext
    exact iff_of_true ((deserialize_encode_iff hwf hfloat hint).mpr hjoined) hn
  | float repr => exact absurd (by simp [JsonValue.scalars]) (hfloat repr)
  | str s =>
    cases h
    exact deserialize_text_iff
  | list items =>
    rw [serialize, JsonEncoder.dumps_of_convertibles hint] at h
    cases h
    rw [deserialize_encode_iff hwf hfloat hint, Survives, and_iff_right hint]
  | dict items =>
    rw [serialize, JsonEncoder.dumps_of_convertibles hint] at h
    cases h
    rw [deserialize_encode_iff hwf hfloat hint, Survives, and_iff_right hint]

section AfterSet

variable {server : RedisTexts} {now later : DateTime} {key : String}

/-- Before its expiry the text that was set is read. -/
theorem get_set {text : PyStr} (h : serialize value = .ok text) (hle : now ≤ later)
    (hexpiry : later < now + adapter.defaultTtl * 1000000) :
    adapter.get floatRepr (adapter.set server now key value none).2 later key =
      deserialize floatRepr text := by
  have hpos : 0 < adapter.expirySeconds none := by
    have hseconds : adapter.expirySeconds none = adapter.defaultTtl := rfl
    rw [hseconds]
    unfold DateTime at *
    omega
  have hlookup : (adapter.set server now key value none).2.lookup (adapter.makeKey key) later =
      some text := by
    simp only [set, h, if_pos hpos, TtlMap.lookup, if_true, Option.bind_some]
    exact TtlEntry.read_of_le text hexpiry.le
  simp only [get, hlookup]

/-- Where no text is made of the value, nothing that is read is the value. -/
theorem get_ne_of_not_convertibles (h : ¬ Convertibles value) :
    adapter.get floatRepr server later key ≠ value := by
  rintro rfl
  exact h (convertibles_get server later key)

/-- A `get` after a `set`, before any expiry, returns the value from the cache in memory, and from
Redis exactly if the value survives. -/
theorem get_after_set_iff (adapter : RedisCacheAdapter) (floatRepr : PyStr → PyStr)
    (server : RedisTexts) (cache : InMemoryCache JsonValue) (key : String) {value : JsonValue}
    (hwf : value.WellFormed) (hfloat : value.FloatFree) {now later : DateTime} (hle : now ≤ later)
    (hexpiry : later < now + adapter.defaultTtl * 1000000)
    (hfresh : cache.expired key later = false) :
    (InMemoryCache.act later (.get key)
        (InMemoryCache.act now (.set key value none) cache).2).1 = .ok (some value) ∧
      (adapter.get floatRepr (adapter.set server now key value none).2 later key = value ↔
        Survives floatRepr value) := by
  constructor
  · have hsame : (InMemoryCache.act now (.set key value none) cache).2.expired key later = false :=
      hfresh
    rw [InMemoryCache.act, if_neg (by rw [hsame]; simp)]
    simp [InMemoryCache.act]
  · by_cases hint : Convertibles value
    · obtain ⟨text, htext⟩ := exists_serialize hint
      rw [get_set htext hle hexpiry]
      exact deserialize_serialize_iff hwf hfloat hint htext
    · exact iff_of_false (get_ne_of_not_convertibles hint) fun h => hint h.convertibles

/-- The adapter of a service with the default time to live. -/
def sampleAdapter : RedisCacheAdapter := ⟨"shipment", 3600⟩

theorem get_after_set_iff_sample :
    (InMemoryCache.act 1 (.get "delivered")
        (InMemoryCache.act 0 (.set "delivered" (JsonValue.bool true) none) .empty).2).1 =
          .ok (some (JsonValue.bool true)) ∧
      (sampleAdapter.get id (sampleAdapter.set (fun _ => none) 0 "delivered" (.bool true) none).2 1
        "delivered" = .bool true ↔ Survives id (.bool true)) :=
  get_after_set_iff sampleAdapter id (fun _ => none) .empty "delivered"
    (.scalar (by simp) (by simp)) (by simp [JsonValue.FloatFree, JsonValue.scalars]) (by decide)
    (by decide) rfl

/-- `True` comes back as the text `"True"`. -/
theorem get_after_set_true :
    ¬ ∀ (adapter : RedisCacheAdapter) (floatRepr : PyStr → PyStr) (server : RedisTexts)
      (key : String) (value : JsonValue) (now later : DateTime), value.WellFormed →
        value.FloatFree → value ≠ .none → now ≤ later →
          later < now + adapter.defaultTtl * 1000000 →
            adapter.get floatRepr (adapter.set server now key value none).2 later key = value := by
  intro h
  have htrue := h sampleAdapter id (fun _ => none) "delivered" (.bool true) 0 1
    (.scalar (by simp) (by simp)) (by simp [JsonValue.FloatFree, JsonValue.scalars]) (by simp)
    (by decide) (by decide)
  have htext : sampleAdapter.get id
      (sampleAdapter.set (fun _ => none) 0 "delivered" (.bool true) none).2 1 "delivered" =
        .str (.ofString "True") :=
    (get_set rfl (by decide) (by decide)).trans
      (deserialize_text_iff.mpr (loads_of_python_constant (by simp)))
  rw [htext] at htrue
  cases htrue

end AfterSet

end RedisCacheAdapter

end SupplyChainTracker
