import SupplyChainTracker.Libs.InMemoryDelivery
import SupplyChainTracker.Libs.Kafka
import SupplyChainTracker.Python.Value

/-!
# The two adapters compared

One adapter writes an event as JSON text and the other keeps its `dict`, so they deliver the same
event when it is built from what JSON has, and only then.
-/

namespace SupplyChainTracker

/-- An `Event` whose payload is any value of Python. -/
structure PyEvent (T : Type) where
  eventType : PyStr
  aggregateId : UUID
  aggregateType : PyStr
  payload : PyValue
  eventId : UUID
  timestamp : T
  correlationId : Option UUID

variable {T : Type}

/-- The event as an object of untyped data. -/
def PyEvent.toObject (e : PyEvent T) : EventObject PyValue T :=
  ⟨.str e.eventType, e.aggregateId, .str e.aggregateType, e.payload, e.eventId, e.timestamp,
    e.correlationId⟩

/-- `event == other`, which compares the fields. -/
structure EventObject.Equal (e other : EventObject PyValue T) : Prop where
  eventType : e.eventType.eq other.eventType = true
  aggregateId : e.aggregateId = other.aggregateId
  aggregateType : e.aggregateType.eq other.aggregateType = true
  payload : e.payload.eq other.payload = true
  eventId : e.eventId = other.eventId
  timestamp : e.timestamp = other.timestamp
  correlationId : e.correlationId = other.correlationId

/-- The codec does what the standard library does, below its limit on the depth of values and on
texts without floats. -/
structure JsonCodec.Standard (json : JsonCodec PyValue) (floatRepr : PyStr → PyStr) : Prop where
  dumps_eq : ∀ value, json.dumps value =
    value.toJson.map fun tree => (JsonEncoder.encode tree).toText
  loads_eq : ∀ text tree, JsonDecoder.loads floatRepr (.ofString text) = .ok tree →
    tree.FloatFree → json.loads text = .ok (.ofJson tree)

/-- `publish_event` in memory: nothing in its body raises. -/
def InMemory.publishEvent {V : Type} [PyData V] (time : DateTimeCodec T) (e : EventObject V T)
    (topics : List String) (s : InMemory.ClassState V) :
    Except PyError (InMemory.ClassState V) :=
  .ok (s.publish time (.event e) topics)

/-- The adapters do the same with an event: what Kafka sends is consumed as an event equal to the
one that is consumed in memory, and what it refuses is refused in memory. -/
structure Interchangeable (json : JsonCodec PyValue) (time : DateTimeCodec T)
    (hash : List String → Int) (topic : String) (e : EventObject PyValue T) : Prop where
  equal : ∀ bytes, KafkaEventQueueAdapter.publishEvent json time e = .ok bytes →
    ∃ fromKafka inMemory,
      KafkaEventQueueAdapter.consumeEvent json time [some bytes] = ([fromKafka], none) ∧
      InMemory.World.consumed time hash topic (.event e) = [.event inMemory] ∧
      fromKafka.Equal inMemory
  refused : ∀ error, KafkaEventQueueAdapter.publishEvent json time e = .error error →
    ∀ s, ∃ error, InMemory.publishEvent time e [topic] s = .error error

/-- What is written is read as the value that comes back through JSON. -/
theorem JsonCodec.Standard.readsAs {json : JsonCodec PyValue} {floatRepr : PyStr → PyStr}
    (hstandard : json.Standard floatRepr) {value : PyValue} {tree : JsonValue}
    (h : value.toJson = .ok tree) : json.ReadsAs value (.ofJson tree.throughJson) := by
  obtain ⟨hfloat, hint⟩ := PyValue.scalars_of_toJson h
  refine ⟨(JsonEncoder.encode tree).toText, ?_, hstandard.loads_eq _ _ ?_ hfloat.throughJson⟩
  · rw [hstandard.dumps_eq, h]
    rfl
  · rw [PyStr.ofString_toText (JsonDecoder.ascii_encode hfloat)]
    exact JsonDecoder.loads_encode hfloat hint

namespace PyEvent

/-- The event is built from what JSON has. -/
structure Portable (e : PyEvent T) : Prop where
  eventType : e.eventType.Joined
  aggregateType : e.aggregateType.Joined
  payload : e.payload.JsonTree

/-- What Kafka delivers of an event whose payload has been written as a tree. -/
def received (e : PyEvent T) (payload : JsonValue) : PyEvent T := { e with
  eventType := e.eventType.joinSurrogates
  aggregateType := e.aggregateType.joinSurrogates
  payload := .ofJson payload.throughJson }

/-- The tree of `str(correlation_id) if correlation_id else None`. -/
def correlationTree : Option UUID → JsonValue
  | some correlationId => .str (.ofString correlationId.str)
  | none => .none

/-- The tree that is written for an event whose payload is written as a tree. -/
def tree (time : DateTimeCodec T) (e : PyEvent T) (payload : JsonValue) : JsonValue := .dict [
  (.ofString "event_id", .str (.ofString e.eventId.str)),
  (.ofString "event_type", .str e.eventType),
  (.ofString "aggregate_id", .str (.ofString e.aggregateId.str)),
  (.ofString "aggregate_type", .str e.aggregateType),
  (.ofString "payload", payload),
  (.ofString "timestamp", .str (.ofString (time.isoformat e.timestamp))),
  (.ofString "correlation_id", correlationTree e.correlationId)]

variable {time : DateTimeCodec T} (e : PyEvent T)

/-- An event is written if its payload can be. -/
theorem toJson_toDict : (e.toObject.toDict time).toJson =
    e.payload.toJson >>= fun payload => .ok (e.tree time payload) := by
  obtain ⟨eventType, aggregateId, aggregateType, payload, eventId, timestamp, correlationId⟩ := e
  simp only [EventObject.toDict, toObject, PyData.pyDict, PyData.pyStr, List.map_cons,
    List.map_nil, PyValue.toJson, PyValue.toJsonItems, PyValue.jsonKey]
  cases payload.toJson with
  | error error => rfl
  | ok payload =>
    cases correlationId with
    | none => rfl
    | some correlationId => rfl

/-- What comes of the tree of an event through JSON is the `dict` of the event that Kafka
delivers. -/
theorem ofJson_throughJson_tree (payload : JsonValue) :
    PyValue.ofJson (e.tree time payload).throughJson =
      (e.received payload).toObject.toDict time := by
  have hkeys : (["event_id", "event_type", "aggregate_id", "aggregate_type", "payload",
      "timestamp", "correlation_id"].map PyStr.ofString).Nodup := by
    refine List.Nodup.map (fun _ _ => PyStr.ofString_inj.mp) ?_
    decide
  have hcorrelationId : (correlationTree e.correlationId).throughJson =
      correlationTree e.correlationId := by
    cases e.correlationId with
    | none => rfl
    | some correlationId =>
      exact congrArg JsonValue.str (PyStr.joinSurrogates_ofString correlationId.str)
  rw [tree, JsonValue.throughJson, JsonValue.throughJsonItems_eq]
  simp only [List.map_cons, List.map_nil, PyStr.joinSurrogates_ofString, JsonValue.throughJson,
    hcorrelationId]
  rw [JsonDecoder.dictOfPairs_of_nodup (by exact hkeys)]
  obtain ⟨eventType, aggregateId, aggregateType, _, eventId, timestamp, correlationId⟩ := e
  cases correlationId with
  | none => rfl
  | some correlationId => rfl

variable {json : JsonCodec PyValue} {floatRepr : PyStr → PyStr} {payload : JsonValue}

/-- Kafka sends an event whose payload can be written, and what it delivers of it. -/
theorem exists_publishEvent (hstandard : json.Standard floatRepr)
    (hjson : e.payload.toJson = .ok payload) (htime : time.ReadsBack e.timestamp) :
    ∃ bytes, KafkaEventQueueAdapter.publishEvent json time e.toObject = .ok bytes ∧
      KafkaEventQueueAdapter.consumeEvent json time [some bytes] =
        ([(e.received payload).toObject], none) := by
  have htree : (e.toObject.toDict time).toJson = .ok (e.tree time payload) := by
    rw [e.toJson_toDict, hjson]
    rfl
  have hreads := hstandard.readsAs htree
  rw [e.ofJson_throughJson_tree] at hreads
  obtain ⟨bytes, hbytes, hcarries⟩ := KafkaEventQueueAdapter.carries_serialize hreads
  have hread : KafkaEventQueueAdapter.readEvent json time (some bytes) =
      .ok (e.received payload).toObject :=
    KafkaEventQueueAdapter.readEvent_eq_ok_iff.mpr
      ⟨_, hcarries, EventObject.fields_toDict (e := (e.received payload).toObject) htime⟩
  refine ⟨bytes, hbytes, ?_⟩
  simp only [KafkaEventQueueAdapter.consumeEvent, consumeEach, hread]

/-- Kafka refuses the events whose payload cannot be written. -/
theorem publishEvent_error {error : PyError} (hstandard : json.Standard floatRepr)
    (hjson : e.payload.toJson = .error error) :
    KafkaEventQueueAdapter.publishEvent json time e.toObject = .error error := by
  have hdumps : json.dumps (e.toObject.toDict time) = .error error := by
    rw [hstandard.dumps_eq, e.toJson_toDict, hjson]
    rfl
  exact bind_eq_error_iff.mpr (.inl hdumps)

/-- What Kafka delivers is equal to the event if its texts and its payload have come through. -/
theorem equal_received_iff : (e.received payload).toObject.Equal e.toObject ↔
    e.eventType.Joined ∧ e.aggregateType.Joined ∧
      (PyValue.ofJson payload.throughJson).eq e.payload = true := by
  have htext : ∀ text : PyStr,
      (PyValue.str text.joinSurrogates).eq (.str text) = true ↔ text.Joined := by
    intro text
    rw [← PyStr.joinSurrogates_eq_self_iff]
    simp [PyValue.eq, PyValue.text?, eq_comm]
  constructor
  · exact fun h => ⟨(htext _).mp h.eventType, (htext _).mp h.aggregateType, h.payload⟩
  · rintro ⟨heventType, haggregateType, hpayload⟩
    exact ⟨(htext _).mpr heventType, rfl, (htext _).mpr haggregateType, hpayload, rfl, rfl, rfl⟩

variable {hash : List String → Int} {topic : String}

/-- In memory an event is consumed as it is. -/
theorem consumed_toObject (htime : time.ReadsBack e.timestamp) :
    InMemory.World.consumed time hash topic (.event e.toObject) = [.event e.toObject] :=
  InMemory.World.consumed_eq hash topic htime

/-- An event that the adapters treat alike is built from what JSON has: nothing is refused in
memory, so Kafka has written the payload, and delivers an equal one. -/
theorem portable_of_interchangeable (htime : time.ReadsBack e.timestamp)
    (hstandard : json.Standard floatRepr)
    (h : Interchangeable json time hash topic e.toObject) : e.Portable := by
  cases hjson : e.payload.toJson with
  | error error =>
    obtain ⟨_, hrefused⟩ :=
      h.refused error (e.publishEvent_error hstandard hjson) ⟨fun _ _ => [], fun _ => false⟩
    cases hrefused
  | ok payload =>
    obtain ⟨bytes, hbytes, hkafka⟩ := e.exists_publishEvent hstandard hjson htime
    obtain ⟨fromKafka, inMemory, hkafka', hmemory, hequal⟩ := h.equal bytes hbytes
    rw [hkafka] at hkafka'
    rw [e.consumed_toObject htime] at hmemory
    cases hkafka'
    cases hmemory
    obtain ⟨heventType, haggregateType, hpayload⟩ := e.equal_received_iff.mp hequal
    exact ⟨heventType, haggregateType, PyValue.jsonTree_of_eq hjson hpayload⟩

/-- The adapters treat an event alike that is built from what JSON has. -/
theorem interchangeable_of_portable (htime : time.ReadsBack e.timestamp)
    (hstandard : json.Standard floatRepr) (h : e.Portable) :
    Interchangeable json time hash topic e.toObject := by
  obtain ⟨payload, hjson, hthrough, hofJson⟩ := h.payload.exists_toJson
  obtain ⟨bytes, hbytes, hkafka⟩ := e.exists_publishEvent hstandard hjson htime
  constructor
  · intro bytes' hbytes'
    cases hbytes.symm.trans hbytes'
    refine ⟨_, _, hkafka, e.consumed_toObject htime, ?_⟩
    refine e.equal_received_iff.mpr ⟨h.eventType, h.aggregateType, ?_⟩
    rw [hthrough, hofJson]
    exact PyValue.eq_refl _
  · intro error herror
    cases hbytes.symm.trans herror

end PyEvent

/-- The standard library on texts without floats. -/
def standardJson : JsonCodec PyValue where
  dumps value := value.toJson.map fun tree => (JsonEncoder.encode tree).toText
  loads text :=
    match JsonDecoder.loads id (.ofString text) with
    | .ok tree => .ok (.ofJson tree)
    | .error _ => .error "Expecting value: line 1 column 1 (char 0)"

theorem standard_standardJson : standardJson.Standard id where
  dumps_eq _ := rfl
  loads_eq text tree h _ := by
    simp only [standardJson, h]

/-- An event whose payload has one item. -/
def reservedEvent (key : PyValue) : PyEvent DateTime where
  eventType := .ofString "inventory.reserved"
  aggregateId := ⟨501⟩
  aggregateType := .ofString "warehouse"
  payload := .dict [(key, .str (.ofString "crate"))]
  eventId := ⟨502⟩
  timestamp := 1735733700000000
  correlationId := some ⟨503⟩

end SupplyChainTracker
