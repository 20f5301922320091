import SupplyChainTracker.Libs.EventQueue
import SupplyChainTracker.Python.Data

/-!
# The wire format of messages

`from_dict` and `to_dict` of events and commands. The decoders parse identifiers and the
timestamp and take every other field as it comes, so that a decoded message has values of any
type for its types and its payload. How an instant is written is a parameter.
-/

namespace SupplyChainTracker

open PyData

/-- How instants are written and read; what `fromisoformat` raises on a text is a `ValueError`
with a message. -/
structure DateTimeCodec (T : Type) where
  isoformat : T → String
  fromisoformat : String → Except String T

/-- `json.dumps` and `json.loads`; what the latter raises is a `JSONDecodeError` with a
message. -/
structure JsonCodec (V : Type) where
  dumps : V → Except PyError String
  loads : String → Except String V

/-- `json.loads(text)`. -/
def JsonCodec.load {V : Type} (json : JsonCodec V) (text : String) : Except PyError V :=
  (json.loads text).mapError .jsonDecodeError

theorem JsonCodec.load_eq_ok_iff {V : Type} {json : JsonCodec V} {text : String} {data : V} :
    json.load text = .ok data ↔ json.loads text = .ok data := by
  unfold load
  cases json.loads text with
  | error message => exact iff_of_false (fun h => by cases h) (fun h => by cases h)
  | ok data' => simp [Except.mapError]

/-- An `Event` whose types nobody has checked. -/
structure EventObject (V T : Type) : Type where
  eventType : V
  aggregateId : UUID
  aggregateType : V
  payload : V
  eventId : UUID
  timestamp : T
  correlationId : Option UUID

/-- A `Command` whose type nobody has checked. -/
structure CommandObject (V : Type) : Type where
  commandType : V
  aggregateId : UUID
  payload : V
  commandId : UUID
  correlationId : Option UUID

section Decoding

variable {V T : Type} [PyData V]

namespace DateTimeCodec

variable (time : DateTimeCodec T)

/-- `datetime.fromisoformat(value)`. -/
def read (value : V) : Except PyError T :=
  match text? value with
  | some text => (time.fromisoformat text).mapError .valueError
  | none => .error (.typeError "fromisoformat: argument must be str")

/-- A text that can be parsed is read. -/
theorem read_eq_ok_iff {time : DateTimeCodec T} {value : V} {t : T} :
    time.read value = .ok t ↔
      ∃ text, text? value = some text ∧ time.fromisoformat text = .ok t := by
  unfold read
  cases text? value with
  | none => simp
  | some text =>
    simp only [Option.some.injEq, exists_eq_left']
    cases time.fromisoformat text with
    | error message => exact iff_of_false (fun h => by cases h) (fun h => by cases h)
    | ok t' => simp [Except.mapError]

/-- A written instant is read back. -/
def ReadsBack (t : T) : Prop := time.fromisoformat (time.isoformat t) = .ok t

end DateTimeCodec

/-- What is read of a written value. -/
def JsonCodec.ReadsAs (json : JsonCodec V) (value value' : V) : Prop :=
  ∃ text, json.dumps value = .ok text ∧ json.loads text = .ok value'

/-- A written value is read back. -/
def JsonCodec.ReadsBack (json : JsonCodec V) (value : V) : Prop := json.ReadsAs value value

/-- `str(correlation_id) if correlation_id else None`. -/
def writeCorrelationId : Option UUID → V
  | some correlationId => pyStr correlationId.str
  | none => pyNone

/-- `uuid.UUID(data['correlation_id']) if data.get('correlation_id') else None`. -/
def readCorrelationId (data : V) : Except PyError (Option UUID) := do
  match ← get data "correlation_id" with
  | some value => if truthy value then return some (← uuid value) else return none
  | none => return none

namespace EventObject

/-- `Event.from_dict`. -/
def fromDict (time : DateTimeCodec T) (data : V) : Except PyError (EventObject V T) := do
  let eventType ← subscript data "event_type"
  let aggregateId ← uuid (← subscript data "aggregate_id")
  let aggregateType ← subscript data "aggregate_type"
  let payload ← subscript data "payload"
  let eventId ← uuid (← subscript data "event_id")
  let timestamp ← time.read (← subscript data "timestamp")
  let correlationId ← readCorrelationId data
  return ⟨eventType, aggregateId, aggregateType, payload, eventId, timestamp, correlationId⟩

/-- `Event.from_json`. -/
def fromJson (json : JsonCodec V) (time : DateTimeCodec T) (text : String) :
    Except PyError (EventObject V T) := do
  fromDict time (← json.load text)

/-- `Event.to_dict`. -/
def toDict (time : DateTimeCodec T) (e : EventObject V T) : V := pyDict [
  ("event_id", pyStr e.eventId.str),
  ("event_type", e.eventType),
  ("aggregate_id", pyStr e.aggregateId.str),
  ("aggregate_type", e.aggregateType),
  ("payload", e.payload),
  ("timestamp", pyStr (time.isoformat e.timestamp)),
  ("correlation_id", writeCorrelationId e.correlationId)]

/-- `Event.to_json`. -/
def toJson (json : JsonCodec V) (time : DateTimeCodec T) (e : EventObject V T) :
    Except PyError String :=
  json.dumps (e.toDict time)

end EventObject

namespace CommandObject

/-- `Command.from_dict`. -/
def fromDict (data : V) : Except PyError (CommandObject V) := do
  let commandType ← subscript data "command_type"
  let aggregateId ← uuid (← subscript data "aggregate_id")
  let payload ← subscript data "payload"
  let commandId ← uuid (← subscript data "command_id")
  let correlationId ← readCorrelationId data
  return ⟨commandType, aggregateId, payload, commandId, correlationId⟩

/-- The `value` that `publish_command` of either adapter builds. -/
def toDict (c : CommandObject V) : V := pyDict [
  ("command_id", pyStr c.commandId.str),
  ("command_type", c.commandType),
  ("aggregate_id", pyStr c.aggregateId.str),
  ("payload", c.payload),
  ("correlation_id", writeCorrelationId c.correlationId)]

end CommandObject

/-- The `dict` has a text at a key that `uuid.UUID` accepts. -/
def HasUuid (data : V) (key : String) (id : UUID) : Prop :=
  ∃ value text, item? data key = some value ∧ text? value = some text ∧ UUID.parse text = some id

/-- The `dict` has a text at a key that `datetime.fromisoformat` accepts. -/
def HasTime (time : DateTimeCodec T) (data : V) (key : String) (t : T) : Prop :=
  ∃ value text, item? data key = some value ∧ text? value = some text ∧
    time.fromisoformat text = .ok t

/-- The correlation id of a `dict`: none where it is absent or falsy, else a text that
`uuid.UUID` accepts. -/
def HasCorrelationId (data : V) : Option UUID → Prop
  | some id => HasUuid data "correlation_id" id ∧
      ∀ value, item? data "correlation_id" = some value → truthy value = true
  | none => ∀ value, item? data "correlation_id" = some value → truthy value = false

/-- A `dict` has the fields of an event. -/
structure EventObject.Fields (time : DateTimeCodec T) (data : V) (e : EventObject V T) : Prop where
  eventType : item? data "event_type" = some e.eventType
  aggregateId : HasUuid data "aggregate_id" e.aggregateId
  aggregateType : item? data "aggregate_type" = some e.aggregateType
  payload : item? data "payload" = some e.payload
  eventId : HasUuid data "event_id" e.eventId
  timestamp : HasTime time data "timestamp" e.timestamp
  correlationId : HasCorrelationId data e.correlationId

/-- A `dict` has the fields of a command. -/
structure CommandObject.Fields (data : V) (c : CommandObject V) : Prop where
  commandType : item? data "command_type" = some c.commandType
  aggregateId : HasUuid data "aggregate_id" c.aggregateId
  payload : item? data "payload" = some c.payload
  commandId : HasUuid data "command_id" c.commandId
  correlationId : HasCorrelationId data c.correlationId

theorem hasUuid_iff {data : V} {key : String} {id : UUID} :
    HasUuid data key id ↔ ∃ value, subscript data key = .ok value ∧ uuid value = .ok id := by
  simp only [HasUuid, subscript_eq_ok_iff, uuid_eq_ok_iff, exists_and_left]

theorem hasTime_iff {time : DateTimeCodec T} {data : V} {key : String} {t : T} :
    HasTime time data key t ↔
      ∃ value, subscript data key = .ok value ∧ time.read value = .ok t := by
  simp only [HasTime, subscript_eq_ok_iff, DateTimeCodec.read_eq_ok_iff, exists_and_left]

section CorrelationId

variable {data value : V} {correlationId : Option UUID}

theorem readCorrelationId_of_absent (hdict : isDict data = true)
    (h : item? data "correlation_id" = none) : readCorrelationId data = .ok none := by
  have hget : get data "correlation_id" = .ok (item? data "correlation_id") :=
    get_eq_ok_iff.mpr ⟨hdict, rfl⟩
  rw [readCorrelationId, hget, h]
  rfl

/-- Only a correlation id that is truthy is parsed. -/
theorem readCorrelationId_of_item? (h : item? data "correlation_id" = some value) :
    readCorrelationId data =
      if truthy value then uuid value >>= fun id => .ok (some id) else .ok none := by
  have hget : get data "correlation_id" = .ok (item? data "correlation_id") :=
    get_eq_ok_iff.mpr ⟨isDict_of_item? h, rfl⟩
  rw [readCorrelationId, hget, h]
  rfl

theorem hasCorrelationId_of_absent (h : item? data "correlation_id" = none) :
    HasCorrelationId data correlationId ↔ correlationId = none := by
  cases correlationId with
  | none => simp [HasCorrelationId, h]
  | some id => simp [HasCorrelationId, HasUuid, h]

theorem hasCorrelationId_of_falsy (h : item? data "correlation_id" = some value)
    (hfalsy : truthy value = false) :
    HasCorrelationId data correlationId ↔ correlationId = none := by
  cases correlationId with
  | none => simp [HasCorrelationId, h, hfalsy]
  | some id => simp [HasCorrelationId, h, hfalsy]

theorem hasCorrelationId_of_truthy (h : item? data "correlation_id" = some value)
    (htruthy : truthy value = true) :
    HasCorrelationId data correlationId ↔ ∃ id, uuid value = .ok id ∧ some id = correlationId := by
  cases correlationId with
  | none => simp [HasCorrelationId, h, htruthy]
  | some id => simp [HasCorrelationId, HasUuid, h, htruthy, uuid_eq_ok_iff]

/-- In a `dict` the decoder finds the correlation id. -/
theorem readCorrelationId_eq_ok_iff (hdict : isDict data = true) :
    readCorrelationId data = .ok correlationId ↔ HasCorrelationId data correlationId := by
  cases hitem : item? data "correlation_id" with
  | none =>
    rw [readCorrelationId_of_absent hdict hitem, hasCorrelationId_of_absent hitem]
    simp [eq_comm]
  | some value =>
    rw [readCorrelationId_of_item? hitem]
    by_cases htruthy : truthy value = true
    · rw [if_pos htruthy, hasCorrelationId_of_truthy hitem htruthy, bind_eq_ok_iff]
      simp only [Except.ok.injEq]
    · have hfalsy : truthy value = false := by simpa using htruthy
      rw [if_neg htruthy, hasCorrelationId_of_falsy hitem hfalsy]
      simp [eq_comm]

end CorrelationId

/-- `Event.from_dict` accepts exactly the `dict`s with the fields of an event. -/
theorem EventObject.fromDict_eq_ok_iff {time : DateTimeCodec T} {data : V} {e : EventObject V T} :
    fromDict time data = .ok e ↔ Fields time data e := by
  constructor
  · intro h
    obtain ⟨eventType, heventType, h⟩ := bind_eq_ok_iff.mp h
    obtain ⟨rawAggregateId, hrawAggregateId, h⟩ := bind_eq_ok_iff.mp h
    obtain ⟨aggregateId, haggregateId, h⟩ := bind_eq_ok_iff.mp h
    obtain ⟨aggregateType, haggregateType, h⟩ := bind_eq_ok_iff.mp h
    obtain ⟨payload, hpayload, h⟩ := bind_eq_ok_iff.mp h
    obtain ⟨rawEventId, hrawEventId, h⟩ := bind_eq_ok_iff.mp h
    obtain ⟨eventId, heventId, h⟩ := bind_eq_ok_iff.mp h
    obtain ⟨rawTimestamp, hrawTimestamp, h⟩ := bind_eq_ok_iff.mp h
    obtain ⟨timestamp, htimestamp, h⟩ := bind_eq_ok_iff.mp h
    obtain ⟨correlationId, hcorrelationId, h⟩ := bind_eq_ok_iff.mp h
    cases h
    have hdict := isDict_of_item? (subscript_eq_ok_iff.mp heventType)
    exact ⟨subscript_eq_ok_iff.mp heventType,
      hasUuid_iff.mpr ⟨rawAggregateId, hrawAggregateId, haggregateId⟩,
      subscript_eq_ok_iff.mp haggregateType, subscript_eq_ok_iff.mp hpayload,
      hasUuid_iff.mpr ⟨rawEventId, hrawEventId, heventId⟩,
      hasTime_iff.mpr ⟨rawTimestamp, hrawTimestamp, htimestamp⟩,
      (readCorrelationId_eq_ok_iff hdict).mp hcorrelationId⟩
  · intro h
    obtain ⟨rawAggregateId, hrawAggregateId, haggregateId⟩ := hasUuid_iff.mp h.aggregateId
    obtain ⟨rawEventId, hrawEventId, heventId⟩ := hasUuid_iff.mp h.eventId
    obtain ⟨rawTimestamp, hrawTimestamp, htimestamp⟩ := hasTime_iff.mp h.timestamp
    have hcorrelationId :=
      (readCorrelationId_eq_ok_iff (isDict_of_item? h.eventType)).mpr h.correlationId
    have heventType := subscript_eq_ok_iff.mpr h.eventType
    have haggregateType := subscript_eq_ok_iff.mpr h.aggregateType
    have hpayload := subscript_eq_ok_iff.mpr h.payload
    simp only [fromDict, heventType, hrawAggregateId, haggregateId, haggregateType, hpayload,
      hrawEventId, heventId, hrawTimestamp, htimestamp, hcorrelationId, bind, Except.bind, pure,
      Except.pure]

/-- `Command.from_dict` accepts exactly the `dict`s with the fields of a command. -/
theorem CommandObject.fromDict_eq_ok_iff {data : V} {c : CommandObject V} :
    fromDict data = .ok c ↔ Fields data c := by
  constructor
  · intro h
    obtain ⟨commandType, hcommandType, h⟩ := bind_eq_ok_iff.mp h
    obtain ⟨rawAggregateId, hrawAggregateId, h⟩ := bind_eq_ok_iff.mp h
    obtain ⟨aggregateId, haggregateId, h⟩ := bind_eq_ok_iff.mp h
    obtain ⟨payload, hpayload, h⟩ := bind_eq_ok_iff.mp h
    obtain ⟨rawCommandId, hrawCommandId, h⟩ := bind_eq_ok_iff.mp h
    obtain ⟨commandId, hcommandId, h⟩ := bind_eq_ok_iff.mp h
    obtain ⟨correlationId, hcorrelationId, h⟩ := bind_eq_ok_iff.mp h
    cases h
    have hdict := isDict_of_item? (subscript_eq_ok_iff.mp hcommandType)
    exact ⟨subscript_eq_ok_iff.mp hcommandType,
      hasUuid_iff.mpr ⟨rawAggregateId, hrawAggregateId, haggregateId⟩,
      subscript_eq_ok_iff.mp hpayload,
      hasUuid_iff.mpr ⟨rawCommandId, hrawCommandId, hcommandId⟩,
      (readCorrelationId_eq_ok_iff hdict).mp hcorrelationId⟩
  · intro h
    obtain ⟨rawAggregateId, hrawAggregateId, haggregateId⟩ := hasUuid_iff.mp h.aggregateId
    obtain ⟨rawCommandId, hrawCommandId, hcommandId⟩ := hasUuid_iff.mp h.commandId
    have hcorrelationId :=
      (readCorrelationId_eq_ok_iff (isDict_of_item? h.commandType)).mpr h.correlationId
    have hcommandType := subscript_eq_ok_iff.mpr h.commandType
    have hpayload := subscript_eq_ok_iff.mpr h.payload
    simp only [fromDict, hcommandType, hrawAggregateId, haggregateId, hpayload, hrawCommandId,
      hcommandId, hcorrelationId, bind, Except.bind, pure, Except.pure]

/-- A written correlation id is the one that is found. -/
theorem hasCorrelationId_pyDict {items : List (String × V)} {correlationId : Option UUID}
    (h : items.lookup "correlation_id" = some (writeCorrelationId correlationId)) :
    HasCorrelationId (pyDict items) correlationId := by
  have hitem : item? (pyDict items) "correlation_id" = some (writeCorrelationId correlationId) :=
    (item?_pyDict items _).trans h
  cases correlationId with
  | none =>
    intro value hvalue
    rw [hitem] at hvalue
    cases hvalue
    exact truthy_pyNone
  | some id =>
    refine ⟨⟨_, id.str, hitem, text?_pyStr id.str, UUID.parse_str id⟩, ?_⟩
    intro value hvalue
    rw [hitem] at hvalue
    cases hvalue
    exact truthy_pyStr_uuid id

/-- A written id is the one that is found. -/
theorem hasUuid_pyDict {items : List (String × V)} {key : String} {id : UUID}
    (h : items.lookup key = some (pyStr id.str)) : HasUuid (pyDict items) key id :=
  ⟨_, id.str, (item?_pyDict items key).trans h, text?_pyStr id.str, UUID.parse_str id⟩

/-- The written `dict` of an event has its fields, if the timestamp is read back. -/
theorem EventObject.fields_toDict {time : DateTimeCodec T} {e : EventObject V T}
    (htime : time.ReadsBack e.timestamp) : Fields time (e.toDict time) e where
  eventType := item?_pyDict _ _
  aggregateId := hasUuid_pyDict rfl
  aggregateType := item?_pyDict _ _
  payload := item?_pyDict _ _
  eventId := hasUuid_pyDict rfl
  timestamp := ⟨_, time.isoformat e.timestamp, item?_pyDict _ _, text?_pyStr _, htime⟩
  correlationId := hasCorrelationId_pyDict rfl

/-- The written `dict` of a command has its fields. -/
theorem CommandObject.fields_toDict (c : CommandObject V) : Fields c.toDict c where
  commandType := item?_pyDict _ _
  aggregateId := hasUuid_pyDict rfl
  payload := item?_pyDict _ _
  commandId := hasUuid_pyDict rfl
  correlationId := hasCorrelationId_pyDict rfl

/-- `Event.from_dict(e.to_dict()) = e`. -/
theorem EventObject.fromDict_toDict {time : DateTimeCodec T} {e : EventObject V T}
    (htime : time.ReadsBack e.timestamp) : fromDict time (e.toDict time) = .ok e :=
  fromDict_eq_ok_iff.mpr (fields_toDict htime)

/-- A command is decoded from what `publish_command` writes. -/
theorem CommandObject.fromDict_toDict (c : CommandObject V) : fromDict c.toDict = .ok c :=
  fromDict_eq_ok_iff.mpr c.fields_toDict

/-- An accepted `dict` in the form in which its event is written. -/
def EventObject.normalize (time : DateTimeCodec T) (data : V) : Except PyError V := do
  return (← fromDict time data).toDict time

/-- An event survives its `dict` and its JSON text, and every `dict` it is decoded from has the
same normal form, which is accepted and normal itself. -/
theorem EventObject.round_trip (json : JsonCodec V) (time : DateTimeCodec T) (e : EventObject V T)
    (htime : time.ReadsBack e.timestamp) :
    fromDict time (e.toDict time) = .ok e ∧
    (json.ReadsBack (e.toDict time) → (e.toJson json time >>= fromJson json time) = .ok e) ∧
    ∀ data, fromDict time data = .ok e →
      normalize time data = .ok (e.toDict time) ∧
      normalize time (e.toDict time) = .ok (e.toDict time) := by
  have hdecode := fromDict_toDict htime
  have hnormalize : ∀ {data}, fromDict time data = .ok e →
      normalize time data = .ok (e.toDict time) := by
    intro data hdata
    unfold normalize
    rw [hdata]
    rfl
  refine ⟨hdecode, fun hjson => ?_, fun data hdata => ⟨hnormalize hdata, hnormalize hdecode⟩⟩
  obtain ⟨text, hdumps, hloads⟩ := hjson
  have hload := JsonCodec.load_eq_ok_iff.mpr hloads
  exact bind_eq_ok_iff.mpr ⟨text, hdumps, bind_eq_ok_iff.mpr ⟨_, hload, hdecode⟩⟩

end Decoding

/-- An event as an object of untyped data. -/
def Event.toObject (e : Event) : EventObject Json DateTime where
  eventType := .str e.eventType
  aggregateId := e.aggregateId
  aggregateType := .str e.aggregateType
  payload := e.payload
  eventId := e.eventId
  timestamp := e.timestamp
  correlationId := e.correlationId

/-- A command as an object of untyped data. -/
def Command.toObject (c : Command) : CommandObject Json where
  commandType := .str c.commandType
  aggregateId := c.aggregateId
  payload := c.payload
  commandId := c.commandId
  correlationId := c.correlationId

/-- The events of the services are written in the same way. -/
theorem Event.toDict_toObject (fromisoformat : String → Except String DateTime) (e : Event) :
    e.toObject.toDict ⟨DateTimeText.isoformat, fromisoformat⟩ = e.toDict := by
  obtain ⟨_, _, _, _, _, _, correlationId⟩ := e
  cases correlationId <;> rfl

/-- The command of a decoded object; there is none if its type is no text. -/
def CommandObject.command? (c : CommandObject Json) : Option Command :=
  (text? c.commandType).map fun commandType =>
    ⟨commandType, c.aggregateId, c.payload, c.commandId, c.correlationId⟩

@[simp] theorem Command.command?_toObject (c : Command) : c.toObject.command? = some c := rfl

/-- A shipment's creation at a quarter past noon. -/
def sampleEvent : EventObject Json DateTime :=
  ⟨.str "shipment.created", ⟨301⟩, .str "shipment", .obj [("items", .arr [])], ⟨302⟩,
    1735733700000000, none⟩

/-- Its instant, the only one that is read. -/
def sampleTime : DateTimeCodec DateTime :=
  ⟨DateTimeText.isoformat, fun text =>
    if text = "2025-01-01T12:15:00+00:00" then .ok 1735733700000000
    else .error "Invalid isoformat string"⟩

theorem readsBack_sampleTime : sampleTime.ReadsBack sampleEvent.timestamp := by
  have hread : DateTimeText.isoformat 1735733700000000 = "2025-01-01T12:15:00+00:00" := by decide
  change sampleTime.fromisoformat (DateTimeText.isoformat 1735733700000000) = _
  rw [hread]
  rfl

/-- Its JSON text. -/
def sampleText : String :=
  "\x7b\"event_id\": \"00000000-0000-0000-0000-00000000012e\", " ++
    "\"event_type\": \"shipment.created\", " ++
    "\"aggregate_id\": \"00000000-0000-0000-0000-00000000012d\", " ++
    "\"aggregate_type\": \"shipment\", \"payload\": \x7b\"items\": []\x7d, " ++
    "\"timestamp\": \"2025-01-01T12:15:00+00:00\", \"correlation_id\": null\x7d"

/-- The text is the only one that is written and loaded. -/
def sampleJson : JsonCodec Json :=
  ⟨fun _ => .ok sampleText, fun text =>
    if text = sampleText then .ok (sampleEvent.toDict sampleTime)
    else .error "Expecting value: line 1 column 1 (char 0)"⟩

theorem EventObject.round_trip_sample :
    fromDict sampleTime (sampleEvent.toDict sampleTime) = .ok sampleEvent ∧
    (sampleEvent.toJson sampleJson sampleTime >>= fromJson sampleJson sampleTime) =
      .ok sampleEvent ∧
    normalize sampleTime (sampleEvent.toDict sampleTime) =
      .ok (sampleEvent.toDict sampleTime) := by
  have hjson : sampleJson.ReadsBack (sampleEvent.toDict sampleTime) :=
    ⟨sampleText, rfl, by simp only [sampleJson, if_true]⟩
  have h := round_trip sampleJson sampleTime sampleEvent readsBack_sampleTime
  exact ⟨h.1, h.2.1 hjson, (h.2.2 _ h.1).2⟩

end SupplyChainTracker
