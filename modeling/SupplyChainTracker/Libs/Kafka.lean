import SupplyChainTracker.Libs.Wire

/-!
# `KafkaEventQueueAdapter`

The bytes that a message travels in, and the two generators that decode them. Each of them
yields what it can decode and goes on to the next message after an exception that it catches;
any other exception ends it.
-/

namespace SupplyChainTracker

open PyData

section Consume

variable {M A : Type} (decode : M → Except PyError A) (caught : PyError → Bool)

/-- `async for message in consumer`, with `try: yield decode(message)` and a handler that
continues: what is yielded, and what is raised. -/
def consumeEach : List M → List A × Option PyError
  | [] => ([], none)
  | message :: messages =>
      match decode message with
      | .ok a => (a :: (consumeEach messages).1, (consumeEach messages).2)
      | .error e => if caught e then consumeEach messages else ([], some e)

/-- What the messages decode to. -/
def decoded (messages : List M) : List A := messages.filterMap fun m => (decode m).toOption

variable {decode caught}

/-- Everything that decodes is yielded and nothing raised exactly when every exception is
caught. -/
theorem consumeEach_eq_decoded_iff (messages : List M) :
    consumeEach decode caught messages = (decoded decode messages, none) ↔
      ∀ m ∈ messages, ∀ e, decode m = .error e → caught e = true := by
  induction messages with
  | nil => simp [consumeEach, decoded]
  | cons m messages ih =>
    rw [List.forall_mem_cons, ← ih]
    cases hm : decode m with
    | ok a =>
      have hdecoded : decoded decode (m :: messages) = a :: decoded decode messages := by
        simp [decoded, hm, Except.toOption]
      rw [hdecoded, consumeEach, hm]
      simp only [Prod.mk.injEq, List.cons.injEq, true_and]
      constructor
      · intro h
        exact ⟨fun e he => (by cases he), Prod.ext h.1 h.2⟩
      · rintro ⟨_, h⟩
        exact ⟨congrArg Prod.fst h, congrArg Prod.snd h⟩
    | error e =>
      have hdecoded : decoded decode (m :: messages) = decoded decode messages := by
        simp [decoded, hm, Except.toOption]
      rw [hdecoded, consumeEach, hm]
      simp only [Except.error.injEq, forall_eq']
      by_cases hcaught : caught e = true
      · simp [hcaught]
      · simp [hcaught]

end Consume

namespace KafkaEventQueueAdapter

section Values

variable {V : Type} {json : JsonCodec V}

/-- The `value_serializer` of the producer. -/
def serialize (json : JsonCodec V) (value : V) : Except PyError ByteArray := do
  return (← json.dumps value).toUTF8

/-- `message.value.decode('utf-8')`. -/
def decodeText : Option ByteArray → Except PyError String
  | none => .error (.attributeError (noAttribute "NoneType" "decode"))
  | some bytes =>
      match String.fromUTF8? bytes with
      | some text => .ok text
      | none => .error .unicodeDecodeError

/-- A message value is the UTF-8 text of a JSON value. -/
def Carries (json : JsonCodec V) (value : Option ByteArray) (data : V) : Prop :=
  ∃ bytes text, value = some bytes ∧ String.fromUTF8? bytes = some text ∧
    json.loads text = .ok data

theorem decodeText_eq_ok_iff {value : Option ByteArray} {text : String} :
    decodeText value = .ok text ↔
      ∃ bytes, value = some bytes ∧ String.fromUTF8? bytes = some text := by
  cases value with
  | none => simp [decodeText]
  | some bytes =>
    simp only [decodeText, Option.some.injEq, exists_eq_left']
    cases String.fromUTF8? bytes with
    | none => exact iff_of_false (fun h => by cases h) (fun h => by cases h)
    | some text' => simp

/-- What a value carries is decoded and loaded. -/
theorem carries_iff {value : Option ByteArray} {data : V} :
    Carries json value data ↔ ∃ text, decodeText value = .ok text ∧ json.load text = .ok data := by
  simp only [decodeText_eq_ok_iff, JsonCodec.load_eq_ok_iff]
  constructor
  · rintro ⟨bytes, text, hvalue, htext, hdata⟩
    exact ⟨text, ⟨bytes, hvalue, htext⟩, hdata⟩
  · rintro ⟨text, ⟨bytes, hvalue, htext⟩, hdata⟩
    exact ⟨bytes, text, hvalue, htext, hdata⟩

/-- An encoded text is decoded. -/
theorem fromUTF8?_toUTF8 (text : String) : String.fromUTF8? text.toUTF8 = some text :=
  dif_pos text.isValidUTF8

/-- The bytes of a value carry what is read of its text. -/
theorem carries_serialize {value data : V} (h : json.ReadsAs value data) :
    ∃ bytes, serialize json value = .ok bytes ∧ Carries json (some bytes) data := by
  obtain ⟨text, hdumps, hloads⟩ := h
  refine ⟨text.toUTF8, ?_, _, text, rfl, fromUTF8?_toUTF8 text, hloads⟩
  unfold serialize
  rw [hdumps]
  rfl

end Values

variable {V T : Type} [PyData V] (json : JsonCodec V) (time : DateTimeCodec T)

/-- The bytes that `publish_event` sends. -/
def publishEvent (e : EventObject V T) : Except PyError ByteArray :=
  serialize json (e.toDict time)

/-- The bytes that `publish_command` sends. -/
def publishCommand (c : CommandObject V) : Except PyError ByteArray := serialize json c.toDict

/-- The body of the `try` in `consume_event`. -/
def readEvent (value : Option ByteArray) : Except PyError (EventObject V T) := do
  EventObject.fromDict time (← json.load (← decodeText value))

/-- The body of the `try` in `consume_command`. -/
def readCommand (value : Option ByteArray) : Except PyError (CommandObject V) := do
  CommandObject.fromDict (← json.load (← decodeText value))

/-- `consume_event`, for the values of the messages that arrive: every `Exception` is caught. -/
def consumeEvent : List (Option ByteArray) → List (EventObject V T) × Option PyError :=
  consumeEach (readEvent json time) fun _ => true

/-- `except (json.JSONDecodeError, KeyError, ValueError)`. -/
def invalidFormat (e : PyError) : Bool := e.isValueError || e.isKeyError

/-- `consume_command`, for the values of the messages that arrive. -/
def consumeCommand : List (Option ByteArray) → List (CommandObject V) × Option PyError :=
  consumeEach (readCommand json) invalidFormat

variable {json time}

/-- A message value carries an event. -/
def CarriesEvent (json : JsonCodec V) (time : DateTimeCodec T) (value : Option ByteArray)
    (e : EventObject V T) : Prop :=
  ∃ data, Carries json value data ∧ EventObject.Fields time data e

theorem readEvent_eq_ok_iff {value : Option ByteArray} {e : EventObject V T} :
    readEvent json time value = .ok e ↔ CarriesEvent json time value e := by
  unfold readEvent CarriesEvent
  simp only [bind_eq_ok_iff, carries_iff, EventObject.fromDict_eq_ok_iff]
  constructor
  · rintro ⟨text, htext, data, hdata, hfields⟩
    exact ⟨data, ⟨text, htext, hdata⟩, hfields⟩
  · rintro ⟨data, ⟨text, htext, hdata⟩, hfields⟩
    exact ⟨text, htext, data, hdata, hfields⟩

/-- Of any messages, exactly the events that they carry are yielded, in order and once each, and
nothing is raised. -/
theorem consumeEvent_eq (json : JsonCodec V) (time : DateTimeCodec T)
    (values : List (Option ByteArray)) :
    ∃ carried : Option ByteArray → Option (EventObject V T),
      (∀ value e, carried value = some e ↔ CarriesEvent json time value e) ∧
      consumeEvent json time values = (values.filterMap carried, none) := by
  refine ⟨fun value => (readEvent json time value).toOption, fun value e => ?_, ?_⟩
  · exact toOption_eq_some_iff.trans readEvent_eq_ok_iff
  · have hcaught : ∀ value ∈ values, ∀ e, readEvent json time value = .error e → true = true :=
      fun _ _ _ _ => rfl
    exact (consumeEach_eq_decoded_iff values).mpr hcaught

/-- Something other than a text stands where a text is parsed. -/
def NotText (data : V) (key : String) : Prop :=
  ∃ value, item? data key = some value ∧ text? value = none

/-- Loaded data that the handler has no `except` clause for: it is no `dict`, or one in which
the first field that cannot be decoded is an id that is not a text. -/
inductive PoisonData (data : V) : Prop
  | notDict (h : isDict data = false)
  | aggregateId (commandType : V) (hcommandType : item? data "command_type" = some commandType)
      (h : NotText data "aggregate_id")
  | commandId (commandType : V) (hcommandType : item? data "command_type" = some commandType)
      (aggregateId : UUID) (haggregateId : HasUuid data "aggregate_id" aggregateId)
      (payload : V) (hpayload : item? data "payload" = some payload)
      (h : NotText data "command_id")
  | correlationId (commandType : V) (hcommandType : item? data "command_type" = some commandType)
      (aggregateId : UUID) (haggregateId : HasUuid data "aggregate_id" aggregateId)
      (payload : V) (hpayload : item? data "payload" = some payload)
      (commandId : UUID) (hcommandId : HasUuid data "command_id" commandId)
      (value : V) (hvalue : item? data "correlation_id" = some value)
      (htruthy : truthy value = true) (h : text? value = none)

/-- A message value that the handler has no `except` clause for: none at all, or one that
carries such data. -/
def Poison (json : JsonCodec V) (value : Option ByteArray) : Prop :=
  value = none ∨ ∃ data, Carries json value data ∧ PoisonData data

/-- An exception escapes the handler. -/
def Uncaught {A : Type} (x : Except PyError A) : Prop :=
  ∃ e, x = .error e ∧ invalidFormat e = false

theorem uncaught_bind_iff {A B : Type} {x : Except PyError A} {f : A → Except PyError B} :
    Uncaught (x >>= f) ↔ Uncaught x ∨ ∃ a, x = .ok a ∧ Uncaught (f a) := by
  simp only [Uncaught, bind_eq_error_iff]
  constructor
  · rintro ⟨e, hx | ⟨a, hx, hf⟩, he⟩
    · exact .inl ⟨e, hx, he⟩
    · exact .inr ⟨a, hx, e, hf, he⟩
  · rintro (⟨e, hx, he⟩ | ⟨a, hx, e, hf, he⟩)
    · exact ⟨e, .inl hx, he⟩
    · exact ⟨e, .inr ⟨a, hx, hf⟩, he⟩

theorem not_uncaught_ok {A : Type} {a : A} : ¬ Uncaught (.ok a) := by
  rintro ⟨e, he, _⟩
  cases he

/-- A missing key is a `KeyError`, a subscript of anything else a `TypeError`. -/
theorem uncaught_subscript_iff {data : V} {key : String} :
    Uncaught (subscript data key) ↔ isDict data = false := by
  unfold Uncaught subscript isDict
  cases shape data with
  | dict truthy item =>
    refine iff_of_false ?_ (by simp)
    rintro ⟨e, he, huncaught⟩
    simp only at he
    cases hitem : item key with
    | none =>
      rw [hitem] at he
      cases he
      cases huncaught
    | some value =>
      rw [hitem] at he
      cases he
  | _ => exact iff_of_true ⟨_, rfl, rfl⟩ rfl

/-- A text that is no id is a `ValueError`, anything else that is none is not. -/
theorem uncaught_uuid_iff {value : V} : Uncaught (uuid value) ↔ text? value = none := by
  unfold Uncaught uuid text?
  cases shape value with
  | str text =>
    refine iff_of_false ?_ (by simp)
    rintro ⟨e, he, huncaught⟩
    simp only at he
    cases hparse : UUID.parse text with
    | none =>
      rw [hparse] at he
      cases he
      cases huncaught
    | some id =>
      rw [hparse] at he
      cases he
  | _ => exact iff_of_true ⟨_, rfl, rfl⟩ rfl

/-- Of a correlation id only one that is truthy is parsed. -/
theorem uncaught_readCorrelationId_iff {data : V} (hdict : isDict data = true) :
    Uncaught (readCorrelationId data) ↔ ∃ value, item? data "correlation_id" = some value ∧
      truthy value = true ∧ text? value = none := by
  cases hitem : item? data "correlation_id" with
  | none =>
    rw [readCorrelationId_of_absent hdict hitem]
    exact iff_of_false not_uncaught_ok (by simp)
  | some value =>
    rw [readCorrelationId_of_item? hitem]
    simp only [Option.some.injEq, exists_eq_left']
    by_cases htruthy : truthy value = true
    · rw [if_pos htruthy, uncaught_bind_iff, uncaught_uuid_iff]
      simp only [htruthy, true_and, not_uncaught_ok, and_false, exists_false, or_false]
    · rw [if_neg htruthy]
      exact iff_of_false not_uncaught_ok fun h => htruthy h.1

/-- The exceptions that escape `Command.from_dict` and the handler. -/
theorem uncaught_fromDict_iff {data : V} :
    Uncaught (CommandObject.fromDict data) ↔ PoisonData data := by
  unfold CommandObject.fromDict
  simp only [uncaught_bind_iff, uncaught_subscript_iff, uncaught_uuid_iff, subscript_eq_ok_iff]
  by_cases hdict : isDict data = true
  · simp only [hdict, Bool.true_eq_false, false_or, uncaught_readCorrelationId_iff hdict]
    constructor
    · rintro ⟨commandType, htype, raw, hraw, hnone | ⟨aggregateId, huuid, payload, hpayload,
        rawId, hrawId, hnone | ⟨commandId, hcommandId, ⟨value, hvalue, htruthy, hnone⟩ |
        ⟨_, _, himpossible⟩⟩⟩⟩
      · exact .aggregateId commandType htype ⟨raw, hraw, hnone⟩
      · exact .commandId commandType htype aggregateId
          (hasUuid_iff.mpr ⟨raw, subscript_eq_ok_iff.mpr hraw, huuid⟩) payload hpayload
          ⟨rawId, hrawId, hnone⟩
      · exact .correlationId commandType htype aggregateId
          (hasUuid_iff.mpr ⟨raw, subscript_eq_ok_iff.mpr hraw, huuid⟩) payload hpayload commandId
          (hasUuid_iff.mpr ⟨rawId, subscript_eq_ok_iff.mpr hrawId, hcommandId⟩) value hvalue
          htruthy hnone
      · exact absurd himpossible not_uncaught_ok
    · intro h
      cases h with
      | notDict h => rw [hdict] at h; cases h
      | aggregateId commandType htype h =>
        obtain ⟨raw, hraw, hnone⟩ := h
        exact ⟨commandType, htype, raw, hraw, .inl hnone⟩
      | commandId commandType htype aggregateId haggregateId payload hpayload h =>
        obtain ⟨raw, hraw, huuid⟩ := hasUuid_iff.mp haggregateId
        obtain ⟨rawId, hrawId, hnone⟩ := h
        exact ⟨commandType, htype, raw, subscript_eq_ok_iff.mp hraw, .inr ⟨aggregateId, huuid,
          payload, hpayload, rawId, hrawId, .inl hnone⟩⟩
      | correlationId commandType htype aggregateId haggregateId payload hpayload commandId
          hcommandId value hvalue htruthy h =>
        obtain ⟨raw, hraw, huuid⟩ := hasUuid_iff.mp haggregateId
        obtain ⟨rawId, hrawId, hid⟩ := hasUuid_iff.mp hcommandId
        exact ⟨commandType, htype, raw, subscript_eq_ok_iff.mp hraw, .inr ⟨aggregateId, huuid,
          payload, hpayload, rawId, subscript_eq_ok_iff.mp hrawId, .inr ⟨commandId, hid,
          .inl ⟨value, hvalue, htruthy, h⟩⟩⟩⟩
  · have hfalse : isDict data = false := by simpa using hdict
    exact iff_of_true (.inl hfalse) (.notDict hfalse)

/-- Invalid UTF-8 and invalid JSON are `ValueError`s, a value that is not there is not. -/
theorem uncaught_readCommand_iff {value : Option ByteArray} :
    Uncaught (readCommand json value : Except PyError (CommandObject V)) ↔ Poison json value := by
  have hload : ∀ text, ¬ Uncaught (json.load text) := by
    rintro text ⟨e, he, huncaught⟩
    unfold JsonCodec.load at he
    cases hloads : json.loads text with
    | error message =>
      rw [hloads] at he
      cases he
      cases huncaught
    | ok data =>
      rw [hloads] at he
      cases he
  have htext : Uncaught (decodeText value) ↔ value = none := by
    cases value with
    | none => exact iff_of_true ⟨_, rfl, rfl⟩ rfl
    | some bytes =>
      refine iff_of_false ?_ (by simp)
      rintro ⟨e, he, huncaught⟩
      simp only [decodeText] at he
      cases hbytes : String.fromUTF8? bytes with
      | none =>
        rw [hbytes] at he
        cases he
        cases huncaught
      | some text =>
        rw [hbytes] at he
        cases he
  unfold readCommand Poison
  simp only [uncaught_bind_iff, htext, hload, false_or, uncaught_fromDict_iff, carries_iff]
  refine or_congr Iff.rfl ?_
  constructor
  · rintro ⟨text, htext, data, hdata, hpoison⟩
    exact ⟨data, ⟨text, htext, hdata⟩, hpoison⟩
  · rintro ⟨data, ⟨text, htext, hdata⟩, hpoison⟩
    exact ⟨text, htext, data, hdata, hpoison⟩

/-- Of some messages, exactly the commands that decode are yielded, in order, and nothing is
raised, if and only if none of the messages is poison. -/
theorem consumeCommand_eq_decoded_iff (json : JsonCodec V) (values : List (Option ByteArray)) :
    consumeCommand json values = (decoded (readCommand json) values, none) ↔
      ∀ value ∈ values, ¬ Poison json value := by
  refine (consumeEach_eq_decoded_iff values).trans (forall₂_congr fun value _ => ?_)
  rw [← uncaught_readCommand_iff]
  constructor
  · rintro h ⟨e, he, huncaught⟩
    exact Bool.false_ne_true (huncaught.symm.trans (h e he))
  · intro h e he
    by_contra hcaught
    exact h ⟨e, he, by simpa using hcaught⟩

/-- A codec that knows the empty list only. -/
def emptyListJson : JsonCodec Json :=
  ⟨fun _ => .ok "[]", fun text =>
    if text = "[]" then .ok (.arr []) else .error "Expecting value: line 1 column 1 (char 0)"⟩

/-- An empty list stops the consumer. -/
theorem consumeCommand_emptyList :
    consumeCommand emptyListJson [some "[]".toUTF8] ≠
      (decoded (readCommand emptyListJson) [some "[]".toUTF8], none) := by
  have hread : readCommand emptyListJson (some "[]".toUTF8) =
      .error (.typeError "list indices must be integers or slices, not str") := by
    simp only [readCommand, decodeText, fromUTF8?_toUTF8]
    rfl
  intro h
  have hraised := congrArg Prod.snd h
  simp only [consumeCommand, consumeEach, hread] at hraised
  cases hraised

end KafkaEventQueueAdapter

end SupplyChainTracker
