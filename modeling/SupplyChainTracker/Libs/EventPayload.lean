import SupplyChainTracker.Libs.Wire
import SupplyChainTracker.Python.Leaves

/-!
# Payloads of all registered events

`_serialize_payload` writes a `UUID` or a `datetime` as a text where it is the value of a key. It
takes the items of a list as they are unless they are `dict`s, so a payload is clean exactly when
every such leaf stands below a key, and no list stands directly in a list above one.
-/

namespace SupplyChainTracker

open FieldValue (Step At)

namespace DomainEventConverter

mutual

/-- `_serialize_payload`. -/
def serializePayload : List (String × FieldValue) → List (String × FieldValue)
  | [] => []
  | (key, value) :: payload => (key, serializeValue value) :: serializePayload payload

/-- What it assigns to a key for a value. -/
def serializeValue : FieldValue → FieldValue
  | .uuid value => .str value.str
  | .datetime isoformat => .str isoformat
  | .list items => .list (serializeItems items)
  | .dict payload => .dict (serializePayload payload)
  | value => value

/-- The items of a list. -/
def serializeItems : List FieldValue → List FieldValue
  | [] => []
  | item :: items => serializeItem item :: serializeItems items

/-- An item of a list. -/
def serializeItem : FieldValue → FieldValue
  | .dict payload => .dict (serializePayload payload)
  | item => item

end

theorem serializePayload_eq (payload : List (String × FieldValue)) :
    serializePayload payload = payload.map fun p => (p.1, serializeValue p.2) := by
  induction payload with
  | nil => simp only [serializePayload, List.map_nil]
  | cons p payload ih => simp only [serializePayload, ih, List.map_cons]

theorem serializeItems_eq (items : List FieldValue) :
    serializeItems items = items.map serializeItem := by
  induction items with
  | nil => simp only [serializeItems, List.map_nil]
  | cons item items ih => simp only [serializeItems, ih, List.map_cons]

end DomainEventConverter

namespace FieldValue

/-- After every index the path goes on with a key. -/
def Step.Keyed : List Step → Prop
  | [] => True
  | .key _ :: path => Keyed path
  | .index _ :: .key _ :: path => Keyed path
  | .index _ :: _ => False

/-- Every `UUID` and every `datetime` is reached by such a path. -/
def KeyedLeaves (value : FieldValue) : Prop :=
  ∀ path leaf, At value path leaf → leaf.Foreign → Step.Keyed path

/-- So it is from the list that the value stands in. -/
def KeyedItem (value : FieldValue) : Prop :=
  ∀ path leaf, At value path leaf → leaf.Foreign → ∀ index, Step.Keyed (.index index :: path)

section Keyed

theorem Step.keyed_key {key : String} {path : List Step} :
    Keyed (.key key :: path) ↔ Keyed path := Iff.rfl

variable {items : List FieldValue} {entries : List (String × FieldValue)} {value : FieldValue}

theorem keyedLeaves_dict_iff :
    KeyedLeaves (.dict entries) ↔ ∀ entry ∈ entries, KeyedLeaves entry.2 := by
  constructor
  · intro h entry hentry path leaf hat hforeign
    exact h (.key entry.1 :: path) leaf (.key hentry hat) hforeign
  · intro h path leaf hat hforeign
    cases hat with
    | here => exact hforeign.elim
    | key hmem hat => exact Step.keyed_key.mpr (h _ hmem _ leaf hat hforeign)

theorem keyedLeaves_list_iff :
    KeyedLeaves (.list items) ↔ ∀ item ∈ items, KeyedItem item := by
  constructor
  · intro h item hitem path leaf hat hforeign index
    obtain ⟨index', hindex⟩ := List.mem_iff_getElem?.mp hitem
    have hkeyed := h (.index index' :: path) leaf (.index hindex hat) hforeign
    cases path with
    | nil => exact hkeyed
    | cons step path =>
      cases step with
      | key key => exact hkeyed
      | index index'' => exact hkeyed
  · intro h path leaf hat hforeign
    cases hat with
    | here => exact hforeign.elim
    | index hmem hat => exact h _ (List.mem_of_getElem? hmem) _ leaf hat hforeign _

theorem keyedItem_dict_iff : KeyedItem (.dict entries) ↔ KeyedLeaves (.dict entries) := by
  constructor
  · intro h path leaf hat hforeign
    cases hat with
    | here => exact hforeign.elim
    | key hmem hat => exact h (.key _ :: _) leaf (.key hmem hat) hforeign 0
  · intro h path leaf hat hforeign index
    cases hat with
    | here => exact hforeign.elim
    | key hmem hat => exact h (.key _ :: _) leaf (.key hmem hat) hforeign

/-- An item that is no `dict` has to be clean. -/
theorem keyedItem_iff_clean (hdict : ∀ entries, value ≠ .dict entries) :
    KeyedItem value ↔ Clean value := by
  constructor
  · intro h path leaf hat hforeign
    have hkeyed := h path leaf hat hforeign 0
    cases hat with
    | here => exact hkeyed
    | key => exact hdict _ rfl
    | index => exact hkeyed
  · intro h path leaf hat hforeign
    exact absurd hforeign (h path leaf hat)

end Keyed

/-- A leaf that is the value of a key may be foreign. -/
theorem keyedLeaves_leaf {value : FieldValue} (hlist : ∀ items, value ≠ .list items)
    (hdict : ∀ items, value ≠ .dict items) : KeyedLeaves value := by
  intro path leaf hat _
  cases hat with
  | here => trivial
  | key => exact absurd rfl (hdict _)
  | index => exact absurd rfl (hlist _)

open DomainEventConverter

theorem clean_serialize_leaf {value : FieldValue} (hlist : ∀ items, value ≠ .list items)
    (hdict : ∀ items, value ≠ .dict items) (hitem : serializeItem value = value)
    (hvalue : Clean (serializeValue value)) :
    (Clean (serializeValue value) ↔ KeyedLeaves value) ∧
      (Clean (serializeItem value) ↔ KeyedItem value) := by
  rw [hitem, keyedItem_iff_clean hdict]
  exact ⟨iff_of_true hvalue (keyedLeaves_leaf hlist hdict), Iff.rfl⟩

/-- What is assigned to a key is clean, and what is taken for an item, exactly when the leaves are
keyed; by induction on the value. -/
theorem clean_serialize_iff (value : FieldValue) :
    (Clean (serializeValue value) ↔ KeyedLeaves value) ∧
      (Clean (serializeItem value) ↔ KeyedItem value) := by
  induction value with
  | list items ih =>
    have hitem : KeyedItem (.list items) ↔ Clean (.list items) :=
      keyedItem_iff_clean fun entries h => by cases h
    refine ⟨?_, ?_⟩
    · rw [serializeValue, serializeItems_eq, clean_list_iff, keyedLeaves_list_iff]
      simp only [List.forall_mem_map]
      exact forall₂_congr fun item hmem => (ih item hmem).2
    · rw [serializeItem, hitem]
      exact fun entries h => by cases h
  | dict entries ih =>
    have hentries : Clean (.dict (serializePayload entries)) ↔ KeyedLeaves (.dict entries) := by
      rw [serializePayload_eq, clean_dict_iff, keyedLeaves_dict_iff]
      simp only [List.forall_mem_map]
      exact forall₂_congr fun entry hmem => (ih entry hmem).1
    rw [serializeValue, serializeItem, keyedItem_dict_iff]
    exact ⟨hentries, hentries⟩
  | _ =>
    exact clean_serialize_leaf (by simp) (by simp) rfl
      (by simp [serializeValue, clean_leaf_iff, Foreign])

end FieldValue

/-- The registered domain events. A `datetime` is given by its `isoformat()`, a float by its
`repr`. -/
inductive RegisteredEvent : Type
  | shipmentCreated (shipmentId : UUID) (origin destination : String) (items : List FieldValue)
  | shipmentUpdated (shipmentId : UUID) (status updatedAt : String)
  | shipmentCancelled (shipmentId : UUID) (reason cancelledAt : String)
  | shipmentDispatched (shipmentId warehouseId : UUID) (dispatchedAt : String)
  | inventoryReserved (warehouseId shipmentId : UUID) (items : List FieldValue)
      (reservedAt : String)
  | inventoryReleased (warehouseId shipmentId : UUID) (items : List FieldValue)
      (releasedAt reason : String)
  | inventoryInsufficient (warehouseId shipmentId : UUID) (missingItems : List FieldValue)
  | inventoryUpdated (warehouseId : UUID) (itemId : String) (newQuantity : Int) (updatedAt : String)
  | courierAssigned (deliveryId courierId shipmentId : UUID) (estimatedDelivery assignedAt : String)
  | courierUnassigned (deliveryId courierId : UUID) (reason unassignedAt : String)
  | deliveryStarted (deliveryId courierId : UUID) (pickupLocation startedAt : String)
  | deliveryInTransit (deliveryId : UUID) (currentLocation : String)
      (latitude longitude updatedAt : Option String)
  | deliveryCompleted (deliveryId : UUID) (deliveredAt : String)
      (recipientName recipientSignature : Option String)
  | deliveryFailed (deliveryId : UUID) (reason failedAt : String) (retryScheduled : Option String)
  | blockchainRecorded (recordId shipmentId : UUID) (transactionHash : String)
      (blockNumber : Option Int) (recordedAt : Option String)
  | blockchainVerified (recordId shipmentId : UUID) (transactionHash verifiedAt : String)
      (confirmations : Int)
  | sagaStarted (sagaId : UUID) (sagaType initiatedBy startedAt : String)
  | sagaCompleted (sagaId : UUID) (sagaType completedAt : String)
  | sagaFailed (sagaId : UUID) (sagaType errorMessage failedAt : String)
  | sagaCompensating (sagaId : UUID) (sagaType failedStep compensatingAt : String)

namespace RegisteredEvent

/-- A value or `None`. -/
def optional {α : Type} (f : α → FieldValue) : Option α → FieldValue
  | none => .none
  | some value => f value

/-- `_EVENT_TYPE_MAP`: the event type, the aggregate type and the field of the aggregate's id. -/
def eventTypeMap : RegisteredEvent → String × String × String
  | shipmentCreated .. => ("shipment.created", "shipment", "shipment_id")
  | shipmentUpdated .. => ("shipment.updated", "shipment", "shipment_id")
  | shipmentCancelled .. => ("shipment.cancelled", "shipment", "shipment_id")
  | shipmentDispatched .. => ("shipment.dispatched", "shipment", "shipment_id")
  | inventoryReserved .. => ("inventory.reserved", "warehouse", "warehouse_id")
  | inventoryReleased .. => ("inventory.released", "warehouse", "warehouse_id")
  | inventoryInsufficient .. => ("inventory.insufficient", "warehouse", "warehouse_id")
  | inventoryUpdated .. => ("inventory.updated", "warehouse", "warehouse_id")
  | courierAssigned .. => ("courier.assigned", "delivery", "delivery_id")
  | courierUnassigned .. => ("courier.unassigned", "delivery", "delivery_id")
  | deliveryStarted .. => ("delivery.started", "delivery", "delivery_id")
  | deliveryInTransit .. => ("delivery.in_transit", "delivery", "delivery_id")
  | deliveryCompleted .. => ("delivery.completed", "delivery", "delivery_id")
  | deliveryFailed .. => ("delivery.failed", "delivery", "delivery_id")
  | blockchainRecorded .. => ("blockchain.recorded", "blockchain_record", "record_id")
  | blockchainVerified .. => ("blockchain.verified", "blockchain_record", "record_id")
  | sagaStarted .. => ("saga.started", "saga", "saga_id")
  | sagaCompleted .. => ("saga.completed", "saga", "saga_id")
  | sagaFailed .. => ("saga.failed", "saga", "saga_id")
  | sagaCompensating .. => ("saga.compensating", "saga", "saga_id")

/-- `asdict`, which copies the values of the fields. -/
def fields : RegisteredEvent → List (String × FieldValue)
  | shipmentCreated shipmentId origin destination items => [
      ("shipment_id", .uuid shipmentId),
      ("origin", .str origin),
      ("destination", .str destination),
      ("items", .list items)]
  | shipmentUpdated shipmentId status updatedAt => [
      ("shipment_id", .uuid shipmentId),
      ("status", .str status),
      ("updated_at", .datetime updatedAt)]
  | shipmentCancelled shipmentId reason cancelledAt => [
      ("shipment_id", .uuid shipmentId),
      ("reason", .str reason),
      ("cancelled_at", .datetime cancelledAt)]
  | shipmentDispatched shipmentId warehouseId dispatchedAt => [
      ("shipment_id", .uuid shipmentId),
      ("warehouse_id", .uuid warehouseId),
      ("dispatched_at", .datetime dispatchedAt)]
  | inventoryReserved warehouseId shipmentId items reservedAt => [
      ("warehouse_id", .uuid warehouseId),
      ("shipment_id", .uuid shipmentId),
      ("items", .list items),
      ("reserved_at", .datetime reservedAt)]
  | inventoryReleased warehouseId shipmentId items releasedAt reason => [
      ("warehouse_id", .uuid warehouseId),
      ("shipment_id", .uuid shipmentId),
      ("items", .list items),
      ("released_at", .datetime releasedAt),
      ("reason", .str reason)]
  | inventoryInsufficient warehouseId shipmentId missingItems => [
      ("warehouse_id", .uuid warehouseId),
      ("shipment_id", .uuid shipmentId),
      ("missing_items", .list missingItems)]
  | inventoryUpdated warehouseId itemId newQuantity updatedAt => [
      ("warehouse_id", .uuid warehouseId),
      ("item_id", .str itemId),
      ("new_quantity", .int newQuantity),
      ("updated_at", .datetime updatedAt)]
  | courierAssigned deliveryId courierId shipmentId estimatedDelivery assignedAt => [
      ("delivery_id", .uuid deliveryId),
      ("courier_id", .uuid courierId),
      ("shipment_id", .uuid shipmentId),
      ("estimated_delivery", .datetime estimatedDelivery),
      ("assigned_at", .datetime assignedAt)]
  | courierUnassigned deliveryId courierId reason unassignedAt => [
      ("delivery_id", .uuid deliveryId),
      ("courier_id", .uuid courierId),
      ("reason", .str reason),
      ("unassigned_at", .datetime unassignedAt)]
  | deliveryStarted deliveryId courierId pickupLocation startedAt => [
      ("delivery_id", .uuid deliveryId),
      ("courier_id", .uuid courierId),
      ("pickup_location", .str pickupLocation),
      ("started_at", .datetime startedAt)]
  | deliveryInTransit deliveryId currentLocation latitude longitude updatedAt => [
      ("delivery_id", .uuid deliveryId),
      ("current_location", .str currentLocation),
      ("latitude", optional .float latitude),
      ("longitude", optional .float longitude),
      ("updated_at", optional .datetime updatedAt)]
  | deliveryCompleted deliveryId deliveredAt recipientName recipientSignature => [
      ("delivery_id", .uuid deliveryId),
      ("delivered_at", .datetime deliveredAt),
      ("recipient_name", optional .str recipientName),
      ("recipient_signature", optional .str recipientSignature)]
  | deliveryFailed deliveryId reason failedAt retryScheduled => [
      ("delivery_id", .uuid deliveryId),
      ("reason", .str reason),
      ("failed_at", .datetime failedAt),
      ("retry_scheduled", optional .datetime retryScheduled)]
  | blockchainRecorded recordId shipmentId transactionHash blockNumber recordedAt => [
      ("record_id", .uuid recordId),
      ("shipment_id", .uuid shipmentId),
      ("transaction_hash", .str transactionHash),
      ("block_number", optional .int blockNumber),
      ("recorded_at", optional .datetime recordedAt)]
  | blockchainVerified recordId shipmentId transactionHash verifiedAt confirmations => [
      ("record_id", .uuid recordId),
      ("shipment_id", .uuid shipmentId),
      ("transaction_hash", .str transactionHash),
      ("verified_at", .datetime verifiedAt),
      ("confirmations", .int confirmations)]
  | sagaStarted sagaId sagaType initiatedBy startedAt => [
      ("saga_id", .uuid sagaId),
      ("saga_type", .str sagaType),
      ("initiated_by", .str initiatedBy),
      ("started_at", .datetime startedAt)]
  | sagaCompleted sagaId sagaType completedAt => [
      ("saga_id", .uuid sagaId),
      ("saga_type", .str sagaType),
      ("completed_at", .datetime completedAt)]
  | sagaFailed sagaId sagaType errorMessage failedAt => [
      ("saga_id", .uuid sagaId),
      ("saga_type", .str sagaType),
      ("error_message", .str errorMessage),
      ("failed_at", .datetime failedAt)]
  | sagaCompensating sagaId sagaType failedStep compensatingAt => [
      ("saga_id", .uuid sagaId),
      ("saga_type", .str sagaType),
      ("failed_step", .str failedStep),
      ("compensating_at", .datetime compensatingAt)]

/-- `getattr(domain_event, id_field)`. -/
def aggregateId : RegisteredEvent → UUID
  | shipmentCreated shipmentId .. | shipmentUpdated shipmentId .. => shipmentId
  | shipmentCancelled shipmentId .. | shipmentDispatched shipmentId .. => shipmentId
  | inventoryReserved warehouseId .. | inventoryReleased warehouseId .. => warehouseId
  | inventoryInsufficient warehouseId .. | inventoryUpdated warehouseId .. => warehouseId
  | courierAssigned deliveryId .. | courierUnassigned deliveryId .. => deliveryId
  | deliveryStarted deliveryId .. | deliveryInTransit deliveryId .. => deliveryId
  | deliveryCompleted deliveryId .. | deliveryFailed deliveryId .. => deliveryId
  | blockchainRecorded recordId .. | blockchainVerified recordId .. => recordId
  | sagaStarted sagaId .. | sagaCompleted sagaId .. => sagaId
  | sagaFailed sagaId .. | sagaCompensating sagaId .. => sagaId

/-- The id of an event's aggregate is the field that the map names. -/
theorem lookup_idField (e : RegisteredEvent) :
    e.fields.lookup e.eventTypeMap.2.2 = some (.uuid e.aggregateId) := by
  cases e <;> rfl

/-- `to_event`, with what the defaults of its `Event` draw. -/
def toEvent (e : RegisteredEvent) (correlationId : Option UUID) (eventId : UUID)
    (timestamp : DateTime) : EventObject FieldValue DateTime where
  eventType := .str e.eventTypeMap.1
  aggregateId := e.aggregateId
  aggregateType := .str e.eventTypeMap.2.1
  payload := .dict (DomainEventConverter.serializePayload e.fields)
  eventId := eventId
  timestamp := timestamp
  correlationId := correlationId

/-- The payload of an event can be published exactly when every `UUID` and `datetime` in the event
is reached by a path on which each index is followed by a key. -/
theorem toEvent_publishable_iff (e : RegisteredEvent) (correlationId : Option UUID)
    (eventId : UUID) (timestamp : DateTime) :
    ((e.toEvent correlationId eventId timestamp).payload.Clean ∧
      (e.toEvent correlationId eventId timestamp).payload.dumpsTypeError = none) ↔
      FieldValue.KeyedLeaves (.dict e.fields) := by
  have hclean := (FieldValue.clean_serialize_iff (.dict e.fields)).1
  rw [DomainEventConverter.serializeValue] at hclean
  rw [FieldValue.dumpsTypeError_eq_none_iff, and_self, ← hclean]
  rfl

/-- A shipment of a batch, by its id. -/
def sampleBatch : RegisteredEvent :=
  shipmentCreated ⟨81⟩ "Riga" "Oslo" [.dict [("batch_ids", .list [.uuid ⟨82⟩])]]

/-- The id of the batch stands in a list, so it is left as it is. -/
theorem batch_not_publishable :
    ¬ (sampleBatch.toEvent none ⟨83⟩ 0).payload.Clean ∧
      (sampleBatch.toEvent none ⟨83⟩ 0).payload.dumpsTypeError =
        some "Object of type UUID is not JSON serializable" := by
  have hfails : (sampleBatch.toEvent none ⟨83⟩ 0).payload.dumpsTypeError =
      some "Object of type UUID is not JSON serializable" := rfl
  rw [← FieldValue.dumpsTypeError_eq_none_iff, hfails]
  exact ⟨Option.some_ne_none _, rfl⟩

end RegisteredEvent

mutual

/-- A JSON value as the value of a field. -/
def FieldValue.ofJson : Json → FieldValue
  | .null => .none
  | .bool value => .bool value
  | .int value => .int value
  | .float repr => .float repr
  | .str value => .str value
  | .arr items => .list (ofJsonEach items)
  | .obj items => .dict (ofJsonItems items)

/-- The items of a list. -/
def FieldValue.ofJsonEach : List Json → List FieldValue
  | [] => []
  | item :: items => ofJson item :: ofJsonEach items

/-- The items of a `dict`. -/
def FieldValue.ofJsonItems : List (String × Json) → List (String × FieldValue)
  | [] => []
  | (key, value) :: items => (key, ofJson value) :: ofJsonItems items

end

open DomainEventConverter

mutual

/-- A JSON value stays as it is. -/
theorem serializeValue_ofJson (value : Json) :
    serializeValue (.ofJson value) = .ofJson value ∧
      serializeItem (.ofJson value) = .ofJson value := by
  cases value with
  | arr items =>
    simp only [FieldValue.ofJson, serializeValue, serializeItem, serializeItems_ofJsonEach items,
      and_self]
  | obj items =>
    simp only [FieldValue.ofJson, serializeValue, serializeItem,
      serializePayload_ofJsonItems items, and_self]
  | null => exact ⟨rfl, rfl⟩
  | bool value => exact ⟨rfl, rfl⟩
  | int value => exact ⟨rfl, rfl⟩
  | float repr => exact ⟨rfl, rfl⟩
  | str value => exact ⟨rfl, rfl⟩

theorem serializeItems_ofJsonEach (items : List Json) :
    serializeItems (FieldValue.ofJsonEach items) = FieldValue.ofJsonEach items := by
  cases items with
  | nil => rfl
  | cons item items =>
    simp only [FieldValue.ofJsonEach, serializeItems, (serializeValue_ofJson item).2,
      serializeItems_ofJsonEach items]

theorem serializePayload_ofJsonItems (items : List (String × Json)) :
    serializePayload (FieldValue.ofJsonItems items) = FieldValue.ofJsonItems items := by
  cases items with
  | nil => rfl
  | cons item items =>
    obtain ⟨key, value⟩ := item
    simp only [FieldValue.ofJsonItems, serializePayload, (serializeValue_ofJson value).1,
      serializePayload_ofJsonItems items]

end

/-- An event of a handler among the registered ones. -/
def RegisteredEvent.ofHandler : DomainEvent → RegisteredEvent
  | .shipmentCreated shipmentId origin destination items =>
      .shipmentCreated shipmentId origin destination (FieldValue.ofJsonEach items)
  | .shipmentUpdated shipmentId status updatedAt =>
      .shipmentUpdated shipmentId status (DateTimeText.isoformat updatedAt)
  | .shipmentCancelled shipmentId reason cancelledAt =>
      .shipmentCancelled shipmentId reason (DateTimeText.isoformat cancelledAt)
  | .inventoryReserved warehouseId shipmentId items reservedAt =>
      .inventoryReserved warehouseId shipmentId (FieldValue.ofJsonEach items)
        (DateTimeText.isoformat reservedAt)
  | .inventoryReleased warehouseId shipmentId items releasedAt reason =>
      .inventoryReleased warehouseId shipmentId (FieldValue.ofJsonEach items)
        (DateTimeText.isoformat releasedAt) reason
  | .inventoryUpdated warehouseId itemId newQuantity updatedAt =>
      .inventoryUpdated warehouseId itemId newQuantity (DateTimeText.isoformat updatedAt)
  | .courierAssigned deliveryId courierId shipmentId estimatedDelivery assignedAt =>
      .courierAssigned deliveryId courierId shipmentId
        (DateTimeText.isoformatNaive estimatedDelivery) (DateTimeText.isoformat assignedAt)
  | .deliveryInTransit deliveryId currentLocation updatedAt =>
      .deliveryInTransit deliveryId currentLocation none none
        (some (DateTimeText.isoformat updatedAt))
  | .deliveryCompleted deliveryId deliveredAt recipientName recipientSignature =>
      .deliveryCompleted deliveryId (DateTimeText.isoformat deliveredAt) recipientName
        recipientSignature

/-- The payload of an event of a handler is the one that the handlers publish. -/
theorem serializePayload_ofHandler (e : DomainEvent) :
    serializePayload (RegisteredEvent.ofHandler e).fields =
      FieldValue.ofJsonItems (payload e) := by
  cases e with
  | shipmentCreated shipmentId origin destination items =>
    simp [RegisteredEvent.ofHandler, RegisteredEvent.fields, payload, serializePayload,
      serializeValue, FieldValue.ofJsonItems, FieldValue.ofJson, serializeItems_ofJsonEach]
  | inventoryReserved warehouseId shipmentId items reservedAt =>
    simp [RegisteredEvent.ofHandler, RegisteredEvent.fields, payload, serializePayload,
      serializeValue, FieldValue.ofJsonItems, FieldValue.ofJson, serializeItems_ofJsonEach]
  | inventoryReleased warehouseId shipmentId items releasedAt reason =>
    simp [RegisteredEvent.ofHandler, RegisteredEvent.fields, payload, serializePayload,
      serializeValue, FieldValue.ofJsonItems, FieldValue.ofJson, serializeItems_ofJsonEach]
  | deliveryCompleted deliveryId deliveredAt recipientName recipientSignature =>
    cases recipientName <;> cases recipientSignature <;> rfl
  | _ => rfl

end SupplyChainTracker
