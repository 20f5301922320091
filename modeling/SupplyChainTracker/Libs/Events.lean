import SupplyChainTracker.Libs.Messaging
import SupplyChainTracker.Python.DateTime

/-!
# Domain events

The events that the HTTP handlers announce, and how `DomainEventConverter` turns each of
them into the `Event` of an envelope.
-/

namespace SupplyChainTracker

/-- The domain events of the shipment, delivery and warehouse services. Instants are in UTC, but
the estimate of a `CourierAssigned` is naive. -/
inductive DomainEvent : Type
  | shipmentCreated (shipmentId : UUID) (origin destination : String) (items : List Json)
  | shipmentUpdated (shipmentId : UUID) (status : String) (updatedAt : DateTime)
  | shipmentCancelled (shipmentId : UUID) (reason : String) (cancelledAt : DateTime)
  | inventoryReserved (warehouseId shipmentId : UUID) (items : List Json) (reservedAt : DateTime)
  | inventoryReleased (warehouseId shipmentId : UUID) (items : List Json) (releasedAt : DateTime)
      (reason : String)
  | inventoryUpdated (warehouseId : UUID) (itemId : String) (newQuantity : Int)
      (updatedAt : DateTime)
  | courierAssigned (deliveryId courierId shipmentId : UUID) (estimatedDelivery : DateTime)
      (assignedAt : DateTime)
  /-- The two coordinates are left at their default, `None`. -/
  | deliveryInTransit (deliveryId : UUID) (currentLocation : String) (updatedAt : DateTime)
  | deliveryCompleted (deliveryId : UUID) (deliveredAt : DateTime)
      (recipientName recipientSignature : Option String)

/-- The clock reading of a domain event, and what the defaults of its `Event` draw. -/
structure EventDraws where
  occurredAt : DateTime
  eventId : UUID
  timestamp : DateTime

namespace DomainEventConverter

/-- A text or `None`. -/
def optionalText : Option String → Json
  | none => .null
  | some text => .str text

/-- `_EVENT_TYPE_MAP`: the event type, the aggregate type and the field of the aggregate's id. -/
def eventTypeMap : DomainEvent → String × String × String
  | .shipmentCreated .. => ("shipment.created", "shipment", "shipment_id")
  | .shipmentUpdated .. => ("shipment.updated", "shipment", "shipment_id")
  | .shipmentCancelled .. => ("shipment.cancelled", "shipment", "shipment_id")
  | .inventoryReserved .. => ("inventory.reserved", "warehouse", "warehouse_id")
  | .inventoryReleased .. => ("inventory.released", "warehouse", "warehouse_id")
  | .inventoryUpdated .. => ("inventory.updated", "warehouse", "warehouse_id")
  | .courierAssigned .. => ("courier.assigned", "delivery", "delivery_id")
  | .deliveryInTransit .. => ("delivery.in_transit", "delivery", "delivery_id")
  | .deliveryCompleted .. => ("delivery.completed", "delivery", "delivery_id")

/-- `getattr(domain_event, id_field)`. -/
def aggregateId : DomainEvent → UUID
  | .shipmentCreated shipmentId .. => shipmentId
  | .shipmentUpdated shipmentId .. => shipmentId
  | .shipmentCancelled shipmentId .. => shipmentId
  | .inventoryReserved warehouseId .. => warehouseId
  | .inventoryReleased warehouseId .. => warehouseId
  | .inventoryUpdated warehouseId .. => warehouseId
  | .courierAssigned deliveryId .. => deliveryId
  | .deliveryInTransit deliveryId .. => deliveryId
  | .deliveryCompleted deliveryId .. => deliveryId

/-- `_serialize_payload` of the fields in their order. -/
def payload : DomainEvent → List (String × Json)
  | .shipmentCreated shipmentId origin destination items => [
      ("shipment_id", .str shipmentId.str),
      ("origin", .str origin),
      ("destination", .str destination),
      ("items", .arr items)]
  | .shipmentUpdated shipmentId status updatedAt => [
      ("shipment_id", .str shipmentId.str),
      ("status", .str status),
      ("updated_at", .str (DateTimeText.isoformat updatedAt))]
  | .shipmentCancelled shipmentId reason cancelledAt => [
      ("shipment_id", .str shipmentId.str),
      ("reason", .str reason),
      ("cancelled_at", .str (DateTimeText.isoformat cancelledAt))]
  | .inventoryReserved warehouseId shipmentId items reservedAt => [
      ("warehouse_id", .str warehouseId.str),
      ("shipment_id", .str shipmentId.str),
      ("items", .arr items),
      ("reserved_at", .str (DateTimeText.isoformat reservedAt))]
  | .inventoryReleased warehouseId shipmentId items releasedAt reason => [
      ("warehouse_id", .str warehouseId.str),
      ("shipment_id", .str shipmentId.str),
      ("items", .arr items),
      ("released_at", .str (DateTimeText.isoformat releasedAt)),
      ("reason", .str reason)]
  | .inventoryUpdated warehouseId itemId newQuantity updatedAt => [
      ("warehouse_id", .str warehouseId.str),
      ("item_id", .str itemId),
      ("new_quantity", .int newQuantity),
      ("updated_at", .str (DateTimeText.isoformat updatedAt))]
  | .courierAssigned deliveryId courierId shipmentId estimatedDelivery assignedAt => [
      ("delivery_id", .str deliveryId.str),
      ("courier_id", .str courierId.str),
      ("shipment_id", .str shipmentId.str),
      ("estimated_delivery", .str (DateTimeText.isoformatNaive estimatedDelivery)),
      ("assigned_at", .str (DateTimeText.isoformat assignedAt))]
  | .deliveryInTransit deliveryId currentLocation updatedAt => [
      ("delivery_id", .str deliveryId.str),
      ("current_location", .str currentLocation),
      ("latitude", .null),
      ("longitude", .null),
      ("updated_at", .str (DateTimeText.isoformat updatedAt))]
  | .deliveryCompleted deliveryId deliveredAt recipientName recipientSignature => [
      ("delivery_id", .str deliveryId.str),
      ("delivered_at", .str (DateTimeText.isoformat deliveredAt)),
      ("recipient_name", optionalText recipientName),
      ("recipient_signature", optionalText recipientSignature)]

/-- `to_event`, without a correlation id. -/
def toEvent (domainEvent : DomainEvent) (draws : EventDraws) : Event where
  eventType := (eventTypeMap domainEvent).1
  aggregateId := aggregateId domainEvent
  aggregateType := (eventTypeMap domainEvent).2.1
  payload := .obj (payload domainEvent)
  eventId := draws.eventId
  timestamp := draws.timestamp

/-- The id of an event's aggregate is the field of its payload that the map names. -/
theorem lookup_idField (domainEvent : DomainEvent) :
    Json.lookup (eventTypeMap domainEvent).2.2 (payload domainEvent) =
      some (.str (aggregateId domainEvent).str) := by
  cases domainEvent <;> rfl

end DomainEventConverter

end SupplyChainTracker
