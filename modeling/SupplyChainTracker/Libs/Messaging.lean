import SupplyChainTracker.Python.Json

/-!
# Messages

The envelopes of `libs.messaging` and the three compensating commands that the
saga coordinator sends. Identifiers and clock readings that a Python default
factory would draw are arguments here.
-/

namespace SupplyChainTracker

/-- An instant, in microseconds since the epoch. -/
abbrev DateTime : Type := Int

/-- The readings that a piece of code takes from the clock, in order. -/
abbrev Clock : Type := Nat → DateTime

/-- The readings after the first `n`. -/
def Clock.after (clock : Clock) (n : Nat) : Clock := fun k => clock (n + k)

/-- `libs.messaging.base.Event`. -/
structure Event where
  eventType : String
  aggregateId : UUID
  aggregateType : String
  payload : Json
  eventId : UUID
  timestamp : DateTime
  correlationId : Option UUID := none

/-- `libs.messaging.base.Command`. -/
structure Command where
  commandType : String
  aggregateId : UUID
  payload : Json
  commandId : UUID
  correlationId : Option UUID := none

/-- `uuid.UUID(str(payload.get(key) or str(aggregate_id)))`: no inner value stands for its
`ValueError`, no outer one for the `AttributeError` of a payload that is not a `dict`. -/
def Command.idFrom (c : Command) (key : String) : Option (Option UUID) :=
  (c.payload.get? key).map fun value =>
    match value with
    | some raw => if raw.truthy then raw.uuid else (Json.str c.aggregateId.str).uuid
    | none => (Json.str c.aggregateId.str).uuid

/-- A written id in the payload is read back. -/
theorem Command.idFrom_str {c : Command} {key : String} {id : UUID}
    (h : c.payload.get? key = some (some (.str id.str))) : c.idFrom key = some (some id) := by
  simp [Command.idFrom, h]

namespace ReleaseInventoryCommand

/-- The `command_type` of the class. -/
def commandType : String := "inventory.release"

/-- `ReleaseInventoryCommand.create`. -/
def create (shipmentId warehouseId : UUID) (items : List Json) (sagaId : UUID) (reason : Json)
    (commandId : UUID) : Command where
  commandType := commandType
  aggregateId := warehouseId
  payload := .obj [
    ("shipment_id", .str shipmentId.str),
    ("warehouse_id", .str warehouseId.str),
    ("items", .arr items),
    ("reason", reason)]
  commandId := commandId
  correlationId := some sagaId

end ReleaseInventoryCommand

namespace UnassignCourierCommand

/-- The `command_type` of the class. -/
def commandType : String := "courier.unassign"

/-- `UnassignCourierCommand.create`. -/
def create (deliveryId sagaId : UUID) (reason : Json) (commandId : UUID) : Command where
  commandType := commandType
  aggregateId := deliveryId
  payload := .obj [
    ("delivery_id", .str deliveryId.str),
    ("reason", reason)]
  commandId := commandId
  correlationId := some sagaId

end UnassignCourierCommand

namespace CancelShipmentCommand

/-- The `command_type` of the class. -/
def commandType : String := "shipment.cancel"

/-- `CancelShipmentCommand.create`. -/
def create (shipmentId : UUID) (reason : Json) (sagaId commandId : UUID) : Command where
  commandType := commandType
  aggregateId := shipmentId
  payload := .obj [
    ("shipment_id", .str shipmentId.str),
    ("reason", reason)]
  commandId := commandId
  correlationId := some sagaId

end CancelShipmentCommand

end SupplyChainTracker
