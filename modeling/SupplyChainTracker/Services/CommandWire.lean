import SupplyChainTracker.Compensation
import SupplyChainTracker.Libs.InMemoryDelivery
import SupplyChainTracker.Libs.Kafka

/-!
# Compensation commands on the wire

A command goes through the queue as a `dict` and comes out without its class, so every worker
tells from its type whether the command is for it and parses the id from its payload.
-/

namespace SupplyChainTracker.Services

open Compensation (Step)

/-- What the commands of a saga are built from. -/
structure CommandDraws where
  sagaId : UUID
  shipmentId : UUID
  deliveryId : UUID
  warehouseId : UUID
  items : List Json
  reason : Json
  commandId : UUID

/-- The command that asks for a step. -/
def CommandDraws.command (d : CommandDraws) : Step → Command
  | .unassignCourier =>
      UnassignCourierCommand.create d.deliveryId d.sagaId d.reason d.commandId
  | .releaseInventory => ReleaseInventoryCommand.create d.shipmentId d.warehouseId d.items
      d.sagaId d.reason d.commandId
  | .cancelShipment =>
      CancelShipmentCommand.create d.shipmentId d.reason d.sagaId d.commandId

/-- The topic of the worker that does a step. -/
def topicOf : Step → String
  | .unassignCourier => Deliveries.DeliveryCommandWorker.commandTopic
  | .releaseInventory => Warehouse.WarehouseCommandWorker.commandTopic
  | .cancelShipment => Shipments.ShipmentCommandWorker.commandTopic

/-- What the three workers do about a command. -/
structure Reactions where
  delivery : Deliveries.Program Unit
  warehouse : Warehouse.Program Unit
  shipment : Shipments.Program Unit

namespace Reactions

/-- Nobody does anything. -/
def idle : Reactions := ⟨.ret (), .ret (), .ret ()⟩

/-- `_handle_command` of the three workers; a type that is no text is none of theirs. -/
def ofCommand (now : Clock) (c : CommandObject Json) : Reactions where
  delivery := c.command?.elim (.ret ()) Deliveries.DeliveryCommandWorker.handleCommand
  warehouse := c.command?.elim (.ret ()) fun c =>
    Warehouse.WarehouseCommandWorker.handleCommand c now
  shipment := c.command?.elim (.ret ()) Shipments.ShipmentCommandWorker.handleCommand

/-- `await self.service.delete(delivery_id)`, where a missing delivery is only logged. -/
def deleteDelivery (deliveryId : UUID) : Deliveries.Program Unit :=
  (Deliveries.DeliveryService.delete deliveryId).tryCatch fun
    | .notFound _ => .ret ()
    | e => .raise e

/-- List the records of a shipment and release one after the other. -/
def releaseShipment (shipmentId : UUID) (now : Clock) : Warehouse.Program Unit := do
  let records ← Warehouse.InventoryService.listRecordsByShipment shipmentId now
  Warehouse.WarehouseCommandWorker.releaseEach records (now.after (2 * records.length))

/-- `await self.service.delete(shipment_id)`, where a missing shipment is only logged. -/
def deleteShipment (shipmentId : UUID) : Shipments.Program Unit :=
  (Shipments.ShipmentService.delete shipmentId).tryCatch fun
    | .notFound _ => .ret ()
    | e => .raise e

/-- What the coordinator means a step to be: one worker does it and the others nothing. -/
def meant (d : CommandDraws) (now : Clock) : Step → Reactions
  | .unassignCourier => { idle with delivery := deleteDelivery d.deliveryId }
  | .releaseInventory => { idle with warehouse := releaseShipment d.shipmentId now }
  | .cancelShipment => { idle with shipment := deleteShipment d.shipmentId }

/-- The three workers do what is meant. -/
theorem ofCommand_command (d : CommandDraws) (now : Clock) (step : Step) :
    ofCommand now (d.command step).toObject = meant d now step := by
  cases step with
  | unassignCourier =>
    have hid : (d.command .unassignCourier).idFrom "delivery_id" = some (some d.deliveryId) :=
      Command.idFrom_str rfl
    have hdelivery : Deliveries.DeliveryCommandWorker.handleCommand (d.command .unassignCourier) =
        deleteDelivery d.deliveryId := by
      have htype : (d.command .unassignCourier).commandType =
          UnassignCourierCommand.commandType := rfl
      rw [Deliveries.DeliveryCommandWorker.handleCommand, if_pos htype,
        Deliveries.DeliveryCommandWorker.handleUnassignCourier, hid]
      rfl
    simp only [ofCommand, Command.command?_toObject, Option.elim_some, hdelivery]
    rfl
  | releaseInventory =>
    have hwarehouse : Warehouse.WarehouseCommandWorker.handleCommand
        (d.command .releaseInventory) now = releaseShipment d.shipmentId now := by
      have hpayload : (d.command .releaseInventory).payload.get? "shipment_id" =
          some (some (.str d.shipmentId.str)) := rfl
      have htype : (d.command .releaseInventory).commandType =
          ReleaseInventoryCommand.commandType := rfl
      rw [Warehouse.WarehouseCommandWorker.handleCommand, if_pos htype]
      simp only [Warehouse.WarehouseCommandWorker.handleReleaseInventory, hpayload,
        Json.truthy_str_uuid, Json.uuid_str, Bool.not_true, Bool.false_eq_true, if_false]
      rfl
    simp only [ofCommand, Command.command?_toObject, Option.elim_some, hwarehouse]
    rfl
  | cancelShipment =>
    have hid : (d.command .cancelShipment).idFrom "shipment_id" = some (some d.shipmentId) :=
      Command.idFrom_str rfl
    have hshipment : Shipments.ShipmentCommandWorker.handleCommand (d.command .cancelShipment) =
        deleteShipment d.shipmentId := by
      have htype : (d.command .cancelShipment).commandType =
          CancelShipmentCommand.commandType := rfl
      rw [Shipments.ShipmentCommandWorker.handleCommand, if_pos htype,
        Shipments.ShipmentCommandWorker.handleCancelShipment, hid]
      rfl
    simp only [ofCommand, Command.command?_toObject, Option.elim_some, hshipment]
    rfl

end Reactions

section Queues

variable {V : Type} [PyData V]

/-- What a consumer yields, and what it raises, when a command has been published to Kafka. -/
def consumedFromKafka (json : JsonCodec V) (c : CommandObject V) :
    Except PyError (List (CommandObject V) × Option PyError) := do
  let bytes ← KafkaEventQueueAdapter.publishCommand json c
  return KafkaEventQueueAdapter.consumeCommand json [some bytes]

/-- From Kafka a command is yielded with the fields it was published with, if its text is read
back. -/
theorem consumedFromKafka_eq {json : JsonCodec V} {c : CommandObject V}
    (hjson : json.ReadsBack c.toDict) : consumedFromKafka json c = .ok ([c], none) := by
  obtain ⟨bytes, hbytes, hcarries⟩ := KafkaEventQueueAdapter.carries_serialize hjson
  obtain ⟨text, htext, hdata⟩ := KafkaEventQueueAdapter.carries_iff.mp hcarries
  have hread : KafkaEventQueueAdapter.readCommand json (some bytes) = .ok c :=
    bind_eq_ok_iff.mpr ⟨text, htext, bind_eq_ok_iff.mpr ⟨c.toDict, hdata, c.fromDict_toDict⟩⟩
  refine bind_eq_ok_iff.mpr ⟨bytes, hbytes, ?_⟩
  simp only [KafkaEventQueueAdapter.consumeCommand, consumeEach, hread]
  rfl

end Queues

/-- The courier of delivery 14 is no longer needed. -/
def unassignDraws : CommandDraws :=
  ⟨⟨11⟩, ⟨12⟩, ⟨14⟩, ⟨13⟩, [], .str "late", ⟨15⟩⟩

/-- The text of the command, the only one that is written and loaded. -/
def unassignText : String :=
  "\x7b\"command_id\": \"00000000-0000-0000-0000-00000000000f\", " ++
    "\"command_type\": \"courier.unassign\", " ++
    "\"aggregate_id\": \"00000000-0000-0000-0000-00000000000e\", \"payload\": " ++
    "\x7b\"delivery_id\": \"00000000-0000-0000-0000-00000000000e\", " ++
    "\"reason\": \"late\"\x7d, " ++
    "\"correlation_id\": \"00000000-0000-0000-0000-00000000000b\"\x7d"

/-- The codec of this text. -/
def unassignJson : JsonCodec Json :=
  ⟨fun _ => .ok unassignText, fun text =>
    if text = unassignText then .ok (unassignDraws.command .unassignCourier).toObject.toDict
    else .error "Expecting value: line 1 column 1 (char 0)"⟩

end SupplyChainTracker.Services
