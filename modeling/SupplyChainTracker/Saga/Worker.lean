import SupplyChainTracker.Saga.Service

/-!
# `SagaCompensationWorker`

The handler of a failure event, the compensation strategies and the loop that
handles one event after the other. What the handler draws from the clock and
from `uuid4` is given with the event.
-/

namespace SupplyChainTracker.Saga

open Coroutine (perform)

/-- An event from the queue, with the clock readings and command ids its handler draws. -/
structure Received where
  event : Event
  now : Nat → DateTime
  uuid4 : Nat → UUID

namespace SagaCompensationWorker

/-- The topics the worker consumes, which are also the event types it compensates. -/
def triggerTypes : List String := ["inventory.insufficient", "delivery.failed", "courier.unassigned"]

/-- `payload.get("reason", ...)`. -/
def failureReason (event : Event) : Except SagaError Json :=
  match event.payload.get? "reason" with
  | none => .error (.attributeError event.payload.noAttributeGet)
  | some none => .ok (.str ("Triggered by " ++ event.eventType))
  | some (some reason) => .ok reason

/-- A `dict` payload has a reason, if only the default one. -/
theorem failureReason_of_dict {event : Event} {items : List (String × Json)}
    (h : event.payload = .obj items) : ∃ reason, failureReason event = .ok reason := by
  simp only [failureReason, h, Json.get?]
  cases Json.lookup "reason" items with
  | none => exact ⟨_, rfl⟩
  | some reason => exact ⟨_, rfl⟩

/-- `_compensate_inventory`; the coordinator never lists items. -/
def compensateInventory (saga : SagaInstance) (reason : Json) (commandId : UUID) : Program Unit :=
  match saga.warehouseId with
  | none => return ()
  | some warehouseId =>
      perform (Call.publishCommand
        (ReleaseInventoryCommand.create saga.shipmentId warehouseId [] saga.sagaId reason commandId)
        "inventory.commands")

/-- `_compensate_shipment`. -/
def compensateShipment (saga : SagaInstance) (reason : Json) (commandId : UUID) : Program Unit :=
  perform (Call.publishCommand
    (CancelShipmentCommand.create saga.shipmentId reason saga.sagaId commandId)
    "shipment.commands")

/-- `_compensate_delivery`. -/
def compensateDelivery (saga : SagaInstance) (reason : Json) (commandId : UUID) : Program Unit :=
  match saga.deliveryId with
  | none => return ()
  | some deliveryId =>
      perform (Call.publishCommand
        (UnassignCourierCommand.create deliveryId saga.sagaId reason commandId)
        "delivery.commands")

/-- `_execute_compensation_strategy`; an event of any other type sends nothing. -/
def executeCompensationStrategy (saga : SagaInstance) (r : Received) : Program Unit := do
  let reason ← Coroutine.ofExcept (failureReason r.event)
  if r.event.eventType = "delivery.failed" then
    compensateDelivery saga reason (r.uuid4 0)
    compensateInventory saga (.str "Delivery failed rollback") (r.uuid4 1)
    compensateShipment saga (.str "Delivery failed rollback") (r.uuid4 2)
  else if r.event.eventType = "courier.unassigned" then
    compensateInventory saga (.str "Courier unassigned rollback") (r.uuid4 1)
    compensateShipment saga (.str "Courier unassigned rollback") (r.uuid4 2)
  else if r.event.eventType = "inventory.insufficient" then
    compensateShipment saga (.str "Inventory insufficient") (r.uuid4 2)
  else return ()

/-- `_handle_failure_event`. -/
def handleFailureEvent (r : Received) : Program Unit := do
  match r.event.correlationId with
  | none => return ()
  | some sagaId =>
    let saga ← SagaService.get sagaId
    match saga with
    | none => return ()
    | some saga =>
      if saga.status.value ∈ ["completed", "compensating", "failed"] then return ()
      else
        -- a `ValueError` of the second look at the saga ends the handling quietly
        let triggered ← ((SagaService.triggerCompensation saga.sagaId r.event.eventType
          (r.now 0)).bind fun saga => .ret (some saga)).tryCatch fun e =>
            if e.isValueError then .ret none else .raise e
        match triggered with
        | none => return ()
        | some saga =>
          executeCompensationStrategy saga r
          let _ ← SagaService.failSaga saga.sagaId r.event.eventType
            ("Compensation triggered by " ++ r.event.eventType) (r.now 1)
          return ()

/-- `run` over the events the queue yields: an exception is logged and the loop goes on. -/
def run : List Received → Program Unit
  | [] => .ret ()
  | r :: rs => ((handleFailureEvent r).tryCatch fun _ => .ret ()).bind fun _ => run rs

end SagaCompensationWorker

end SupplyChainTracker.Saga
