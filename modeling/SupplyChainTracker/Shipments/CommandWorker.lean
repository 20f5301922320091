import SupplyChainTracker.Core.Async.Coroutine
import SupplyChainTracker.Shipments.Tables

/-!
# `ShipmentCommandWorker`

The handler of cancel commands deletes the shipment together with its items; a
shipment that is already gone is found out by the count the deletion reports.
-/

namespace SupplyChainTracker.Shipments

open Coroutine (perform)

/-- A statement of the shipment repository. -/
inductive Call : Type
  | delete (shipmentId : UUID)

/-- What a statement returns: for a deletion its command tag. -/
abbrev Call.Ans : Call → Type
  | delete _ => String

/-- A coroutine of the shipment service. -/
abbrev Program : Type → Type := Coroutine Call Call.Ans ShipmentError

/-- The effect of a statement. -/
def act : (op : Call) → ShipmentDb → Except ShipmentError op.Ans × ShipmentDb
  | .delete shipmentId, db =>
      (.ok (if (db.shipments.find? shipmentId).isSome then "DELETE 1" else "DELETE 0"),
        db.delete shipmentId)

/-- The `ShipmentNotFoundError` of an id without a shipment. -/
def notFound (shipmentId : UUID) : ShipmentError :=
  .notFound ("Shipment " ++ shipmentId.str ++ " not found")

/-- `PostgresShipmentRepository.delete`. -/
def ShipmentRepository.delete (shipmentId : UUID) : Program Unit := do
  let result ← perform (Call.delete shipmentId)
  if result = "DELETE 0" then .raise (notFound shipmentId) else return ()

/-- `ShipmentService.delete`. -/
def ShipmentService.delete (shipmentId : UUID) : Program Unit :=
  ShipmentRepository.delete shipmentId

namespace ShipmentCommandWorker

/-- The topic that the worker consumes. -/
def commandTopic : String := "shipment.commands"

/-- `_handle_cancel_shipment`; a missing shipment is only logged. -/
def handleCancelShipment (command : Command) : Program Unit :=
  match command.idFrom "shipment_id" with
  | none => .raise (.attributeError command.payload.noAttributeGet)
  | some none => return ()
  | some (some shipmentId) =>
    (ShipmentService.delete shipmentId).tryCatch fun
      | .notFound _ => .ret ()
      | e => .raise e

/-- `_handle_command`; a command of another type is skipped. -/
def handleCommand (command : Command) : Program Unit :=
  if command.commandType = CancelShipmentCommand.commandType then handleCancelShipment command
  else return ()

end ShipmentCommandWorker

/-- Handling the cancel command of a shipment lets no exception escape and deletes exactly that
shipment with its items, if it is still there. -/
theorem run_handleCommand (db : ShipmentDb) (command : Command) (shipmentId : UUID)
    (htype : command.commandType = CancelShipmentCommand.commandType)
    (hpayload : command.payload.get? "shipment_id" = some (some (.str shipmentId.str))) :
    (ShipmentCommandWorker.handleCommand command).run act db =
      (.ok (), db.delete shipmentId) := by
  simp only [ShipmentCommandWorker.handleCommand, htype, if_true,
    ShipmentCommandWorker.handleCancelShipment, Command.idFrom_str hpayload,
    Coroutine.run_tryCatch, ShipmentService.delete, ShipmentRepository.delete, Coroutine.bind_eq,
    Coroutine.run_bind, Coroutine.run_perform, act]
  cases hfind : db.shipments.find? shipmentId with
  | none =>
    rw [ShipmentDb.delete_of_find?_none hfind]
    simp [notFound]
  | some s => simp

end SupplyChainTracker.Shipments
