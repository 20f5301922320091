import SupplyChainTracker.Deliveries.Delivery

/-!
# `DeliveryCommandWorker`

The handler of unassign commands deletes the delivery; a delivery that is already
gone is found out by the query before the deletion.
-/

namespace SupplyChainTracker.Deliveries

namespace DeliveryCommandWorker

/-- The topic that the worker consumes. -/
def commandTopic : String := "delivery.commands"

/-- `_handle_unassign_courier`; a missing delivery is only logged. -/
def handleUnassignCourier (command : Command) : Program Unit :=
  match command.idFrom "delivery_id" with
  | none => .raise (.attributeError command.payload.noAttributeGet)
  | some none => return ()
  | some (some deliveryId) =>
    (DeliveryService.delete deliveryId).tryCatch fun
      | .notFound _ => .ret ()
      | e => .raise e

/-- `_handle_command`; a command of another type is skipped. -/
def handleCommand (command : Command) : Program Unit :=
  if command.commandType = UnassignCourierCommand.commandType then handleUnassignCourier command
  else return ()

end DeliveryCommandWorker

/-- Every stored delivery can be read with its courier. -/
def DeliveryDb.Loadable (db : DeliveryDb) : Prop :=
  ∀ d ∈ db.deliveries.rows, ∀ c, db.couriers.find? d.courierId = some c →
    ∃ delivery, rowToEntity d c = .ok delivery

/-- A deletion leaves the other deliveries readable. -/
theorem DeliveryDb.Loadable.delete {db : DeliveryDb} (h : db.Loadable) (deliveryId : UUID) :
    (db.delete deliveryId).Loadable :=
  fun d hd c hc => h d (List.mem_of_mem_filter hd) c hc

/-- Handling the unassign command of a delivery lets no exception escape and deletes exactly that
delivery, if it is still there. -/
theorem run_handleCommand {db : DeliveryDb} (hload : db.Loadable) (command : Command)
    (deliveryId : UUID) (htype : command.commandType = UnassignCourierCommand.commandType)
    (hpayload : command.payload.get? "delivery_id" = some (some (.str deliveryId.str))) :
    (DeliveryCommandWorker.handleCommand command).run act db =
      (.ok (), db.delete deliveryId) := by
  simp only [DeliveryCommandWorker.handleCommand, htype, if_true,
    DeliveryCommandWorker.handleUnassignCourier, Command.idFrom_str hpayload,
    Coroutine.run_tryCatch, DeliveryService.delete, Coroutine.bind_eq, Coroutine.run_bind,
    DeliveryRepository.get, Coroutine.run_perform, act, DeliveryDb.get]
  cases hfind : db.deliveries.find? deliveryId with
  | none =>
    rw [DeliveryDb.delete_of_find?_none hfind]
    simp [notFound]
  | some d =>
    have hd := Table.mem_of_find? hfind
    obtain ⟨c, hc⟩ := Option.isSome_iff_exists.mp (db.courierOf d hd)
    obtain ⟨delivery, hentity⟩ := hload d hd c hc
    simp [hc, hentity, DeliveryRepository.delete, act]

end SupplyChainTracker.Deliveries
