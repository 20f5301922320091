import SupplyChainTracker.Libs.Logging
import SupplyChainTracker.Saga.Worker

/-!
# What `SagaCompensationWorker` logs

The handler of a failure event with its log records. Without them it is the handler of the
coordinator's protocol, and every event without a correlation id is logged as skipped.
-/

namespace SupplyChainTracker.Saga

open Coroutine (note quiet)

/-- A program that logs. -/
abbrev LoggedProgram : Type → Type :=
  Coroutine (Noted Call (LogRecord SagaError)) (Noted.Ans Call.Ans) SagaError

namespace SagaCompensationWorker.Logged

/-- The logger of the worker. -/
def logger : Logger := getJsonLogger "saga_compensation_worker"

/-- `_compensate_inventory`. -/
def compensateInventory (saga : SagaInstance) (reason : Json) (commandId : UUID) :
    LoggedProgram Unit :=
  match saga.warehouseId with
  | none =>
      note (.of .warning "Skipping inventory compensation: No warehouse_id")
  | some _ => do
      quiet (SagaCompensationWorker.compensateInventory saga reason commandId)
      note (.of .info "Sent ReleaseInventoryCommand")

/-- `_compensate_shipment`. -/
def compensateShipment (saga : SagaInstance) (reason : Json) (commandId : UUID) :
    LoggedProgram Unit := do
  quiet (SagaCompensationWorker.compensateShipment saga reason commandId)
  note (.of .info "Sent CancelShipmentCommand")

/-- `_compensate_delivery`. -/
def compensateDelivery (saga : SagaInstance) (reason : Json) (commandId : UUID) :
    LoggedProgram Unit :=
  match saga.deliveryId with
  | none => return ()
  | some _ => do
      quiet (SagaCompensationWorker.compensateDelivery saga reason commandId)
      note (.of .info "Sent UnassignCourierCommand")

/-- `_execute_compensation_strategy`. -/
def executeCompensationStrategy (saga : SagaInstance) (r : Received) : LoggedProgram Unit := do
  let reason ← Coroutine.ofExcept (failureReason r.event)
  if r.event.eventType = "delivery.failed" then
    compensateDelivery saga reason (r.uuid4 0)
    compensateInventory saga (.str "Delivery failed rollback") (r.uuid4 1)
    compensateShipment saga (.str "Delivery failed rollback") (r.uuid4 2)
  else if r.event.eventType = "courier.unassigned" then
    compensateInventory saga (.str "Courier unassigned rollback") (r.uuid4 1)
    compensateShipment saga (.str "Courier unassigned rollback") (r.uuid4 2)
  else if r.event.eventType = "inventory.insufficient" then
    compensateShipment saga (.str "Inventory insufficient") (r.uuid4 2)
  else return ()

/-- `_handle_failure_event`. -/
def handleFailureEvent (r : Received) : LoggedProgram Unit := do
  match r.event.correlationId with
  | none =>
      note {
        level := .warning
        message := "Skipping event without correlation_id"
        extra := [("event_type", .str r.event.eventType)] }
  | some sagaId =>
    let saga ← quiet (SagaService.get sagaId)
    match saga with
    | none =>
        note {
          level := .error
          message := "Saga instance not found"
          extra := [("saga_id", .str sagaId.str)] }
    | some saga =>
      if saga.status.value ∈ ["completed", "compensating", "failed"] then
        note {
          level := .info
          message := "Saga already in final or compensating state"
          extra := [("status", .str saga.status.value)] }
      else
        note {
          level := .info
          message := "Triggering compensation"
          extra := [("reason", .str r.event.eventType)] }
        let triggered ← ((quiet (SagaService.triggerCompensation saga.sagaId r.event.eventType
          (r.now 0))).bind fun saga => .ret (some saga)).tryCatch fun
            | .valueError message =>
                (note (.of .warning ("Failed to trigger compensation: " ++ message))).bind fun _ =>
                  .ret none
            | e => .raise e
        match triggered with
        | none => return ()
        | some saga =>
          executeCompensationStrategy saga r
          let _ ← quiet (SagaService.failSaga saga.sagaId r.event.eventType
            ("Compensation triggered by " ++ r.event.eventType) (r.now 1))
          return ()

/-- The body of the loop in `run`. -/
def handle (r : Received) : LoggedProgram Unit :=
  (handleFailureEvent r).tryCatch fun e =>
    note {
      level := .error
      message := "Error handling event " ++ r.event.eventType
      extra := [("event_id", .str r.event.eventId.str)]
      excInfo := some e }

/-- `run` over the events the queue yields. -/
def run (c : Constraints) :
    List Received → LogContext → World → List (Handled Received LogContext (LogRecord SagaError)) ×
      World :=
  handleEach (act c) (enterMessage fun r => r.event.correlationId) handle

@[simp] theorem erase_compensateInventory (saga : SagaInstance) (reason : Json)
    (commandId : UUID) :
    (compensateInventory saga reason commandId).erase =
      SagaCompensationWorker.compensateInventory saga reason commandId := by
  cases h : saga.warehouseId with
  | none => simp [compensateInventory, SagaCompensationWorker.compensateInventory, h]
  | some warehouseId => simp [compensateInventory, h]

@[simp] theorem erase_compensateShipment (saga : SagaInstance) (reason : Json)
    (commandId : UUID) :
    (compensateShipment saga reason commandId).erase =
      SagaCompensationWorker.compensateShipment saga reason commandId := by
  simp [compensateShipment]

@[simp] theorem erase_compensateDelivery (saga : SagaInstance) (reason : Json)
    (commandId : UUID) :
    (compensateDelivery saga reason commandId).erase =
      SagaCompensationWorker.compensateDelivery saga reason commandId := by
  cases h : saga.deliveryId with
  | none => simp [compensateDelivery, SagaCompensationWorker.compensateDelivery, h]
  | some deliveryId => simp [compensateDelivery, h]

@[simp] theorem erase_executeCompensationStrategy (saga : SagaInstance) (r : Received) :
    (executeCompensationStrategy saga r).erase =
      SagaCompensationWorker.executeCompensationStrategy saga r := by
  rw [executeCompensationStrategy, SagaCompensationWorker.executeCompensationStrategy,
    Coroutine.bind_eq, Coroutine.bind_eq, Coroutine.erase_bind, Coroutine.erase_ofExcept]
  refine congrArg (Coroutine.bind _) (funext fun reason => ?_)
  split_ifs <;> simp

/-- Without its records the handler is the one of the protocol. -/
theorem erase_handleFailureEvent (r : Received) :
    (handleFailureEvent r).erase = SagaCompensationWorker.handleFailureEvent r := by
  rw [handleFailureEvent, SagaCompensationWorker.handleFailureEvent]
  cases r.event.correlationId with
  | none => rfl
  | some sagaId =>
    simp only [Coroutine.bind_eq, Coroutine.erase_bind, Coroutine.erase_quiet]
    refine congrArg (Coroutine.bind _) (funext fun saga => ?_)
    cases saga with
    | none => rfl
    | some saga =>
      dsimp only
      split_ifs with hstatus
      · rfl
      · simp only [Coroutine.erase_note, Coroutine.ret_bind, Coroutine.erase_bind,
          Coroutine.erase_tryCatch, Coroutine.erase_quiet, Coroutine.erase_ret]
        congr 1
        · refine congrArg (Coroutine.tryCatch _) (funext fun e => ?_)
          cases e <;> rfl
        · funext triggered
          cases triggered with
          | none => rfl
          | some saga => simp

/-- The loop leaves what the loop of the protocol does. -/
theorem snd_run (c : Constraints) (received : List Received) (context : LogContext) (w : World) :
    (run c received context w).2 =
      ((SagaCompensationWorker.run received).run (act c) w).2 := by
  rw [run, snd_handleEach]
  induction received generalizing w with
  | nil => rfl
  | cons r rs ih =>
    rw [List.foldl_cons, ih, SagaCompensationWorker.run, Coroutine.run_bind, handle,
      Coroutine.erase_tryCatch, erase_handleFailureEvent]
    simp only [Coroutine.erase_note, Coroutine.run_tryCatch]
    cases ((SagaCompensationWorker.handleFailureEvent r).run (act c) w).1 <;> rfl

/-- Every event without a correlation id is logged. -/
theorem notes_handle_ne_nil (c : Constraints) (r : Received) (h : r.event.correlationId = none)
    (w : World) : (handle r).notes (act c) w ≠ [] := by
  refine Coroutine.notes_tryCatch_ne_nil ?_ _
  rw [handleFailureEvent, h, Coroutine.notes_note]
  exact List.cons_ne_nil _ _

/-- The lines of the worker carry the ids of their events exactly when no event without an id
comes after one with. -/
theorem logsScoped_run_iff (c : Constraints) (received : List Received)
    (serviceName environment : Option String) (w : World) :
    LogsScoped (fun r : Received => r.event.correlationId) logger
        (run c received ⟨none, serviceName, environment⟩ w).1 ↔
      UnidentifiedFirst (received.map fun r => r.event.correlationId) :=
  logsScoped_handleEach_start_iff (notes_handle_ne_nil c) received serviceName environment w

end SagaCompensationWorker.Logged

end SupplyChainTracker.Saga
