import SupplyChainTracker.Deliveries.CommandWorker
import SupplyChainTracker.Libs.Logging
import SupplyChainTracker.Shipments.CommandWorker
import SupplyChainTracker.Warehouse.CommandWorker

/-!
# What the command workers log

The handlers of the three command workers with their log records. Without them they are the
handlers of the services, and every command is logged when its handling starts.
-/

namespace SupplyChainTracker

open Coroutine (note quiet)

namespace CommandLogs

variable {Op ε : Type} {Ans : Op → Type}

/-- `payload.get("reason", "Saga compensation")`. -/
def reason (command : Command) : Json :=
  (command.payload.get? "reason").join.getD (.str "Saga compensation")

/-- A record that shows the payload of a command. -/
def payloadError (message : String) (command : Command) : LogRecord ε where
  level := .error
  message := message
  extra := [("payload", command.payload)]

/-- `_handle_command` of a worker that handles the commands of one type. -/
def handleCommand (commandType : String)
    (handler : Coroutine (Noted Op (LogRecord ε)) (Noted.Ans Ans) ε Unit) (command : Command) :
    Coroutine (Noted Op (LogRecord ε)) (Noted.Ans Ans) ε Unit := do
  note {
    level := .info
    message := "Processing command"
    extra := [("command_type", .str command.commandType),
      ("aggregate_id", .str command.aggregateId.str)] }
  if command.commandType = commandType then handler
  else
    note {
      level := .warning
      message := "Unknown command type — skipping"
      extra := [("command_type", .str command.commandType)] }

/-- The body of the loop in `run`. -/
def guarded (handled : Coroutine (Noted Op (LogRecord ε)) (Noted.Ans Ans) ε Unit)
    (command : Command) : Coroutine (Noted Op (LogRecord ε)) (Noted.Ans Ans) ε Unit :=
  handled.tryCatch fun e =>
    note {
      level := .error
      message := "Error handling command " ++ command.commandType
      extra := [("command_id", .str command.commandId.str)]
      excInfo := some e }

/-- Without its records a worker does what its handler does to commands of its type. -/
theorem erase_handleCommand (commandType : String)
    (handler : Coroutine (Noted Op (LogRecord ε)) (Noted.Ans Ans) ε Unit) (command : Command) :
    (handleCommand commandType handler command).erase =
      if command.commandType = commandType then handler.erase else .ret () := by
  rw [handleCommand, Coroutine.bind_eq, Coroutine.erase_bind, Coroutine.erase_note,
    Coroutine.ret_bind]
  split_ifs <;> rfl

/-- A worker goes on after an exception with what the handler has left. -/
theorem snd_run_erase_guarded {W : Type} (act : (op : Op) → W → Except ε (Ans op) × W)
    (handled : Coroutine (Noted Op (LogRecord ε)) (Noted.Ans Ans) ε Unit) (command : Command)
    (w : W) : ((guarded handled command).erase.run act w).2 = (handled.erase.run act w).2 := by
  rw [guarded, Coroutine.erase_tryCatch, Coroutine.run_tryCatch]
  cases (handled.erase.run act w).1 <;> rfl

/-- Every command is logged, whatever comes of it. -/
theorem notes_guarded_ne_nil {W : Type} {act : (op : Op) → W → Except ε (Ans op) × W}
    (commandType : String) (handler : Coroutine (Noted Op (LogRecord ε)) (Noted.Ans Ans) ε Unit)
    (command : Command) (w : W) :
    (guarded (handleCommand commandType handler command) command).notes act w ≠ [] := by
  refine Coroutine.notes_tryCatch_ne_nil ?_ _
  rw [handleCommand, Coroutine.bind_eq, Coroutine.notes_note_bind]
  exact List.cons_ne_nil _ _

/-- What the workers that delete something differ in. -/
structure Deletion (Op : Type) (Ans : Op → Type) (ε : Type) where
  key : String
  delete : UUID → Coroutine Op Ans ε Unit
  attributeError : String → ε
  isNotFound : ε → Bool
  deleted : String
  missing : String
  key_ne : key ≠ "correlation_id" := by decide

namespace Deletion

variable (deletion : Deletion Op Ans ε)

/-- `_handle_cancel_shipment` and `_handle_unassign_courier`. -/
def handle (command : Command) : Coroutine (Noted Op (LogRecord ε)) (Noted.Ans Ans) ε Unit :=
  match command.idFrom deletion.key with
  | none => .raise (deletion.attributeError command.payload.noAttributeGet)
  | some none =>
      note (payloadError ("Invalid " ++ deletion.key ++ " in command payload") command)
  | some (some id) =>
    ((quiet (deletion.delete id)).bind fun _ =>
      note {
        level := .info
        message := deletion.deleted
        extra := [(deletion.key, .str id.str), ("reason", reason command)]
        noCorrelationId := by simp [deletion.key_ne] }).tryCatch fun e =>
    if deletion.isNotFound e then
      note {
        level := .warning
        message := deletion.missing
        extra := [(deletion.key, .str id.str)]
        noCorrelationId := by simp [deletion.key_ne] }
    else .raise e

/-- Without its records the handler deletes what the command names and lets nothing escape that
says it was not found. -/
theorem erase_handle (command : Command) :
    (deletion.handle command).erase =
      match command.idFrom deletion.key with
      | none => .raise (deletion.attributeError command.payload.noAttributeGet)
      | some none => .ret ()
      | some (some id) => (deletion.delete id).tryCatch fun e =>
          if deletion.isNotFound e then .ret () else .raise e := by
  rw [handle]
  cases command.idFrom deletion.key with
  | none => rfl
  | some id? =>
    cases id? with
    | none => rfl
    | some id =>
      simp only [Coroutine.erase_tryCatch, Coroutine.erase_bind, Coroutine.erase_quiet,
        Coroutine.erase_note, Coroutine.bind_ret_unit]
      refine congrArg (Coroutine.tryCatch _) (funext fun e => ?_)
      split_ifs <;> rfl

end Deletion

end CommandLogs

namespace Shipments

/-- A program that logs. -/
abbrev LoggedProgram : Type → Type :=
  Coroutine (Noted Call (LogRecord ShipmentError)) (Noted.Ans Call.Ans) ShipmentError

namespace ShipmentCommandWorker.Logged

/-- The logger of the worker. -/
def logger : Logger := getJsonLogger "shipment_command_worker"

/-- `_handle_cancel_shipment`. -/
def handleCancelShipment (command : Command) : LoggedProgram Unit :=
  CommandLogs.Deletion.handle
    { key := "shipment_id"
      delete := ShipmentService.delete
      attributeError := .attributeError
      isNotFound := fun
        | .notFound _ => true
        | _ => false
      deleted := "Shipment cancelled (deleted) as compensation"
      missing := "Shipment not found during compensation — already deleted?" } command

/-- `_handle_command`. -/
def handleCommand (command : Command) : LoggedProgram Unit :=
  CommandLogs.handleCommand CancelShipmentCommand.commandType (handleCancelShipment command)
    command

/-- `run` over the commands the queue yields. -/
def run : List Command → LogContext → ShipmentDb →
    List (Handled Command LogContext (LogRecord ShipmentError)) × ShipmentDb :=
  handleEach act (enterMessage Command.correlationId) fun command =>
    CommandLogs.guarded (handleCommand command) command

/-- Without its records the handler is the one of the service. -/
theorem erase_handleCommand (command : Command) :
    (handleCommand command).erase = ShipmentCommandWorker.handleCommand command := by
  rw [handleCommand, CommandLogs.erase_handleCommand, ShipmentCommandWorker.handleCommand]
  refine if_congr Iff.rfl ?_ rfl
  rw [handleCancelShipment, CommandLogs.Deletion.erase_handle,
    ShipmentCommandWorker.handleCancelShipment]
  rcases command.idFrom "shipment_id" with _ | _ | shipmentId
  · rfl
  · rfl
  · refine congrArg (Coroutine.tryCatch _) (funext fun e => ?_)
    cases e <;> rfl

/-- The worker leaves what its handler leaves, one command after the other. -/
theorem snd_run (commands : List Command) (context : LogContext) (db : ShipmentDb) :
    (run commands context db).2 =
      commands.foldl (fun db command =>
        ((ShipmentCommandWorker.handleCommand command).run act db).2) db := by
  simp only [run, snd_handleEach, CommandLogs.snd_run_erase_guarded, erase_handleCommand]

/-- The lines of the worker carry the ids of their commands exactly when no command without an
id comes after one with. -/
theorem logsScoped_run_iff (commands : List Command) (serviceName environment : Option String)
    (db : ShipmentDb) :
    LogsScoped Command.correlationId logger
        (run commands ⟨none, serviceName, environment⟩ db).1 ↔
      UnidentifiedFirst (commands.map Command.correlationId) :=
  logsScoped_handleEach_start_iff
    (fun command _ db => CommandLogs.notes_guarded_ne_nil _ _ command db) commands serviceName
    environment db

end ShipmentCommandWorker.Logged

end Shipments

namespace Deliveries

/-- A program that logs. -/
abbrev LoggedProgram : Type → Type :=
  Coroutine (Noted Call (LogRecord DeliveryError)) (Noted.Ans Call.Ans) DeliveryError

namespace DeliveryCommandWorker.Logged

/-- The logger of the worker. -/
def logger : Logger := getJsonLogger "delivery_command_worker"

/-- `_handle_unassign_courier`. -/
def handleUnassignCourier (command : Command) : LoggedProgram Unit :=
  CommandLogs.Deletion.handle
    { key := "delivery_id"
      delete := DeliveryService.delete
      attributeError := .attributeError
      isNotFound := fun
        | .notFound _ => true
        | _ => false
      deleted := "Delivery deleted as compensation (courier unassigned)"
      missing := "Delivery not found during compensation — already deleted?" } command

/-- `_handle_command`. -/
def handleCommand (command : Command) : LoggedProgram Unit :=
  CommandLogs.handleCommand UnassignCourierCommand.commandType (handleUnassignCourier command)
    command

/-- `run` over the commands the queue yields. -/
def run : List Command → LogContext → DeliveryDb →
    List (Handled Command LogContext (LogRecord DeliveryError)) × DeliveryDb :=
  handleEach act (enterMessage Command.correlationId) fun command =>
    CommandLogs.guarded (handleCommand command) command

/-- Without its records the handler is the one of the service. -/
theorem erase_handleCommand (command : Command) :
    (handleCommand command).erase = DeliveryCommandWorker.handleCommand command := by
  rw [handleCommand, CommandLogs.erase_handleCommand, DeliveryCommandWorker.handleCommand]
  refine if_congr Iff.rfl ?_ rfl
  rw [handleUnassignCourier, CommandLogs.Deletion.erase_handle,
    DeliveryCommandWorker.handleUnassignCourier]
  rcases command.idFrom "delivery_id" with _ | _ | deliveryId
  · rfl
  · rfl
  · refine congrArg (Coroutine.tryCatch _) (funext fun e => ?_)
    cases e <;> rfl

/-- The worker leaves what its handler leaves, one command after the other. -/
theorem snd_run (commands : List Command) (context : LogContext) (db : DeliveryDb) :
    (run commands context db).2 =
      commands.foldl (fun db command =>
        ((DeliveryCommandWorker.handleCommand command).run act db).2) db := by
  simp only [run, snd_handleEach, CommandLogs.snd_run_erase_guarded, erase_handleCommand]

/-- The lines of the worker carry the ids of their commands exactly when no command without an
id comes after one with. -/
theorem logsScoped_run_iff (commands : List Command) (serviceName environment : Option String)
    (db : DeliveryDb) :
    LogsScoped Command.correlationId logger
        (run commands ⟨none, serviceName, environment⟩ db).1 ↔
      UnidentifiedFirst (commands.map Command.correlationId) :=
  logsScoped_handleEach_start_iff
    (fun command _ db => CommandLogs.notes_guarded_ne_nil _ _ command db) commands serviceName
    environment db

end DeliveryCommandWorker.Logged

end Deliveries

namespace Warehouse

/-- A program that logs. -/
abbrev LoggedProgram : Type → Type :=
  Coroutine (Noted Call (LogRecord InventoryError)) (Noted.Ans Call.Ans) InventoryError

/-- A command with the clock readings that its handling takes. -/
structure ClockedCommand where
  command : Command
  now : Clock

namespace WarehouseCommandWorker.Logged

/-- The logger of the worker. -/
def logger : Logger := getJsonLogger "warehouse_command_worker"

/-- The record of an inventory record that could not be released. -/
def notReleased (recordId : UUID) : InventoryError → LogRecord InventoryError
  | .recordNotFound _ => {
      level := .warning
      message := "Inventory record not found during compensation"
      extra := [("record_id", .str recordId.str)] }
  | e => {
      level := .error
      message := "Failed to release inventory record"
      extra := [("record_id", .str recordId.str)]
      excInfo := some e }

/-- Release one record after the other and count those that have been. -/
def releaseEach (now : Clock) : List (InventoryRecord × Nat) → Nat → LoggedProgram Nat
  | [], releasedCount => .ret releasedCount
  | p :: ps, releasedCount => do
      let releasedCount ←
        ((quiet (InventoryService.updateStatus p.1.recordId .received
          (now.after (5 * p.2)))).bind fun _ => .ret (releasedCount + 1)).tryCatch fun e =>
            (note (notReleased p.1.recordId e)).bind fun _ => .ret releasedCount
      releaseEach now ps releasedCount

/-- `_handle_release_inventory`. -/
def handleReleaseInventory (command : Command) (now : Clock) : LoggedProgram Unit :=
  match command.payload.get? "shipment_id" with
  | none => .raise (.attributeError command.payload.noAttributeGet)
  | some none =>
      note (CommandLogs.payloadError "Missing shipment_id in command payload" command)
  | some (some raw) =>
    if !raw.truthy then
      note (CommandLogs.payloadError "Missing shipment_id in command payload" command)
    else match raw.uuid with
      | none => note (CommandLogs.payloadError "Invalid shipment_id in command payload" command)
      | some shipmentId => do
        let records ← quiet (InventoryService.listRecordsByShipment shipmentId now)
        if records.isEmpty then
          note {
            level := .warning
            message := "No inventory records found for shipment during compensation"
            extra := [("shipment_id", .str shipmentId.str)] }
        else do
          let releasedCount ← releaseEach (now.after (2 * records.length)) records.zipIdx 0
          note {
            level := .info
            message := "Inventory released as compensation"
            extra := [("shipment_id", .str shipmentId.str),
              ("released_count", .int releasedCount), ("reason", CommandLogs.reason command)] }

/-- `_handle_command`. -/
def handleCommand (m : ClockedCommand) : LoggedProgram Unit :=
  CommandLogs.handleCommand ReleaseInventoryCommand.commandType
    (handleReleaseInventory m.command m.now) m.command

/-- `run` over the commands the queue yields. -/
def run : List ClockedCommand → LogContext → InventoryDb →
    List (Handled ClockedCommand LogContext (LogRecord InventoryError)) × InventoryDb :=
  handleEach act (enterMessage fun m => m.command.correlationId) fun m =>
    CommandLogs.guarded (handleCommand m) m.command

/-- Without its records and its count a pass over the records is the one of the service. -/
theorem erase_releaseEach (now : Clock) (ps : List (InventoryRecord × Nat)) (n : Nat) :
    ((releaseEach now ps n).erase.bind fun _ => .ret ()) =
      Coroutine.inTurn (fun (p : InventoryRecord × Nat) =>
        InventoryService.updateStatus p.1.recordId .received (now.after (5 * p.2))) ps := by
  induction ps generalizing n with
  | nil => rfl
  | cons p ps ih =>
    rw [releaseEach, Coroutine.inTurn]
    simp only [Coroutine.bind_eq, Coroutine.erase_bind, Coroutine.erase_tryCatch,
      Coroutine.erase_quiet, Coroutine.erase_note, Coroutine.erase_ret, Coroutine.ret_bind,
      Coroutine.bind_assoc, ih]
    exact Coroutine.guarded_bind_const _ _ _ _

/-- Without its records the handler is the one of the service. -/
theorem erase_handleCommand (m : ClockedCommand) :
    (handleCommand m).erase = WarehouseCommandWorker.handleCommand m.command m.now := by
  rw [handleCommand, CommandLogs.erase_handleCommand, WarehouseCommandWorker.handleCommand]
  refine if_congr Iff.rfl ?_ rfl
  rw [handleReleaseInventory, WarehouseCommandWorker.handleReleaseInventory]
  rcases m.command.payload.get? "shipment_id" with _ | _ | raw
  · rfl
  · rfl
  · dsimp only
    split_ifs with htruthy
    · rfl
    · cases raw.uuid with
      | none => rfl
      | some shipmentId =>
        simp only [Coroutine.bind_eq, Coroutine.erase_bind, Coroutine.erase_quiet]
        refine congrArg (Coroutine.bind _) (funext fun records => ?_)
        cases records with
        | nil => rfl
        | cons record records =>
          rw [if_neg (by simp), Coroutine.erase_bind]
          exact erase_releaseEach _ _ 0

/-- The worker leaves what its handler leaves, one command after the other. -/
theorem snd_run (ms : List ClockedCommand) (context : LogContext) (db : InventoryDb) :
    (run ms context db).2 = ms.foldl (fun db m =>
      ((WarehouseCommandWorker.handleCommand m.command m.now).run act db).2) db := by
  simp only [run, snd_handleEach, CommandLogs.snd_run_erase_guarded, erase_handleCommand]

/-- The lines of the worker carry the ids of their commands exactly when no command without an
id comes after one with. -/
theorem logsScoped_run_iff (ms : List ClockedCommand) (serviceName environment : Option String)
    (db : InventoryDb) :
    LogsScoped (fun m : ClockedCommand => m.command.correlationId) logger
        (run ms ⟨none, serviceName, environment⟩ db).1 ↔
      UnidentifiedFirst (ms.map fun m => m.command.correlationId) :=
  logsScoped_handleEach_start_iff
    (fun m _ db => CommandLogs.notes_guarded_ne_nil _ _ m.command db) ms serviceName
    environment db

end WarehouseCommandWorker.Logged

end Warehouse

end SupplyChainTracker
