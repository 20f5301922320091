import SupplyChainTracker.Blockchain.Logs
import SupplyChainTracker.Saga.Logs
import SupplyChainTracker.Services.CommandLogs

/-!
# Correlation ids in the logs

The five workers beside each other. The coordinator and the command workers log under the last
id that was set, the blockchain worker under none.
-/

namespace SupplyChainTracker.Services

/-- Whatever the workers consume, the lines written while a message is handled carry exactly its
correlation id, for the coordinator and each command worker if and only if no message without an
id comes after one with, for the blockchain worker if and only if no target event has one. -/
theorem correlation_ids_iff (c : Saga.Constraints) (worker : Blockchain.BlockchainWorker)
    (serviceName environment : Option String) (context : LogContext)
    (received : List Saga.Received) (sagas : Saga.World)
    (yielded : List Blockchain.Yielded) (records : Blockchain.World)
    (cancels : List Command) (shipments : Shipments.ShipmentDb)
    (unassigns : List Command) (deliveries : Deliveries.DeliveryDb)
    (releases : List Warehouse.ClockedCommand) (inventory : Warehouse.InventoryDb) :
    (LogsScoped (fun r : Saga.Received => r.event.correlationId)
        Saga.SagaCompensationWorker.Logged.logger
        (Saga.SagaCompensationWorker.Logged.run c received ⟨none, serviceName, environment⟩
          sagas).1 ↔
      UnidentifiedFirst (received.map fun r => r.event.correlationId)) ∧
    (LogsScoped (fun y : Blockchain.Yielded => y.event.correlationId)
        Blockchain.BlockchainWorker.Logged.logger
        (Blockchain.BlockchainWorker.Logged.run worker yielded context records).1 ↔
      ∀ y ∈ yielded, y.event.eventType ∈ worker.targetEvents → y.event.correlationId = none) ∧
    (LogsScoped Command.correlationId Shipments.ShipmentCommandWorker.Logged.logger
        (Shipments.ShipmentCommandWorker.Logged.run cancels ⟨none, serviceName, environment⟩
          shipments).1 ↔
      UnidentifiedFirst (cancels.map Command.correlationId)) ∧
    (LogsScoped Command.correlationId Deliveries.DeliveryCommandWorker.Logged.logger
        (Deliveries.DeliveryCommandWorker.Logged.run unassigns ⟨none, serviceName, environment⟩
          deliveries).1 ↔
      UnidentifiedFirst (unassigns.map Command.correlationId)) ∧
    (LogsScoped (fun m : Warehouse.ClockedCommand => m.command.correlationId)
        Warehouse.WarehouseCommandWorker.Logged.logger
        (Warehouse.WarehouseCommandWorker.Logged.run releases ⟨none, serviceName, environment⟩
          inventory).1 ↔
      UnidentifiedFirst (releases.map fun m => m.command.correlationId)) :=
  ⟨Saga.SagaCompensationWorker.Logged.logsScoped_run_iff c received serviceName environment sagas,
    Blockchain.BlockchainWorker.Logged.logsScoped_run_iff worker yielded context records,
    Shipments.ShipmentCommandWorker.Logged.logsScoped_run_iff cancels serviceName environment
      shipments,
    Deliveries.DeliveryCommandWorker.Logged.logsScoped_run_iff unassigns serviceName environment
      deliveries,
    Warehouse.WarehouseCommandWorker.Logged.logsScoped_run_iff releases serviceName environment
      inventory⟩

/-- A delivery has failed; nobody has given the event a correlation id. -/
def unidentified : Saga.Received where
  event := ⟨"delivery.failed", ⟨811⟩, "delivery", .obj [], ⟨812⟩, 0, none⟩
  now := fun _ => 0
  uuid4 := fun _ => ⟨813⟩

/-- An event that belongs to a saga comes before it. -/
def identified : Saga.Received where
  event := ⟨"inventory.insufficient", ⟨821⟩, "inventory", .obj [], ⟨822⟩, 0, some ⟨823⟩⟩
  now := fun _ => 0
  uuid4 := fun _ => ⟨824⟩

/-- The coordinator logs that it skips an event without correlation id, under the id of the event
before it. -/
theorem skipped_under_foreign_id :
    ¬ ∀ (received : List Saga.Received) (w : Saga.World),
      LogsScoped (fun r : Saga.Received => r.event.correlationId)
        Saga.SagaCompensationWorker.Logged.logger
        (Saga.SagaCompensationWorker.Logged.run .migration001 received {} w).1 := by
  intro h
  have hfirst := (Saga.SagaCompensationWorker.Logged.logsScoped_run_iff .migration001
    [identified, unidentified] none (some "local") ⟨.created fun _ => 0, []⟩).mp (h _ _)
  simp [UnidentifiedFirst, identified, unidentified] at hfirst

end SupplyChainTracker.Services
