import SupplyChainTracker.Blockchain.Worker
import SupplyChainTracker.Core.Async.Network
import SupplyChainTracker.Deliveries.CommandWorker
import SupplyChainTracker.Saga.Tasks
import SupplyChainTracker.Services.System
import SupplyChainTracker.Shipments.CommandWorker
import SupplyChainTracker.Warehouse.CommandWorker

/-!
# The topics of the services

The handlers announce on `shipment-events`, `delivery-events` and `inventory-events` and the
confirmation monitor on `blockchain_events`; the workers listen to the topics of the commands, to
three types of failure events and to the names of three services. Whatever becomes of a publication,
no worker ever gets a message.
-/

namespace SupplyChainTracker

/-- What is published on a topic. -/
inductive OnTopic : Type
  | event (event : Event)
  | command (command : Command)

/-- What a call of a handler may publish, with every topic that it names in whatever way. -/
def HandlerCall.sends {Op : Type} : HandlerCall Op → List (String × OnTopic)
  | .repository _ => []
  | .publishEvent call =>
      (call.topics ++ (call.keywords.filter fun k => k.1 = "topic").map Prod.snd).map fun topic =>
        (topic, .event call.event)

/-- A call names no topic but some. -/
def HandlerCall.NamesOnly {Op : Type} (topics : List String) (op : HandlerCall Op) : Prop :=
  ∀ m ∈ op.sends, m.1 ∈ topics

section Handlers

variable {Op Part : Type} {Ans : Op → Type} {PartAns : Part → Type} {ε α : Type}
  {topics : List String}

/-- The methods of a service name none. -/
theorem Handler.namesOnly_call {f : Part → Op} {back : (op : Part) → Ans (f op) → PartAns op}
    (p : Coroutine Part PartAns ε α) :
    (Handler.call f back p : Handler Op Ans ε α).Calls (HandlerCall.NamesOnly topics) :=
  Coroutine.Calls.lift (Coroutine.calls_of_forall (fun _ => trivial) p)
    fun _ (_ : True) _ hm => by cases hm

theorem Handler.namesOnly_publishEvent {topic : String} (h : topic ∈ topics) (event : Event) :
    (Handler.publishEvent event topic : Handler Op Ans ε Unit).Calls
      (HandlerCall.NamesOnly topics) := by
  refine Coroutine.calls_perform.mpr fun m hm => ?_
  obtain rfl : m = (topic, .event event) := by simpa [HandlerCall.sends] using hm
  exact h

end Handlers

open HandlerCall (NamesOnly)

namespace Shipments

/-- The handlers of the shipment service announce on one topic. -/
theorem namesOnly_handler (request : Request) :
    request.handler.Calls (NamesOnly ["shipment-events"]) := by
  have hshipment : ∀ {α : Type} (p : ShipmentProgram α),
      (shipmentService p).Calls (NamesOnly ["shipment-events"]) := Handler.namesOnly_call
  have hitem : ∀ {α : Type} (p : ItemProgram α),
      (itemService p).Calls (NamesOnly ["shipment-events"]) := Handler.namesOnly_call
  have hannounce : ∀ domainEvent draws,
      (announce domainEvent draws).Calls (NamesOnly ["shipment-events"]) := fun _ _ =>
    Handler.namesOnly_publishEvent (List.mem_singleton.mpr rfl) _
  have hstatus : ∀ p draws,
      (ShipmentsRouter.announceStatus p draws).Calls (NamesOnly ["shipment-events"]) := fun _ _ =>
    (hshipment _).bind fun _ => (hannounce _ _).map _
  have hitems : ∀ p draws,
      (ItemsRouter.announceItem p draws).Calls (NamesOnly ["shipment-events"]) := fun _ _ =>
    (hitem _).bind fun _ => (hannounce _ _).map _
  cases request with
  | createShipment => exact ((hshipment _).bind fun _ => (hannounce _ _).map _).map _
  | getShipment => exact ((hshipment _).found (by trivial) fun _ => by trivial).map _
  | listShipments => exact ((hshipment _).map _).map _
  | updateShipment =>
    exact ((hshipment _).found (by trivial) fun _ => (Coroutine.calls_ofExcept _).bind fun _ =>
      (hshipment _).bind fun _ => (hannounce _ _).map _).map _
  | deleteShipment =>
    exact ((hshipment _).found (by trivial) fun _ =>
      (Handler.namesOnly_call _).bind fun _ => hannounce _ _).map _
  | markShipmentReceived => exact (hstatus _ _).map _
  | markShipmentReady => exact (hstatus _ _).map _
  | markShipmentInTransit => exact (hstatus _ _).map _
  | markShipmentDelivered => exact (hstatus _ _).map _
  | markShipmentCompleted => exact (hstatus _ _).map _
  | listActiveShipments => exact ((hshipment _).map _).map _
  | listInTransitShipments => exact ((hshipment _).map _).map _
  | createItem =>
    exact ((Coroutine.calls_ofExcept _).bind fun _ => (hitem _).bind fun _ =>
      (hannounce _ _).map _).map _
  | listShipmentItems => exact ((hitem _).map _).map _
  | getShipmentTotalWeight => exact ((hitem _).map _).map _
  | getShipmentItemsCount => exact ((hitem _).map _).map _
  | getItem => exact ((hitem _).found (by trivial) fun _ => by trivial).map _
  | updateItem =>
    exact ((hitem _).found (by trivial) fun _ => (Coroutine.calls_ofExcept _).bind fun _ =>
      (hitem _).bind fun _ => (hannounce _ _).map _).map _
  | deleteItem =>
    exact ((hitem _).found (by trivial) fun _ => (hitem _).bind fun _ => hannounce _ _).map _
  | increaseItemQuantity => exact (hitems _ _).map _
  | decreaseItemQuantity => exact (hitems _ _).map _
  | updateItemWeight => exact (hitems _ _).map _

end Shipments

namespace Deliveries

/-- The handlers of the delivery service announce on one topic. -/
theorem namesOnly_handler (textArgument : CourierText → Except DeliveryError String)
    (request : Request) :
    (request.handler textArgument).Calls (NamesOnly ["delivery-events"]) := by
  have hservice : ∀ {α : Type} (p : ServiceProgram α),
      (service p).Calls (NamesOnly ["delivery-events"]) := Handler.namesOnly_call
  have hannounce : ∀ domainEvent draws,
      (announce domainEvent draws).Calls (NamesOnly ["delivery-events"]) := fun _ _ =>
    Handler.namesOnly_publishEvent (List.mem_singleton.mpr rfl) _
  have hresult : ∀ {α : Type} (r : Except DeliveryError α),
      (Coroutine.ofExcept r : ApiProgram α).Calls (NamesOnly ["delivery-events"]) :=
    Coroutine.calls_ofExcept
  cases request with
  | createCourier => exact ((hresult _).bind fun _ => (hservice _).map _).map _
  | getCourier => exact ((hservice _).found (by trivial) fun _ => by trivial).map _
  | listCouriers => exact ((hservice _).map _).map _
  | updateCourier =>
    exact ((hservice _).found (by trivial) fun _ => (hresult _).bind fun _ =>
      (hservice _).map _).map _
  | deleteCourier => exact ((hservice _).found (by trivial) fun _ => hservice _).map _
  | createDelivery =>
    exact ((hservice _).found (by trivial) fun _ => (hservice _).bind fun _ =>
      (hannounce _ _).bind fun _ => hresult _).map _
  | getDelivery => exact ((hservice _).found (by trivial) fun _ => hresult _).map _
  | listDeliveries => exact ((hservice _).bind fun _ => hresult _).map _
  | updateDelivery deliveryId dto now estimateNow draws =>
    refine ((hservice _).found (by trivial) fun delivery => Coroutine.Calls.bind ?_
      fun newCourier => (hservice _).bind fun saved => ?_).map _
    · unfold DeliveryRouter.newCourier
      split
      · trivial
      · split
        · trivial
        · exact (hservice _).found (by trivial) fun _ => by trivial
    · cases newCourier with
      | none => exact hresult _
      | some courier => exact (hannounce _ _).bind fun _ => hresult _
  | deleteDelivery => exact ((hservice _).found (by trivial) fun _ => hservice _).map _
  | markDeliveryInTransit =>
    exact ((hservice _).found (by trivial) fun _ => (hservice _).bind fun _ =>
      (hservice _).found (by trivial) fun _ => (hannounce _ _).bind fun _ => hresult _).map _
  | completeDelivery =>
    exact ((hservice _).found (by trivial) fun _ => (hservice _).bind fun _ =>
      (hannounce _ _).bind fun _ => hresult _).map _

end Deliveries

namespace Warehouse

/-- The handlers of the warehouse service announce on one topic. -/
theorem namesOnly_handler (text : LocationText) (request : Request) :
    (request.handler text).Calls (NamesOnly ["inventory-events"]) := by
  have hservice : ∀ {α : Type} (p : ServiceProgram α),
      (service p).Calls (NamesOnly ["inventory-events"]) := Handler.namesOnly_call
  have hannounce : ∀ domainEvent draws,
      (announce domainEvent draws).Calls (NamesOnly ["inventory-events"]) := fun _ _ =>
    Handler.namesOnly_publishEvent (List.mem_singleton.mpr rfl) _
  have hrecord : ∀ warehouseId recordId now,
      (InventoryRouter.recordOf warehouseId recordId now).Calls
        (NamesOnly ["inventory-events"]) := by
    intro warehouseId recordId now
    refine (hservice _).found (by trivial) fun record => ?_
    dsimp only
    split <;> trivial
  cases request with
  | createWarehouse =>
    exact ((Coroutine.calls_ofExcept _).bind fun _ => (hservice _).map _).map _
  | listWarehouses => exact ((hservice _).map _).map _
  | getWarehouse => exact ((hservice _).found (by trivial) fun _ => by trivial).map _
  | updateWarehouse =>
    exact ((hservice _).found (by trivial) fun _ => (Coroutine.calls_ofExcept _).bind fun _ =>
      (hservice _).map _).map _
  | deleteWarehouse => exact ((hservice _).found (by trivial) fun _ => hservice _).map _
  | createInventoryRecord =>
    exact ((hservice _).bind fun _ => (hannounce _ _).map _).map _
  | listInventoryRecordsForShipment => exact ((hservice _).map _).map _
  | getInventoryRecord => exact ((hrecord _ _ _).map _).map _
  | updateInventoryRecord warehouseId recordId dto now draws =>
    refine ((hrecord _ _ _).bind fun _ => ?_).map _
    cases dto.status with
    | none => trivial
    | some status => exact (hservice _).bind fun _ => (hannounce _ _).map _
  | deleteInventoryRecord =>
    exact ((hrecord _ _ _).bind fun _ => (hservice _).bind fun _ => hannounce _ _).map _

end Warehouse

/-! ## The coordinator and the blockchain service -/

namespace Saga

/-- What a call of the coordinator may publish. -/
def Call.sends : Call → List (String × OnTopic)
  | .publishCommand command topic => [(topic, .command command)]
  | _ => []

/-- A status that a saga may have while no failure event is handled: the one that it had at first,
or that of a new one. -/
def Unmoved (db : SagaDb) (sagaId : UUID) (status : String) : Prop :=
  status = SagaStatus.started.value ∨
    ∃ old ∈ db.sagas.rows, old.sagaId = sagaId ∧ old.status = status

/-- What the requests to the coordinator do: nothing that they store has another status. -/
def contract (db : SagaDb) : Protocol Call Call.Ans SagaError Unit where
  may
    | _, .save t => Unmoved db t.sagaId t.status.value
    | _, .publishCommand _ _ => False
    | _, _ => True
  expects
    | .get _, r => ∀ u, r = .ok (some u) → Unmoved db u.sagaId u.status.value
    | _, _ => True
  next _ _ _ := ()

/-- The tasks that serve requests. -/
def Task.IsRequest : Task → Prop
  | .handle _ => False
  | _ => True

/-- Requests keep to it. -/
theorem Task.keeps_contract {task : Task} (h : task.IsRequest) (db : SagaDb) :
    task.program.Keeps (contract db) (fun _ _ => True) () := by
  have hmap : ∀ {α : Type} {p : Program α}, p.Keeps (contract db) (fun _ _ => True) () →
      (p.bind fun _ => .ret ()).Keeps (contract db) (fun _ _ => True) () := by
    intro α p hp
    refine Coroutine.Keeps.bind (Coroutine.Keeps.mono (fun r _ _ => ?_) hp)
    cases r <;> trivial
  cases task with
  | handle r => exact h.elim
  | create dto startedAt updatedAt =>
    refine hmap ⟨.inl rfl, fun r _ => ?_⟩
    cases r <;> trivial
  | get sagaId =>
    refine hmap ⟨trivial, fun r _ => ?_⟩
    rcases r with e | _ | u <;> trivial
  | getByShipment shipmentId =>
    refine hmap ⟨trivial, fun r _ => ?_⟩
    rcases r with e | _ | u <;> trivial
  | listActive =>
    refine hmap ⟨trivial, fun r _ => ?_⟩
    cases r <;> trivial
  | update sagaId dto now =>
    refine hmap ⟨trivial, fun r _ => ?_⟩
    rcases r with e | _ | u
    · trivial
    · trivial
    refine ⟨trivial, fun r hr => ?_⟩
    rcases r with e | _ | v
    · trivial
    · trivial
    · simp only [Coroutine.ofExcept_ok, Coroutine.ret_bind, Coroutine.pure_eq]
      split
      · refine ⟨hr v rfl, fun r _ => ?_⟩
        cases r <;> trivial
      · trivial

/-- The table of the coordinator while no failure event is handled. -/
structure Undisturbed (db : SagaDb) (w : World) : Prop where
  status : ∀ row ∈ w.db.sagas.rows, Unmoved db row.sagaId row.status
  published : w.published = []

theorem undisturbed_initial (db : SagaDb) : Undisturbed db (World.initial db) where
  status row hrow := .inr ⟨row, hrow, rfl, rfl⟩
  published := rfl

/-- The calls of requests leave it so. -/
theorem Undisturbed.act {db : SagaDb} {w : World} (h : Undisturbed db w) (c : Constraints)
    {op : Call} (hmay : (contract db).may () op) :
    (contract db).expects op (Saga.act c op w).1 ∧ Undisturbed db (Saga.act c op w).2 := by
  cases op with
  | get sagaId =>
    refine ⟨fun u hu => ?_, h⟩
    obtain ⟨row, hrow, hentity⟩ := SagaDb.get_eq_some_iff.mp hu
    obtain ⟨hstatus, hu⟩ := rowToEntity_eq_ok_iff.mp hentity
    have huntouched := h.status row (Table.mem_of_find? hrow)
    rw [hstatus] at huntouched
    rw [hu]
    exact huntouched
  | save t =>
    refine ⟨trivial, ?_⟩
    rcases w.db.save_cases c t with ⟨e, he⟩ | ⟨new, db', hsave, hput, hup⟩
    · simp only [Saga.act, he]
      exact h
    · simp only [Saga.act, hsave]
      refine ⟨fun row hrow => ?_, h.published⟩
      rw [hput, Table.mem_put] at hrow
      rcases hrow with rfl | ⟨hrow, -⟩
      · rw [hup.sagaId, hup.status]
        exact hmay
      · exact h.status row hrow
  | publishCommand command topic => exact hmay.elim
  | getByShipment | listActive => exact ⟨trivial, h⟩

end Saga

namespace Blockchain

/-- `LISTEN_TOPICS` of the settings. -/
def listenTopics : List String := ["shipment_service", "delivery_service", "warehouse_service"]

/-- What a call of the blockchain service may publish. -/
def Call.sends : Call → List (String × OnTopic)
  | .publishEvent event topics => topics.map fun topic => (topic, .event event)
  | _ => []

/-- What the monitor does: it sends nothing to the chain and stores no new record. -/
def contract (db : RecordDb) : Protocol Call Call.Ans BlockchainError Unit where
  may
    | _, .sendTransaction _ => False
    | _, .save record => (db.records.find? record.recordId).isSome
    | _, .publishEvent _ topics => topics = ["blockchain_events"]
    | _, _ => True
  expects
    | .getPendingRecords _, r => ∀ rows, r = .ok rows →
        ∀ row ∈ rows, row.status = .pending ∧ (db.records.find? row.recordId).isSome
    | _, _ => True
  next _ _ _ := ()

section Monitor

variable {db : RecordDb}

/-- Saving a record that is stored already, and going on. -/
theorem keeps_save_bind {α : Type} {record : BlockchainRecord}
    (h : (db.records.find? record.recordId).isSome) {f : BlockchainRecord → Program α}
    (hf : ∀ saved, (f saved).Keeps (contract db) (fun _ _ => True) ()) :
    ((BlockchainRepository.save record).bind f).Keeps (contract db) (fun _ _ => True) () := by
  refine ⟨h, fun r _ => ?_⟩
  cases r with
  | error e => trivial
  | ok row =>
    simp only [Coroutine.ofExcept_ok, Coroutine.ret_bind]
    cases rowToEntity row with
    | error e => trivial
    | ok saved => exact hf saved

/-- The task of a record that is stored already. -/
theorem keeps_updateConfirmation (service : BlockchainService) {record : BlockchainRecord}
    (h : (db.records.find? record.recordId).isSome) (draws : EventDraws) :
    (service.updateConfirmation record draws).Keeps (contract db) (fun _ _ => True) () := by
  have hgeneral : ∀ {α β : Type} (r : Except BlockchainError α) {f : α → Program β},
      (∀ a, (f a).Keeps (contract db) (fun _ _ => True) ()) →
        ((Coroutine.ofExcept r).bind f).Keeps (contract db) (fun _ _ => True) () := by
    intro α β r f hf
    cases r with
    | error e => trivial
    | ok a => exact hf a
  have hconfirm : ∀ receipt,
      (service.confirmTransaction record receipt draws).Keeps (contract db) (fun _ _ => True) () :=
    fun receipt => hgeneral _ fun _ => hgeneral _ fun _ => hgeneral _ fun _ => hgeneral _ fun _ =>
      keeps_save_bind h fun _ => Coroutine.keeps_perform.mpr ⟨rfl, fun _ _ => trivial⟩
  have hexamine : (service.examine record draws).Keeps (contract db) (fun _ _ => True) () := by
    refine ⟨trivial, fun r _ => ?_⟩
    rcases r with e | _ | receipt
    · trivial
    · trivial
    · simp only [Coroutine.ofExcept_ok, Coroutine.ret_bind]
      split
      · exact keeps_save_bind h fun _ => trivial
      · split
        · exact hconfirm receipt
        · trivial
  refine Coroutine.Keeps.tryCatch (Coroutine.Keeps.mono (fun r _ _ => ?_) hexamine)
  cases r <;> trivial

/-- A pass of the monitor. -/
theorem keeps_pass (monitor : ConfirmationMonitor) (p : Pass) :
    (monitor.pass p).Keeps (contract db) (fun _ _ => True) () := by
  have hbody : ((BlockchainRepository.getPendingRecords monitor.batchSize).bind fun records =>
      Coroutine.gather p.picks (records.map fun record =>
        monitor.service.updateConfirmation record (p.draws record.recordId))).Keeps
      (contract db) (fun _ _ => True) () := by
    refine ⟨trivial, fun r hr => ?_⟩
    cases r with
    | error e => trivial
    | ok rows =>
      have hrows : ∀ row ∈ rows, row.status = .pending ∧
        (db.records.find? row.recordId).isSome := hr rows rfl
      simp only [Coroutine.ofExcept_ok, Coroutine.ret_bind,
        mapM_rowToEntity fun row hrow => (hrows row hrow).1]
      refine Coroutine.keeps_gather _ fun task htask => ?_
      obtain ⟨record, hrecord, rfl⟩ := List.mem_map.mp htask
      obtain ⟨row, hrow, rfl⟩ := List.mem_map.mp hrecord
      exact keeps_updateConfirmation _ (hrows row hrow).2 _
  refine Coroutine.Keeps.tryCatch (Coroutine.Keeps.mono (fun r _ _ => ?_) hbody)
  cases r <;> trivial

/-- Any number of passes. -/
theorem keeps_monitor (monitor : ConfirmationMonitor) (passes : List Pass) :
    (monitor.run passes).Keeps (contract db) (fun _ _ => True) () := by
  induction passes with
  | nil => trivial
  | cons p passes ih =>
    refine Coroutine.Keeps.bind (Coroutine.Keeps.mono (fun r _ _ => ?_) (keeps_pass monitor p))
    cases r with
    | error e => trivial
    | ok _ => exact ih

/-- The blockchain service while no event is handled. -/
structure Unfed (db : RecordDb) (w : World) : Prop where
  records : ∀ row ∈ w.db.records.rows, (db.records.find? row.recordId).isSome
  sent : w.sent = []

theorem unfed_start (db : RecordDb) (environment : Environment) :
    Unfed db (World.start db environment) where
  records row hrow := by
    rw [show db.records.find? row.recordId = some row from Table.find?_of_mem hrow]
    rfl
  sent := rfl

/-- The calls of the monitor leave it so. -/
theorem Unfed.act {w : World} (h : Unfed db w) {op : Call} (hmay : (contract db).may () op) :
    (contract db).expects op (Blockchain.act op w).1 ∧ Unfed db (Blockchain.act op w).2 := by
  cases op with
  | sendTransaction payload => exact hmay.elim
  | getReceipt txHash =>
    refine ⟨trivial, ?_⟩
    simp only [Blockchain.act]
    split <;> exact ⟨h.records, h.sent⟩
  | save record =>
    refine ⟨trivial, ?_⟩
    simp only [Blockchain.act]
    split
    · exact ⟨h.records, h.sent⟩
    · rcases w.db.save_cases record with ⟨-, db', hsave, hput⟩ | ⟨-, e, hsave⟩
      · rw [hsave]
        refine ⟨fun row hrow => ?_, h.sent⟩
        change row ∈ db'.records.rows at hrow
        rw [hput, Table.mem_put] at hrow
        rcases hrow with rfl | ⟨hrow, -⟩
        · rw [RecordDb.recordId_target]
          exact hmay
        · exact h.records row hrow
      · rw [hsave]
        exact ⟨h.records, h.sent⟩
  | getPendingRecords limit =>
    simp only [Blockchain.act]
    split
    · exact ⟨fun rows hrows => (by cases hrows), h.records, h.sent⟩
    · refine ⟨fun rows hrows row hrow => ?_, h.records, h.sent⟩
      cases hrows
      obtain ⟨hmem, hpending⟩ := RecordDb.mem_pendingRecords hrow
      exact ⟨hpending, h.records row hmem⟩
  | publishEvent event topics =>
    refine ⟨trivial, ?_⟩
    simp only [Blockchain.act]
    split <;> exact ⟨h.records, h.sent⟩

end Monitor

end Blockchain

/-! ## The system -/

namespace Services

/-- The services that use a queue. -/
inductive Deployed : Type
  | shipment
  | delivery
  | warehouse
  | saga
  | blockchain
  deriving DecidableEq

/-- What the deployed services rest on. -/
structure Deployment where
  backend : Backend
  constraints : Saga.Constraints
  monitor : Blockchain.ConfirmationMonitor
  worker : Blockchain.BlockchainWorker

/-- What a worker does about a message; it logs what is raised. -/
def logged {Op : Type} {Ans : Op → Type} {ε : Type} (p : Coroutine Op Ans ε Unit) :
    Coroutine Op Ans ε Unit :=
  p.tryCatch fun _ => .ret ()

namespace Deployed

/-- The topics to which the worker of a service listens. -/
def listens : Deployed → List String
  | shipment => [Shipments.ShipmentCommandWorker.commandTopic]
  | delivery => [Deliveries.DeliveryCommandWorker.commandTopic]
  | warehouse => [Warehouse.WarehouseCommandWorker.commandTopic]
  | saga => Saga.SagaCompensationWorker.triggerTypes
  | blockchain => Blockchain.listenTopics

variable (d : Deployment)

/-- A service with its worker. The blockchain service has no requests but starts the monitor; what
the consumer of a worker cannot decode is skipped. -/
def process : Deployed → Process OnTopic
  | shipment => {
      Op := HandlerCall Shipments.RepositoryCall
      Ans := HandlerCall.Ans Shipments.RepositoryCall.Ans
      Err := Shipments.ShipmentError
      World := Served Shipments.World
      Request := Shipments.Request
      Draws := Unit
      act := Shipments.apiAct d.backend.shipments
      sends := HandlerCall.sends
      serve := fun request => request.handler.bind fun _ => .ret ()
      listens := shipment.listens
      handle := fun
        | .command command, _ =>
            logged (Shipments.deletion (Shipments.ShipmentCommandWorker.handleCommand command))
        | .event _, _ => .ret () }
  | delivery => {
      Op := HandlerCall Deliveries.Statement
      Ans := HandlerCall.Ans Deliveries.Statement.Ans
      Err := Deliveries.DeliveryError
      World := Served Deliveries.World
      Request := Deliveries.Request
      Draws := Unit
      act := Deliveries.apiAct d.backend.deliveries
      sends := HandlerCall.sends
      serve := fun request =>
        (request.handler d.backend.deliveries.textArgument).bind fun _ => .ret ()
      listens := delivery.listens
      handle := fun
        | .command command, _ => logged (Deliveries.service
            (Deliveries.inService (Deliveries.DeliveryCommandWorker.handleCommand command)))
        | .event _, _ => .ret () }
  | warehouse => {
      Op := HandlerCall Warehouse.Statement
      Ans := HandlerCall.Ans Warehouse.Statement.Ans
      Err := Warehouse.InventoryError
      World := Served Warehouse.World
      Request := Warehouse.Request
      Draws := Clock
      act := Warehouse.apiAct d.backend.warehouse
      sends := HandlerCall.sends
      serve := fun request => (request.handler d.backend.warehouse.text).bind fun _ => .ret ()
      listens := warehouse.listens
      handle := fun
        | .command command, now => logged (Warehouse.service
            (Warehouse.inService (Warehouse.WarehouseCommandWorker.handleCommand command now)))
        | .event _, _ => .ret () }
  | saga => {
      Op := Saga.Call
      Ans := Saga.Call.Ans
      Err := Saga.SagaError
      World := Saga.World
      Request := { task : Saga.Task // task.IsRequest }
      Draws := (Nat → DateTime) × (Nat → UUID)
      act := Saga.act d.constraints
      sends := Saga.Call.sends
      serve := fun request => request.1.program
      listens := saga.listens
      handle := fun
        | .event event, draws =>
            logged (Saga.SagaCompensationWorker.handleFailureEvent ⟨event, draws.1, draws.2⟩)
        | .command _, _ => .ret () }
  | blockchain => {
      Op := Blockchain.Call
      Ans := Blockchain.Call.Ans
      Err := Blockchain.BlockchainError
      World := Blockchain.World
      Request := List Blockchain.Pass
      Draws := UUID × DateTime
      act := Blockchain.act
      sends := Blockchain.Call.sends
      serve := d.monitor.run
      listens := blockchain.listens
      handle := fun
        | .event event, draws => d.worker.run [⟨event, draws.1, draws.2⟩]
        | .command _, _ => .ret () }

/-- What the calls of a service may be, outside the handling of messages. -/
def contract (sagas : Saga.SagaDb) (records : Blockchain.RecordDb) :
    (s : Deployed) → Protocol (s.process d).Op (s.process d).Ans (s.process d).Err Unit
  | shipment => .restricting (HandlerCall.NamesOnly ["shipment-events"])
  | delivery => .restricting (HandlerCall.NamesOnly ["delivery-events"])
  | warehouse => .restricting (HandlerCall.NamesOnly ["inventory-events"])
  | saga => Saga.contract sagas
  | blockchain => Blockchain.contract records

/-- What holds of the state of a service as long as it gets no message. -/
def Undisturbed (sagas : Saga.SagaDb) (records : Blockchain.RecordDb) :
    (s : Deployed) → (s.process d).World → Prop
  | saga, w => Saga.Undisturbed sagas w
  | blockchain, w => Blockchain.Unfed records w
  | _, _ => True

end Deployed

/-- The topics on which something is announced. -/
def announced : List String :=
  ["shipment-events", "delivery-events", "inventory-events", "blockchain_events"]

theorem Deployed.listens_not_announced (s : Deployed) :
    ∀ topic ∈ s.listens, topic ∉ announced := by
  cases s <;> decide

/-- Every publication but those of the handling of messages is on one of these topics, and no
worker listens to one of them. -/
theorem confined (d : Deployment) (sagas : Saga.SagaDb) (records : Blockchain.RecordDb) :
    Network.Confined (Deployed.process d) announced (Deployed.contract d sagas records)
      (Deployed.Undisturbed d sagas records) where
  deaf s := by
    have hdeaf := s.listens_not_announced
    cases s <;> exact hdeaf
  sends s op hmay m hm := by
    have hone : ∀ topic ∈ announced, m.1 ∈ [topic] → m.1 ∈ announced := fun topic h hm =>
      List.mem_singleton.mp hm ▸ h
    cases s with
    | shipment => exact hone "shipment-events" (by decide) (hmay m hm)
    | delivery => exact hone "delivery-events" (by decide) (hmay m hm)
    | warehouse => exact hone "inventory-events" (by decide) (hmay m hm)
    | saga =>
      cases op with
      | publishCommand command topic => exact False.elim hmay
      | get | save | getByShipment | listActive => cases hm
    | blockchain =>
      cases op with
      | publishEvent event topics =>
        obtain rfl : topics = ["blockchain_events"] := hmay
        obtain rfl := List.mem_singleton.mp hm
        exact hone "blockchain_events" (by decide) (List.mem_singleton.mpr rfl)
      | sendTransaction | getReceipt | save | getPendingRecords => cases hm
  serve s r := by
    cases s with
    | shipment => exact ((Shipments.namesOnly_handler r).map _).keeps
    | delivery => exact ((Deliveries.namesOnly_handler _ r).map _).keeps
    | warehouse => exact ((Warehouse.namesOnly_handler _ r).map _).keeps
    | saga => exact Saga.Task.keeps_contract r.2 sagas
    | blockchain => exact Blockchain.keeps_monitor d.monitor r
  answers s op w hw hmay := by
    cases s with
    | shipment | delivery | warehouse => exact ⟨trivial, trivial⟩
    | saga => exact Saga.Undisturbed.act hw d.constraints hmay
    | blockchain => exact Blockchain.Unfed.act hw hmay
  raises s op e := by
    cases s with
    | shipment | delivery | warehouse => trivial
    | saga => cases op <;> first | trivial | exact fun _ h => by cases h
    | blockchain => cases op <;> first | trivial | exact fun _ h => by cases h

/-- The states of the services at the start. -/
structure Initial where
  system : System
  sagas : Saga.SagaDb
  records : Blockchain.RecordDb
  environment : Blockchain.Environment

/-- The state of a service at the start. -/
def Initial.world (i : Initial) (d : Deployment) : (s : Deployed) → (s.process d).World
  | .shipment => i.system.shipments
  | .delivery => i.system.deliveries
  | .warehouse => i.system.warehouse
  | .saga => Saga.World.initial i.sagas
  | .blockchain => Blockchain.World.start i.records i.environment

section Runs

variable {d : Deployment}

/-- The state of the coordinator. -/
def sagaWorld (st : Network.State (Deployed.process d)) : Saga.World := (st.processes .saga).world

/-- The state of the blockchain service. -/
def blockchainWorld (st : Network.State (Deployed.process d)) : Blockchain.World :=
  (st.processes .blockchain).world

/-- Whatever requests the services serve, in whatever order the tasks and the monitor go on,
whichever calls raise and whatever becomes of the publications: no worker ever gets a message. So
no compensation is commanded, every saga keeps its status unless it is created anew, nothing is
sent to the chain and no record is added. -/
theorem no_worker_reacts (i : Initial) {actions : List (Network.Action (Deployed.process d))}
    {st : Network.State (Deployed.process d)}
    (h : (Network.State.start (i.world d)).exec actions = some st) :
    (∀ a ∈ actions, ¬ a.IsDelivery) ∧ (∀ m ∈ st.published, m.1 ∈ announced) ∧
    (sagaWorld st).published = [] ∧
    (∀ row ∈ (sagaWorld st).db.sagas.rows, row.status = Saga.SagaStatus.started.value ∨
      ∃ old ∈ i.sagas.sagas.rows, old.sagaId = row.sagaId ∧ old.status = row.status) ∧
    (blockchainWorld st).sent = [] ∧
    ∀ row ∈ (blockchainWorld st).db.records.rows,
      (i.records.records.find? row.recordId).isSome := by
  have hstart : ∀ s, Deployed.Undisturbed d i.sagas i.records s (i.world d s) := by
    intro s
    cases s with
    | shipment | delivery | warehouse => trivial
    | saga => exact Saga.undisturbed_initial i.sagas
    | blockchain => exact Blockchain.unfed_start i.records i.environment
  obtain ⟨hactions, hquiet⟩ :=
    (Network.quiet_start hstart).exec (confined d i.sagas i.records) h
  have hsaga : Saga.Undisturbed i.sagas (sagaWorld st) := hquiet.world .saga
  have hchain : Blockchain.Unfed i.records (blockchainWorld st) := hquiet.world .blockchain
  exact ⟨hactions, hquiet.published, hsaga.published, hsaga.status, hchain.sent, hchain.records⟩

end Runs

/-- The sample services beside a coordinator with one saga and a monitor without records. -/
def sampleDeployment : Deployment where
  backend := sampleBackend
  constraints := .leftAside
  monitor := Blockchain.sampleMonitor
  worker := {}

def sampleInitial : Initial :=
  ⟨sampleSystem, Saga.sampleDb, .empty, Blockchain.verifyingGateway⟩

/-- One more crate, announced or not, a warehouse for the saga of its shipment, and a pass of the
monitor. -/
def sampleActions : List (Network.Action (Deployed.process sampleDeployment)) := [
  .request .shipment (Shipments.Request.increaseItemQuantity ⟨21⟩ 1 ⟨1, ⟨91⟩, 1⟩),
  .request .saga ⟨Saga.Task.update Saga.sampleSaga.sagaId { warehouseId := some ⟨9⟩ } 7, trivial⟩,
  .request .blockchain Blockchain.samplePasses,
  .resume .shipment 0 none, .resume .saga 0 none, .resume .shipment 0 none,
  .resume .blockchain 0 none, .resume .saga 0 none, .resume .shipment 0 none,
  .resume .saga 0 none]

theorem no_worker_reacts_sample : ∃ st,
    (Network.State.start (sampleInitial.world sampleDeployment)).exec sampleActions = some st ∧
    st.published.map Prod.fst = ["shipment-events"] ∧ (sagaWorld st).published = [] ∧
    (blockchainWorld st).sent = [] := by
  have hrun : ∃ st,
      (Network.State.start (sampleInitial.world sampleDeployment)).exec sampleActions = some st ∧
      st.published.map Prod.fst = ["shipment-events"] := ⟨_, rfl, rfl⟩
  obtain ⟨st, hst, htopics⟩ := hrun
  obtain ⟨-, -, hcommands, -, hsent, -⟩ := no_worker_reacts sampleInitial hst
  exact ⟨st, hst, htopics, hcommands, hsent⟩

end Services

end SupplyChainTracker
