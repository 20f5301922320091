import SupplyChainTracker.Libs.EventQueue
import SupplyChainTracker.Libs.Routing
import SupplyChainTracker.Warehouse.Service

/-!
# The routes of the warehouse service

The handlers of the warehouse and inventory routers. Warehouses are changed without an
event; a change of an inventory record is stored first and announced afterwards.
-/

namespace SupplyChainTracker.Warehouse

/-- A coroutine of a handler. -/
abbrev ApiProgram : Type → Type := Handler Statement Statement.Ans InventoryError

/-- Await a method of one of the services. -/
def service {α : Type} (p : ServiceProgram α) : ApiProgram α :=
  Handler.call id (fun _ a => a) p

/-- Publish a domain event. -/
def announce (domainEvent : DomainEvent) (draws : EventDraws) : ApiProgram Unit :=
  Handler.publishEvent (DomainEventConverter.toEvent domainEvent draws) "inventory-events"

/-- The `HTTPException` about a warehouse that is not there. -/
def noWarehouse (warehouseId : UUID) : InventoryError :=
  .httpException 404 ("Warehouse " ++ warehouseId.str ++ " not found")

/-- The `HTTPException` about a record that is not there, or in another warehouse. -/
def noRecord (warehouseId recordId : UUID) : InventoryError :=
  .httpException 404 ("Inventory record " ++ recordId.str ++ " not found for warehouse " ++
    warehouseId.str)

namespace WarehouseRouter

variable (text : LocationText)

/-- `create_warehouse`. -/
def createWarehouse (dto : WarehouseCreateDTO) (warehouseId : UUID) : ApiProgram WarehouseDTO := do
  let entity ← Coroutine.ofExcept (WarehouseMapper.createDtoToEntity dto warehouseId)
  let created ← service (WarehouseService.create text entity)
  return WarehouseMapper.entityToDto created

/-- `list_warehouses`. -/
def listWarehouses (page : Page) : ApiProgram (List WarehouseDTO) := do
  let warehouses ← service (WarehouseService.getAll text page.limit page.offset)
  return warehouses.map WarehouseMapper.entityToDto

/-- `get_warehouse`. -/
def getWarehouse (warehouseId : UUID) : ApiProgram WarehouseDTO := do
  let warehouse ← service (WarehouseService.get text warehouseId)
  match warehouse with
  | none => .raise (noWarehouse warehouseId)
  | some warehouse => return WarehouseMapper.entityToDto warehouse

/-- `update_warehouse`. -/
def updateWarehouse (warehouseId : UUID) (dto : WarehouseUpdateDTO) :
    ApiProgram WarehouseDTO := do
  let warehouse ← service (WarehouseService.get text warehouseId)
  match warehouse with
  | none => .raise (noWarehouse warehouseId)
  | some warehouse =>
    let updatedEntity ← Coroutine.ofExcept (WarehouseMapper.updateEntityFromDto warehouse dto)
    let saved ← service (WarehouseService.update text updatedEntity)
    return WarehouseMapper.entityToDto saved

/-- `delete_warehouse`. -/
def deleteWarehouse (warehouseId : UUID) : ApiProgram Unit := do
  let warehouse ← service (WarehouseService.get text warehouseId)
  match warehouse with
  | none => .raise (noWarehouse warehouseId)
  | some _ => service (WarehouseService.delete text warehouseId)

end WarehouseRouter

namespace InventoryRouter

/-- The record that `create_inventory_record` makes of a DTO after it has set the warehouse. -/
def newRecord (warehouseId : UUID) (dto : InventoryRecordCreateDTO) (recordId : UUID)
    (now : Clock) : InventoryRecord :=
  let dto := { dto with warehouseId := some warehouseId }
  InventoryRecordMapper.createDtoToEntity dto rfl recordId now

/-- `create_inventory_record`, with two clock readings for the new record and two for the
returned one. -/
def createInventoryRecord (warehouseId : UUID) (dto : InventoryRecordCreateDTO) (recordId : UUID)
    (now : Clock) (draws : EventDraws) : ApiProgram InventoryRecordDTO := do
  let entity := newRecord warehouseId dto recordId now
  let created ← service (inService (InventoryService.createRecord entity (now.after 2)))
  announce (.inventoryReserved warehouseId created.shipmentId [] draws.occurredAt) draws
  return InventoryRecordMapper.entityToDto created

/-- `list_inventory_records_for_shipment`. -/
def listInventoryRecordsForShipment (warehouseId shipmentId : UUID) (now : Clock) :
    ApiProgram (List InventoryRecordDTO) := do
  let records ← service (inService (InventoryService.listRecordsByShipment shipmentId now))
  return (records.filter fun r => r.warehouseId = warehouseId).map
    InventoryRecordMapper.entityToDto

/-- The record of a request, which has to be in the warehouse of the request. -/
def recordOf (warehouseId recordId : UUID) (now : Clock) : ApiProgram InventoryRecord := do
  let record ← service (inService (InventoryService.getRecord recordId now))
  match record with
  | none => .raise (noRecord warehouseId recordId)
  | some record =>
    if record.warehouseId = warehouseId then return record
    else .raise (noRecord warehouseId recordId)

/-- `get_inventory_record`. -/
def getInventoryRecord (warehouseId recordId : UUID) (now : Clock) :
    ApiProgram InventoryRecordDTO := do
  let record ← recordOf warehouseId recordId now
  return InventoryRecordMapper.entityToDto record

/-- `update_inventory_record`, which loads the record twice. -/
def updateInventoryRecord (warehouseId recordId : UUID) (dto : InventoryRecordUpdateDTO)
    (now : Clock) (draws : EventDraws) : ApiProgram InventoryRecordDTO := do
  let _ ← recordOf warehouseId recordId now
  match dto.status with
  | none => .raise (.httpException 422 "Field 'status' is required for update")
  | some status =>
    let saved ← service (inService (InventoryService.updateStatus recordId status (now.after 2)))
    announce (.inventoryUpdated saved.warehouseId saved.recordId.str 0 draws.occurredAt) draws
    return InventoryRecordMapper.entityToDto saved

/-- `delete_inventory_record`, which loads the record twice. -/
def deleteInventoryRecord (warehouseId recordId : UUID) (now : Clock) (draws : EventDraws) :
    ApiProgram Unit := do
  let record ← recordOf warehouseId recordId now
  service (inService (InventoryService.deleteRecord recordId (now.after 2)))
  announce (.inventoryReleased warehouseId record.shipmentId [] draws.occurredAt "record_deleted")
    draws

end InventoryRouter

/-- A request to one of the routes, with what its handling draws. -/
inductive Request : Type
  | createWarehouse (dto : WarehouseCreateDTO) (warehouseId : UUID)
  | listWarehouses (page : Page)
  | getWarehouse (warehouseId : UUID)
  | updateWarehouse (warehouseId : UUID) (dto : WarehouseUpdateDTO)
  | deleteWarehouse (warehouseId : UUID)
  | createInventoryRecord (warehouseId : UUID) (dto : InventoryRecordCreateDTO) (recordId : UUID)
      (now : Clock) (draws : EventDraws)
  | listInventoryRecordsForShipment (warehouseId shipmentId : UUID) (now : Clock)
  | getInventoryRecord (warehouseId recordId : UUID) (now : Clock)
  | updateInventoryRecord (warehouseId recordId : UUID) (dto : InventoryRecordUpdateDTO)
      (now : Clock) (draws : EventDraws)
  | deleteInventoryRecord (warehouseId recordId : UUID) (now : Clock) (draws : EventDraws)

/-- What a route returns. -/
inductive Response : Type
  | warehouse (dto : WarehouseDTO)
  | warehouses (dtos : List WarehouseDTO)
  | record (dto : InventoryRecordDTO)
  | records (dtos : List InventoryRecordDTO)
  | noContent

/-- What the service rests on. -/
structure Backend where
  pg : Postgres
  text : LocationText
  adapter : QueueAdapter

namespace Request

/-- The route of a request. -/
def route : Request → Route
  | createWarehouse .. => ⟨.post, none⟩
  | listWarehouses .. => ⟨.get, none⟩
  | getWarehouse .. => ⟨.get, none⟩
  | updateWarehouse .. => ⟨.patch, none⟩
  | deleteWarehouse .. => ⟨.delete, some ["admin"]⟩
  | createInventoryRecord .. => ⟨.post, none⟩
  | listInventoryRecordsForShipment .. => ⟨.get, none⟩
  | getInventoryRecord .. => ⟨.get, none⟩
  | updateInventoryRecord .. => ⟨.patch, none⟩
  | deleteInventoryRecord .. => ⟨.delete, some ["admin"]⟩

/-- The handler of a request. -/
def handler (text : LocationText) : Request → ApiProgram Response
  | createWarehouse dto warehouseId =>
      return .warehouse (← WarehouseRouter.createWarehouse text dto warehouseId)
  | listWarehouses page => return .warehouses (← WarehouseRouter.listWarehouses text page)
  | getWarehouse warehouseId => return .warehouse (← WarehouseRouter.getWarehouse text warehouseId)
  | updateWarehouse warehouseId dto =>
      return .warehouse (← WarehouseRouter.updateWarehouse text warehouseId dto)
  | deleteWarehouse warehouseId => do
      WarehouseRouter.deleteWarehouse text warehouseId
      return .noContent
  | createInventoryRecord warehouseId dto recordId now draws =>
      return .record
        (← InventoryRouter.createInventoryRecord warehouseId dto recordId now draws)
  | listInventoryRecordsForShipment warehouseId shipmentId now =>
      return .records
        (← InventoryRouter.listInventoryRecordsForShipment warehouseId shipmentId now)
  | getInventoryRecord warehouseId recordId now =>
      return .record (← InventoryRouter.getInventoryRecord warehouseId recordId now)
  | updateInventoryRecord warehouseId recordId dto now draws =>
      return .record
        (← InventoryRouter.updateInventoryRecord warehouseId recordId dto now draws)
  | deleteInventoryRecord warehouseId recordId now draws => do
      InventoryRouter.deleteInventoryRecord warehouseId recordId now draws
      return .noContent

end Request

/-- What a caller of the queue sees of its exceptions. -/
def InventoryError.ofQueue : QueueError → InventoryError
  | .typeError message => .typeError message
  | .kafkaError message => .external message
  | .external message => .external message

/-- The answer to a call of a handler. -/
def apiAct (backend : Backend) := HandlerCall.act InventoryError.ofQueue backend.adapter
  (Statement.act backend.pg)

/-- Run the handler of a request. -/
def Request.handle (backend : Backend) (request : Request) (s : Served World) :
    Except InventoryError Response × Served World :=
  (request.handler backend.text).run (apiAct backend) s

end SupplyChainTracker.Warehouse
