import SupplyChainTracker.Libs.EventQueue
import SupplyChainTracker.Libs.Routing
import SupplyChainTracker.Shipments.ItemRepository
import SupplyChainTracker.Shipments.ShipmentRepository

/-!
# The routes of the shipment service

The handlers of the shipment and item routers. A handler that changes something stores
the change first and announces it afterwards; what `entity_to_dto` makes of the result
comes last.
-/

namespace SupplyChainTracker.Shipments

open Coroutine (perform)

/-- A call of one of the repositories. -/
inductive RepositoryCall : Type
  | shipment (op : ShipmentCall)
  | delete (op : Call)
  | item (op : ItemCall)

/-- What a call returns. -/
abbrev RepositoryCall.Ans : RepositoryCall → Type
  | shipment op => op.Ans
  | delete op => op.Ans
  | item op => op.Ans

/-- A coroutine of a handler. -/
abbrev ApiProgram : Type → Type := Handler RepositoryCall RepositoryCall.Ans ShipmentError

/-- Await a method of the `ShipmentService`. -/
def shipmentService {α : Type} (p : ShipmentProgram α) : ApiProgram α :=
  Handler.call RepositoryCall.shipment (fun _ a => a) p

/-- Await the deletion of a shipment. -/
def deletion {α : Type} (p : Program α) : ApiProgram α :=
  Handler.call RepositoryCall.delete (fun _ a => a) p

/-- Await a method of the `ItemService`. -/
def itemService {α : Type} (p : ItemProgram α) : ApiProgram α :=
  Handler.call RepositoryCall.item (fun _ a => a) p

/-- Publish a domain event. -/
def announce (domainEvent : DomainEvent) (draws : EventDraws) : ApiProgram Unit :=
  Handler.publishEvent (DomainEventConverter.toEvent domainEvent draws) "shipment-events"

namespace ShipmentsRouter

/-- `create_shipment`. -/
def createShipment (dto : ShipmentCreateDTO) (shipmentId : UUID) (now : Clock)
    (draws : EventDraws) : ApiProgram ShipmentDTO := do
  let created ← shipmentService
    (ShipmentService.create (ShipmentMapper.createDtoToEntity dto shipmentId now))
  announce (.shipmentCreated created.shipmentId created.origin.city created.destination.city [])
    draws
  return ShipmentMapper.entityToDto created

/-- `get_shipment`. -/
def getShipment (shipmentId : UUID) : ApiProgram ShipmentDTO := do
  let shipment ← shipmentService (ShipmentService.get shipmentId)
  match shipment with
  | none => .raise (notFound shipmentId)
  | some shipment => return ShipmentMapper.entityToDto shipment

/-- Await a listing. -/
def listing (p : ShipmentProgram (List Shipment)) : ApiProgram (List ShipmentDTO) := do
  let shipments ← shipmentService p
  return shipments.map ShipmentMapper.entityToDto

/-- `list_shipments`. -/
def listShipments (page : Page) : ApiProgram (List ShipmentDTO) :=
  listing (ShipmentService.getAll page.limit page.offset)

/-- `update_shipment`. -/
def updateShipment (shipmentId : UUID) (dto : ShipmentUpdateDTO) (now : DateTime)
    (draws : EventDraws) : ApiProgram ShipmentDTO := do
  let shipment ← shipmentService (ShipmentService.get shipmentId)
  match shipment with
  | none => .raise (notFound shipmentId)
  | some shipment =>
    let updatedEntity ← Coroutine.ofExcept (ShipmentMapper.updateEntityFromDto shipment dto now)
    let saved ← shipmentService (ShipmentService.update updatedEntity)
    announce (.shipmentUpdated saved.shipmentId saved.status.value saved.updatedAt.value) draws
    return ShipmentMapper.entityToDto saved

/-- `delete_shipment`. -/
def deleteShipment (shipmentId : UUID) (draws : EventDraws) : ApiProgram Unit := do
  let shipment ← shipmentService (ShipmentService.get shipmentId)
  match shipment with
  | none => .raise (notFound shipmentId)
  | some _ =>
    deletion (ShipmentService.delete shipmentId)
    announce (.shipmentCancelled shipmentId "User requested deletion" draws.occurredAt) draws

/-- Change a shipment and announce its status. -/
def announceStatus (p : ShipmentProgram Shipment) (draws : EventDraws) :
    ApiProgram ShipmentDTO := do
  let shipment ← shipmentService p
  announce (.shipmentUpdated shipment.shipmentId shipment.status.value shipment.updatedAt.value)
    draws
  return ShipmentMapper.entityToDto shipment

/-- `mark_shipment_received`. -/
def markShipmentReceived (shipmentId : UUID) (now : DateTime) (draws : EventDraws) :
    ApiProgram ShipmentDTO :=
  announceStatus (ShipmentService.markAsReceived shipmentId now) draws

/-- `mark_shipment_ready`. -/
def markShipmentReady (shipmentId : UUID) (now : DateTime) (draws : EventDraws) :
    ApiProgram ShipmentDTO :=
  announceStatus (ShipmentService.markAsReadyForDelivery shipmentId now) draws

/-- `mark_shipment_in_transit`. -/
def markShipmentInTransit (shipmentId : UUID) (now : DateTime) (draws : EventDraws) :
    ApiProgram ShipmentDTO :=
  announceStatus (ShipmentService.markAsInTransit shipmentId now) draws

/-- `mark_shipment_delivered`. -/
def markShipmentDelivered (shipmentId : UUID) (today : Date) (now : DateTime)
    (draws : EventDraws) : ApiProgram ShipmentDTO :=
  announceStatus (ShipmentService.markAsDelivered shipmentId today now) draws

/-- `mark_shipment_completed`. -/
def markShipmentCompleted (shipmentId : UUID) (now : DateTime) (draws : EventDraws) :
    ApiProgram ShipmentDTO :=
  announceStatus (ShipmentService.markAsCompleted shipmentId now) draws

/-- `list_active_shipments`. -/
def listActiveShipments : ApiProgram (List ShipmentDTO) :=
  listing ShipmentService.getActiveShipments

/-- `list_in_transit_shipments`. -/
def listInTransitShipments : ApiProgram (List ShipmentDTO) :=
  listing ShipmentService.getInTransitShipments

end ShipmentsRouter

namespace ItemsRouter

/-- Announce that the items of a shipment have changed. -/
def announceItems (shipmentId : UUID) (draws : EventDraws) : ApiProgram Unit :=
  announce (.shipmentUpdated shipmentId "items_updated" draws.occurredAt) draws

/-- `create_item`. -/
def createItem (shipmentId : UUID) (dto : ItemCreateDTO) (itemId : UUID) (draws : EventDraws) :
    ApiProgram ItemDTO := do
  let entity ← Coroutine.ofExcept (ItemMapper.createDtoToEntity dto shipmentId itemId)
  let created ← itemService (ItemService.create entity)
  announceItems shipmentId draws
  return ItemMapper.entityToDto created

/-- `list_shipment_items`. -/
def listShipmentItems (shipmentId : UUID) : ApiProgram (List ItemDTO) := do
  let items ← itemService (ItemService.getByShipment shipmentId)
  return items.map ItemMapper.entityToDto

/-- `get_item`. -/
def getItem (itemId : UUID) : ApiProgram ItemDTO := do
  let item ← itemService (ItemService.get itemId)
  match item with
  | none => .raise (itemNotFound itemId)
  | some item => return ItemMapper.entityToDto item

/-- `update_item`. -/
def updateItem (itemId : UUID) (dto : ItemUpdateDTO) (draws : EventDraws) :
    ApiProgram ItemDTO := do
  let item ← itemService (ItemService.get itemId)
  match item with
  | none => .raise (itemNotFound itemId)
  | some item =>
    let updatedEntity ← Coroutine.ofExcept (ItemMapper.updateEntityFromDto item dto)
    let saved ← itemService (ItemService.update updatedEntity)
    announceItems saved.shipmentId draws
    return ItemMapper.entityToDto saved

/-- `delete_item`. -/
def deleteItem (itemId : UUID) (draws : EventDraws) : ApiProgram Unit := do
  let item ← itemService (ItemService.get itemId)
  match item with
  | none => .raise (itemNotFound itemId)
  | some item =>
    itemService (ItemService.delete itemId)
    announceItems item.shipmentId draws

/-- Change an item and announce it. -/
def announceItem (p : ItemProgram Item) (draws : EventDraws) : ApiProgram ItemDTO := do
  let item ← itemService p
  announceItems item.shipmentId draws
  return ItemMapper.entityToDto item

/-- `increase_item_quantity`. -/
def increaseItemQuantity (itemId : UUID) (amount : Int) (draws : EventDraws) :
    ApiProgram ItemDTO :=
  announceItem (ItemService.increaseQuantity itemId amount) draws

/-- `decrease_item_quantity`. -/
def decreaseItemQuantity (itemId : UUID) (amount : Int) (draws : EventDraws) :
    ApiProgram ItemDTO :=
  announceItem (ItemService.decreaseQuantity itemId amount) draws

/-- `update_item_weight`. -/
def updateItemWeight (itemId : UUID) (newWeight : Rat) (draws : EventDraws) :
    ApiProgram ItemDTO :=
  announceItem (ItemService.updateWeight itemId newWeight) draws

/-- `get_shipment_total_weight`. -/
def getShipmentTotalWeight (shipmentId : UUID) : ApiProgram (UUID × Rat) := do
  let totalWeight ← itemService (ItemService.calculateTotalWeight shipmentId)
  return (shipmentId, totalWeight)

/-- `get_shipment_items_count`. -/
def getShipmentItemsCount (shipmentId : UUID) : ApiProgram (UUID × Nat) := do
  let count ← itemService (ItemService.getItemsCount shipmentId)
  return (shipmentId, count)

end ItemsRouter

/-- A request to one of the routes, with what its handling draws. -/
inductive Request : Type
  | createShipment (dto : ShipmentCreateDTO) (shipmentId : UUID) (now : Clock)
      (draws : EventDraws)
  | getShipment (shipmentId : UUID)
  | listShipments (page : Page)
  | updateShipment (shipmentId : UUID) (dto : ShipmentUpdateDTO) (now : DateTime)
      (draws : EventDraws)
  | deleteShipment (shipmentId : UUID) (draws : EventDraws)
  | markShipmentReceived (shipmentId : UUID) (now : DateTime) (draws : EventDraws)
  | markShipmentReady (shipmentId : UUID) (now : DateTime) (draws : EventDraws)
  | markShipmentInTransit (shipmentId : UUID) (now : DateTime) (draws : EventDraws)
  | markShipmentDelivered (shipmentId : UUID) (today : Date) (now : DateTime)
      (draws : EventDraws)
  | markShipmentCompleted (shipmentId : UUID) (now : DateTime) (draws : EventDraws)
  | listActiveShipments
  | listInTransitShipments
  | createItem (shipmentId : UUID) (dto : ItemCreateDTO) (itemId : UUID) (draws : EventDraws)
  | listShipmentItems (shipmentId : UUID)
  | getShipmentTotalWeight (shipmentId : UUID)
  | getShipmentItemsCount (shipmentId : UUID)
  | getItem (itemId : UUID)
  | updateItem (itemId : UUID) (dto : ItemUpdateDTO) (draws : EventDraws)
  | deleteItem (itemId : UUID) (draws : EventDraws)
  | increaseItemQuantity (itemId : UUID) (amount : Int) (draws : EventDraws)
  | decreaseItemQuantity (itemId : UUID) (amount : Int) (draws : EventDraws)
  | updateItemWeight (itemId : UUID) (newWeight : Rat) (draws : EventDraws)

/-- What a route returns. -/
inductive Response : Type
  | shipment (dto : ShipmentDTO)
  | shipments (dtos : List ShipmentDTO)
  | item (dto : ItemDTO)
  | items (dtos : List ItemDTO)
  | totalWeight (shipmentId : UUID) (totalWeight : Rat)
  | itemsCount (shipmentId : UUID) (itemsCount : Nat)
  | noContent

namespace Request

/-- The route of a request. -/
def route : Request → Route
  | createShipment .. => ⟨.post, none⟩
  | getShipment .. => ⟨.get, none⟩
  | listShipments .. => ⟨.get, none⟩
  | updateShipment .. => ⟨.patch, none⟩
  | deleteShipment .. => ⟨.delete, some ["admin"]⟩
  | markShipmentReceived .. => ⟨.post, none⟩
  | markShipmentReady .. => ⟨.post, none⟩
  | markShipmentInTransit .. => ⟨.post, none⟩
  | markShipmentDelivered .. => ⟨.post, none⟩
  | markShipmentCompleted .. => ⟨.post, none⟩
  | listActiveShipments => ⟨.get, none⟩
  | listInTransitShipments => ⟨.get, none⟩
  | createItem .. => ⟨.post, none⟩
  | listShipmentItems .. => ⟨.get, none⟩
  | getShipmentTotalWeight .. => ⟨.get, none⟩
  | getShipmentItemsCount .. => ⟨.get, none⟩
  | getItem .. => ⟨.get, none⟩
  | updateItem .. => ⟨.patch, none⟩
  | deleteItem .. => ⟨.delete, none⟩
  | increaseItemQuantity .. => ⟨.post, none⟩
  | decreaseItemQuantity .. => ⟨.post, none⟩
  | updateItemWeight .. => ⟨.patch, none⟩

/-- The handler of a request. -/
def handler : Request → ApiProgram Response
  | createShipment dto shipmentId now draws =>
      return .shipment (← ShipmentsRouter.createShipment dto shipmentId now draws)
  | getShipment shipmentId => return .shipment (← ShipmentsRouter.getShipment shipmentId)
  | listShipments page => return .shipments (← ShipmentsRouter.listShipments page)
  | updateShipment shipmentId dto now draws =>
      return .shipment (← ShipmentsRouter.updateShipment shipmentId dto now draws)
  | deleteShipment shipmentId draws => do
      ShipmentsRouter.deleteShipment shipmentId draws
      return .noContent
  | markShipmentReceived shipmentId now draws =>
      return .shipment (← ShipmentsRouter.markShipmentReceived shipmentId now draws)
  | markShipmentReady shipmentId now draws =>
      return .shipment (← ShipmentsRouter.markShipmentReady shipmentId now draws)
  | markShipmentInTransit shipmentId now draws =>
      return .shipment (← ShipmentsRouter.markShipmentInTransit shipmentId now draws)
  | markShipmentDelivered shipmentId today now draws =>
      return .shipment (← ShipmentsRouter.markShipmentDelivered shipmentId today now draws)
  | markShipmentCompleted shipmentId now draws =>
      return .shipment (← ShipmentsRouter.markShipmentCompleted shipmentId now draws)
  | listActiveShipments => return .shipments (← ShipmentsRouter.listActiveShipments)
  | listInTransitShipments => return .shipments (← ShipmentsRouter.listInTransitShipments)
  | createItem shipmentId dto itemId draws =>
      return .item (← ItemsRouter.createItem shipmentId dto itemId draws)
  | listShipmentItems shipmentId => return .items (← ItemsRouter.listShipmentItems shipmentId)
  | getShipmentTotalWeight shipmentId => do
      let result ← ItemsRouter.getShipmentTotalWeight shipmentId
      return .totalWeight result.1 result.2
  | getShipmentItemsCount shipmentId => do
      let result ← ItemsRouter.getShipmentItemsCount shipmentId
      return .itemsCount result.1 result.2
  | getItem itemId => return .item (← ItemsRouter.getItem itemId)
  | updateItem itemId dto draws => return .item (← ItemsRouter.updateItem itemId dto draws)
  | deleteItem itemId draws => do
      ItemsRouter.deleteItem itemId draws
      return .noContent
  | increaseItemQuantity itemId amount draws =>
      return .item (← ItemsRouter.increaseItemQuantity itemId amount draws)
  | decreaseItemQuantity itemId amount draws =>
      return .item (← ItemsRouter.decreaseItemQuantity itemId amount draws)
  | updateItemWeight itemId newWeight draws =>
      return .item (← ItemsRouter.updateItemWeight itemId newWeight draws)

end Request

/-- What the service rests on. -/
structure Backend where
  pg : Postgres
  /-- How asyncpg encodes an argument for a `TEXT` column. -/
  textArgument : Place → Except ShipmentError String
  adapter : QueueAdapter

/-- What a caller of the queue sees of its exceptions. -/
def ShipmentError.ofQueue : QueueError → ShipmentError
  | .typeError message => .typeError message
  | .kafkaError message => .external message
  | .external message => .external message

/-- A deletion in the world of the service. -/
def deletionAct (op : Call) (w : World) : Except ShipmentError op.Ans × World :=
  ((act op w.db).1, w.after (act op w.db).2)

/-- The answer to a call of a repository. -/
def RepositoryCall.act (backend : Backend) :
    (op : RepositoryCall) → World → Except ShipmentError op.Ans × World
  | .shipment op, w => ShipmentRepository.act backend.pg backend.textArgument op w
  | .delete op, w => deletionAct op w
  | .item op, w => ItemRepository.act backend.pg op w

/-- The answer to a call of a handler. -/
def apiAct (backend : Backend) := HandlerCall.act ShipmentError.ofQueue backend.adapter
  (RepositoryCall.act backend)

/-- Run the handler of a request. -/
def Request.handle (backend : Backend) (request : Request) (s : Served World) :
    Except ShipmentError Response × Served World :=
  request.handler.run (apiAct backend) s

end SupplyChainTracker.Shipments
