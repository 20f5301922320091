import SupplyChainTracker.Deliveries.Service
import SupplyChainTracker.Libs.EventQueue
import SupplyChainTracker.Libs.Routing

/-!
# The routes of the delivery service

The handlers of the courier and delivery routers. Couriers are changed without an event;
a delivery is stored first and announced afterwards.
-/

namespace SupplyChainTracker.Deliveries

/-- A coroutine of a handler. -/
abbrev ApiProgram : Type → Type := Handler Statement Statement.Ans DeliveryError

/-- Await a method of one of the services. -/
def service {α : Type} (p : ServiceProgram α) : ApiProgram α :=
  Handler.call id (fun _ a => a) p

/-- Publish a domain event. -/
def announce (domainEvent : DomainEvent) (draws : EventDraws) : ApiProgram Unit :=
  Handler.publishEvent (DomainEventConverter.toEvent domainEvent draws) "delivery-events"

/-- The `HTTPException` about a courier that is not there. -/
def noCourier (courierId : UUID) : DeliveryError :=
  .httpException 404 ("Courier " ++ courierId.str ++ " not found")

/-- The `HTTPException` about a delivery that is not there. -/
def noDelivery (deliveryId : UUID) : DeliveryError :=
  .httpException 404 ("Delivery " ++ deliveryId.str ++ " not found")

namespace CourierRouter

variable (textArgument : CourierText → Except DeliveryError String)

/-- `create_courier`. -/
def createCourier (dto : CourierCreateDTO) (courierId : UUID) : ApiProgram CourierDTO := do
  let entity ← Coroutine.ofExcept (CourierMapper.createDtoToEntity dto courierId)
  let created ← service (CourierService.create textArgument entity)
  return CourierMapper.entityToDto created

/-- `get_courier`. -/
def getCourier (courierId : UUID) : ApiProgram CourierDTO := do
  let courier ← service (CourierService.get courierId)
  match courier with
  | none => .raise (noCourier courierId)
  | some courier => return CourierMapper.entityToDto courier

/-- `list_couriers`. -/
def listCouriers (page : Page) : ApiProgram (List CourierDTO) := do
  let couriers ← service (CourierService.getAll page.limit page.offset)
  return couriers.map CourierMapper.entityToDto

/-- `update_courier`. -/
def updateCourier (courierId : UUID) (dto : CourierUpdateDTO) : ApiProgram CourierDTO := do
  let courier ← service (CourierService.get courierId)
  match courier with
  | none => .raise (noCourier courierId)
  | some courier =>
    let updatedEntity ← Coroutine.ofExcept (CourierMapper.updateEntityFromDto courier dto)
    let saved ← service (CourierService.update textArgument updatedEntity)
    return CourierMapper.entityToDto saved

/-- `delete_courier`. -/
def deleteCourier (courierId : UUID) : ApiProgram Unit := do
  let courier ← service (CourierService.get courierId)
  match courier with
  | none => .raise (noCourier courierId)
  | some _ => service (CourierService.delete courierId)

end CourierRouter

namespace DeliveryRouter

/-- `create_delivery`; without an estimate the event takes a reading of the clock for it. -/
def createDelivery (dto : DeliveryCreateDTO) (deliveryId : UUID) (now : Clock)
    (estimateNow : DateTime) (draws : EventDraws) : ApiProgram DeliveryDTO := do
  let courier ← service (CourierService.get dto.courierId)
  match courier with
  | none => .raise (noCourier dto.courierId)
  | some courier =>
    let created ← service
      (DeliveryService.create (DeliveryMapper.createDtoToEntity dto courier deliveryId now))
    announce (.courierAssigned created.deliveryId created.courier.courierId created.shipmentId
      (created.estimatedArrival.getD estimateNow) draws.occurredAt) draws
    Coroutine.ofExcept (DeliveryMapper.entityToDto created)

/-- `get_delivery`. -/
def getDelivery (deliveryId : UUID) : ApiProgram DeliveryDTO := do
  let delivery ← service (DeliveryService.get deliveryId)
  match delivery with
  | none => .raise (noDelivery deliveryId)
  | some delivery => Coroutine.ofExcept (DeliveryMapper.entityToDto delivery)

/-- `list_deliveries`. -/
def listDeliveries (page : Page) : ApiProgram (List DeliveryDTO) := do
  let deliveries ← service (DeliveryService.getAll page.limit page.offset)
  Coroutine.ofExcept (deliveries.mapM DeliveryMapper.entityToDto)

/-- The courier that an update moves a delivery to, if it moves it. -/
def newCourier (delivery : Delivery) (dto : DeliveryUpdateDTO) : ApiProgram (Option Courier) :=
  match dto.courierId with
  | none => return none
  | some courierId =>
    if courierId = delivery.courier.courierId then return none
    else do
      let courier ← service (CourierService.get courierId)
      match courier with
      | none => .raise (noCourier courierId)
      | some courier => return some courier

/-- `update_delivery`, which announces nothing but a change of the courier. -/
def updateDelivery (deliveryId : UUID) (dto : DeliveryUpdateDTO) (now : Clock)
    (estimateNow : DateTime) (draws : EventDraws) : ApiProgram DeliveryDTO := do
  let delivery ← service (DeliveryService.get deliveryId)
  match delivery with
  | none => .raise (noDelivery deliveryId)
  | some delivery =>
    let newCourier ← newCourier delivery dto
    let updatedEntity := DeliveryMapper.updateEntityFromDto delivery dto newCourier now
    let saved ← service (DeliveryService.update updatedEntity)
    if newCourier.isSome then
      announce (.courierAssigned saved.deliveryId saved.courier.courierId saved.shipmentId
        estimateNow draws.occurredAt) draws
    Coroutine.ofExcept (DeliveryMapper.entityToDto saved)

/-- `delete_delivery`. -/
def deleteDelivery (deliveryId : UUID) : ApiProgram Unit := do
  let delivery ← service (DeliveryService.get deliveryId)
  match delivery with
  | none => .raise (.httpException 404 "Delivery not found")
  | some _ => service (inService (DeliveryService.delete deliveryId))

/-- `mark_delivery_in_transit`. -/
def markDeliveryInTransit (deliveryId : UUID) (now : DateTime) (draws : EventDraws) :
    ApiProgram DeliveryDTO := do
  let delivery ← service (DeliveryService.get deliveryId)
  match delivery with
  | none => .raise (.httpException 404 "Delivery not found")
  | some _ =>
    let _ ← service (DeliveryService.markAsInTransit deliveryId now)
    let saved ← service (DeliveryService.get deliveryId)
    match saved with
    | none => .raise (.attributeError "'NoneType' object has no attribute 'delivery_id'")
    | some saved =>
      announce (.deliveryInTransit saved.deliveryId "Warehouse" draws.occurredAt) draws
      Coroutine.ofExcept (DeliveryMapper.entityToDto saved)

/-- `complete_delivery`. -/
def completeDelivery (deliveryId : UUID) (today : Date) (now : DateTime) (draws : EventDraws) :
    ApiProgram DeliveryDTO := do
  let delivery ← service (DeliveryService.get deliveryId)
  match delivery with
  | none => .raise (.httpException 404 "Delivery not found")
  | some delivery =>
    let saved ← service (DeliveryService.update (delivery.markDelivered (midnight today) now))
    announce (.deliveryCompleted saved.deliveryId draws.occurredAt (some "Unknown") none) draws
    Coroutine.ofExcept (DeliveryMapper.entityToDto saved)

end DeliveryRouter

/-- A request to one of the routes, with what its handling draws. -/
inductive Request : Type
  | createCourier (dto : CourierCreateDTO) (courierId : UUID)
  | getCourier (courierId : UUID)
  | listCouriers (page : Page)
  | updateCourier (courierId : UUID) (dto : CourierUpdateDTO)
  | deleteCourier (courierId : UUID)
  | createDelivery (dto : DeliveryCreateDTO) (deliveryId : UUID) (now : Clock)
      (estimateNow : DateTime) (draws : EventDraws)
  | getDelivery (deliveryId : UUID)
  | listDeliveries (page : Page)
  | updateDelivery (deliveryId : UUID) (dto : DeliveryUpdateDTO) (now : Clock)
      (estimateNow : DateTime) (draws : EventDraws)
  | deleteDelivery (deliveryId : UUID)
  | markDeliveryInTransit (deliveryId : UUID) (now : DateTime) (draws : EventDraws)
  | completeDelivery (deliveryId : UUID) (today : Date) (now : DateTime) (draws : EventDraws)

/-- What a route returns. -/
inductive Response : Type
  | courier (dto : CourierDTO)
  | couriers (dtos : List CourierDTO)
  | delivery (dto : DeliveryDTO)
  | deliveries (dtos : List DeliveryDTO)
  | noContent

/-- What the service rests on. -/
structure Backend where
  pg : Postgres
  /-- How asyncpg encodes an argument for a text column. -/
  textArgument : CourierText → Except DeliveryError String
  adapter : QueueAdapter

namespace Request

/-- The route of a request. -/
def route : Request → Route
  | createCourier .. => ⟨.post, none⟩
  | getCourier .. => ⟨.get, none⟩
  | listCouriers .. => ⟨.get, none⟩
  | updateCourier .. => ⟨.patch, none⟩
  | deleteCourier .. => ⟨.delete, some ["admin"]⟩
  | createDelivery .. => ⟨.post, none⟩
  | getDelivery .. => ⟨.get, none⟩
  | listDeliveries .. => ⟨.get, none⟩
  | updateDelivery .. => ⟨.patch, none⟩
  | deleteDelivery .. => ⟨.delete, some ["admin"]⟩
  | markDeliveryInTransit .. => ⟨.post, none⟩
  | completeDelivery .. => ⟨.post, none⟩

/-- The handler of a request. -/
def handler (textArgument : CourierText → Except DeliveryError String) :
    Request → ApiProgram Response
  | createCourier dto courierId =>
      return .courier (← CourierRouter.createCourier textArgument dto courierId)
  | getCourier courierId => return .courier (← CourierRouter.getCourier courierId)
  | listCouriers page => return .couriers (← CourierRouter.listCouriers page)
  | updateCourier courierId dto =>
      return .courier (← CourierRouter.updateCourier textArgument courierId dto)
  | deleteCourier courierId => do
      CourierRouter.deleteCourier courierId
      return .noContent
  | createDelivery dto deliveryId now estimateNow draws =>
      return .delivery (← DeliveryRouter.createDelivery dto deliveryId now estimateNow draws)
  | getDelivery deliveryId => return .delivery (← DeliveryRouter.getDelivery deliveryId)
  | listDeliveries page => return .deliveries (← DeliveryRouter.listDeliveries page)
  | updateDelivery deliveryId dto now estimateNow draws =>
      return .delivery (← DeliveryRouter.updateDelivery deliveryId dto now estimateNow draws)
  | deleteDelivery deliveryId => do
      DeliveryRouter.deleteDelivery deliveryId
      return .noContent
  | markDeliveryInTransit deliveryId now draws =>
      return .delivery (← DeliveryRouter.markDeliveryInTransit deliveryId now draws)
  | completeDelivery deliveryId today now draws =>
      return .delivery (← DeliveryRouter.completeDelivery deliveryId today now draws)

end Request

/-- What a caller of the queue sees of its exceptions. -/
def DeliveryError.ofQueue : QueueError → DeliveryError
  | .typeError message => .typeError message
  | .kafkaError message => .external message
  | .external message => .external message

/-- The answer to a call of a handler. -/
def apiAct (backend : Backend) := HandlerCall.act DeliveryError.ofQueue backend.adapter
  (Statement.act backend.pg)

/-- Run the handler of a request. -/
def Request.handle (backend : Backend) (request : Request) (s : Served World) :
    Except DeliveryError Response × Served World :=
  (request.handler backend.textArgument).run (apiAct backend) s

end SupplyChainTracker.Deliveries
