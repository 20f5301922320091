import SupplyChainTracker.Core.Except
import SupplyChainTracker.Deliveries.Repository
import SupplyChainTracker.Python.DateTime

/-!
# Services, DTOs and mappers of the delivery service

`CourierService`, `DeliveryService` and what stands between them and the handlers. A
date is kept as its midnight: that is what a `TIMESTAMPTZ` column makes of it.
-/

namespace SupplyChainTracker.Deliveries

open Coroutine (perform)

/-- The `CourierNotFoundError` of an id without a courier. -/
def courierNotFound (courierId : UUID) : DeliveryError :=
  .courierNotFound ("Courier " ++ courierId.str ++ " not found")

namespace CourierService

variable (textArgument : CourierText → Except DeliveryError String)

/-- `create`. -/
def create (courier : Courier) : ServiceProgram Courier :=
  CourierRepository.save textArgument courier

/-- `get`. -/
def get (courierId : UUID) : ServiceProgram (Option Courier) := CourierRepository.get courierId

/-- `update`. -/
def update (courier : Courier) : ServiceProgram Courier := do
  let existing ← CourierRepository.get courier.courierId
  match existing with
  | none => .raise (courierNotFound courier.courierId)
  | some _ => CourierRepository.save textArgument courier

/-- `delete`. -/
def delete (courierId : UUID) : ServiceProgram Unit := do
  let existing ← CourierRepository.get courierId
  match existing with
  | none => .raise (courierNotFound courierId)
  | some _ => CourierRepository.delete courierId

/-- `get_all`. -/
def getAll (limit offset : Nat) : ServiceProgram (List Courier) :=
  CourierRepository.getAll limit offset

end CourierService

/-- The midnight at which a date begins. -/
def midnight (date : Date) : DateTime := date * DateTimeText.microsecondsPerDay

namespace Delivery

/-- `update_status`. -/
def updateStatus (d : Delivery) (newStatus : DeliveryStatus) (now : DateTime) : Delivery :=
  { d with status := newStatus, updatedAt := now }

/-- `mark_delivered`. -/
def markDelivered (d : Delivery) (actualArrival : DateTime) (now : DateTime) : Delivery :=
  { d with actualArrival := some actualArrival }.updateStatus .delivered now

section Fields

variable (d : Delivery) (newStatus : DeliveryStatus) (actualArrival now : DateTime)

@[simp] theorem deliveryId_updateStatus : (d.updateStatus newStatus now).deliveryId = d.deliveryId :=
  rfl

@[simp] theorem status_updateStatus : (d.updateStatus newStatus now).status = newStatus := rfl

@[simp] theorem deliveryId_markDelivered :
    (d.markDelivered actualArrival now).deliveryId = d.deliveryId := rfl

@[simp] theorem status_markDelivered : (d.markDelivered actualArrival now).status = .delivered :=
  rfl

end Fields

end Delivery

namespace DeliveryService

/-- `create`. -/
def create (delivery : Delivery) : ServiceProgram Delivery := DeliveryRepository.save delivery

/-- `get`. -/
def get (deliveryId : UUID) : ServiceProgram (Option Delivery) :=
  inService (DeliveryRepository.get deliveryId)

/-- `update`. -/
def update (delivery : Delivery) : ServiceProgram Delivery := do
  let existing ← inService (DeliveryRepository.get delivery.deliveryId)
  match existing with
  | none => .raise (notFound delivery.deliveryId)
  | some _ => DeliveryRepository.save delivery

/-- `get_all`. -/
def getAll (limit offset : Nat) : ServiceProgram (List Delivery) :=
  DeliveryRepository.getAll limit offset

/-- `_get_or_raise`. -/
def getOrRaise (deliveryId : UUID) : ServiceProgram Delivery := do
  let delivery ← inService (DeliveryRepository.get deliveryId)
  match delivery with
  | none => .raise (notFound deliveryId)
  | some delivery => return delivery

/-- `mark_as_received`, which stores the delivery as it is. -/
def markAsReceived (deliveryId : UUID) : ServiceProgram Delivery := do
  let delivery ← getOrRaise deliveryId
  if delivery.status = .delivered then .raise (.statusTransition "Cannot move back from DELIVERED")
  else DeliveryRepository.save delivery

/-- `mark_as_ready_for_delivery`, which stores the delivery as it is. -/
def markAsReadyForDelivery (deliveryId : UUID) : ServiceProgram Delivery := do
  let delivery ← getOrRaise deliveryId
  DeliveryRepository.save delivery

/-- `mark_as_in_transit`. -/
def markAsInTransit (deliveryId : UUID) (now : DateTime) : ServiceProgram Delivery := do
  let delivery ← getOrRaise deliveryId
  if delivery.status = .delivered then
    .raise (.statusTransition "Delivery is already finished")
  else DeliveryRepository.save (delivery.updateStatus .inTransit now)

/-- `mark_as_delivered`, which has no guard. -/
def markAsDelivered (deliveryId : UUID) (arrivalDate : Date) (now : DateTime) :
    ServiceProgram Delivery := do
  let delivery ← getOrRaise deliveryId
  DeliveryRepository.save (delivery.markDelivered (midnight arrivalDate) now)

/-- `mark_as_completed`. -/
def markAsCompleted (deliveryId : UUID) (now : DateTime) : ServiceProgram Delivery := do
  let delivery ← getOrRaise deliveryId
  if delivery.status ≠ .delivered then
    .raise (.statusTransition "Delivery must be DELIVERED before CONFIRMED")
  else DeliveryRepository.save (delivery.updateStatus .confirmed now)

/-- `reassign_courier`. -/
def reassignCourier (deliveryId : UUID) (newCourier : Courier) (now : DateTime) :
    ServiceProgram Delivery := do
  let delivery ← getOrRaise deliveryId
  if delivery.status = .delivered ∨ delivery.status = .confirmed then
    .raise (.statusTransition "Cannot reassign courier for finished delivery")
  else DeliveryRepository.save { delivery with courier := newCourier, updatedAt := now }

end DeliveryService

/-- `CourierCreateDTO`. -/
structure CourierCreateDTO where
  name : String
  contactInfo : String
  /-- What the fields of the model check. -/
  valid : 2 ≤ name.length ∧ name.length ≤ 100 ∧ 5 ≤ contactInfo.length

/-- `CourierUpdateDTO`. -/
structure CourierUpdateDTO where
  name : Option String := none
  contactInfo : Option String := none
  /-- What the fields of the model check. -/
  valid : (∀ n ∈ name, 2 ≤ n.length ∧ n.length ≤ 100) ∧ ∀ c ∈ contactInfo, 5 ≤ c.length

/-- `CourierDTO`. -/
structure CourierDTO where
  courierId : UUID
  name : String
  contactInfo : String
  deriving DecidableEq, Repr

namespace CourierMapper

/-- `create_dto_to_entity`, with the id that `uuid4` draws. -/
def createDtoToEntity (dto : CourierCreateDTO) (courierId : UUID) :
    Except DeliveryError Courier := do
  let name ← FullName.ofString dto.name
  let contactInfo ← ContactInfo.ofString dto.contactInfo
  return ⟨courierId, name, contactInfo⟩

/-- `update_entity_from_dto`; a refused value leaves the copy half changed and unused. -/
def updateEntityFromDto (entity : Courier) (dto : CourierUpdateDTO) :
    Except DeliveryError Courier := do
  let name ← dto.name.mapM FullName.ofString
  let contactInfo ← dto.contactInfo.mapM ContactInfo.ofString
  return { entity with
    name := name.getD entity.name
    contactInfo := contactInfo.getD entity.contactInfo }

/-- `entity_to_dto`. -/
def entityToDto (entity : Courier) : CourierDTO where
  courierId := entity.courierId
  name := entity.name.value
  contactInfo := entity.contactInfo.value

/-- An update of a courier keeps its id. -/
theorem updateEntityFromDto_eq_ok {entity new : Courier} {dto : CourierUpdateDTO}
    (h : updateEntityFromDto entity dto = .ok new) : new.courierId = entity.courierId := by
  obtain ⟨name, _, h⟩ := bind_eq_ok_iff.mp h
  obtain ⟨contactInfo, _, h⟩ := bind_eq_ok_iff.mp h
  cases h
  rfl

end CourierMapper

/-- `DeliveryCreateDTO`. -/
structure DeliveryCreateDTO where
  shipmentId : UUID
  courierId : UUID
  estimatedArrival : Option Date := none
  status : Option DeliveryStatus := some .assigned

/-- `DeliveryUpdateDTO`. -/
structure DeliveryUpdateDTO where
  courierId : Option UUID := none
  status : Option DeliveryStatus := none
  estimatedArrival : Option Date := none
  actualArrival : Option Date := none

/-- `DeliveryDTO`. -/
structure DeliveryDTO where
  deliveryId : UUID
  shipmentId : UUID
  courierId : UUID
  status : DeliveryStatus
  createdAt : DateTime
  updatedAt : DateTime
  estimatedArrival : Option Date
  actualArrival : Option Date
  deriving DecidableEq, Repr

/-- An instant in a field for a date, which takes midnights only; a refused one is named by the
field. -/
def dateField (field : String) : Option DateTime → Except String (Option Date)
  | none => .ok none
  | some instant =>
      if instant.fmod DateTimeText.microsecondsPerDay = 0 then
        .ok (some (instant.fdiv DateTimeText.microsecondsPerDay))
      else .error field

namespace DeliveryMapper

/-- `create_dto_to_entity`, with the id and the two clock readings of the entity. -/
def createDtoToEntity (dto : DeliveryCreateDTO) (courier : Courier) (deliveryId : UUID)
    (now : Clock) : Delivery where
  deliveryId := deliveryId
  shipmentId := dto.shipmentId
  courier := courier
  status := dto.status.getD .assigned
  estimatedArrival := dto.estimatedArrival.map midnight
  actualArrival := none
  createdAt := now 0
  updatedAt := now 1

/-- `update_entity_from_dto`, with at most three clock readings. -/
def updateEntityFromDto (entity : Delivery) (dto : DeliveryUpdateDTO)
    (newCourier : Option Courier) (now : Clock) : Delivery :=
  let entity := match dto.courierId, newCourier with
    | some courierId, some courier =>
        if courier.courierId = courierId then { entity with courier := courier, updatedAt := now 0 }
        else entity
    | _, _ => entity
  let entity := match dto.actualArrival, dto.status with
    | some actualArrival, _ => entity.markDelivered (midnight actualArrival) (now 1)
    | none, some status => entity.updateStatus status (now 1)
    | none, none => entity
  match dto.estimatedArrival with
  | some estimatedArrival =>
      { entity with estimatedArrival := some (midnight estimatedArrival), updatedAt := now 2 }
  | none => entity

/-- `entity_to_dto`; Pydantic names every field that it refuses. -/
def entityToDto (entity : Delivery) : Except DeliveryError DeliveryDTO :=
  match dateField "estimated_arrival" entity.estimatedArrival,
      dateField "actual_arrival" entity.actualArrival with
  | .ok estimatedArrival, .ok actualArrival => .ok {
      deliveryId := entity.deliveryId
      shipmentId := entity.shipmentId
      courierId := entity.courier.courierId
      status := entity.status
      createdAt := entity.createdAt
      updatedAt := entity.updatedAt
      estimatedArrival := estimatedArrival
      actualArrival := actualArrival }
  | .error estimatedArrival, .error actualArrival =>
      .error (.validation [estimatedArrival, actualArrival])
  | .error estimatedArrival, .ok _ => .error (.validation [estimatedArrival])
  | .ok _, .error actualArrival => .error (.validation [actualArrival])

@[simp] theorem deliveryId_updateEntityFromDto (entity : Delivery) (dto : DeliveryUpdateDTO)
    (newCourier : Option Courier) (now : Clock) :
    (updateEntityFromDto entity dto newCourier now).deliveryId = entity.deliveryId := by
  unfold updateEntityFromDto
  dsimp only
  repeat' split
  all_goals rfl

end DeliveryMapper

end SupplyChainTracker.Deliveries
