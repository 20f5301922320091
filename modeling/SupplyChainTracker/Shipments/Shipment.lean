import SupplyChainTracker.Core.Async.Coroutine
import SupplyChainTracker.Core.Except
import SupplyChainTracker.Libs.ValueObjects
import SupplyChainTracker.Shipments.CommandWorker

/-!
# Shipments

The shipment entity, the calls of its repository and the service and the mapper over
it. The lifecycle is written down in `can_transition_to`, which no other method asks.
-/

namespace SupplyChainTracker.Shipments

open Coroutine (perform)

/-- `ShipmentStatus`. -/
inductive ShipmentStatus : Type
  | created
  | received
  | readyForDelivery
  | inTransit
  | delivered
  | completed
  deriving DecidableEq, Repr

namespace ShipmentStatus

/-- The string value of a status. -/
def value : ShipmentStatus → String
  | created => "created"
  | received => "received"
  | readyForDelivery => "ready_for_delivery"
  | inTransit => "in_transit"
  | delivered => "delivered"
  | completed => "completed"

/-- `ShipmentStatus(value)`, `none` standing for its `ValueError`. -/
def ofValue? (text : String) : Option ShipmentStatus :=
  if text = "created" then some created
  else if text = "received" then some received
  else if text = "ready_for_delivery" then some readyForDelivery
  else if text = "in_transit" then some inTransit
  else if text = "delivered" then some delivered
  else if text = "completed" then some completed
  else none

@[simp] theorem ofValue?_value (s : ShipmentStatus) : ofValue? s.value = some s := by
  cases s <;> decide

end ShipmentStatus

/-- `LocationDTO`. -/
structure LocationDTO where
  country : String
  city : String
  address : String := ""
  deriving DecidableEq, Repr

/-- What stands in the `origin` or `destination` of a shipment: the mapper passes a `LocationDTO`
on as it is. -/
inductive Place : Type
  | location (l : Location)
  | dto (l : LocationDTO)
  deriving DecidableEq, Repr

namespace Place

/-- `place.country`. -/
def country : Place → String
  | location l => l.country
  | dto l => l.country

/-- `place.city`. -/
def city : Place → String
  | location l => l.city
  | dto l => l.city

/-- `place.address`. -/
def address : Place → String
  | location l => l.address
  | dto l => l.address

end Place

/-- `Shipment`. -/
structure Shipment where
  origin : Place
  destination : Place
  departureDate : Date
  arrivalDate : Option Date := none
  shipmentId : UUID
  status : ShipmentStatus := .created
  createdAt : Timestamp
  updatedAt : Timestamp
  deriving DecidableEq, Repr

namespace Shipment

/-- `update_status`. -/
def updateStatus (s : Shipment) (newStatus : ShipmentStatus) (now : DateTime) : Shipment :=
  { s with status := newStatus, updatedAt := ⟨now⟩ }

/-- `mark_delivered`. -/
def markDelivered (s : Shipment) (arrivalDate : Date) (now : DateTime) : Shipment :=
  { s with arrivalDate := some arrivalDate }.updateStatus .delivered now

end Shipment

/-- A call of `ShipmentRepositoryPort` other than `delete`. -/
inductive ShipmentCall : Type
  | save (shipment : Shipment)
  | get (shipmentId : UUID)
  | getAll (limit offset : Nat)

/-- What a call returns. -/
abbrev ShipmentCall.Ans : ShipmentCall → Type
  | save _ => Shipment
  | get _ => Option Shipment
  | getAll _ _ => List Shipment

/-- A coroutine over a shipment repository. -/
abbrev ShipmentProgram : Type → Type := Coroutine ShipmentCall ShipmentCall.Ans ShipmentError

namespace ShipmentService

/-- `create`. -/
def create (shipment : Shipment) : ShipmentProgram Shipment := perform (ShipmentCall.save shipment)

/-- `get`. -/
def get (shipmentId : UUID) : ShipmentProgram (Option Shipment) :=
  perform (ShipmentCall.get shipmentId)

/-- `update`. -/
def update (shipment : Shipment) : ShipmentProgram Shipment := do
  let existing ← perform (ShipmentCall.get shipment.shipmentId)
  match existing with
  | none => .raise (notFound shipment.shipmentId)
  | some _ => perform (ShipmentCall.save shipment)

/-- `get_all`, by default with `limit` 50 and `offset` 0. -/
def getAll (limit offset : Nat) : ShipmentProgram (List Shipment) :=
  perform (ShipmentCall.getAll limit offset)

/-- `update_status`. -/
def updateStatus (shipmentId : UUID) (newStatus : ShipmentStatus) (now : DateTime) :
    ShipmentProgram Shipment := do
  let shipment ← perform (ShipmentCall.get shipmentId)
  match shipment with
  | none => .raise (notFound shipmentId)
  | some shipment => perform (ShipmentCall.save (shipment.updateStatus newStatus now))

/-- `mark_as_received`. -/
def markAsReceived (shipmentId : UUID) (now : DateTime) : ShipmentProgram Shipment :=
  updateStatus shipmentId .received now

/-- `mark_as_ready_for_delivery`. -/
def markAsReadyForDelivery (shipmentId : UUID) (now : DateTime) : ShipmentProgram Shipment :=
  updateStatus shipmentId .readyForDelivery now

/-- `mark_as_in_transit`. -/
def markAsInTransit (shipmentId : UUID) (now : DateTime) : ShipmentProgram Shipment :=
  updateStatus shipmentId .inTransit now

/-- `mark_as_delivered`. -/
def markAsDelivered (shipmentId : UUID) (arrivalDate : Date) (now : DateTime) :
    ShipmentProgram Shipment := do
  let shipment ← perform (ShipmentCall.get shipmentId)
  match shipment with
  | none => .raise (notFound shipmentId)
  | some shipment => perform (ShipmentCall.save (shipment.markDelivered arrivalDate now))

/-- `mark_as_completed`. -/
def markAsCompleted (shipmentId : UUID) (now : DateTime) : ShipmentProgram Shipment :=
  updateStatus shipmentId .completed now

/-- `get_by_status`. -/
def getByStatus (status : ShipmentStatus) : ShipmentProgram (List Shipment) := do
  let allShipments ← getAll 50 0
  return allShipments.filter fun s => s.status = status

/-- `get_created_shipments`. -/
def getCreatedShipments : ShipmentProgram (List Shipment) := getByStatus .created

/-- `get_received_shipments`. -/
def getReceivedShipments : ShipmentProgram (List Shipment) := getByStatus .received

/-- `get_ready_for_delivery_shipments`. -/
def getReadyForDeliveryShipments : ShipmentProgram (List Shipment) := getByStatus .readyForDelivery

/-- `get_in_transit_shipments`. -/
def getInTransitShipments : ShipmentProgram (List Shipment) := getByStatus .inTransit

/-- `get_delivered_shipments`. -/
def getDeliveredShipments : ShipmentProgram (List Shipment) := getByStatus .delivered

/-- `get_completed_shipments`. -/
def getCompletedShipments : ShipmentProgram (List Shipment) := getByStatus .completed

/-- `get_active_shipments`. -/
def getActiveShipments : ShipmentProgram (List Shipment) := do
  let allShipments ← getAll 50 0
  return allShipments.filter fun s => s.status ≠ .completed

/-- `get_pending_shipments`. -/
def getPendingShipments : ShipmentProgram (List Shipment) := do
  let allShipments ← getAll 50 0
  return allShipments.filter fun s => s.status ∈ [.created, .received]

/-- The `valid_transitions` of `can_transition_to`. -/
def validTransitions : ShipmentStatus → List ShipmentStatus
  | .created => [.received]
  | .received => [.readyForDelivery]
  | .readyForDelivery => [.inTransit]
  | .inTransit => [.delivered]
  | .delivered => [.completed]
  | .completed => []

/-- `can_transition_to`. -/
def canTransitionTo (shipmentId : UUID) (targetStatus : ShipmentStatus) :
    ShipmentProgram Bool := do
  let shipment ← perform (ShipmentCall.get shipmentId)
  match shipment with
  | none => .raise (notFound shipmentId)
  | some shipment => return targetStatus ∈ validTransitions shipment.status

/-- Load a shipment, change the copy and save it. -/
def modify (shipmentId : UUID) (change : Shipment → Shipment) : ShipmentProgram Shipment := do
  let shipment ← perform (ShipmentCall.get shipmentId)
  match shipment with
  | none => .raise (notFound shipmentId)
  | some shipment => perform (ShipmentCall.save (change shipment))

end ShipmentService

/-- An operation that writes a status. -/
inductive StatusOp : Type
  | create (shipment : Shipment)
  | updateStatus (shipmentId : UUID) (newStatus : ShipmentStatus) (now : DateTime)
  | markAsReceived (shipmentId : UUID) (now : DateTime)
  | markAsReadyForDelivery (shipmentId : UUID) (now : DateTime)
  | markAsInTransit (shipmentId : UUID) (now : DateTime)
  | markAsDelivered (shipmentId : UUID) (arrivalDate : Date) (now : DateTime)
  | markAsCompleted (shipmentId : UUID) (now : DateTime)

namespace StatusOp

/-- The service method of an operation. -/
def program : StatusOp → ShipmentProgram Shipment
  | create shipment => ShipmentService.create shipment
  | updateStatus shipmentId newStatus now => ShipmentService.updateStatus shipmentId newStatus now
  | markAsReceived shipmentId now => ShipmentService.markAsReceived shipmentId now
  | markAsReadyForDelivery shipmentId now => ShipmentService.markAsReadyForDelivery shipmentId now
  | markAsInTransit shipmentId now => ShipmentService.markAsInTransit shipmentId now
  | markAsDelivered shipmentId arrivalDate now =>
      ShipmentService.markAsDelivered shipmentId arrivalDate now
  | markAsCompleted shipmentId now => ShipmentService.markAsCompleted shipmentId now

/-- The shipment that an operation is about. -/
def shipmentId : StatusOp → UUID
  | create shipment => shipment.shipmentId
  | updateStatus shipmentId _ _ => shipmentId
  | markAsReceived shipmentId _ => shipmentId
  | markAsReadyForDelivery shipmentId _ => shipmentId
  | markAsInTransit shipmentId _ => shipmentId
  | markAsDelivered shipmentId _ _ => shipmentId
  | markAsCompleted shipmentId _ => shipmentId

/-- The status that an operation writes. -/
def status : StatusOp → ShipmentStatus
  | create shipment => shipment.status
  | updateStatus _ newStatus _ => newStatus
  | markAsReceived _ _ => .received
  | markAsReadyForDelivery _ _ => .readyForDelivery
  | markAsInTransit _ _ => .inTransit
  | markAsDelivered _ _ _ => .delivered
  | markAsCompleted _ _ => .completed

/-- What an operation makes of a stored shipment. -/
def change : StatusOp → Shipment → Shipment
  | create shipment, _ => shipment
  | updateStatus _ newStatus now, s => s.updateStatus newStatus now
  | markAsReceived _ now, s => s.updateStatus .received now
  | markAsReadyForDelivery _ now, s => s.updateStatus .readyForDelivery now
  | markAsInTransit _ now, s => s.updateStatus .inTransit now
  | markAsDelivered _ arrivalDate now, s => s.markDelivered arrivalDate now
  | markAsCompleted _ now, s => s.updateStatus .completed now

@[simp] theorem status_change (op : StatusOp) (s : Shipment) : (op.change s).status = op.status := by
  cases op <;> rfl

theorem shipmentId_change (op : StatusOp) {s : Shipment} (h : s.shipmentId = op.shipmentId) :
    (op.change s).shipmentId = op.shipmentId := by
  cases op <;> first | rfl | exact h

/-- Everything but a creation loads the shipment first. -/
theorem program_eq (op : StatusOp) :
    (∃ shipment, op = create shipment) ∨
      op.program = ShipmentService.modify op.shipmentId op.change := by
  cases op with
  | create shipment => exact .inl ⟨shipment, rfl⟩
  | _ => exact .inr rfl

end StatusOp

/-- `ShipmentCreateDTO`. -/
structure ShipmentCreateDTO where
  origin : LocationDTO
  destination : LocationDTO
  departureDate : Date

/-- `ShipmentUpdateDTO`. -/
structure ShipmentUpdateDTO where
  origin : Option LocationDTO := none
  destination : Option LocationDTO := none
  departureDate : Option Date := none
  arrivalDate : Option Date := none
  status : Option String := none

/-- `ShipmentDTO`. -/
structure ShipmentDTO where
  shipmentId : UUID
  origin : LocationDTO
  destination : LocationDTO
  departureDate : Date
  arrivalDate : Option Date
  status : String
  createdAt : String
  updatedAt : String
  deriving DecidableEq, Repr

namespace ShipmentMapper

/-- `create_dto_to_entity`, with the id and the two clock readings of the entity's defaults. The
places of the DTO are no `dict`s, so they stay what they are. -/
def createDtoToEntity (dto : ShipmentCreateDTO) (shipmentId : UUID) (now : Clock) : Shipment where
  origin := .dto dto.origin
  destination := .dto dto.destination
  departureDate := dto.departureDate
  shipmentId := shipmentId
  createdAt := ⟨now 0⟩
  updatedAt := ⟨now 1⟩

/-- `update_entity_from_dto`; `datetime.utcnow()` is naive. -/
def updateEntityFromDto (entity : Shipment) (dto : ShipmentUpdateDTO) (now : DateTime) :
    Except ShipmentError Shipment := do
  let status ← match dto.status with
    | none => pure entity.status
    | some text =>
        match ShipmentStatus.ofValue? text with
        | some status => pure status
        | none => .error (.valueError ("'" ++ text ++ "' is not a valid ShipmentStatus"))
  let updatedAt ← (Timestamp.of now none).mapError .timestampError
  return { entity with
    origin := (dto.origin.map Place.dto).getD entity.origin
    destination := (dto.destination.map Place.dto).getD entity.destination
    departureDate := dto.departureDate.getD entity.departureDate
    arrivalDate := dto.arrivalDate.or entity.arrivalDate
    status := status
    updatedAt := updatedAt }

/-- `entity_to_dto`. -/
def entityToDto (entity : Shipment) : ShipmentDTO where
  shipmentId := entity.shipmentId
  origin := ⟨entity.origin.country, entity.origin.city, entity.origin.address⟩
  destination := ⟨entity.destination.country, entity.destination.city, entity.destination.address⟩
  departureDate := entity.departureDate
  arrivalDate := entity.arrivalDate
  status := entity.status.value
  createdAt := entity.createdAt.isoformat
  updatedAt := entity.updatedAt.isoformat

end ShipmentMapper

end SupplyChainTracker.Shipments
