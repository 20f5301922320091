import SupplyChainTracker.Core.Async.Coroutine
import SupplyChainTracker.Core.Table
import SupplyChainTracker.Libs.Messaging

/-!
# Deliveries

The deliveries of the delivery service with the couriers they are joined to. A name
or a contact that its value object refuses makes the delivery unreadable.
-/

namespace SupplyChainTracker.Deliveries

open Coroutine (perform)

/-- The exceptions that can reach a caller of the delivery service. -/
inductive DeliveryError : Type
  | notFound (message : String)
  | statusTransition (message : String)
  | courierNotFound (message : String)
  /-- A `ValueError`, which includes the errors of the value objects. -/
  | valueError (message : String)
  | attributeError (message : String)
  | typeError (message : String)
  /-- Pydantic's `ValidationError`, by the fields that it refuses. -/
  | validation (fields : List String)
  | httpException (statusCode : Nat) (detail : String)
  /-- A statement that PostgreSQL refuses, by the violated constraint. -/
  | database (violated : String)
  /-- Any other exception of the driver. -/
  | external (message : String)
  deriving DecidableEq, Repr

/-- `FullName`. -/
structure FullName where
  value : String
  /-- What `__post_init__` checks. -/
  long : 2 ≤ (Text.strip value).length

/-- The constructor of `FullName`. -/
def FullName.ofString (text : String) : Except DeliveryError FullName :=
  if (Text.strip text).length = 0 then .error (.valueError "Name cannot be empty")
  else if h : (Text.strip text).length < 2 then
    .error (.valueError ("Name must be at least 2 chars long, got '" ++ text ++ "'"))
  else .ok ⟨text, not_lt.mp h⟩

/-- `ContactInfo`. -/
structure ContactInfo where
  value : String
  /-- What `__post_init__` checks. -/
  long : 5 ≤ (Text.strip value).length

/-- The constructor of `ContactInfo`. -/
def ContactInfo.ofString (text : String) : Except DeliveryError ContactInfo :=
  if (Text.strip text).length = 0 then .error (.valueError "Contact info cannot be empty")
  else if h : (Text.strip text).length < 5 then
    .error (.valueError ("Contact info is too short, got '" ++ text ++ "'"))
  else .ok ⟨text, not_lt.mp h⟩

/-- `Courier`. -/
structure Courier where
  courierId : UUID
  name : FullName
  contactInfo : ContactInfo

/-- `DeliveryStatus`. -/
inductive DeliveryStatus : Type
  | assigned
  | inTransit
  | delivered
  | confirmed
  deriving DecidableEq, Repr

namespace DeliveryStatus

/-- The string value of a status. -/
def value : DeliveryStatus → String
  | assigned => "assigned"
  | inTransit => "in_transit"
  | delivered => "delivered"
  | confirmed => "confirmed"

/-- `DeliveryStatus(value)`, `none` standing for its `ValueError`. -/
def ofValue? (text : String) : Option DeliveryStatus :=
  if text = "assigned" then some assigned
  else if text = "in_transit" then some inTransit
  else if text = "delivered" then some delivered
  else if text = "confirmed" then some confirmed
  else none

end DeliveryStatus

/-- `Delivery`. -/
structure Delivery where
  deliveryId : UUID
  shipmentId : UUID
  courier : Courier
  status : DeliveryStatus
  estimatedArrival : Option DateTime
  actualArrival : Option DateTime
  createdAt : DateTime
  updatedAt : DateTime

/-- A row of `couriers`, as far as a statement writes it. -/
structure CourierRow where
  courierId : UUID
  name : String
  contactInfo : String
  createdAt : DateTime
  updatedAt : DateTime
  deriving DecidableEq, Repr

/-- A row of `deliveries`. -/
structure DeliveryRow where
  deliveryId : UUID
  shipmentId : UUID
  courierId : UUID
  status : String
  estimatedArrival : Option DateTime
  actualArrival : Option DateTime
  createdAt : DateTime
  updatedAt : DateTime
  deriving DecidableEq, Repr

/-- The tables of the delivery service. -/
structure DeliveryDb where
  couriers : Table UUID CourierRow CourierRow.courierId
  deliveries : Table UUID DeliveryRow DeliveryRow.deliveryId
  /-- The foreign key of a delivery to its courier. -/
  courierOf : ∀ d ∈ deliveries.rows, (couriers.find? d.courierId).isSome

namespace DeliveryDb

/-- The statement of `get`: a delivery joined to its courier. -/
def get (deliveryId : UUID) (db : DeliveryDb) : Option (DeliveryRow × CourierRow) :=
  (db.deliveries.find? deliveryId).bind fun d =>
    (db.couriers.find? d.courierId).map fun c => (d, c)

/-- The statement of `delete`. -/
def delete (deliveryId : UUID) (db : DeliveryDb) : DeliveryDb :=
  { db with
    deliveries := db.deliveries.removeWhere fun d => d.deliveryId = deliveryId
    courierOf := fun d hd => db.courierOf d (List.mem_of_mem_filter hd) }

/-- Deleting a delivery that is not stored changes nothing. -/
theorem delete_of_find?_none {db : DeliveryDb} {deliveryId : UUID}
    (h : db.deliveries.find? deliveryId = none) : db.delete deliveryId = db := by
  have hrows := (db.deliveries.removeWhere_key_eq_self_iff deliveryId).mpr h
  cases db
  simp only [delete, hrows]

end DeliveryDb

/-- A statement of the delivery repository. -/
inductive Call : Type
  | get (deliveryId : UUID)
  | delete (deliveryId : UUID)

/-- What a statement returns. -/
abbrev Call.Ans : Call → Type
  | get _ => Option (DeliveryRow × CourierRow)
  | delete _ => Unit

/-- A coroutine of the delivery service. -/
abbrev Program : Type → Type := Coroutine Call Call.Ans DeliveryError

/-- The effect of a statement. -/
def act : (op : Call) → DeliveryDb → Except DeliveryError op.Ans × DeliveryDb
  | .get deliveryId, db => (.ok (db.get deliveryId), db)
  | .delete deliveryId, db => (.ok (), db.delete deliveryId)

/-- `_row_to_entity`. -/
def rowToEntity (d : DeliveryRow) (c : CourierRow) : Except DeliveryError Delivery := do
  let name ← FullName.ofString c.name
  let contactInfo ← ContactInfo.ofString c.contactInfo
  match DeliveryStatus.ofValue? d.status with
  | some status => .ok {
      deliveryId := d.deliveryId
      shipmentId := d.shipmentId
      courier := ⟨c.courierId, name, contactInfo⟩
      status := status
      estimatedArrival := d.estimatedArrival
      actualArrival := d.actualArrival
      createdAt := d.createdAt
      updatedAt := d.updatedAt }
  | none => .error (.valueError ("'" ++ d.status ++ "' is not a valid DeliveryStatus"))

namespace DeliveryRepository

/-- `get`. -/
def get (deliveryId : UUID) : Program (Option Delivery) := do
  let row ← perform (Call.get deliveryId)
  match row with
  | none => return none
  | some (d, c) =>
    let delivery ← Coroutine.ofExcept (rowToEntity d c)
    return some delivery

/-- `delete`. -/
def delete (deliveryId : UUID) : Program Unit := perform (Call.delete deliveryId)

end DeliveryRepository

/-- The `DeliveryNotFoundError` of an id without a delivery. -/
def notFound (deliveryId : UUID) : DeliveryError :=
  .notFound ("Delivery " ++ deliveryId.str ++ " not found")

/-- `DeliveryService.delete`. -/
def DeliveryService.delete (deliveryId : UUID) : Program Unit := do
  let existing ← DeliveryRepository.get deliveryId
  match existing with
  | none => .raise (notFound deliveryId)
  | some _ => DeliveryRepository.delete deliveryId

end SupplyChainTracker.Deliveries
