import Mathlib.Data.List.Sort
import SupplyChainTracker.Core.Async.Lift
import SupplyChainTracker.Deliveries.Delivery
import SupplyChainTracker.Libs.Database

/-!
# The repositories of the delivery service

`AsyncPostgresDeliveryRepository` and `AsyncPostgresCourierRepository`, by their statements.
A courier is stored by its name and its contact as asyncpg encodes them, and a courier
with deliveries cannot be deleted.
-/

namespace SupplyChainTracker.Deliveries

open Coroutine (perform)

/-- What PostgreSQL adds to the statements: the constraints, each by the row it refuses, and
the order of texts. -/
structure Postgres where
  refusesDelivery : DeliveryRow → Option String
  refusesCourier : CourierRow → Option String
  collation : String → String → Bool

/-- The tables with their clock. -/
abbrev World : Type := Database DeliveryDb

/-- The `VALUES` list of a delivery. -/
def Delivery.toRow (delivery : Delivery) : DeliveryRow where
  deliveryId := delivery.deliveryId
  shipmentId := delivery.shipmentId
  courierId := delivery.courier.courierId
  status := delivery.status.value
  estimatedArrival := delivery.estimatedArrival
  actualArrival := delivery.actualArrival
  createdAt := delivery.createdAt
  updatedAt := delivery.updatedAt

namespace DeliveryDb

/-- The row that the upsert of a delivery leaves: `created_at` is not among the updated columns,
and the trigger renews `updated_at`. -/
def deliveryTarget (db : DeliveryDb) (delivery : Delivery) (now : DateTime) : DeliveryRow :=
  match db.deliveries.find? delivery.deliveryId with
  | none => delivery.toRow
  | some old => { delivery.toRow with
      createdAt := old.createdAt
      updatedAt := now }

@[simp] theorem deliveryId_deliveryTarget (db : DeliveryDb) (delivery : Delivery)
    (now : DateTime) : (db.deliveryTarget delivery now).deliveryId = delivery.deliveryId := by
  unfold deliveryTarget
  split <;> rfl

@[simp] theorem courierId_deliveryTarget (db : DeliveryDb) (delivery : Delivery)
    (now : DateTime) : (db.deliveryTarget delivery now).courierId = delivery.courier.courierId := by
  unfold deliveryTarget
  split <;> rfl

/-- The database accepts the row of a delivery. -/
def AcceptsDelivery (pg : Postgres) (delivery : Delivery) (now : DateTime) (db : DeliveryDb) :
    Prop :=
  pg.refusesDelivery delivery.toRow = none ∧
    pg.refusesDelivery (db.deliveryTarget delivery now) = none ∧
    (db.couriers.find? delivery.courier.courierId).isSome

/-- The statement of `save` of a delivery. The proposed row is checked before the conflict. -/
def saveDelivery (pg : Postgres) (delivery : Delivery) (now : DateTime) (db : DeliveryDb) :
    Except DeliveryError Unit × DeliveryDb :=
  match (pg.refusesDelivery delivery.toRow).or
      (pg.refusesDelivery (db.deliveryTarget delivery now)) with
  | some violated => (.error (.database violated), db)
  | none =>
    if h : (db.couriers.find? delivery.courier.courierId).isSome then
      (.ok (), { db with
        deliveries := db.deliveries.put (db.deliveryTarget delivery now)
        courierOf := fun d hd => by
          rcases (db.deliveries.mem_put _ d).mp hd with rfl | ⟨hd, _⟩
          · rwa [courierId_deliveryTarget]
          · exact db.courierOf d hd })
    else (.error (.database "deliveries_courier_id_fkey"), db)

/-- The statement of `get_all` of the deliveries, each joined to its courier. -/
def listDeliveries (limit offset : Nat) (db : DeliveryDb) : List (DeliveryRow × CourierRow) :=
  let joined := db.deliveries.rows.filterMap fun d =>
    (db.couriers.find? d.courierId).map fun c => (d, c)
  ((joined.insertionSort fun r s => s.1.createdAt ≤ r.1.createdAt).drop offset).take limit

/-- The row that the upsert of a courier leaves; the trigger renews `updated_at`. -/
def courierTarget (db : DeliveryDb) (courierId : UUID) (name contactInfo : String)
    (now : DateTime) : CourierRow :=
  match db.couriers.find? courierId with
  | none => ⟨courierId, name, contactInfo, now, now⟩
  | some old => { old with
      name := name
      contactInfo := contactInfo
      updatedAt := now }

@[simp] theorem courierId_courierTarget (db : DeliveryDb) (courierId : UUID)
    (name contactInfo : String) (now : DateTime) :
    (db.courierTarget courierId name contactInfo now).courierId = courierId := by
  unfold courierTarget
  split
  · rfl
  · rename_i old h
    have hold : old.courierId = courierId := Table.key_of_find? h
    exact hold

/-- The statement of `save` of a courier. -/
def saveCourier (pg : Postgres) (courierId : UUID) (name contactInfo : String) (now : DateTime)
    (db : DeliveryDb) : Except DeliveryError CourierRow × DeliveryDb :=
  match pg.refusesCourier (db.courierTarget courierId name contactInfo now) with
  | some violated => (.error (.database violated), db)
  | none => (.ok (db.courierTarget courierId name contactInfo now), { db with
      couriers := db.couriers.put (db.courierTarget courierId name contactInfo now)
      courierOf := fun d hd => Table.isSome_find?_put (db.courierOf d hd) })

/-- The statement of `get_all` of the couriers, in the order of the names. -/
def listCouriers (pg : Postgres) (limit offset : Nat) (db : DeliveryDb) : List CourierRow :=
  ((db.couriers.rows.insertionSort fun c d => pg.collation c.name d.name).drop offset).take limit

/-- The statement of `delete` of a courier, which a delivery of the courier restricts. -/
def deleteCourier (courierId : UUID) (db : DeliveryDb) : Except DeliveryError Unit × DeliveryDb :=
  if h : ∀ d ∈ db.deliveries.rows, d.courierId ≠ courierId then
    (.ok (), { db with
      couriers := db.couriers.removeWhere fun c => c.courierId = courierId
      courierOf := fun d hd => by
        rw [Table.find?_removeWhere_key, if_neg (h d hd)]
        exact db.courierOf d hd })
  else (.error (.database "deliveries_courier_id_fkey"), db)

end DeliveryDb

/-- A statement of one of the two repositories. -/
inductive Statement : Type
  /-- A statement that the command worker executes too. -/
  | shared (op : Call)
  | saveDelivery (delivery : Delivery)
  | listDeliveries (limit offset : Nat)
  | getCourier (courierId : UUID)
  | saveCourier (courierId : UUID) (name contactInfo : String)
  | listCouriers (limit offset : Nat)
  | deleteCourier (courierId : UUID)

/-- What a statement returns. -/
abbrev Statement.Ans : Statement → Type
  | shared op => op.Ans
  | saveDelivery _ => Unit
  | listDeliveries _ _ => List (DeliveryRow × CourierRow)
  | getCourier _ => Option CourierRow
  | saveCourier _ _ _ => CourierRow
  | listCouriers _ _ => List CourierRow
  | deleteCourier _ => Unit

/-- A coroutine of the two services. -/
abbrev ServiceProgram : Type → Type := Coroutine Statement Statement.Ans DeliveryError

/-- The effect of a statement. -/
def Statement.act (pg : Postgres) :
    (op : Statement) → World → Except DeliveryError op.Ans × World
  | .shared op, w => ((Deliveries.act op w.db).1, w.after (Deliveries.act op w.db).2)
  | .saveDelivery delivery, w =>
      ((w.db.saveDelivery pg delivery w.now).1, w.after (w.db.saveDelivery pg delivery w.now).2)
  | .listDeliveries limit offset, w => (.ok (w.db.listDeliveries limit offset), w.read)
  | .getCourier courierId, w => (.ok (w.db.couriers.find? courierId), w.read)
  | .saveCourier courierId name contactInfo, w =>
      ((w.db.saveCourier pg courierId name contactInfo w.now).1,
        w.after (w.db.saveCourier pg courierId name contactInfo w.now).2)
  | .listCouriers limit offset, w => (.ok (w.db.listCouriers pg limit offset), w.read)
  | .deleteCourier courierId, w =>
      ((w.db.deleteCourier courierId).1, w.after (w.db.deleteCourier courierId).2)

/-- Await what the command worker awaits too. -/
def inService {α : Type} (p : Program α) : ServiceProgram α :=
  p.lift Statement.shared fun _ a => a

namespace DeliveryRepository

/-- `save`, which returns the entity it was given. -/
def save (delivery : Delivery) : ServiceProgram Delivery := do
  perform (Statement.saveDelivery delivery)
  return delivery

/-- `get_all`. -/
def getAll (limit offset : Nat) : ServiceProgram (List Delivery) := do
  let rows ← perform (Statement.listDeliveries limit offset)
  Coroutine.ofExcept (rows.mapM fun row => rowToEntity row.1 row.2)

end DeliveryRepository

/-- What is passed for a column of `couriers`: the value objects, not their texts. -/
inductive CourierText : Type
  | name (name : FullName)
  | contactInfo (contactInfo : ContactInfo)

namespace CourierRepository

/-- `_row_to_entity`. -/
def rowToEntity (row : CourierRow) : Except DeliveryError Courier := do
  let name ← FullName.ofString row.name
  let contactInfo ← ContactInfo.ofString row.contactInfo
  return ⟨row.courierId, name, contactInfo⟩

/-- `save`; `textArgument` is how asyncpg encodes an argument for a text column. -/
def save (textArgument : CourierText → Except DeliveryError String) (courier : Courier) :
    ServiceProgram Courier := do
  let name ← Coroutine.ofExcept (textArgument (.name courier.name))
  let contactInfo ← Coroutine.ofExcept (textArgument (.contactInfo courier.contactInfo))
  let row ← perform (Statement.saveCourier courier.courierId name contactInfo)
  Coroutine.ofExcept (rowToEntity row)

/-- `get`. -/
def get (courierId : UUID) : ServiceProgram (Option Courier) := do
  let row ← perform (Statement.getCourier courierId)
  match row with
  | none => return none
  | some row =>
    let courier ← Coroutine.ofExcept (rowToEntity row)
    return some courier

/-- `get_all`. -/
def getAll (limit offset : Nat) : ServiceProgram (List Courier) := do
  let rows ← perform (Statement.listCouriers limit offset)
  Coroutine.ofExcept (rows.mapM rowToEntity)

/-- `delete`. -/
def delete (courierId : UUID) : ServiceProgram Unit := perform (Statement.deleteCourier courierId)

end CourierRepository

end SupplyChainTracker.Deliveries
