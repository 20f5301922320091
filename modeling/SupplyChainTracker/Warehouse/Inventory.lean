import Mathlib.Data.List.Sort
import SupplyChainTracker.Core.Async.Coroutine
import SupplyChainTracker.Core.Table
import SupplyChainTracker.Libs.Messaging

/-!
# The inventory of the warehouses

The inventory records of the warehouse service, their repository and their service.
A row is read back as a record whose two times are fresh clock readings, because
`_row_to_entity` does not pass the stored ones on.
-/

namespace SupplyChainTracker.Warehouse

open Coroutine (perform)

/-- `InventoryStatus`. -/
inductive InventoryStatus : Type
  | received
  | stored
  | readyForDelivery
  | shipped
  deriving DecidableEq, Repr

namespace InventoryStatus

/-- The string value of a status. -/
def value : InventoryStatus → String
  | received => "received"
  | stored => "stored"
  | readyForDelivery => "ready_for_delivery"
  | shipped => "shipped"

/-- The text of a status inside an f-string. -/
def format : InventoryStatus → String
  | received => "InventoryStatus.RECEIVED"
  | stored => "InventoryStatus.STORED"
  | readyForDelivery => "InventoryStatus.READY_FOR_DELIVERY"
  | shipped => "InventoryStatus.SHIPPED"

/-- `InventoryStatus(value)`, `none` standing for its `ValueError`. -/
def ofValue? (text : String) : Option InventoryStatus :=
  if text = "received" then some received
  else if text = "stored" then some stored
  else if text = "ready_for_delivery" then some readyForDelivery
  else if text = "shipped" then some shipped
  else none

@[simp] theorem ofValue?_value (s : InventoryStatus) : ofValue? s.value = some s := by
  cases s <;> decide

/-- A text that is a status is the value of that status. -/
theorem value_of_ofValue? {text : String} {s : InventoryStatus} (h : ofValue? text = some s) :
    s.value = text := by
  unfold ofValue? at h
  split_ifs at h with hreceived hstored hready hshipped
  all_goals cases h
  · exact hreceived.symm
  · exact hstored.symm
  · exact hready.symm
  · exact hshipped.symm

theorem value_injective : Function.Injective value := by
  intro s t h
  exact Option.some.inj ((ofValue?_value s).symm.trans ((congrArg ofValue? h).trans (ofValue?_value t)))

@[simp] theorem value_inj {s t : InventoryStatus} : s.value = t.value ↔ s = t :=
  value_injective.eq_iff

end InventoryStatus

/-- `InventoryRecord`. -/
structure InventoryRecord where
  recordId : UUID
  shipmentId : UUID
  warehouseId : UUID
  status : InventoryStatus := .received
  receivedAt : DateTime
  updatedAt : DateTime

/-- `update_status`. -/
def InventoryRecord.updateStatus (r : InventoryRecord) (newStatus : InventoryStatus)
    (now : DateTime) : InventoryRecord :=
  { r with status := newStatus, updatedAt := now }

/-- The exceptions that can reach a caller of the warehouse service. -/
inductive InventoryError : Type
  | recordNotFound (message : String)
  | warehouseNotFound (message : String)
  | invalidStatusTransition (message : String)
  | valueError (message : String)
  | attributeError (message : String)
  | typeError (message : String)
  | httpException (statusCode : Nat) (detail : String)
  /-- A statement that PostgreSQL refuses, by the violated constraint. -/
  | database (violated : String)
  /-- Any other exception of the driver. -/
  | external (message : String)
  deriving DecidableEq, Repr

/-- A row of `warehouses`. -/
structure WarehouseRow where
  warehouseId : UUID
  name : String
  location : String
  createdAt : DateTime
  updatedAt : DateTime
  deriving DecidableEq, Repr

/-- A row of `inventory_records`; no query reads its `created_at`. -/
structure InventoryRow where
  recordId : UUID
  shipmentId : UUID
  warehouseId : UUID
  status : String
  receivedAt : DateTime
  updatedAt : DateTime
  deriving DecidableEq, Repr

/-- The tables of the warehouse service. -/
structure InventoryDb where
  warehouses : Table UUID WarehouseRow WarehouseRow.warehouseId
  records : Table UUID InventoryRow InventoryRow.recordId
  /-- The foreign key of a record to its warehouse. -/
  warehouseOf : ∀ r ∈ records.rows, (warehouses.find? r.warehouseId).isSome

/-- The `VALUES` list of `save`. -/
def InventoryRecord.toRow (r : InventoryRecord) : InventoryRow where
  recordId := r.recordId
  shipmentId := r.shipmentId
  warehouseId := r.warehouseId
  status := r.status.value
  receivedAt := r.receivedAt
  updatedAt := r.updatedAt

namespace InventoryDb

/-- The row that the upsert of `save` leaves: `received_at` is not among the updated columns. -/
def target (db : InventoryDb) (r : InventoryRow) : InventoryRow :=
  match db.records.find? r.recordId with
  | none => r
  | some old => { old with
      shipmentId := r.shipmentId
      warehouseId := r.warehouseId
      status := r.status
      updatedAt := r.updatedAt }

/-- The statement of `save`. Every status passes `ck_inventory_status`. -/
def save (record : InventoryRecord) (db : InventoryDb) :
    Except InventoryError InventoryRow × InventoryDb :=
  if h : (db.warehouses.find? (db.target record.toRow).warehouseId).isSome then
    (.ok (db.target record.toRow), { db with
      records := db.records.put (db.target record.toRow)
      warehouseOf := fun r hr => by
        rcases (db.records.mem_put _ r).mp hr with rfl | ⟨hr, _⟩
        · exact h
        · exact db.warehouseOf r hr })
  else (.error (.database "inventory_records_warehouse_id_fkey"), db)

/-- The statement of `list_by_shipment`. -/
def listByShipment (shipmentId : UUID) (db : InventoryDb) : List InventoryRow :=
  (db.records.rows.filter fun r => r.shipmentId = shipmentId).insertionSort
    fun r s => r.receivedAt ≤ s.receivedAt

/-- The statement of `delete`. -/
def delete (recordId : UUID) (db : InventoryDb) : InventoryDb :=
  { db with
    records := db.records.removeWhere fun r => r.recordId = recordId
    warehouseOf := fun r hr => db.warehouseOf r (List.mem_of_mem_filter hr) }

end InventoryDb

/-- A statement of the inventory repository. -/
inductive Call : Type
  | get (recordId : UUID)
  | save (record : InventoryRecord)
  | listByShipment (shipmentId : UUID)
  | delete (recordId : UUID)

/-- What a statement returns. -/
abbrev Call.Ans : Call → Type
  | get _ => Option InventoryRow
  | save _ => InventoryRow
  | listByShipment _ => List InventoryRow
  | delete _ => Unit

/-- A coroutine of the warehouse service. -/
abbrev Program : Type → Type := Coroutine Call Call.Ans InventoryError

/-- The effect of a statement. -/
def act : (op : Call) → InventoryDb → Except InventoryError op.Ans × InventoryDb
  | .get recordId, db => (.ok (db.records.find? recordId), db)
  | .save record, db => db.save record
  | .listByShipment shipmentId, db => (.ok (db.listByShipment shipmentId), db)
  | .delete recordId, db => (.ok (), db.delete recordId)

/-- `_row_to_entity`, which takes two clock readings. -/
def rowToEntity (r : InventoryRow) (now : Clock) : Except InventoryError InventoryRecord :=
  match InventoryStatus.ofValue? r.status with
  | some status => .ok {
      recordId := r.recordId
      shipmentId := r.shipmentId
      warehouseId := r.warehouseId
      status := status
      receivedAt := now 0
      updatedAt := now 1 }
  | none => .error (.valueError ("'" ++ r.status ++ "' is not a valid InventoryStatus"))

/-- A record that is read has the ids and the status of its row. -/
theorem rowToEntity_eq_ok {row : InventoryRow} {now : Clock} {record : InventoryRecord}
    (h : rowToEntity row now = .ok record) : record.recordId = row.recordId ∧
      record.warehouseId = row.warehouseId ∧ row.status = record.status.value := by
  unfold rowToEntity at h
  split at h
  · rename_i status hstatus
    cases h
    exact ⟨rfl, rfl, (InventoryStatus.value_of_ofValue? hstatus).symm⟩
  · cases h

/-- `_row_to_entity` of one row after the other. -/
def rowsToEntities : Clock → List InventoryRow → Except InventoryError (List InventoryRecord)
  | _, [] => .ok []
  | now, r :: rs => do
      let record ← rowToEntity r now
      let records ← rowsToEntities (now.after 2) rs
      return record :: records

namespace InventoryRepository

/-- `get`. -/
def get (recordId : UUID) (now : Clock) : Program (Option InventoryRecord) := do
  let row ← perform (Call.get recordId)
  match row with
  | none => return none
  | some row =>
    let record ← Coroutine.ofExcept (rowToEntity row now)
    return some record

/-- `save`. -/
def save (record : InventoryRecord) (now : Clock) : Program InventoryRecord := do
  let row ← perform (Call.save record)
  Coroutine.ofExcept (rowToEntity row now)

/-- `list_by_shipment`. -/
def listByShipment (shipmentId : UUID) (now : Clock) : Program (List InventoryRecord) := do
  let rows ← perform (Call.listByShipment shipmentId)
  Coroutine.ofExcept (rowsToEntities now rows)

/-- `delete`. -/
def delete (recordId : UUID) : Program Unit := perform (Call.delete recordId)

end InventoryRepository

/-- The `InventoryRecordNotFoundError` of an id without a record. -/
def notFound (recordId : UUID) : InventoryError :=
  .recordNotFound ("Inventory record " ++ recordId.str ++ " not found")

namespace InventoryService

/-- `create_record`. -/
def createRecord (record : InventoryRecord) (now : Clock) : Program InventoryRecord :=
  InventoryRepository.save record now

/-- `get_record`. -/
def getRecord (recordId : UUID) (now : Clock) : Program (Option InventoryRecord) :=
  InventoryRepository.get recordId now

/-- `delete_record`. -/
def deleteRecord (recordId : UUID) (now : Clock) : Program Unit := do
  let existing ← InventoryRepository.get recordId now
  match existing with
  | none => .raise (notFound recordId)
  | some _ => InventoryRepository.delete recordId

/-- `list_records_by_shipment`. -/
def listRecordsByShipment (shipmentId : UUID) (now : Clock) : Program (List InventoryRecord) :=
  InventoryRepository.listByShipment shipmentId now

/-- `update_status`, with two clock readings for the loaded record, one for the change and two
for the returned record. -/
def updateStatus (recordId : UUID) (newStatus : InventoryStatus) (now : Clock) :
    Program InventoryRecord := do
  let record ← InventoryRepository.get recordId now
  match record with
  | none => .raise (notFound recordId)
  | some record =>
    if record.status = .shipped ∧ newStatus ≠ .shipped then
      .raise (.invalidStatusTransition
        ("Cannot change status from " ++ record.status.format ++ " to " ++ newStatus.format))
    else InventoryRepository.save (record.updateStatus newStatus (now 2)) (now.after 3)

end InventoryService

end SupplyChainTracker.Warehouse
