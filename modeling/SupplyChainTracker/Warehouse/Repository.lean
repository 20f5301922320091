import SupplyChainTracker.Core.Async.Lift
import SupplyChainTracker.Libs.Database
import SupplyChainTracker.Libs.ValueObjects
import SupplyChainTracker.Warehouse.Inventory

/-!
# The repositories of the warehouse service

`AsyncPostgresWarehouseRepository` by its statements, next to those of the inventory. A
location is stored as its JSON text, and the records of a warehouse are deleted with it.
-/

namespace SupplyChainTracker.Warehouse

open Coroutine (perform)

set_option linter.dupNamespace false

/-- `Warehouse`. -/
structure Warehouse where
  warehouseId : UUID
  name : String
  location : Location

/-- `update_location`. -/
def Warehouse.updateLocation (warehouse : Warehouse) (newLocation : Location) : Warehouse :=
  { warehouse with location := newLocation }

/-- What PostgreSQL adds to the statements: the constraints on a warehouse, by the row they
refuse, and the order of texts. -/
structure Postgres where
  refusesWarehouse : WarehouseRow → Option String
  collation : String → String → Bool

/-- The tables with their clock. -/
abbrev World : Type := Database InventoryDb

namespace InventoryDb

/-- The row that the upsert of a warehouse leaves; no trigger renews `updated_at`. -/
def warehouseTarget (db : InventoryDb) (warehouseId : UUID) (name location : String)
    (now : DateTime) : WarehouseRow :=
  match db.warehouses.find? warehouseId with
  | none => ⟨warehouseId, name, location, now, now⟩
  | some old => { old with
      name := name
      location := location }

@[simp] theorem warehouseId_warehouseTarget (db : InventoryDb) (warehouseId : UUID)
    (name location : String) (now : DateTime) :
    (db.warehouseTarget warehouseId name location now).warehouseId = warehouseId := by
  unfold warehouseTarget
  split
  · rfl
  · rename_i old h
    have hold : old.warehouseId = warehouseId := Table.key_of_find? h
    exact hold

/-- The statement of `save` of a warehouse. -/
def saveWarehouse (pg : Postgres) (warehouseId : UUID) (name location : String) (now : DateTime)
    (db : InventoryDb) : Except InventoryError WarehouseRow × InventoryDb :=
  match pg.refusesWarehouse (db.warehouseTarget warehouseId name location now) with
  | some violated => (.error (.database violated), db)
  | none => (.ok (db.warehouseTarget warehouseId name location now), { db with
      warehouses := db.warehouses.put (db.warehouseTarget warehouseId name location now)
      warehouseOf := fun r hr => Table.isSome_find?_put (db.warehouseOf r hr) })

/-- The statement of `get_all` of the warehouses, in the order of the names. -/
def listWarehouses (pg : Postgres) (limit offset : Nat) (db : InventoryDb) : List WarehouseRow :=
  ((db.warehouses.rows.insertionSort fun v w => pg.collation v.name w.name).drop offset).take limit

/-- The statement of `delete` of a warehouse, which takes its records along. -/
def deleteWarehouse (warehouseId : UUID) (db : InventoryDb) : InventoryDb where
  warehouses := db.warehouses.removeWhere fun w => w.warehouseId = warehouseId
  records := db.records.removeWhere fun r => r.warehouseId = warehouseId
  warehouseOf := fun r hr => by
    obtain ⟨hr, hother⟩ := List.mem_filter.mp hr
    rw [Table.find?_removeWhere_key, if_neg (by simpa using hother)]
    exact db.warehouseOf r hr

end InventoryDb

/-- A statement of one of the two repositories. -/
inductive Statement : Type
  /-- A statement that the command worker executes too. -/
  | shared (op : Call)
  | getWarehouse (warehouseId : UUID)
  | saveWarehouse (warehouseId : UUID) (name location : String)
  | listWarehouses (limit offset : Nat)
  | deleteWarehouse (warehouseId : UUID)

/-- What a statement returns. -/
abbrev Statement.Ans : Statement → Type
  | shared op => op.Ans
  | getWarehouse _ => Option WarehouseRow
  | saveWarehouse _ _ _ => WarehouseRow
  | listWarehouses _ _ => List WarehouseRow
  | deleteWarehouse _ => Unit

/-- A coroutine of the two services. -/
abbrev ServiceProgram : Type → Type := Coroutine Statement Statement.Ans InventoryError

/-- The effect of a statement. -/
def Statement.act (pg : Postgres) :
    (op : Statement) → World → Except InventoryError op.Ans × World
  | .shared op, w => ((Warehouse.act op w.db).1, w.after (Warehouse.act op w.db).2)
  | .getWarehouse warehouseId, w => (.ok (w.db.warehouses.find? warehouseId), w.read)
  | .saveWarehouse warehouseId name location, w =>
      ((w.db.saveWarehouse pg warehouseId name location w.now).1,
        w.after (w.db.saveWarehouse pg warehouseId name location w.now).2)
  | .listWarehouses limit offset, w => (.ok (w.db.listWarehouses pg limit offset), w.read)
  | .deleteWarehouse warehouseId, w => (.ok (), w.after (w.db.deleteWarehouse warehouseId))

/-- Await what the command worker awaits too. -/
def inService {α : Type} (p : Program α) : ServiceProgram α :=
  p.lift Statement.shared fun _ a => a

/-- The text of a location in its column: what `json.dumps` makes of it, and what
`Location(**json.loads(text))` makes of a text. -/
structure LocationText where
  dumps : Location → String
  loads : String → Except InventoryError Location

namespace WarehouseRepository

variable (text : LocationText)

/-- `_row_to_entity`. -/
def rowToEntity (row : WarehouseRow) : Except InventoryError Warehouse := do
  let location ← text.loads row.location
  return ⟨row.warehouseId, row.name, location⟩

/-- `save`. -/
def save (warehouse : Warehouse) : ServiceProgram Warehouse := do
  let row ← perform (Statement.saveWarehouse warehouse.warehouseId warehouse.name
    (text.dumps warehouse.location))
  Coroutine.ofExcept (rowToEntity text row)

/-- `get`. -/
def get (warehouseId : UUID) : ServiceProgram (Option Warehouse) := do
  let row ← perform (Statement.getWarehouse warehouseId)
  match row with
  | none => return none
  | some row =>
    let warehouse ← Coroutine.ofExcept (rowToEntity text row)
    return some warehouse

/-- `get_all`. -/
def getAll (limit offset : Nat) : ServiceProgram (List Warehouse) := do
  let rows ← perform (Statement.listWarehouses limit offset)
  Coroutine.ofExcept (rows.mapM (rowToEntity text))

/-- `delete`. -/
def delete (warehouseId : UUID) : ServiceProgram Unit :=
  perform (Statement.deleteWarehouse warehouseId)

end WarehouseRepository

end SupplyChainTracker.Warehouse
