import SupplyChainTracker.Core.Table
import SupplyChainTracker.Libs.Messaging

/-!
# The tables of the shipment service

Shipments and their items. Deleting a shipment cascades to its items.
-/

namespace SupplyChainTracker.Shipments

/-- The exceptions that can reach a caller of the shipment service. -/
inductive ShipmentError : Type
  | notFound (message : String)
  | itemNotFound (message : String)
  | quantityError (message : String)
  | weightError (message : String)
  | timestampError (message : String)
  | valueError (message : String)
  | typeError (message : String)
  | attributeError (message : String)
  | httpException (statusCode : Nat) (detail : String)
  /-- A statement that PostgreSQL refuses, by the violated constraint. -/
  | database (violated : String)
  /-- Any other exception of the driver. -/
  | external (message : String)
  deriving DecidableEq, Repr

/-- A row of `shipments`. -/
structure ShipmentRow where
  shipmentId : UUID
  origin : String
  destination : String
  status : String
  createdAt : DateTime
  updatedAt : DateTime
  deriving DecidableEq, Repr

/-- A row of `items`. -/
structure ItemRow where
  itemId : UUID
  shipmentId : UUID
  name : String
  quantity : Int
  weight : Rat
  createdAt : DateTime
  updatedAt : DateTime
  deriving DecidableEq, Repr

/-- The tables of the shipment service. -/
structure ShipmentDb where
  shipments : Table UUID ShipmentRow ShipmentRow.shipmentId
  items : Table UUID ItemRow ItemRow.itemId
  /-- The foreign key of an item to its shipment. -/
  shipmentOf : ∀ i ∈ items.rows, (shipments.find? i.shipmentId).isSome

namespace ShipmentDb

/-- The statement of `delete`, which cascades to the items. -/
def delete (shipmentId : UUID) (db : ShipmentDb) : ShipmentDb where
  shipments := db.shipments.removeWhere fun s => s.shipmentId = shipmentId
  items := db.items.removeWhere fun i => i.shipmentId = shipmentId
  shipmentOf := fun i hi => by
    obtain ⟨hmem, hne⟩ := List.mem_filter.mp hi
    have hne : i.shipmentId ≠ shipmentId := by simpa using hne
    rw [Table.find?_removeWhere_key, if_neg hne]
    exact db.shipmentOf i hmem

/-- Deleting a shipment that is not stored changes nothing. -/
theorem delete_of_find?_none {db : ShipmentDb} {shipmentId : UUID}
    (h : db.shipments.find? shipmentId = none) : db.delete shipmentId = db := by
  have hshipments := (db.shipments.removeWhere_key_eq_self_iff shipmentId).mpr h
  have hitems : db.items.removeWhere (fun i => i.shipmentId = shipmentId) = db.items := by
    refine Table.ext (List.filter_eq_self.mpr fun i hi => ?_)
    have hne : i.shipmentId ≠ shipmentId := by
      rintro rfl
      simpa [h] using db.shipmentOf i hi
    simpa using hne
  cases db
  simp only [delete, hshipments, hitems]

end ShipmentDb

/-- What PostgreSQL adds to the statements: the constraints, each by the row it refuses, and
the order of texts. -/
structure Postgres where
  refusesShipment : ShipmentRow → Option String
  refusesItem : ItemRow → Option String
  collation : String → String → Bool

/-- The tables with the clock of the database. -/
structure World where
  db : ShipmentDb
  /-- `NOW()` of one statement after the other. -/
  clock : Clock
  /-- How many statements have been executed. -/
  statements : Nat

namespace World

/-- `NOW()` of the next statement. -/
def now (w : World) : DateTime := w.clock w.statements

/-- The world after a statement that has left the tables `db`. -/
def after (w : World) (db : ShipmentDb) : World :=
  { w with
    db := db
    statements := w.statements + 1 }

@[simp] theorem db_after (w : World) (db : ShipmentDb) : (w.after db).db = db := rfl

end World

/-- A database that refuses nothing but a broken foreign key. -/
def samplePostgres : Postgres where
  refusesShipment _ := none
  refusesItem _ := none
  collation a b := decide (a ≤ b)

/-- A shipment with five crates. -/
def sampleWorld : World where
  db := {
    shipments := Table.empty.put ⟨⟨2⟩, "Riga", "Oslo", "created", 0, 0⟩
    items := Table.empty.put ⟨⟨21⟩, ⟨2⟩, "crate", 5, 10, 0, 0⟩
    shipmentOf := by decide }
  clock n := n
  statements := 0

end SupplyChainTracker.Shipments
