import Mathlib.Data.List.Sort
import SupplyChainTracker.Python.Call
import SupplyChainTracker.Shipments.Shipment

/-!
# Shipment repositories

Two answers to the calls of the shipment repository: a store that keeps what it is
given, and `PostgresShipmentRepository` over the `shipments` table. The second stores
rows that it cannot read back: `_row_to_entity` leaves out the departure date.
-/

namespace SupplyChainTracker.Shipments

/-- The shipments of a store. -/
abbrev ShipmentStore : Type := Table UUID Shipment Shipment.shipmentId

/-- The answer of a store to a call. -/
def ShipmentStore.act :
    (op : ShipmentCall) → ShipmentStore → Except ShipmentError op.Ans × ShipmentStore
  | .save shipment, t => (.ok shipment, t.put shipment)
  | .get shipmentId, t => (.ok (t.find? shipmentId), t)
  | .getAll limit offset, t => (.ok ((t.rows.drop offset).take limit), t)

namespace ShipmentDb

/-- The row that the upsert of a shipment leaves. -/
def shipmentTarget (db : ShipmentDb) (shipment : Shipment) (origin destination : String)
    (now : DateTime) : ShipmentRow :=
  match db.shipments.find? shipment.shipmentId with
  | none => ⟨shipment.shipmentId, origin, destination, shipment.status.value, now, now⟩
  | some old => { old with
      origin := origin
      destination := destination
      status := shipment.status.value
      updatedAt := now }

@[simp] theorem shipmentId_shipmentTarget (db : ShipmentDb) (shipment : Shipment)
    (origin destination : String) (now : DateTime) :
    (db.shipmentTarget shipment origin destination now).shipmentId = shipment.shipmentId := by
  unfold shipmentTarget
  split
  · rfl
  · rename_i old h
    have hold : old.shipmentId = shipment.shipmentId := Table.key_of_find? h
    exact hold

/-- Store a row of `shipments`. -/
def putShipment (row : ShipmentRow) (db : ShipmentDb) : ShipmentDb :=
  { db with
    shipments := db.shipments.put row
    shipmentOf := fun i hi => Table.isSome_find?_put (db.shipmentOf i hi) }

/-- The statement of `save`, after its arguments have been encoded. -/
def saveShipment (pg : Postgres) (shipment : Shipment) (origin destination : String)
    (now : DateTime) (db : ShipmentDb) : Except ShipmentError ShipmentRow × ShipmentDb :=
  match pg.refusesShipment (db.shipmentTarget shipment origin destination now) with
  | some violated => (.error (.database violated), db)
  | none =>
      (.ok (db.shipmentTarget shipment origin destination now),
        db.putShipment (db.shipmentTarget shipment origin destination now))

/-- The statement of `get_all`. -/
def listShipments (limit offset : Nat) (db : ShipmentDb) : List ShipmentRow :=
  ((db.shipments.rows.insertionSort fun r s => s.createdAt ≤ r.createdAt).drop offset).take limit

end ShipmentDb

namespace ShipmentRepository

/-- `_row_to_entity` passes on the id, the places and the status only. -/
def rowToEntity (_ : ShipmentRow) : Except ShipmentError Shipment :=
  .error (.typeError (CallError.missing "Shipment.__init__" "departure_date"))

/-- The answer of `PostgresShipmentRepository` to a call; `textArgument` is how asyncpg encodes an
argument for a `TEXT` column. -/
def act (pg : Postgres) (textArgument : Place → Except ShipmentError String) :
    (op : ShipmentCall) → World → Except ShipmentError op.Ans × World
  | .save shipment, w =>
      match textArgument shipment.origin, textArgument shipment.destination with
      | .error e, _ => (.error e, w)
      | .ok _, .error e => (.error e, w)
      | .ok origin, .ok destination =>
          match w.db.saveShipment pg shipment origin destination w.now with
          | (.ok row, db) => (rowToEntity row, w.after db)
          | (.error e, db) => (.error e, w.after db)
  | .get shipmentId, w =>
      (match w.db.shipments.find? shipmentId with
        | some row => (rowToEntity row).map some
        | none => .ok none, w.after w.db)
  | .getAll limit offset, w => ((w.db.listShipments limit offset).mapM rowToEntity, w.after w.db)

end ShipmentRepository

/-- A new shipment from Riga to Oslo. -/
def sampleShipment : Shipment where
  origin := .dto ⟨"Latvia", "Riga", ""⟩
  destination := .dto ⟨"Norway", "Oslo", ""⟩
  departureDate := 20000
  shipmentId := ⟨3⟩
  createdAt := ⟨0⟩
  updatedAt := ⟨0⟩

end SupplyChainTracker.Shipments
