import SupplyChainTracker.Core.Run
import SupplyChainTracker.Shipments.ShipmentRepository

/-!
# Shipments that cannot be read back

A shipment that the database accepts is committed and only then decoded, and decoding
always raises. No stored shipment is ever returned, and the creation that stored it has
raised.
-/

namespace SupplyChainTracker.Shipments

section RoundTrip

variable (pg : Postgres) (textArgument : Place → Except ShipmentError String)

/-- One operation over the table. -/
def tableStep (op : StatusOp) (w : World) : World :=
  (op.program.run (ShipmentRepository.act pg textArgument) w).2

/-- `get` returns the shipment with the fields of its creation and of the operations on it. -/
def Returned (shipment : Shipment) (ops : List StatusOp) (w : World) : Prop :=
  ∃ got, ((ShipmentService.get shipment.shipmentId).run (ShipmentRepository.act pg textArgument)
      ((StatusOp.create shipment :: ops).foldl (fun w op => tableStep pg textArgument op w) w)).1 =
        .ok (some got) ∧
    let expected := ops.foldl (fun s op => op.change s) shipment
    got.origin = expected.origin ∧ got.destination = expected.destination ∧
      got.departureDate = expected.departureDate ∧ got.createdAt = expected.createdAt ∧
      got.status = expected.status ∧ got.arrivalDate = expected.arrivalDate

/-- An operation that raises leaves the row of its shipment as it was. -/
def Untouched (w : World) (op : StatusOp) : Prop :=
  ∀ e, (op.program.run (ShipmentRepository.act pg textArgument) w).1 = .error e →
    (tableStep pg textArgument op w).db.shipments.find? op.shipmentId =
      w.db.shipments.find? op.shipmentId

/-- What a stored shipment should have after its creation and any operations on it. -/
structure RoundTrip (shipment : Shipment) (ops : List StatusOp) (w : World) : Prop where
  returned : Returned pg textArgument shipment ops w
  untouched : EachStep (tableStep pg textArgument) (Untouched pg textArgument)
    (.create shipment :: ops) w

/-- The database takes the row of a shipment. -/
structure Accepted (shipment : Shipment) (w : World) (row : ShipmentRow) : Prop where
  encodes : ∃ origin destination, textArgument shipment.origin = .ok origin ∧
    textArgument shipment.destination = .ok destination ∧
    row = w.db.shipmentTarget shipment origin destination w.now
  passes : pg.refusesShipment row = none

variable {pg textArgument}

/-- No shipment is ever returned. -/
theorem not_returned {shipment : Shipment} {ops : List StatusOp} {w : World} :
    ¬ Returned pg textArgument shipment ops w := by
  rintro ⟨got, h, _⟩
  rw [ShipmentService.get, Coroutine.run_perform] at h
  simp only [ShipmentRepository.act] at h
  split at h
  · cases h
  · cases h

/-- The creation of an accepted shipment stores its row and raises. -/
theorem run_create_of_accepted {shipment : Shipment} {w : World} {row : ShipmentRow}
    (h : Accepted pg textArgument shipment w row) :
    (ShipmentService.create shipment).run (ShipmentRepository.act pg textArgument) w =
      (.error (.typeError (CallError.missing "Shipment.__init__" "departure_date")),
        w.after (w.db.putShipment row)) := by
  obtain ⟨⟨origin, destination, horigin, hdestination, rfl⟩, hpasses⟩ := h
  simp only [ShipmentService.create, Coroutine.run_perform, ShipmentRepository.act, horigin,
    hdestination, ShipmentDb.saveShipment, hpasses, ShipmentRepository.rowToEntity]

/-- The row of an accepted shipment carries its id. -/
theorem Accepted.shipmentId {shipment : Shipment} {w : World} {row : ShipmentRow}
    (h : Accepted pg textArgument shipment w row) : row.shipmentId = shipment.shipmentId := by
  obtain ⟨⟨origin, destination, _, _, rfl⟩, _⟩ := h
  exact ShipmentDb.shipmentId_shipmentTarget ..

/-- No accepted shipment makes the round trip, whatever follows its creation. The creation has
raised with the row stored, and has changed the stored row unless it was there before. -/
theorem round_trip_fails {shipment : Shipment} {w : World} {row : ShipmentRow}
    (h : Accepted pg textArgument shipment w row) (ops : List StatusOp) :
    ¬ RoundTrip pg textArgument shipment ops w ∧
    ((ShipmentService.create shipment).run (ShipmentRepository.act pg textArgument) w).1 =
      .error (.typeError (CallError.missing "Shipment.__init__" "departure_date")) ∧
    (tableStep pg textArgument (.create shipment) w).db.shipments.find? shipment.shipmentId =
      some row ∧
    (w.db.shipments.find? shipment.shipmentId ≠ some row →
      ¬ Untouched pg textArgument w (.create shipment)) := by
  have hcreate := run_create_of_accepted h
  have hstored : (tableStep pg textArgument (.create shipment) w).db.shipments.find?
      shipment.shipmentId = some row := by
    rw [tableStep, show (StatusOp.create shipment).program.run
      (ShipmentRepository.act pg textArgument) w = _ from hcreate]
    conv_lhs => rw [← h.shipmentId]
    exact Table.find?_put_self ..
  refine ⟨fun hround => not_returned hround.returned, congrArg Prod.fst hcreate, hstored,
    fun hnew huntouched => hnew ?_⟩
  exact (huntouched _ (congrArg Prod.fst hcreate)).symm.trans hstored

end RoundTrip

/-- A codec that takes the city of a place. -/
def sampleTextArgument (place : Place) : Except ShipmentError String := .ok place.city

/-- The sample shipment does not make the round trip, and its creation leaves its row. -/
theorem round_trip_fails_sample :
    ¬ RoundTrip samplePostgres sampleTextArgument sampleShipment [] sampleWorld ∧
    (tableStep samplePostgres sampleTextArgument (.create sampleShipment) sampleWorld).db.shipments.find?
      ⟨3⟩ = some ⟨⟨3⟩, "Riga", "Oslo", "created", 0, 0⟩ :=
  have haccepted : Accepted samplePostgres sampleTextArgument sampleShipment sampleWorld
      ⟨⟨3⟩, "Riga", "Oslo", "created", 0, 0⟩ := ⟨⟨_, _, rfl, rfl, rfl⟩, rfl⟩
  have h := round_trip_fails haccepted []
  ⟨h.1, h.2.2.1⟩

/-- The sample shipment is delivered after its creation: both operations raise, the row of the
creation stays, and `get` raises too. -/
theorem delivered_unreadable :
    ¬ RoundTrip samplePostgres sampleTextArgument sampleShipment [.markAsDelivered ⟨3⟩ 20003 1]
      sampleWorld ∧
    ((ShipmentService.create sampleShipment).run
      (ShipmentRepository.act samplePostgres sampleTextArgument) sampleWorld).1 = .error (.typeError
        "Shipment.__init__() missing 1 required positional argument: 'departure_date'") :=
  ⟨fun h => not_returned h.returned, by decide⟩

end SupplyChainTracker.Shipments
