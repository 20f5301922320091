import SupplyChainTracker.Shipments.ShipmentRepository

/-!
# Updates of a shipment that always raise

`update_entity_from_dto` stamps the shipment with `datetime.utcnow()`, which is naive, and a
`Timestamp` takes nothing but UTC. Every other stamp of a shipment is a
`datetime.now(timezone.utc)`.
-/

namespace SupplyChainTracker.Shipments

/-- A shipment with the fields that a request brings, a new time of its update and the rest as
before. -/
structure UpdatedBy (dto : ShipmentUpdateDTO) (now : DateTime) (old new : Shipment) : Prop where
  origin : new.origin = (dto.origin.map Place.dto).getD old.origin
  destination : new.destination = (dto.destination.map Place.dto).getD old.destination
  departureDate : new.departureDate = dto.departureDate.getD old.departureDate
  arrivalDate : new.arrivalDate = dto.arrivalDate.or old.arrivalDate
  status : new.status.value = dto.status.getD old.status.value
  updatedAt : new.updatedAt = ⟨now⟩
  shipmentId : new.shipmentId = old.shipmentId
  createdAt : new.createdAt = old.createdAt

/-- What an update raises: a status that is none is refused before the time is. -/
theorem updateEntityFromDto_eq_error (entity : Shipment) (dto : ShipmentUpdateDTO)
    (now : DateTime) :
    ShipmentMapper.updateEntityFromDto entity dto now = .error
      (match dto.status.filter fun text => (ShipmentStatus.ofValue? text).isNone with
        | some text => .valueError ("'" ++ text ++ "' is not a valid ShipmentStatus")
        | none => .timestampError "Timestamp must be UTC.") := by
  unfold ShipmentMapper.updateEntityFromDto
  cases dto.status with
  | none => rfl
  | some text =>
    cases hstatus : ShipmentStatus.ofValue? text with
    | none => simp [Option.filter, hstatus, bind, Except.bind]
    | some status =>
      simp [Option.filter, hstatus, bind, Except.bind, pure, Except.pure, Timestamp.of,
        Except.mapError]

/-- No update succeeds. -/
theorem no_update_succeeds (entity : Shipment) (dto : ShipmentUpdateDTO) (now : DateTime) :
    ¬ ∃ updated, ShipmentMapper.updateEntityFromDto entity dto now = .ok updated ∧
      UpdatedBy dto now entity updated := by
  rintro ⟨updated, hupdated, _⟩
  rw [updateEntityFromDto_eq_error] at hupdated
  cases hupdated

/-- An update of the sample shipment to a status that there is. -/
theorem status_update_raises :
    ShipmentStatus.ofValue? "received" = some .received ∧
    ShipmentMapper.updateEntityFromDto sampleShipment { status := some "received" } 1 =
      .error (.timestampError "Timestamp must be UTC.") ∧
    ¬ ∃ updated, ShipmentMapper.updateEntityFromDto sampleShipment { status := some "received" } 1 =
        .ok updated ∧
      UpdatedBy { status := some "received" } 1 sampleShipment updated := by
  refine ⟨by decide, by rfl, ?_⟩
  rintro ⟨updated, hupdated, _⟩
  rw [updateEntityFromDto_eq_error] at hupdated
  cases hupdated

end SupplyChainTracker.Shipments
