import SupplyChainTracker.Saga.Lifecycle

/-!
# A repeated `POST`

The upsert takes over every mutable column of the entity that the mapper builds
with its default status, so creating an existing saga resets it.
-/

namespace SupplyChainTracker.Saga

open SagaCompensationWorker

/-- The columns that a repeated `POST` ought to leave alone. -/
structure SameProgress (old new : SagaRow) : Prop where
  status : new.status = old.status
  failedStep : new.failedStep = old.failedStep
  errorMessage : new.errorMessage = old.errorMessage
  warehouseId : new.warehouseId = old.warehouseId
  deliveryId : new.deliveryId = old.deliveryId

/-- A `POST` of an existing saga makes it a started saga with the ids of the request. -/
theorem run_createSaga (dto : SagaCreateDTO) (startedAt updatedAt : DateTime) {w : World}
    {row : SagaRow} (hrow : w.row? dto.sagaId = some row) :
    ∃ new, (((SagaRouter.createSaga dto startedAt updatedAt).run (act .leftAside) w).2).row?
        dto.sagaId = some new ∧ new.status = SagaStatus.started.value ∧ new.failedStep = none ∧
      new.errorMessage = none ∧ new.warehouseId = dto.warehouseId ∧
      new.deliveryId = dto.deliveryId := by
  obtain ⟨new, w', hsave, _, hnew, _, hst, hstep, herror, _, hup⟩ :=
    act_save_edited hrow (t := SagaMapper.createDtoToEntity dto startedAt updatedAt) rfl
  refine ⟨new, ?_, hst, hstep, herror, hup.warehouseId, hup.deliveryId⟩
  change ((Coroutine.await (Call.save (SagaMapper.createDtoToEntity dto startedAt updatedAt))
    fun a => (Coroutine.ofExcept a).bind fun created =>
      .ret (SagaMapper.entityToDto created)).run (act .leftAside) w).2.row? dto.sagaId = some new
  rw [Coroutine.run_await, hsave]
  exact hnew

/-- A `POST` of an existing saga leaves its progress unchanged if and only if the saga is
started, has no recorded failure and has exactly the ids of the request. -/
theorem createSaga_existing_iff (dto : SagaCreateDTO) (startedAt updatedAt : DateTime) (w : World)
    (row : SagaRow) (hrow : w.row? dto.sagaId = some row) :
    (∃ new, (((SagaRouter.createSaga dto startedAt updatedAt).run (act .leftAside) w).2).row?
        dto.sagaId = some new ∧ SameProgress row new) ↔
      row.status = SagaStatus.started.value ∧ row.failedStep = none ∧ row.errorMessage = none ∧
        row.warehouseId = dto.warehouseId ∧ row.deliveryId = dto.deliveryId := by
  obtain ⟨new, hnew, hst, hstep, herror, hwh, hdl⟩ := run_createSaga dto startedAt updatedAt hrow
  constructor
  · rintro ⟨new', hnew', hsame⟩
    cases hnew.symm.trans hnew'
    exact ⟨hsame.status.symm.trans hst, hsame.failedStep.symm.trans hstep,
      hsame.errorMessage.symm.trans herror, hsame.warehouseId.symm.trans hwh,
      hsame.deliveryId.symm.trans hdl⟩
  · rintro ⟨hst', hstep', herror', hwh', hdl'⟩
    exact ⟨new, hnew, hst.trans hst'.symm, hstep.trans hstep'.symm, herror.trans herror'.symm,
      hwh.trans hwh'.symm, hdl.trans hdl'.symm⟩

/-- The request that created the sample saga. -/
def sampleCreate : SagaCreateDTO where
  sagaId := ⟨1⟩
  sagaType := "CREATE_SHIPMENT"
  shipmentId := ⟨2⟩
  warehouseId := some ⟨3⟩
  deliveryId := some ⟨4⟩

theorem createSaga_existing_iff_sample :
    (∃ new, (((SagaRouter.createSaga sampleCreate 5 5).run (act .leftAside)
        (World.initial sampleDb)).2).row? sampleCreate.sagaId = some new ∧
      SameProgress sampleSaga.toRow new) ↔
      sampleSaga.toRow.status = SagaStatus.started.value ∧ sampleSaga.toRow.failedStep = none ∧
        sampleSaga.toRow.errorMessage = none ∧
        sampleSaga.toRow.warehouseId = sampleCreate.warehouseId ∧
        sampleSaga.toRow.deliveryId = sampleCreate.deliveryId :=
  createSaga_existing_iff sampleCreate 5 5 (World.initial sampleDb) sampleSaga.toRow rfl

/-- The world after operations on fresh tables, one after the other. -/
def afterOperations (operations : List Operation) : World :=
  ((Operation.runAll operations).run (act .leftAside) (World.initial (.created fun n => n))).2

/-- A saga that was created and has failed is put back into `STARTED` by the same `POST`,
and a second delivery of the failure event then sends every command a second time. -/
theorem repeated_post_restarts :
    (afterOperations [.create sampleCreate 0 0,
      .failureEvent (sampleEvent "delivery.failed")]).status? ⟨1⟩ =
        some SagaStatus.failed.value ∧
    (afterOperations [.create sampleCreate 0 0, .failureEvent (sampleEvent "delivery.failed"),
      .create sampleCreate 5 5]).status? ⟨1⟩ = some SagaStatus.started.value ∧
    ((afterOperations [.create sampleCreate 0 0, .failureEvent (sampleEvent "delivery.failed"),
      .create sampleCreate 5 5, .failureEvent (sampleEvent "delivery.failed")]).commandsFor
        ⟨1⟩).map (fun p => p.1.commandType) =
      ["courier.unassign", "inventory.release", "shipment.cancel",
        "courier.unassign", "inventory.release", "shipment.cancel"] := by
  decide

end SupplyChainTracker.Saga
