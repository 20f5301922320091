import SupplyChainTracker.Saga.Service

/-!
# The saga HTTP handlers

The request bodies, `SagaMapper` and the handlers of the saga router as
coroutines over the service.
-/

namespace SupplyChainTracker.Saga

/-- `SagaCreateDTO`. -/
structure SagaCreateDTO where
  sagaId : UUID
  sagaType : String
  shipmentId : UUID
  warehouseId : Option UUID := none
  deliveryId : Option UUID := none

/-- `SagaDTO`. -/
structure SagaDTO where
  sagaId : UUID
  sagaType : String
  shipmentId : UUID
  status : SagaStatus
  startedAt : DateTime
  updatedAt : DateTime
  warehouseId : Option UUID
  deliveryId : Option UUID
  failedStep : Option String
  errorMessage : Option String

/-- `SagaUpdateDTO`. -/
structure SagaUpdateDTO where
  warehouseId : Option UUID := none
  deliveryId : Option UUID := none
  status : Option SagaStatus := none
  failedStep : Option String := none
  errorMessage : Option String := none

namespace SagaMapper

/-- `create_dto_to_entity`, with the two readings of the default factories. -/
def createDtoToEntity (dto : SagaCreateDTO) (startedAt updatedAt : DateTime) : SagaInstance where
  sagaId := dto.sagaId
  sagaType := dto.sagaType
  shipmentId := dto.shipmentId
  warehouseId := dto.warehouseId
  deliveryId := dto.deliveryId
  startedAt := startedAt
  updatedAt := updatedAt

/-- `update_entity_from_dto`. -/
def updateEntityFromDto (entity : SagaInstance) (dto : SagaUpdateDTO) (now : DateTime) :
    SagaInstance :=
  { entity with
    warehouseId := dto.warehouseId.or entity.warehouseId
    deliveryId := dto.deliveryId.or entity.deliveryId
    status := dto.status.getD entity.status
    failedStep := dto.failedStep.or entity.failedStep
    errorMessage := dto.errorMessage.or entity.errorMessage
    updatedAt := now }

/-- `entity_to_dto`. -/
def entityToDto (entity : SagaInstance) : SagaDTO where
  sagaId := entity.sagaId
  sagaType := entity.sagaType
  shipmentId := entity.shipmentId
  status := entity.status
  startedAt := entity.startedAt
  updatedAt := entity.updatedAt
  warehouseId := entity.warehouseId
  deliveryId := entity.deliveryId
  failedStep := entity.failedStep
  errorMessage := entity.errorMessage

end SagaMapper

namespace SagaRouter

/-- `create_saga`. -/
def createSaga (dto : SagaCreateDTO) (startedAt updatedAt : DateTime) : Program SagaDTO := do
  let created ← SagaService.create (SagaMapper.createDtoToEntity dto startedAt updatedAt)
  return SagaMapper.entityToDto created

/-- `get_saga`. -/
def getSaga (sagaId : UUID) : Program SagaDTO := do
  let saga ← SagaService.get sagaId
  match saga with
  | none => .raise (.httpException 404 ("Saga " ++ sagaId.str ++ " not found"))
  | some saga => return SagaMapper.entityToDto saga

/-- `get_saga_by_shipment`. -/
def getSagaByShipment (shipmentId : UUID) : Program SagaDTO := do
  let saga ← SagaService.getByShipment shipmentId
  match saga with
  | none => .raise (.httpException 404 ("Active saga for shipment " ++ shipmentId.str ++ " not found"))
  | some saga => return SagaMapper.entityToDto saga

/-- `list_active_sagas`. -/
def listActiveSagas : Program (List SagaDTO) := do
  let sagas ← SagaService.listActiveSagas
  return sagas.map SagaMapper.entityToDto

/-- `update_saga_context`: the ids of the edited copy are forwarded to `update_context`. -/
def updateSagaContext (sagaId : UUID) (dto : SagaUpdateDTO) (now : DateTime) :
    Program SagaDTO := do
  let saga ← SagaService.get sagaId
  match saga with
  | none => .raise (.httpException 404 ("Saga " ++ sagaId.str ++ " not found"))
  | some saga =>
    let updated := SagaMapper.updateEntityFromDto saga dto now
    let saved ← SagaService.updateContext saga.sagaId updated.warehouseId updated.deliveryId
    return SagaMapper.entityToDto saved

end SagaRouter

end SupplyChainTracker.Saga
