import SupplyChainTracker.Core.Except
import SupplyChainTracker.Warehouse.Repository

/-!
# Services, DTOs and mappers of the warehouse service

`WarehouseService`, the `InventoryService` over the statements of both repositories, and
what stands between them and the handlers.
-/

namespace SupplyChainTracker.Warehouse

/-- The `WarehouseNotFoundError` of an id without a warehouse. -/
def warehouseNotFound (warehouseId : UUID) : InventoryError :=
  .warehouseNotFound ("Warehouse " ++ warehouseId.str ++ " not found")

namespace WarehouseService

variable (text : LocationText)

/-- `create`. -/
def create (warehouse : Warehouse) : ServiceProgram Warehouse :=
  WarehouseRepository.save text warehouse

/-- `get`. -/
def get (warehouseId : UUID) : ServiceProgram (Option Warehouse) :=
  WarehouseRepository.get text warehouseId

/-- `get_all`. -/
def getAll (limit offset : Nat) : ServiceProgram (List Warehouse) :=
  WarehouseRepository.getAll text limit offset

/-- `update`. -/
def update (warehouse : Warehouse) : ServiceProgram Warehouse := do
  let existing ← WarehouseRepository.get text warehouse.warehouseId
  match existing with
  | none => .raise (warehouseNotFound warehouse.warehouseId)
  | some _ => WarehouseRepository.save text warehouse

/-- `delete`. -/
def delete (warehouseId : UUID) : ServiceProgram Unit := do
  let existing ← WarehouseRepository.get text warehouseId
  match existing with
  | none => .raise (warehouseNotFound warehouseId)
  | some _ => WarehouseRepository.delete warehouseId

end WarehouseService

/-- `WarehouseCreateDTO`. -/
structure WarehouseCreateDTO where
  name : String
  country : String
  city : String
  address : String := ""

/-- `WarehouseUpdateDTO`. -/
structure WarehouseUpdateDTO where
  name : Option String := none
  country : Option String := none
  city : Option String := none
  address : Option String := none

/-- `WarehouseDTO`. -/
structure WarehouseDTO where
  warehouseId : UUID
  name : String
  country : String
  city : String
  address : String
  deriving DecidableEq, Repr

namespace WarehouseMapper

/-- `create_dto_to_entity`, with the id that `uuid4` draws. -/
def createDtoToEntity (dto : WarehouseCreateDTO) (warehouseId : UUID) :
    Except InventoryError Warehouse := do
  let location ← (Location.of dto.country dto.city dto.address).mapError .valueError
  return ⟨warehouseId, dto.name, location⟩

/-- `update_entity_from_dto`; a part of the location that is not given stays as it is. -/
def updateEntityFromDto (entity : Warehouse) (dto : WarehouseUpdateDTO) :
    Except InventoryError Warehouse :=
  let entity := { entity with name := dto.name.getD entity.name }
  if dto.country.isSome ∨ dto.city.isSome ∨ dto.address.isSome then do
    let location ← (Location.of (dto.country.getD entity.location.country)
      (dto.city.getD entity.location.city)
      (dto.address.getD entity.location.address)).mapError .valueError
    return entity.updateLocation location
  else return entity

/-- `entity_to_dto`. -/
def entityToDto (entity : Warehouse) : WarehouseDTO where
  warehouseId := entity.warehouseId
  name := entity.name
  country := entity.location.country
  city := entity.location.city
  address := entity.location.address

/-- An update of a warehouse keeps its id. -/
theorem updateEntityFromDto_eq_ok {entity new : Warehouse} {dto : WarehouseUpdateDTO}
    (h : updateEntityFromDto entity dto = .ok new) : new.warehouseId = entity.warehouseId := by
  unfold updateEntityFromDto at h
  dsimp only at h
  split_ifs at h
  · obtain ⟨location, _, h⟩ := bind_eq_ok_iff.mp h
    cases h
    rfl
  · cases h
    rfl

end WarehouseMapper

/-- `InventoryRecordCreateDTO`. -/
structure InventoryRecordCreateDTO where
  shipmentId : UUID
  warehouseId : Option UUID := none
  status : Option InventoryStatus := some .received

/-- `InventoryRecordUpdateDTO`. -/
structure InventoryRecordUpdateDTO where
  status : Option InventoryStatus := none

/-- `InventoryRecordDTO`. -/
structure InventoryRecordDTO where
  recordId : UUID
  shipmentId : UUID
  warehouseId : UUID
  status : InventoryStatus
  receivedAt : DateTime
  updatedAt : DateTime
  deriving DecidableEq, Repr

namespace InventoryRecordMapper

/-- `create_dto_to_entity` once the handler has set the warehouse, with the id and the two clock
readings of the entity. -/
def createDtoToEntity (dto : InventoryRecordCreateDTO) (warehouse : dto.warehouseId.isSome)
    (recordId : UUID) (now : Clock) : InventoryRecord where
  recordId := recordId
  shipmentId := dto.shipmentId
  warehouseId := dto.warehouseId.get warehouse
  status := dto.status.getD .received
  receivedAt := now 0
  updatedAt := now 1

/-- `entity_to_dto`. -/
def entityToDto (entity : InventoryRecord) : InventoryRecordDTO where
  recordId := entity.recordId
  shipmentId := entity.shipmentId
  warehouseId := entity.warehouseId
  status := entity.status
  receivedAt := entity.receivedAt
  updatedAt := entity.updatedAt

end InventoryRecordMapper

end SupplyChainTracker.Warehouse
