import Mathlib.Algebra.Order.Ring.Rat
import SupplyChainTracker.Core.Async.Coroutine
import SupplyChainTracker.Core.Except
import SupplyChainTracker.Shipments.Tables

/-!
# Items

The items of a shipment, their value objects, the calls of their repository and the
service and the mapper over it. The repository hands out copies: an entity that a
method has changed reaches the store by a call of `save` only.
-/

namespace SupplyChainTracker.Shipments

open Coroutine (perform)

/-- `Quantity`. -/
structure Quantity where
  value : Int
  /-- What `__post_init__` checks. -/
  positive : 1 ≤ value
  deriving DecidableEq, Repr

/-- The constructor of `Quantity`. -/
def Quantity.ofInt (value : Int) : Except ShipmentError Quantity :=
  if h : value < 1 then
    .error (.quantityError ("Quantity must be at least 1, got " ++ toString value))
  else .ok ⟨value, not_lt.mp h⟩

/-- `Weight`. -/
structure Weight where
  value : Rat
  /-- What `__post_init__` checks. -/
  nonneg : 0 ≤ value
  deriving DecidableEq, Repr

/-- The constructor of `Weight`. -/
def Weight.ofRat (value : Rat) : Except ShipmentError Weight :=
  if h : value < 0 then .error (.weightError "Weight cannot be negative.")
  else .ok ⟨value, not_lt.mp h⟩

theorem Quantity.ofInt_eq_ok_iff {value : Int} {q : Quantity} :
    Quantity.ofInt value = .ok q ↔ value = q.value := by
  unfold ofInt
  split_ifs with h
  · have hq := q.positive
    exact iff_of_false (fun hok => by cases hok) (by omega)
  · constructor
    · intro hok
      cases hok
      rfl
    · rintro rfl
      rfl

theorem Weight.ofRat_eq_ok_iff {value : Rat} {weight : Weight} :
    Weight.ofRat value = .ok weight ↔ value = weight.value := by
  unfold ofRat
  split_ifs with h
  · refine iff_of_false (fun hok => by cases hok) ?_
    rintro rfl
    exact absurd h (not_lt.mpr weight.nonneg)
  · constructor
    · intro hok
      cases hok
      rfl
    · rintro rfl
      rfl

/-- A value object accepts its own value. -/
@[simp] theorem Quantity.ofInt_value (q : Quantity) : Quantity.ofInt q.value = .ok q :=
  ofInt_eq_ok_iff.mpr rfl

@[simp] theorem Weight.ofRat_value (weight : Weight) : Weight.ofRat weight.value = .ok weight :=
  ofRat_eq_ok_iff.mpr rfl

/-- `Item`. -/
structure Item where
  name : String
  quantity : Quantity
  weight : Weight
  itemId : UUID
  shipmentId : UUID
  deriving DecidableEq, Repr

/-- A call of `ItemRepositoryPort`. -/
inductive ItemCall : Type
  | save (item : Item)
  | get (itemId : UUID)
  | getByShipment (shipmentId : UUID)
  | delete (itemId : UUID)
  | getAll

/-- What a call returns. -/
abbrev ItemCall.Ans : ItemCall → Type
  | save _ => Item
  | get _ => Option Item
  | getByShipment _ => List Item
  | delete _ => Unit
  | getAll => List Item

/-- A coroutine over an item repository. -/
abbrev ItemProgram : Type → Type := Coroutine ItemCall ItemCall.Ans ShipmentError

/-- The `ItemNotFoundError` of an id without an item. -/
def itemNotFound (itemId : UUID) : ShipmentError :=
  .itemNotFound ("Item " ++ itemId.str ++ " not found")

namespace ItemService

/-- `create`. -/
def create (item : Item) : ItemProgram Item := perform (ItemCall.save item)

/-- `get`. -/
def get (itemId : UUID) : ItemProgram (Option Item) := perform (ItemCall.get itemId)

/-- `update`. -/
def update (item : Item) : ItemProgram Item := do
  let existing ← perform (ItemCall.get item.itemId)
  match existing with
  | none => .raise (itemNotFound item.itemId)
  | some _ => perform (ItemCall.save item)

/-- `delete`. -/
def delete (itemId : UUID) : ItemProgram Unit := perform (ItemCall.delete itemId)

/-- `get_all`. -/
def getAll : ItemProgram (List Item) := perform ItemCall.getAll

/-- `get_by_shipment`. -/
def getByShipment (shipmentId : UUID) : ItemProgram (List Item) :=
  perform (ItemCall.getByShipment shipmentId)

/-- `increase_quantity`. -/
def increaseQuantity (itemId : UUID) (amount : Int) : ItemProgram Item := do
  let item ← perform (ItemCall.get itemId)
  match item with
  | none => .raise (itemNotFound itemId)
  | some item =>
    let newQuantity ← Coroutine.ofExcept (Quantity.ofInt (item.quantity.value + amount))
    perform (ItemCall.save { item with quantity := newQuantity })

/-- `decrease_quantity`. -/
def decreaseQuantity (itemId : UUID) (amount : Int) : ItemProgram Item := do
  let item ← perform (ItemCall.get itemId)
  match item with
  | none => .raise (itemNotFound itemId)
  | some item =>
    let newValue := item.quantity.value - amount
    if newValue < 0 then
      .raise (.valueError ("Cannot decrease quantity: result would be negative (current: " ++
        toString item.quantity.value ++ ", decrease by: " ++ toString amount ++ ")"))
    else
      let newQuantity ← Coroutine.ofExcept (Quantity.ofInt newValue)
      perform (ItemCall.save { item with quantity := newQuantity })

/-- `update_weight`. -/
def updateWeight (itemId : UUID) (newWeight : Rat) : ItemProgram Item := do
  let item ← perform (ItemCall.get itemId)
  match item with
  | none => .raise (itemNotFound itemId)
  | some item =>
    let weight ← Coroutine.ofExcept (Weight.ofRat newWeight)
    perform (ItemCall.save { item with weight := weight })

/-- `calculate_total_weight`. -/
def calculateTotalWeight (shipmentId : UUID) : ItemProgram Rat := do
  let items ← getByShipment shipmentId
  return (items.map fun item => item.weight.value * (item.quantity.value : Rat)).sum

/-- `get_items_count`. -/
def getItemsCount (shipmentId : UUID) : ItemProgram Nat := do
  let items ← getByShipment shipmentId
  return items.length

end ItemService

/-- The item with an increased quantity. -/
def Item.increased (amount : Int) (item : Item) : Except ShipmentError Item := do
  let newQuantity ← Quantity.ofInt (item.quantity.value + amount)
  return { item with quantity := newQuantity }

/-- The item with a decreased quantity. -/
def Item.decreased (amount : Int) (item : Item) : Except ShipmentError Item :=
  if item.quantity.value - amount < 0 then
    .error (.valueError ("Cannot decrease quantity: result would be negative (current: " ++
      toString item.quantity.value ++ ", decrease by: " ++ toString amount ++ ")"))
  else do
    let newQuantity ← Quantity.ofInt (item.quantity.value - amount)
    return { item with quantity := newQuantity }

/-- The item with another weight. -/
def Item.reweighed (newWeight : Rat) (item : Item) : Except ShipmentError Item := do
  let weight ← Weight.ofRat newWeight
  return { item with weight := weight }

theorem Item.increased_eq_ok_iff {amount : Int} {item new : Item} :
    item.increased amount = .ok new ↔ ∃ quantity : Quantity,
      item.quantity.value + amount = quantity.value ∧ new = { item with quantity := quantity } := by
  refine bind_eq_ok_iff.trans (exists_congr fun quantity => ?_)
  refine and_congr Quantity.ofInt_eq_ok_iff ⟨fun h => ?_, fun h => h ▸ rfl⟩
  cases h
  rfl

/-- A decrease is an increase by the negative amount, up to the text of its exception. -/
theorem Item.decreased_eq_ok_iff {amount : Int} {item new : Item} :
    item.decreased amount = .ok new ↔ item.increased (-amount) = .ok new := by
  have hincreased : item.increased (-amount) = (do
      let newQuantity ← Quantity.ofInt (item.quantity.value - amount)
      return { item with quantity := newQuantity }) := rfl
  unfold decreased
  split_ifs with h
  · have hlow : item.quantity.value - amount < 1 := by omega
    refine iff_of_false (fun h => by cases h) fun h => ?_
    rw [hincreased, Quantity.ofInt, dif_pos hlow] at h
    cases h
  · rw [hincreased]

namespace ItemService

/-- Load an item, change the copy and save it. -/
def modify (itemId : UUID) (change : Item → Except ShipmentError Item) : ItemProgram Item := do
  let item ← perform (ItemCall.get itemId)
  match item with
  | none => .raise (itemNotFound itemId)
  | some item =>
    let new ← Coroutine.ofExcept (change item)
    perform (ItemCall.save new)

/-- What loads an item and goes on with it is `modify` when it changes the item and saves it. -/
theorem load_eq_modify (itemId : UUID) {k : Item → ItemProgram Item}
    {change : Item → Except ShipmentError Item}
    (hk : ∀ item, k item = (Coroutine.ofExcept (change item)).bind fun new =>
      perform (ItemCall.save new)) :
    (perform (ItemCall.get itemId)).bind (fun
      | none => .raise (itemNotFound itemId)
      | some item => k item) = modify itemId change := by
  obtain rfl := funext hk
  rfl

/-- What `modify` does over any repository: the answer to `get` decides whether anything is saved. -/
theorem run_modify {W : Type} (act : (op : ItemCall) → W → Except ShipmentError op.Ans × W)
    (itemId : UUID) (change : Item → Except ShipmentError Item) (w : W) :
    (modify itemId change).run act w =
      match act (.get itemId) w with
      | (.error e, w') => (.error e, w')
      | (.ok none, w') => (.error (itemNotFound itemId), w')
      | (.ok (some item), w') =>
          match change item with
          | .error e => (.error e, w')
          | .ok new => act (.save new) w' := by
  simp only [modify, Coroutine.bind_eq, Coroutine.run_bind, Coroutine.run_perform]
  rcases act (.get itemId) w with ⟨e | item?, w'⟩
  · rfl
  · cases item? with
    | none => rfl
    | some item =>
      simp only [Coroutine.run_bind, Coroutine.run_ofExcept]
      cases change item with
      | error e => rfl
      | ok new => exact Coroutine.run_perform act (.save new) w'

theorem increaseQuantity_eq (itemId : UUID) (amount : Int) :
    increaseQuantity itemId amount = modify itemId (Item.increased amount) := by
  refine load_eq_modify itemId fun item => ?_
  simp only [Item.increased]
  cases Quantity.ofInt (item.quantity.value + amount) <;> rfl

theorem decreaseQuantity_eq (itemId : UUID) (amount : Int) :
    decreaseQuantity itemId amount = modify itemId (Item.decreased amount) := by
  refine load_eq_modify itemId fun item => ?_
  simp only [Item.decreased]
  split_ifs
  · rfl
  · cases Quantity.ofInt (item.quantity.value - amount) <;> rfl

theorem updateWeight_eq (itemId : UUID) (newWeight : Rat) :
    updateWeight itemId newWeight = modify itemId (Item.reweighed newWeight) := by
  refine load_eq_modify itemId fun item => ?_
  simp only [Item.reweighed]
  cases Weight.ofRat newWeight <;> rfl

end ItemService

/-- `ItemCreateDTO`. -/
structure ItemCreateDTO where
  name : String
  quantity : Int
  weight : Rat

/-- `ItemUpdateDTO`. -/
structure ItemUpdateDTO where
  name : Option String := none
  quantity : Option Int := none
  weight : Option Rat := none

/-- `ItemDTO`. -/
structure ItemDTO where
  itemId : UUID
  shipmentId : UUID
  name : String
  quantity : Int
  weight : Rat
  deriving DecidableEq, Repr

namespace ItemMapper

/-- `create_dto_to_entity`, with the id that `uuid4` draws. -/
def createDtoToEntity (dto : ItemCreateDTO) (shipmentId itemId : UUID) :
    Except ShipmentError Item := do
  let quantity ← Quantity.ofInt dto.quantity
  let weight ← Weight.ofRat dto.weight
  return ⟨dto.name, quantity, weight, itemId, shipmentId⟩

/-- `update_entity_from_dto`; a refused value leaves the copy half changed and unused. -/
def updateEntityFromDto (entity : Item) (dto : ItemUpdateDTO) : Except ShipmentError Item := do
  let quantity ← dto.quantity.mapM Quantity.ofInt
  let weight ← dto.weight.mapM Weight.ofRat
  return { entity with
    name := dto.name.getD entity.name
    quantity := quantity.getD entity.quantity
    weight := weight.getD entity.weight }

/-- `entity_to_dto`. -/
def entityToDto (entity : Item) : ItemDTO where
  itemId := entity.itemId
  shipmentId := entity.shipmentId
  name := entity.name
  quantity := entity.quantity.value
  weight := entity.weight.value

end ItemMapper

end SupplyChainTracker.Shipments
