import SupplyChainTracker.Core.Decimal
import SupplyChainTracker.Core.Run
import SupplyChainTracker.Shipments.ItemRun

/-!
# The columns of `items`

A quantity is an `INTEGER` and a weight a `DECIMAL(10, 2)`, and both are checked to be positive.
The value objects bound neither the quantity nor the digits of a weight, and they take a weight of
nothing. The repository keeps an item as it is exactly where its numbers fit the columns.
-/

namespace SupplyChainTracker.Shipments

/-- The greatest `INTEGER`. -/
def maxInt4 : Int := 2147483647

/-- A weight as its column holds it. -/
def Weight.rounded (weight : Weight) : Weight :=
  ⟨Decimal.round 2 weight.value, Decimal.round_nonneg weight.nonneg⟩

/-- Exactly the weights in hundredths stay as they are. -/
theorem Weight.rounded_eq_self_iff {weight : Weight} :
    weight.rounded = weight ↔ Decimal.Exact 2 weight.value := by
  rw [← Decimal.round_eq_self_iff]
  cases weight
  simp only [rounded, mk.injEq]

/-- The item as the two columns hold it: asyncpg refuses an integer that is too long, and
PostgreSQL a decimal with more than eight digits before the point. -/
def Item.columns (item : Item) : Except ShipmentError Item :=
  if item.quantity.value < -maxInt4 - 1 ∨ maxInt4 < item.quantity.value then
    .error (.external "value out of int32 range")
  else if 10 ^ 8 ≤ item.weight.rounded.value then .error (.database "numeric field overflow")
  else .ok { item with weight := item.weight.rounded }

/-- The `CHECK`s of the table. -/
def checkItem (row : ItemRow) : Option String :=
  if 0 < row.quantity then
    if 0 < row.weight then none else some "items_weight_check"
  else some "items_quantity_check"

/-- The weight is a positive number of hundredths that the column has room for. -/
def InCents (weight : Rat) : Prop := Decimal.Exact 2 weight ∧ 0 < weight ∧ weight < 10 ^ 8

/-- The table can hold the row. -/
def ItemRow.Fits (row : ItemRow) : Prop :=
  0 < row.quantity ∧ row.quantity ≤ maxInt4 ∧ InCents row.weight

/-- Every row is one that the table can hold. -/
def ShipmentDb.ItemsFit (db : ShipmentDb) : Prop := ∀ row ∈ db.items.rows, row.Fits

namespace ItemSchema

/-- PostgreSQL with the `CHECK`s of the table. -/
def checked (pg : Postgres) : Postgres := { pg with refusesItem := checkItem }

/-- The answer of `AsyncPostgresItemRepository` over the columns of the table. -/
def act (pg : Postgres) : (op : ItemCall) → World → Except ShipmentError op.Ans × World
  | .save item, w =>
      match item.columns with
      | .error e => (.error e, w)
      | .ok stored => ItemRepository.act (checked pg) (.save stored) w
  | .get itemId, w => ItemRepository.act (checked pg) (.get itemId) w
  | .getByShipment shipmentId, w => ItemRepository.act (checked pg) (.getByShipment shipmentId) w
  | .delete itemId, w => ItemRepository.act (checked pg) (.delete itemId) w
  | .getAll, w => ItemRepository.act (checked pg) .getAll w

end ItemSchema

/-- The numbers of an item fit their columns as they are. -/
def Item.Fits (item : Item) : Prop :=
  item.quantity.value ≤ maxInt4 ∧ InCents item.weight.value

/-- Columns that have been rounded are within the bounds of the table, if they pass its checks. -/
theorem Item.columns_eq_ok_iff {item stored : Item} :
    item.columns = .ok stored ↔ item.quantity.value ≤ maxInt4 ∧
      item.weight.rounded.value < 10 ^ 8 ∧
      stored = { item with weight := item.weight.rounded } := by
  have hpositive := item.quantity.positive
  unfold columns
  split_ifs with hquantity hweight
  · refine iff_of_false (fun h => by cases h) fun h => ?_
    simp only [maxInt4] at hquantity h
    omega
  · exact iff_of_false (fun h => by cases h) fun h => absurd hweight (not_le.mpr h.2.1)
  · have hle : item.quantity.value ≤ maxInt4 := not_lt.mp fun h => hquantity (.inr h)
    constructor
    · intro h
      cases h
      exact ⟨hle, not_le.mp hweight, rfl⟩
    · rintro ⟨_, _, rfl⟩
      rfl

theorem checkItem_eq_none_iff {row : ItemRow} :
    checkItem row = none ↔ 0 < row.quantity ∧ 0 < row.weight := by
  unfold checkItem
  split_ifs with hquantity hweight
  · exact iff_of_true rfl ⟨hquantity, hweight⟩
  · exact iff_of_false (fun h => by cases h) fun h => hweight h.2
  · exact iff_of_false (fun h => by cases h) fun h => hquantity h.1

namespace ItemSchema

/-- The table takes the item with its weight rounded. -/
structure Takes (item : Item) (w : World) : Prop where
  quantity : item.quantity.value ≤ maxInt4
  weight : item.weight.rounded.value < 10 ^ 8
  positive : 0 < item.weight.rounded.value
  shipment : (w.db.shipments.find? item.shipmentId).isSome

/-- The row of the rounded columns. -/
def target (item : Item) (w : World) : ItemRow :=
  w.db.itemTarget { item with weight := item.weight.rounded } w.now

section Target

variable (item : Item) (w : World)

theorem itemId_target : (target item w).itemId = item.itemId := by
  rw [target, ShipmentDb.itemId_itemTarget]

theorem quantity_target : (target item w).quantity = item.quantity.value := by
  rw [target, ShipmentDb.quantity_itemTarget]

theorem weight_target : (target item w).weight = item.weight.rounded.value := by
  unfold target ShipmentDb.itemTarget
  split <;> rfl

end Target

variable {item : Item} {w : World}

/-- What the table takes it can hold. -/
theorem Takes.fits (h : Takes item w) : (target item w).Fits := by
  refine ⟨?_, ?_, ?_⟩
  · rw [quantity_target]
    exact item.quantity.positive
  · rw [quantity_target]
    exact h.quantity
  · rw [weight_target]
    exact ⟨Decimal.exact_round 2 _, h.positive, h.weight⟩

/-- Behind columns in bounds the checks and the foreign key decide. -/
theorem takes_iff (hquantity : item.quantity.value ≤ maxInt4)
    (hweight : item.weight.rounded.value < 10 ^ 8) (pg : Postgres) :
    Takes item w ↔
      w.db.Accepts (checked pg) { item with weight := item.weight.rounded } w.now := by
  constructor
  · intro h
    exact ⟨checkItem_eq_none_iff.mpr ⟨h.fits.1, h.fits.2.2.2.1⟩, h.shipment⟩
  · rintro ⟨hchecks, hship⟩
    exact ⟨hquantity, hweight, weight_target item w ▸ (checkItem_eq_none_iff.mp hchecks).2, hship⟩

variable (pg : Postgres)

/-- An item that the table takes is stored and returned with its weight rounded. -/
theorem act_save (h : Takes item w) :
    ∃ db, act pg (.save item) w =
        (.ok { item with weight := item.weight.rounded }, w.after db) ∧
      db.shipments = w.db.shipments ∧ db.items = w.db.items.put (target item w) := by
  have hcolumns := Item.columns_eq_ok_iff.mpr ⟨h.quantity, h.weight, rfl⟩
  simp only [act, hcolumns]
  exact ItemRepository.act_save_of_accepts ((takes_iff h.quantity h.weight pg).mp h)

/-- Any other item is refused. -/
theorem act_save_refused (h : ¬ Takes item w) :
    ∃ e w', act pg (.save item) w = (.error e, w') ∧ w'.db = w.db := by
  cases hcolumns : item.columns with
  | error e => exact ⟨e, w, by simp only [act, hcolumns], rfl⟩
  | ok stored =>
    obtain ⟨hquantity, hweight, rfl⟩ := Item.columns_eq_ok_iff.mp hcolumns
    rw [takes_iff hquantity hweight pg] at h
    obtain ⟨violated, hact⟩ := ItemRepository.act_save_of_not_accepts h
    refine ⟨.database violated, w.after w.db, ?_, rfl⟩
    simp only [act, hcolumns]
    exact hact

/-- Every call leaves rows that the table can hold. -/
theorem itemsFit_act (op : ItemCall) {w : World} (h : w.db.ItemsFit) :
    (act pg op w).2.db.ItemsFit := by
  cases op with
  | save item =>
    by_cases htakes : Takes item w
    · obtain ⟨db, hact, _, hitems⟩ := act_save pg htakes
      rw [hact]
      intro row hrow
      rw [World.db_after, hitems, Table.mem_put] at hrow
      rcases hrow with rfl | ⟨hrow, _⟩
      · exact htakes.fits
      · exact h row hrow
    · obtain ⟨e, w', hact, hdb⟩ := act_save_refused pg htakes
      rw [hact, hdb]
      exact h
  | get itemId => exact h
  | getByShipment shipmentId => exact h
  | delete itemId =>
    simp only [act, ItemRepository.act]
    split_ifs
    · exact fun row hrow => h row (List.mem_of_mem_filter hrow)
    · exact h
  | getAll => exact h

end ItemSchema

end SupplyChainTracker.Shipments
