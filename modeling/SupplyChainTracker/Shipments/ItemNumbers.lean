import SupplyChainTracker.Core.Async.Lift
import SupplyChainTracker.Shipments.Effects
import SupplyChainTracker.Shipments.ItemSchema

/-!
# Items that the schema keeps

Whether the item that an operation builds is written as it is and read back: exactly when its
quantity fits an `INTEGER` and its weight is a positive number of hundredths with at most eight
digits before the point.
-/

namespace SupplyChainTracker.Shipments

/-- The value objects of an operation construct, and it builds an item of a shipment that is
stored. -/
def ItemOp.Builds (w : World) (new : Item) : ItemOp → Prop
  | create dto shipmentId itemId =>
      ItemMapper.createDtoToEntity dto shipmentId itemId = .ok new ∧
        (w.db.shipments.find? shipmentId).isSome
  | update itemId dto =>
      ∃ item, w.item? itemId = some item ∧ ItemMapper.updateEntityFromDto item dto = .ok new
  | increaseQuantity itemId amount =>
      ∃ item, w.item? itemId = some item ∧ item.increased amount = .ok new
  | decreaseQuantity itemId amount =>
      ∃ item, w.item? itemId = some item ∧ item.decreased amount = .ok new
  | updateWeight itemId newWeight =>
      ∃ item, w.item? itemId = some item ∧ item.reweighed newWeight = .ok new
  | delete _ => False

section Found

variable {w : World} {itemId : UUID} {item : Item}

theorem item?_eq_some_iff : w.item? itemId = some item ↔
    ∃ row, w.db.items.find? itemId = some row ∧ ItemRepository.rowToEntity row = .ok item := by
  simp only [World.item?, Option.bind_eq_some_iff, toOption_eq_some_iff]

/-- The shipment of an item is stored. -/
theorem shipment_of_item? (h : w.item? itemId = some item) :
    (w.db.shipments.find? item.shipmentId).isSome := by
  obtain ⟨row, hfind, hitem⟩ := item?_eq_some_iff.mp h
  rw [← (ItemRepository.rowToEntity_eq_ok_iff.mp hitem).2.1]
  exact w.db.shipmentOf row (Table.mem_of_find? hfind)

/-- An item that is there is what `get` returns. -/
theorem act_get_of_item? (pg : Postgres) (h : w.item? itemId = some item) :
    ItemSchema.act pg (.get itemId) w = (.ok (some item), w.after w.db) := by
  obtain ⟨row, hfind, hitem⟩ := item?_eq_some_iff.mp h
  simp only [ItemSchema.act, ItemRepository.act, hfind, hitem, Except.map]

end Found

/-- What a change builds is of the item's own shipment. -/
theorem reweighed_eq_ok {item new : Item} {newWeight : Rat}
    (h : item.reweighed newWeight = .ok new) :
    ∃ weight : Weight, newWeight = weight.value ∧ new = { item with weight := weight } := by
  obtain ⟨weight, hweight, h⟩ := bind_eq_ok_iff.mp h
  cases h
  exact ⟨weight, Weight.ofRat_eq_ok_iff.mp hweight, rfl⟩

/-- The shipment of what is built is stored. -/
theorem ItemOp.Builds.shipment {w : World} {op : ItemOp} {new : Item} (h : op.Builds w new) :
    (w.db.shipments.find? new.shipmentId).isSome := by
  cases op with
  | create dto shipmentId itemId =>
    obtain ⟨hnew, hship⟩ := h
    rwa [(createDtoToEntity_eq_ok hnew).2]
  | update itemId dto =>
    obtain ⟨item, hitem, hnew⟩ := h
    rw [(updateEntityFromDto_eq_ok hnew).2]
    exact shipment_of_item? hitem
  | increaseQuantity itemId amount =>
    obtain ⟨item, hitem, hnew⟩ := h
    have hship := shipment_of_item? hitem
    obtain ⟨quantity, _, rfl⟩ := Item.increased_eq_ok_iff.mp hnew
    exact hship
  | decreaseQuantity itemId amount =>
    obtain ⟨item, hitem, hnew⟩ := h
    have hship := shipment_of_item? hitem
    obtain ⟨quantity, _, rfl⟩ :=
      Item.increased_eq_ok_iff.mp (Item.decreased_eq_ok_iff.mp hnew)
    exact hship
  | updateWeight itemId newWeight =>
    obtain ⟨item, hitem, hnew⟩ := h
    have hship := shipment_of_item? hitem
    obtain ⟨weight, _, rfl⟩ := reweighed_eq_ok hnew
    exact hship
  | delete itemId => exact h.elim

section Written

variable (pg : Postgres)

/-- A change that an item allows saves the changed item, and ends as that ends. -/
theorem run_modify_of_item? {w : World} {itemId : UUID} {item new : Item}
    (hitem : w.item? itemId = some item) {change : Item → Except ShipmentError Item}
    (hnew : change item = .ok new) :
    ((ItemService.modify itemId change).bind fun _ => .ret ()).run (ItemSchema.act pg) w =
      ((ItemSchema.act pg (.save new) (w.after w.db)).1.map fun _ => (),
        (ItemSchema.act pg (.save new) (w.after w.db)).2) := by
  rw [Coroutine.run_bind, ItemService.run_modify, act_get_of_item? pg hitem]
  simp only [hnew]
  cases (ItemSchema.act pg (.save new) (w.after w.db)).1 <;> rfl

/-- An operation that builds an item saves it, and ends as that ends. -/
theorem ItemOp.Builds.run {w : World} {op : ItemOp} {new : Item} (h : op.Builds w new) :
    ∃ w₀, w₀.db = w.db ∧ op.program.run (ItemSchema.act pg) w =
      ((ItemSchema.act pg (.save new) w₀).1.map fun _ => (),
        (ItemSchema.act pg (.save new) w₀).2) := by
  cases op with
  | create dto shipmentId itemId =>
    refine ⟨w, rfl, ?_⟩
    simp only [ItemOp.program, h.1, Coroutine.bind_eq, Coroutine.pure_eq, Coroutine.ofExcept_ok,
      Coroutine.ret_bind, ItemService.create, Coroutine.run_bind, Coroutine.run_perform]
    cases (ItemSchema.act pg (.save new) w).1 <;> rfl
  | update itemId dto =>
    obtain ⟨item, hitem, hnew⟩ := h
    refine ⟨(w.after w.db).after w.db, rfl, ?_⟩
    have hagain : (w.after w.db).item? new.itemId = some item := by
      rw [(updateEntityFromDto_eq_ok hnew).1, itemId_of_item? hitem]
      exact hitem
    simp only [ItemOp.program, ItemService.get, ItemService.update, Coroutine.bind_eq,
      Coroutine.pure_eq, Coroutine.run_bind, Coroutine.run_perform, act_get_of_item? pg hitem, hnew,
      Coroutine.ofExcept_ok, Coroutine.run_ret, act_get_of_item? pg hagain, World.db_after]
    cases (ItemSchema.act pg (.save new) ((w.after w.db).after w.db)).1 <;> rfl
  | increaseQuantity itemId amount =>
    obtain ⟨item, hitem, hnew⟩ := h
    rw [ItemOp.program, ItemService.increaseQuantity_eq]
    exact ⟨w.after w.db, rfl, run_modify_of_item? pg hitem hnew⟩
  | decreaseQuantity itemId amount =>
    obtain ⟨item, hitem, hnew⟩ := h
    rw [ItemOp.program, ItemService.decreaseQuantity_eq]
    exact ⟨w.after w.db, rfl, run_modify_of_item? pg hitem hnew⟩
  | updateWeight itemId newWeight =>
    obtain ⟨item, hitem, hnew⟩ := h
    rw [ItemOp.program, ItemService.updateWeight_eq]
    exact ⟨w.after w.db, rfl, run_modify_of_item? pg hitem hnew⟩
  | delete itemId => exact h.elim

/-- A run has written the numbers of an item as they are, in a row that the table can hold, and
`get` returns them. -/
structure WrittenAs (new : Item) (result : Except ShipmentError Unit × World) : Prop where
  returned : result.1 = .ok ()
  row : ∃ row, result.2.db.items.find? new.itemId = some row ∧ row.Fits ∧
    row.quantity = new.quantity.value ∧ row.weight = new.weight.value
  readBack : ∃ got, ((ItemService.get new.itemId).run (ItemSchema.act pg) result.2).1 =
    .ok (some got) ∧ got.quantity = new.quantity ∧ got.weight = new.weight

variable {pg}

/-- What a save has written, where the shipment is stored. -/
theorem writtenAs_save_iff {new : Item} {w : World}
    (hship : (w.db.shipments.find? new.shipmentId).isSome) :
    WrittenAs pg new ((ItemSchema.act pg (.save new) w).1.map fun _ => (),
      (ItemSchema.act pg (.save new) w).2) ↔ new.Fits := by
  by_cases htakes : ItemSchema.Takes new w
  · obtain ⟨db, hact, _, hitems⟩ := ItemSchema.act_save pg htakes
    have hfind : db.items.find? new.itemId = some (ItemSchema.target new w) := by
      rw [hitems, ← ItemSchema.itemId_target new w, Table.find?_put_self]
    have hread : (w.after db).item? new.itemId =
        some { new with weight := new.weight.rounded } := by
      refine item?_eq_some_iff.mpr ⟨_, hfind, ?_⟩
      exact ItemRepository.rowToEntity_itemTarget w.db _ w.now
    rw [hact]
    constructor
    · rintro ⟨_, ⟨row, hrow, _, _, hweight⟩, _⟩
      obtain rfl := Option.some.inj (hfind.symm.trans hrow)
      rw [ItemSchema.weight_target] at hweight
      refine ⟨htakes.quantity, Decimal.round_eq_self_iff.mp hweight, ?_, ?_⟩
      · exact hweight ▸ htakes.positive
      · exact hweight ▸ htakes.weight
    · rintro ⟨hquantity, hexact, _, _⟩
      have hweight : new.weight.rounded = new.weight := Weight.rounded_eq_self_iff.mpr hexact
      refine ⟨rfl, ⟨_, hfind, htakes.fits, ItemSchema.quantity_target new w, ?_⟩, ?_⟩
      · rw [ItemSchema.weight_target, hweight]
      · refine ⟨{ new with weight := new.weight.rounded }, ?_, rfl, hweight⟩
        rw [ItemService.get, Coroutine.run_perform, act_get_of_item? pg hread]
  · obtain ⟨e, w', hact, _⟩ := ItemSchema.act_save_refused pg htakes
    rw [hact]
    refine iff_of_false (fun h => by cases h.returned) fun h => htakes ?_
    have hweight : new.weight.rounded = new.weight := Weight.rounded_eq_self_iff.mpr h.2.1
    exact ⟨h.1, hweight.symm ▸ h.2.2.2, hweight.symm ▸ h.2.2.1, hship⟩

end Written

/-- The numbers that an operation brings fit the columns, wherever the value objects construct. -/
def ItemOp.InRange (w : World) : ItemOp → Prop
  | create dto shipmentId _ =>
      1 ≤ dto.quantity → 0 ≤ dto.weight → (w.db.shipments.find? shipmentId).isSome →
        dto.quantity ≤ maxInt4 ∧ InCents dto.weight
  | update itemId dto =>
      (w.db.items.find? itemId).isSome → (∀ quantity ∈ dto.quantity, 1 ≤ quantity) →
        (∀ weight ∈ dto.weight, 0 ≤ weight) →
          (∀ quantity ∈ dto.quantity, quantity ≤ maxInt4) ∧ ∀ weight ∈ dto.weight, InCents weight
  | increaseQuantity itemId amount =>
      ∀ row, w.db.items.find? itemId = some row → 1 ≤ row.quantity + amount →
        row.quantity + amount ≤ maxInt4
  | decreaseQuantity itemId amount =>
      ∀ row, w.db.items.find? itemId = some row → 1 ≤ row.quantity - amount →
        row.quantity - amount ≤ maxInt4
  | updateWeight itemId newWeight =>
      (w.db.items.find? itemId).isSome → 0 ≤ newWeight → InCents newWeight
  | delete _ => True

section Range

variable {w : World}

/-- In a table whose rows fit, every row is read, with numbers that fit. -/
theorem exists_item_of_fits (hfits : w.db.ItemsFit) {itemId : UUID} {row : ItemRow}
    (hfind : w.db.items.find? itemId = some row) :
    ∃ item, w.item? itemId = some item ∧ item.Fits ∧ item.quantity.value = row.quantity := by
  obtain ⟨hpositive, hquantity, hweight⟩ := hfits row (Table.mem_of_find? hfind)
  let item : Item := ⟨row.name, ⟨row.quantity, hpositive⟩, ⟨row.weight, hweight.2.1.le⟩, row.itemId,
    row.shipmentId⟩
  have hread : ItemRepository.rowToEntity row = .ok item :=
    ItemRepository.rowToEntity_eq_ok_iff.mpr ⟨rfl, rfl, rfl, rfl, rfl⟩
  exact ⟨item, item?_eq_some_iff.mpr ⟨row, hfind, hread⟩, ⟨hquantity, hweight⟩, rfl⟩

/-- An item that is read has numbers that fit, and the quantity of its row. -/
theorem row_of_item? (hfits : w.db.ItemsFit) {itemId : UUID} {item : Item}
    (h : w.item? itemId = some item) :
    ∃ row, w.db.items.find? itemId = some row ∧ item.quantity.value = row.quantity ∧ item.Fits := by
  obtain ⟨row, hfind, _⟩ := item?_eq_some_iff.mp h
  obtain ⟨_, hagain, hitemFits, hquantity⟩ := exists_item_of_fits hfits hfind
  obtain rfl := Option.some.inj (h.symm.trans hagain)
  exact ⟨row, hfind, hquantity, hitemFits⟩

theorem createDtoToEntity_eq_ok_iff {dto : ItemCreateDTO} {shipmentId itemId : UUID} {new : Item} :
    ItemMapper.createDtoToEntity dto shipmentId itemId = .ok new ↔
      ∃ (quantity : Quantity) (weight : Weight), dto.quantity = quantity.value ∧
        dto.weight = weight.value ∧ new = ⟨dto.name, quantity, weight, itemId, shipmentId⟩ := by
  constructor
  · intro h
    obtain ⟨quantity, hquantity, h⟩ := bind_eq_ok_iff.mp h
    obtain ⟨weight, hweight, h⟩ := bind_eq_ok_iff.mp h
    cases h
    exact ⟨quantity, weight, Quantity.ofInt_eq_ok_iff.mp hquantity,
      Weight.ofRat_eq_ok_iff.mp hweight, rfl⟩
  · rintro ⟨quantity, weight, hquantity, hweight, rfl⟩
    exact bind_eq_ok_iff.mpr ⟨quantity, Quantity.ofInt_eq_ok_iff.mpr hquantity,
      bind_eq_ok_iff.mpr ⟨weight, Weight.ofRat_eq_ok_iff.mpr hweight, rfl⟩⟩

theorem updateEntityFromDto_eq_ok_iff {item new : Item} {dto : ItemUpdateDTO} :
    ItemMapper.updateEntityFromDto item dto = .ok new ↔
      ∃ (quantity : Option Quantity) (weight : Option Weight),
        dto.quantity = quantity.map Quantity.value ∧ dto.weight = weight.map Weight.value ∧
        new = { item with
          name := dto.name.getD item.name
          quantity := quantity.getD item.quantity
          weight := weight.getD item.weight } := by
  have hquantities : ∀ value quantity, Quantity.ofInt value = .ok quantity ↔
      value = quantity.value := fun _ _ => Quantity.ofInt_eq_ok_iff
  have hweights : ∀ value weight, Weight.ofRat value = .ok weight ↔ value = weight.value :=
    fun _ _ => Weight.ofRat_eq_ok_iff
  constructor
  · intro h
    obtain ⟨quantity, hquantity, h⟩ := bind_eq_ok_iff.mp h
    obtain ⟨weight, hweight, h⟩ := bind_eq_ok_iff.mp h
    cases h
    exact ⟨quantity, weight, (option_mapM_eq_ok_iff hquantities).mp hquantity,
      (option_mapM_eq_ok_iff hweights).mp hweight, rfl⟩
  · rintro ⟨quantity, weight, hquantity, hweight, rfl⟩
    exact bind_eq_ok_iff.mpr ⟨quantity, (option_mapM_eq_ok_iff hquantities).mpr hquantity,
      bind_eq_ok_iff.mpr ⟨weight, (option_mapM_eq_ok_iff hweights).mpr hweight, rfl⟩⟩

/-- A quantity that is read and increased fits exactly when the sum does. -/
theorem increased_fits_iff (hfits : w.db.ItemsFit) (itemId : UUID) (amount : Int) :
    (∀ row, w.db.items.find? itemId = some row → 1 ≤ row.quantity + amount →
      row.quantity + amount ≤ maxInt4) ↔
    ∀ new, (∃ item, w.item? itemId = some item ∧ item.increased amount = .ok new) → new.Fits := by
  constructor
  · rintro h new ⟨item, hitem, hnew⟩
    obtain ⟨quantity, hquantity, rfl⟩ := Item.increased_eq_ok_iff.mp hnew
    obtain ⟨row, hfind, hrow, hitemFits⟩ := row_of_item? hfits hitem
    have hrange := h row hfind
    rw [← hrow, hquantity] at hrange
    exact ⟨hrange quantity.positive, hitemFits.2⟩
  · intro h row hfind hpositive
    obtain ⟨item, hitem, _, hrow⟩ := exists_item_of_fits hfits hfind
    exact (h _ ⟨item, hitem, Item.increased_eq_ok_iff.mpr
      ⟨⟨row.quantity + amount, hpositive⟩, by rw [hrow], rfl⟩⟩).1

/-- The numbers of a creation are in range exactly when the item it builds fits. -/
theorem inRange_create_iff (dto : ItemCreateDTO) (shipmentId itemId : UUID) :
    (ItemOp.create dto shipmentId itemId).InRange w ↔
      ∀ new, (ItemOp.create dto shipmentId itemId).Builds w new → new.Fits := by
  constructor
  · rintro h new ⟨hnew, hship⟩
    obtain ⟨quantity, weight, hquantity, hweight, rfl⟩ := createDtoToEntity_eq_ok_iff.mp hnew
    have hrange := h (hquantity ▸ quantity.positive) (hweight ▸ weight.nonneg) hship
    rwa [hquantity, hweight] at hrange
  · intro h hquantity hweight hship
    exact h _ ⟨createDtoToEntity_eq_ok_iff.mpr
      ⟨⟨dto.quantity, hquantity⟩, ⟨dto.weight, hweight⟩, rfl, rfl, rfl⟩, hship⟩

/-- The numbers that an update gives are in range exactly when the updated item fits. -/
theorem inRange_update_iff (hfits : w.db.ItemsFit) (itemId : UUID) (dto : ItemUpdateDTO) :
    (ItemOp.update itemId dto).InRange w ↔
      ∀ new, (ItemOp.update itemId dto).Builds w new → new.Fits := by
  constructor
  · rintro h new ⟨item, hitem, hnew⟩
    obtain ⟨quantity, weight, hquantity, hweight, rfl⟩ := updateEntityFromDto_eq_ok_iff.mp hnew
    obtain ⟨row, hfind, _, hitemFits⟩ := row_of_item? hfits hitem
    obtain ⟨hquantities, hweights⟩ := h (Option.isSome_of_eq_some hfind)
      (by rw [hquantity]; simpa using fun q _ => q.positive)
      (by rw [hweight]; simpa using fun x _ => x.nonneg)
    refine ⟨?_, ?_⟩
    · cases quantity with
      | none => exact hitemFits.1
      | some quantity => exact hquantities _ hquantity
    · cases weight with
      | none => exact hitemFits.2
      | some weight => exact hweights _ hweight
  · intro h hfound hquantity hweight
    obtain ⟨row, hfind⟩ := Option.isSome_iff_exists.mp hfound
    obtain ⟨item, hitem, _, _⟩ := exists_item_of_fits hfits hfind
    have hfitsNew := h _ ⟨item, hitem, updateEntityFromDto_eq_ok_iff.mpr
      ⟨dto.quantity.pmap Quantity.mk hquantity, dto.weight.pmap Weight.mk hweight,
        by simp [Option.map_pmap], by simp [Option.map_pmap], rfl⟩⟩
    refine ⟨fun quantity hmem => ?_, fun weight hmem => ?_⟩
    · have hle := hfitsNew.1
      simpa [Option.mem_def.mp hmem] using hle
    · have hcents := hfitsNew.2
      simpa [Option.mem_def.mp hmem] using hcents

/-- A new weight is in range exactly when the reweighed item fits. -/
theorem inRange_updateWeight_iff (hfits : w.db.ItemsFit) (itemId : UUID) (newWeight : Rat) :
    (ItemOp.updateWeight itemId newWeight).InRange w ↔
      ∀ new, (ItemOp.updateWeight itemId newWeight).Builds w new → new.Fits := by
  constructor
  · rintro h new ⟨item, hitem, hnew⟩
    obtain ⟨weight, hweight, rfl⟩ := reweighed_eq_ok hnew
    obtain ⟨row, hfind, _, hitemFits⟩ := row_of_item? hfits hitem
    have hcents := h (Option.isSome_of_eq_some hfind) (hweight ▸ weight.nonneg)
    exact ⟨hitemFits.1, hweight ▸ hcents⟩
  · intro h hfound hnonneg
    obtain ⟨row, hfind⟩ := Option.isSome_iff_exists.mp hfound
    obtain ⟨item, hitem, _, _⟩ := exists_item_of_fits hfits hfind
    have hnew : item.reweighed newWeight = .ok { item with weight := ⟨newWeight, hnonneg⟩ } :=
      bind_eq_ok_iff.mpr ⟨_, Weight.ofRat_eq_ok_iff.mpr rfl, rfl⟩
    exact (h _ ⟨item, hitem, hnew⟩).2

/-- In a table whose rows fit, the numbers of an operation are in range exactly when what it
builds fits. -/
theorem inRange_iff (hfits : w.db.ItemsFit) (op : ItemOp) :
    op.InRange w ↔ ∀ new, op.Builds w new → new.Fits := by
  cases op with
  | create dto shipmentId itemId => exact inRange_create_iff dto shipmentId itemId
  | update itemId dto => exact inRange_update_iff hfits itemId dto
  | increaseQuantity itemId amount => exact increased_fits_iff hfits itemId amount
  | decreaseQuantity itemId amount =>
    simp only [ItemOp.InRange, ItemOp.Builds, sub_eq_add_neg, Item.decreased_eq_ok_iff]
    exact increased_fits_iff hfits itemId (-amount)
  | updateWeight itemId newWeight => exact inRange_updateWeight_iff hfits itemId newWeight
  | delete itemId => exact iff_of_true trivial fun _ h => h.elim

end Range

section Runs

variable (pg : Postgres)

/-- One operation over the table. -/
def itemStep (op : ItemOp) (w : World) : World := (op.program.run (ItemSchema.act pg) w).2

/-- What an operation builds is written as it is and read back. -/
def Keeps (w : World) (op : ItemOp) : Prop :=
  ∀ new, op.Builds w new → WrittenAs pg new (op.program.run (ItemSchema.act pg) w)

/-- An operation leaves rows that the table can hold. -/
theorem itemsFit_itemStep (w : World) (op : ItemOp) (h : w.db.ItemsFit) :
    (itemStep pg op w).db.ItemsFit :=
  (Coroutine.calls_of_forall (fun _ => trivial) op.program).run
    (R := fun w w' => w.db.ItemsFit → w'.db.ItemsFit) (fun _ => id)
    (fun _ _ _ hfirst hsecond h => hsecond (hfirst h))
    (fun op _ _ => ItemSchema.itemsFit_act pg op) w h

/-- An operation keeps what it builds exactly when its numbers are in range. -/
theorem keeps_iff_inRange (w : World) (op : ItemOp) (hfits : w.db.ItemsFit) :
    Keeps pg w op ↔ op.InRange w := by
  rw [inRange_iff hfits]
  refine forall_congr' fun new => forall_congr' fun hbuilds => ?_
  obtain ⟨w₀, hdb, hrun⟩ := hbuilds.run pg
  have hship := hbuilds.shipment
  rw [hrun]
  exact writtenAs_save_iff (hdb ▸ hship)

/-- Over a table whose rows fit, every operation of a run keeps what it builds exactly when the
numbers of every operation are in range. -/
theorem run_keeps_iff_inRange (w : World) (hfits : w.db.ItemsFit) (ops : List ItemOp) :
    EachStep (itemStep pg) (Keeps pg) ops w ↔
      EachStep (itemStep pg) (fun w op => op.InRange w) ops w :=
  eachStep_congr_of_inv (itemsFit_itemStep pg) (keeps_iff_inRange pg) ops hfits

end Runs

/-- The crates weigh ten kilograms. -/
theorem itemsFit_sampleWorld : sampleWorld.db.ItemsFit := by
  intro row hrow
  obtain rfl := List.mem_singleton.mp hrow
  exact ⟨by decide, by decide, ⟨1000, by norm_num⟩, by norm_num, by norm_num⟩

/-- Two more crates make seven. -/
theorem run_keeps_iff_inRange_sample :
    EachStep (itemStep samplePostgres) (Keeps samplePostgres) [.increaseQuantity ⟨21⟩ 2]
      sampleWorld := by
  refine (run_keeps_iff_inRange samplePostgres sampleWorld itemsFit_sampleWorld _).mpr
    ⟨fun row hrow _ => ?_, trivial⟩
  have hcrate : row = ⟨⟨21⟩, ⟨2⟩, "crate", 5, 10, 0, 0⟩ := (Option.some.inj hrow).symm
  rw [hcrate]
  decide

/-- An item without weight is refused, and half a cent is rounded. -/
theorem weights_out_of_range :
    ¬ EachStep (itemStep samplePostgres) (Keeps samplePostgres)
        [.create ⟨"feather", 1, 0⟩ ⟨2⟩ ⟨22⟩] sampleWorld ∧
      ¬ EachStep (itemStep samplePostgres) (Keeps samplePostgres)
        [.updateWeight ⟨21⟩ (1 / 200)] sampleWorld := by
  constructor
  · rintro ⟨h, _⟩
    have hrange := (keeps_iff_inRange samplePostgres _ _ itemsFit_sampleWorld).mp h
    have hcents := (hrange (by decide) (by decide) (by decide)).2
    exact absurd hcents.2.1 (by decide)
  · rintro ⟨h, _⟩
    have hrange := (keeps_iff_inRange samplePostgres _ _ itemsFit_sampleWorld).mp h
    obtain ⟨hexact, _⟩ := hrange (by decide) (by norm_num)
    have hrounded := Decimal.round_eq_self_iff.mpr hexact
    exact absurd hrounded (by decide +kernel)

end SupplyChainTracker.Shipments
