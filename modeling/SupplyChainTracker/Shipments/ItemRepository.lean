import Mathlib.Data.List.Sort
import SupplyChainTracker.Shipments.Item

/-!
# Item repositories

Two answers to the calls of the item repository: a store that keeps what it is given,
and `AsyncPostgresItemRepository` over the `items` table. Away from its refusals and
its listings the second does what the first does.
-/

namespace SupplyChainTracker.Shipments

/-- The items of a store. -/
abbrev ItemStore : Type := Table UUID Item Item.itemId

/-- The answer of a store to a call. -/
def ItemStore.act : (op : ItemCall) → ItemStore → Except ShipmentError op.Ans × ItemStore
  | .save item, t => (.ok item, t.put item)
  | .get itemId, t => (.ok (t.find? itemId), t)
  | .getByShipment shipmentId, t => (.ok (t.rows.filter fun i => i.shipmentId = shipmentId), t)
  | .delete itemId, t =>
      if (t.find? itemId).isSome then (.ok (), t.removeWhere fun i => i.itemId = itemId)
      else (.error (itemNotFound itemId), t)
  | .getAll, t => (.ok t.rows, t)

namespace ShipmentDb

/-- The row that the upsert of an item leaves; the trigger renews `updated_at`. -/
def itemTarget (db : ShipmentDb) (item : Item) (now : DateTime) : ItemRow :=
  match db.items.find? item.itemId with
  | none => ⟨item.itemId, item.shipmentId, item.name, item.quantity.value, item.weight.value,
      now, now⟩
  | some old => { old with
      shipmentId := item.shipmentId
      name := item.name
      quantity := item.quantity.value
      weight := item.weight.value
      updatedAt := now }

@[simp] theorem itemId_itemTarget (db : ShipmentDb) (item : Item) (now : DateTime) :
    (db.itemTarget item now).itemId = item.itemId := by
  unfold itemTarget
  split
  · rfl
  · rename_i old h
    have hold : old.itemId = item.itemId := Table.key_of_find? h
    exact hold

@[simp] theorem shipmentId_itemTarget (db : ShipmentDb) (item : Item) (now : DateTime) :
    (db.itemTarget item now).shipmentId = item.shipmentId := by
  unfold itemTarget
  split <;> rfl

@[simp] theorem quantity_itemTarget (db : ShipmentDb) (item : Item) (now : DateTime) :
    (db.itemTarget item now).quantity = item.quantity.value := by
  unfold itemTarget
  split <;> rfl

/-- The database accepts the row of an item. -/
def Accepts (pg : Postgres) (item : Item) (now : DateTime) (db : ShipmentDb) : Prop :=
  pg.refusesItem (db.itemTarget item now) = none ∧ (db.shipments.find? item.shipmentId).isSome

/-- The statement of `save`. -/
def saveItem (pg : Postgres) (item : Item) (now : DateTime) (db : ShipmentDb) :
    Except ShipmentError ItemRow × ShipmentDb :=
  match pg.refusesItem (db.itemTarget item now) with
  | some violated => (.error (.database violated), db)
  | none =>
    if h : (db.shipments.find? item.shipmentId).isSome then
      (.ok (db.itemTarget item now), { db with
        items := db.items.put (db.itemTarget item now)
        shipmentOf := fun i hi => by
          rcases (db.items.mem_put _ i).mp hi with rfl | ⟨hi, _⟩
          · rwa [shipmentId_itemTarget]
          · exact db.shipmentOf i hi })
    else (.error (.database "items_shipment_id_fkey"), db)

/-- The statement of `delete`. -/
def deleteItem (itemId : UUID) (db : ShipmentDb) : ShipmentDb :=
  { db with
    items := db.items.removeWhere fun i => i.itemId = itemId
    shipmentOf := fun i hi => db.shipmentOf i (List.mem_of_mem_filter hi) }

/-- The rows of a listing, in the order of the names. -/
def listItems (pg : Postgres) (p : ItemRow → Bool) (db : ShipmentDb) : List ItemRow :=
  (db.items.rows.filter p).insertionSort fun i j => pg.collation i.name j.name

end ShipmentDb

namespace ItemRepository

/-- `_row_to_entity`. -/
def rowToEntity (row : ItemRow) : Except ShipmentError Item := do
  let quantity ← Quantity.ofInt row.quantity
  let weight ← Weight.ofRat row.weight
  return ⟨row.name, quantity, weight, row.itemId, row.shipmentId⟩

/-- The answer of `AsyncPostgresItemRepository` to a call. -/
def act (pg : Postgres) : (op : ItemCall) → World → Except ShipmentError op.Ans × World
  | .save item, w =>
      match w.db.saveItem pg item w.now with
      | (.ok row, db) => (rowToEntity row, w.after db)
      | (.error e, db) => (.error e, w.after db)
  | .get itemId, w =>
      (match w.db.items.find? itemId with
        | some row => (rowToEntity row).map some
        | none => .ok none, w.after w.db)
  | .getByShipment shipmentId, w =>
      ((w.db.listItems pg fun i => i.shipmentId = shipmentId).mapM rowToEntity, w.after w.db)
  | .delete itemId, w =>
      if (w.db.items.find? itemId).isSome then (.ok (), w.after (w.db.deleteItem itemId))
      else (.error (itemNotFound itemId), w.after w.db)
  | .getAll, w => ((w.db.listItems pg fun _ => true).mapM rowToEntity, w.after w.db)

/-- A row is read back as the item whose columns it holds. -/
theorem rowToEntity_eq_ok_iff {row : ItemRow} {item : Item} :
    rowToEntity row = .ok item ↔
      row.itemId = item.itemId ∧ row.shipmentId = item.shipmentId ∧ row.name = item.name ∧
      row.quantity = item.quantity.value ∧ row.weight = item.weight.value := by
  constructor
  · intro h
    obtain ⟨quantity, hq, h⟩ := bind_eq_ok_iff.mp h
    obtain ⟨weight, hw, h⟩ := bind_eq_ok_iff.mp h
    cases h
    exact ⟨rfl, rfl, rfl, Quantity.ofInt_eq_ok_iff.mp hq, Weight.ofRat_eq_ok_iff.mp hw⟩
  · rintro ⟨hid, hship, hname, hq, hw⟩
    simp [rowToEntity, hid, hship, hname, hq, hw, bind, Except.bind, pure, Except.pure]

/-- The row that the upsert of an item leaves is read back as that item. -/
@[simp] theorem rowToEntity_itemTarget (db : ShipmentDb) (item : Item) (now : DateTime) :
    rowToEntity (db.itemTarget item now) = .ok item := by
  refine rowToEntity_eq_ok_iff.mpr ⟨by simp, by simp, ?_, by simp, ?_⟩
  · unfold ShipmentDb.itemTarget
    split <;> rfl
  · unfold ShipmentDb.itemTarget
    split <;> rfl

/-- An accepted call of `save` stores the row of the item and returns the item. -/
theorem act_save_of_accepts {pg : Postgres} {item : Item} {w : World}
    (h : w.db.Accepts pg item w.now) :
    ∃ db, act pg (.save item) w = (.ok item, w.after db) ∧ db.shipments = w.db.shipments ∧
      db.items = w.db.items.put (w.db.itemTarget item w.now) := by
  simp only [act, ShipmentDb.saveItem, h.1, h.2, dif_pos, rowToEntity_itemTarget]
  exact ⟨_, rfl, rfl, rfl⟩

/-- Any other call of `save` is refused without effect. -/
theorem act_save_of_not_accepts {pg : Postgres} {item : Item} {w : World}
    (h : ¬ w.db.Accepts pg item w.now) :
    ∃ violated, act pg (.save item) w = (.error (.database violated), w.after w.db) := by
  simp only [act, ShipmentDb.saveItem]
  cases hrefuse : pg.refusesItem (w.db.itemTarget item w.now) with
  | some violated => exact ⟨violated, rfl⟩
  | none =>
    have hship : (w.db.shipments.find? item.shipmentId).isSome = false :=
      Bool.eq_false_iff.mpr fun hship => h ⟨hrefuse, hship⟩
    simp only [hship, Bool.false_eq_true, dif_neg, not_false_eq_true]
    exact ⟨_, rfl⟩

/-- The rows of a table are read back as the items of a store. -/
def Stores (w : World) (t : ItemStore) : Prop :=
  ∀ itemId, (w.db.items.find? itemId).map rowToEntity = (t.find? itemId).map .ok

/-- A call about one item that the database does not refuse. -/
def Served : (op : ItemCall) → Except ShipmentError op.Ans → Prop
  | .save _, r => ∀ violated, r ≠ .error (.database violated)
  | .get _, _ => True
  | .delete _, _ => True
  | _, _ => False

/-- The repository answers such a call as the store does. -/
theorem act_simulates (pg : Postgres) (op : ItemCall) (w : World) (t : ItemStore)
    (h : Stores w t) (hserved : Served op (act pg op w).1) :
    (ItemStore.act op t).1 = (act pg op w).1 ∧ Stores (act pg op w).2 (ItemStore.act op t).2 := by
  cases op with
  | save item =>
    by_cases haccepts : w.db.Accepts pg item w.now
    · obtain ⟨db, hact, _, hitems⟩ := act_save_of_accepts haccepts
      rw [hact]
      refine ⟨rfl, fun itemId => ?_⟩
      rw [World.db_after, hitems]
      by_cases hid : item.itemId = itemId
      · subst hid
        rw [ItemStore.act, Table.find?_put_self]
        conv_lhs => rw [← ShipmentDb.itemId_itemTarget w.db item w.now, Table.find?_put_self]
        simp
      · rw [ItemStore.act, Table.find?_put_of_ne _ _ hid, Table.find?_put_of_ne _ _ (by simpa)]
        exact h itemId
    · obtain ⟨violated, hact⟩ := act_save_of_not_accepts haccepts
      rw [hact] at hserved
      exact absurd rfl (hserved violated)
  | get itemId =>
    refine ⟨?_, h⟩
    have hitem := h itemId
    simp only [ItemStore.act, act]
    cases hrow : w.db.items.find? itemId with
    | none =>
      rw [hrow] at hitem
      cases ht : t.find? itemId with
      | none => rfl
      | some item =>
        rw [ht] at hitem
        cases hitem
    | some row =>
      rw [hrow] at hitem
      cases ht : t.find? itemId with
      | none =>
        rw [ht] at hitem
        cases hitem
      | some item =>
        rw [ht] at hitem
        have hentity : rowToEntity row = .ok item := Option.some.inj hitem
        simp only [hentity, Except.map]
  | delete itemId =>
    have hitem := congrArg Option.isSome (h itemId)
    simp only [Option.isSome_map] at hitem
    simp only [ItemStore.act, act, hitem]
    split_ifs
    · refine ⟨rfl, fun itemId' => ?_⟩
      rw [World.db_after, ShipmentDb.deleteItem, Table.find?_removeWhere_key,
        Table.find?_removeWhere_key]
      split_ifs
      · rfl
      · exact h itemId'
    · exact ⟨rfl, h⟩
  | getByShipment shipmentId => exact hserved.elim
  | getAll => exact hserved.elim

/-- A method that the database refuses nothing and that asks for no listing ends on the table as it
ends on the store. -/
theorem run_store (pg : Postgres) {α : Type} (p : ItemProgram α) {w : World} {t : ItemStore}
    (h : Stores w t)
    (hserved : ∀ c ∈ p.history (act pg) Coroutine.noFaults w, Served c.op c.answer) :
    (p.run ItemStore.act t).1 = (p.run (act pg) w).1 ∧
      Stores (p.run (act pg) w).2 (p.run ItemStore.act t).2 :=
  Coroutine.run_simulates (act pg) (act_simulates pg) p h hserved

end ItemRepository

end SupplyChainTracker.Shipments
