import SupplyChainTracker.Shipments.QuantityRace

/-!
# Amounts of either sign

`increase_quantity` and `decrease_quantity` take any integer and look at nothing but the quantity
that comes out. A negative amount turns each of them into the other.
-/

namespace SupplyChainTracker.Shipments

namespace Adjustment

/-- The `amount` of a call. -/
def amount : Adjustment → Int
  | increase amount => amount
  | decrease amount => amount

/-- An increase does not lower a quantity, and a decrease does not raise it. -/
def Directed (old new : Int) : Adjustment → Prop
  | increase _ => old ≤ new
  | decrease _ => new ≤ old

/-- What a call adds goes in its direction exactly when the amount is not negative. -/
theorem directed_add_delta_iff (a : Adjustment) (old : Int) :
    a.Directed old (old + a.delta) ↔ 0 ≤ a.amount := by
  cases a with
  | increase amount =>
    simp only [Directed, delta, Adjustment.amount]
    omega
  | decrease amount =>
    simp only [Directed, delta, Adjustment.amount]
    omega

/-- The adjusted item has the quantity with what the call adds, which stays positive. -/
theorem adjusted_eq_ok_iff (a : Adjustment) {item new : Item} :
    a.adjusted item = .ok new ↔ ∃ quantity : Quantity,
      item.quantity.value + a.delta = quantity.value ∧
        new = { item with quantity := quantity } := by
  cases a with
  | increase amount => exact Item.increased_eq_ok_iff
  | decrease amount => exact Item.decreased_eq_ok_iff.trans Item.increased_eq_ok_iff

end Adjustment

variable (pg : Postgres) (itemId : UUID) (a : Adjustment) (w : World)

/-- A call that returns leaves a quantity that has not gone the other way. -/
def KeepsDirection : Prop :=
  ∀ item w', (a.program itemId).run (ItemRepository.act pg) w = (.ok item, w') →
    ∀ old ∈ w.quantity? itemId, ∃ new ∈ w'.quantity? itemId, a.Directed old new

/-- There is an item that can be read, its quantity stays positive, and the database accepts it
with the new one. -/
def Adjustable : Prop :=
  ∃ (row : ItemRow) (item : Item) (quantity : Quantity),
    w.db.items.find? itemId = some row ∧ ItemRepository.rowToEntity row = .ok item ∧
    item.quantity.value + a.delta = quantity.value ∧
    w.db.Accepts pg { item with quantity := quantity } (w.after w.db).now

variable {pg itemId a w}

/-- A call that finds an item goes on with the adjusted one. -/
theorem run_of_found {row : ItemRow} {item : Item} (hfind : w.db.items.find? itemId = some row)
    (hitem : ItemRepository.rowToEntity row = .ok item) :
    (a.program itemId).run (ItemRepository.act pg) w =
      match a.adjusted item with
      | .error e => (.error e, w.after w.db)
      | .ok new => ItemRepository.act pg (.save new) (w.after w.db) := by
  have hget : ItemRepository.act pg (.get itemId) w = (.ok (some item), w.after w.db) := by
    simp only [ItemRepository.act, hfind, hitem, Except.map]
  have hrun := ItemService.run_modify (ItemRepository.act pg) itemId a.adjusted w
  rw [hget] at hrun
  rw [a.program_eq]
  exact hrun

/-- What a call does with an item that can be adjusted. -/
theorem run_of_adjustable {row : ItemRow} {item : Item} {quantity : Quantity}
    (hfind : w.db.items.find? itemId = some row)
    (hitem : ItemRepository.rowToEntity row = .ok item)
    (hquantity : item.quantity.value + a.delta = quantity.value)
    (haccepts : w.db.Accepts pg { item with quantity := quantity } (w.after w.db).now) :
    ∃ w', (a.program itemId).run (ItemRepository.act pg) w =
        (.ok { item with quantity := quantity }, w') ∧
      w.quantity? itemId = some item.quantity.value ∧
      w'.quantity? itemId = some (item.quantity.value + a.delta) := by
  obtain ⟨hid, _, _, hold, _⟩ := ItemRepository.rowToEntity_eq_ok_iff.mp hitem
  have hitemId : item.itemId = itemId := hid.symm.trans (Table.key_of_find? hfind)
  have hsaved := quantity?_save (w := w.after w.db) haccepts
  obtain ⟨db, hact, _, _⟩ :=
    ItemRepository.act_save_of_accepts (w := w.after w.db) haccepts
  rw [hact, hitemId] at hsaved
  refine ⟨(w.after w.db).after db, ?_, ?_, ?_⟩
  · rw [run_of_found hfind hitem, a.adjusted_eq_ok_iff.mpr ⟨quantity, hquantity, rfl⟩]
    exact hact
  · rw [World.quantity?, hfind, Option.map_some, hold]
  · rw [hsaved, hquantity]

/-- Only an item that can be adjusted is returned. -/
theorem adjustable_of_run {new : Item} {w' : World}
    (h : (a.program itemId).run (ItemRepository.act pg) w = (.ok new, w')) :
    Adjustable pg itemId a w := by
  cases hfind : w.db.items.find? itemId with
  | none =>
    rw [a.program_eq, ItemService.run_modify] at h
    simp only [ItemRepository.act, hfind] at h
    cases h
  | some row =>
    cases hitem : ItemRepository.rowToEntity row with
    | error e =>
      rw [a.program_eq, ItemService.run_modify] at h
      simp only [ItemRepository.act, hfind, hitem, Except.map] at h
      cases h
    | ok item =>
      rw [run_of_found hfind hitem] at h
      cases hadjusted : a.adjusted item with
      | error e =>
        rw [hadjusted] at h
        cases h
      | ok changed =>
        rw [hadjusted] at h
        obtain ⟨quantity, hquantity, hchanged⟩ := a.adjusted_eq_ok_iff.mp hadjusted
        refine ⟨row, item, quantity, hfind, hitem, hquantity, ?_⟩
        by_contra hrefused
        rw [← hchanged] at hrefused
        obtain ⟨violated, hact⟩ :=
          ItemRepository.act_save_of_not_accepts (w := w.after w.db) hrefused
        simp only [hact] at h
        cases h

/-- A call keeps its direction exactly when its amount is not negative, or when it cannot
return. -/
theorem keepsDirection_iff (pg : Postgres) (itemId : UUID) (a : Adjustment) (w : World) :
    KeepsDirection pg itemId a w ↔ 0 ≤ a.amount ∨ ¬ Adjustable pg itemId a w := by
  constructor
  · intro h
    by_cases hadjustable : Adjustable pg itemId a w
    · obtain ⟨row, item, quantity, hfind, hitem, hquantity, haccepts⟩ := hadjustable
      obtain ⟨w', hrun, hold, hnew⟩ := run_of_adjustable hfind hitem hquantity haccepts
      obtain ⟨new, hmem, hdirected⟩ := h _ w' hrun _ hold
      rw [hnew] at hmem
      cases hmem
      exact .inl ((a.directed_add_delta_iff _).mp hdirected)
    · exact .inr hadjustable
  · intro h new w' hrun old hold
    have hadjustable := adjustable_of_run hrun
    have hamount : 0 ≤ a.amount := h.resolve_right (not_not.mpr hadjustable)
    obtain ⟨row, item, quantity, hfind, hitem, hquantity, haccepts⟩ := hadjustable
    obtain ⟨w'', hrun', hold', hnew⟩ := run_of_adjustable hfind hitem hquantity haccepts
    rw [hrun'] at hrun
    cases hrun
    rw [hold'] at hold
    cases hold
    exact ⟨_, hnew, (a.directed_add_delta_iff _).mpr hamount⟩

/-- Of five crates an increase by -2 leaves three, and a decrease by -2 makes seven. -/
theorem negative_amounts_turn_around :
    ¬ KeepsDirection samplePostgres ⟨21⟩ (.increase (-2)) sampleWorld ∧
      ¬ KeepsDirection samplePostgres ⟨21⟩ (.decrease (-2)) sampleWorld := by
  constructor
  · intro h
    obtain ⟨new, hnew, hle⟩ := h ⟨"crate", ⟨3, by decide⟩, ⟨10, by decide⟩, ⟨21⟩, ⟨2⟩⟩ _ rfl 5 rfl
    have hthree : some (3 : Int) = some new := hnew
    cases hthree
    exact absurd (show (5 : Int) ≤ 3 from hle) (by decide)
  · intro h
    obtain ⟨new, hnew, hle⟩ := h ⟨"crate", ⟨7, by decide⟩, ⟨10, by decide⟩, ⟨21⟩, ⟨2⟩⟩ _ rfl 5 rfl
    have hseven : some (7 : Int) = some new := hnew
    cases hseven
    exact absurd (show (7 : Int) ≤ 5 from hle) (by decide)

end SupplyChainTracker.Shipments
