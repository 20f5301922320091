import Mathlib.Logic.Function.Basic
import SupplyChainTracker.Shipments.ItemRepository

/-!
# Runs of item operations

Creations, updates, changes of quantity and weight and deletions, one after the other,
over a store that keeps what it is given. Each of them raises without effect, stores one
item or deletes one, and an item stays with the shipment it was created with.
-/

namespace SupplyChainTracker.Shipments

/-- An operation on items, with the mapper in front of the service. -/
inductive ItemOp : Type
  /-- `create_dto_to_entity`, then `create`. -/
  | create (dto : ItemCreateDTO) (shipmentId itemId : UUID)
  /-- `get`, then `update_entity_from_dto`, then `update`. -/
  | update (itemId : UUID) (dto : ItemUpdateDTO)
  | increaseQuantity (itemId : UUID) (amount : Int)
  | decreaseQuantity (itemId : UUID) (amount : Int)
  | updateWeight (itemId : UUID) (newWeight : Rat)
  | delete (itemId : UUID)

/-- The coroutine of an operation. -/
def ItemOp.program : ItemOp → ItemProgram Unit
  | create dto shipmentId itemId => do
      let entity ← Coroutine.ofExcept (ItemMapper.createDtoToEntity dto shipmentId itemId)
      let _ ← ItemService.create entity
      return ()
  | update itemId dto => do
      let item ← ItemService.get itemId
      match item with
      | none => .raise (itemNotFound itemId)
      | some item =>
        let updated ← Coroutine.ofExcept (ItemMapper.updateEntityFromDto item dto)
        let _ ← ItemService.update updated
        return ()
  | increaseQuantity itemId amount => do
      let _ ← ItemService.increaseQuantity itemId amount
      return ()
  | decreaseQuantity itemId amount => do
      let _ ← ItemService.decreaseQuantity itemId amount
      return ()
  | updateWeight itemId newWeight => do
      let _ ← ItemService.updateWeight itemId newWeight
      return ()
  | delete itemId => ItemService.delete itemId

section Effects

variable (t : ItemStore)

/-- Loading, changing and saving an item stores the changed item under its own id. -/
theorem run_modify (itemId : UUID) (change : Item → Except ShipmentError Item) :
    (ItemService.modify itemId change).run ItemStore.act t =
      match t.find? itemId with
      | none => (.error (itemNotFound itemId), t)
      | some item =>
          match change item with
          | .error e => (.error e, t)
          | .ok new => (.ok new, t.put new) := by
  simp only [ItemService.run_modify, ItemStore.act]
  cases t.find? itemId with
  | none => rfl
  | some item =>
    cases change item with
    | error e => rfl
    | ok new => rfl

/-- An operation raises without effect, stores an item (a new one of its own shipment, or one that
takes the place of an item of the same shipment) or deletes one. -/
inductive Outcome : ItemOp → Except ShipmentError Unit × ItemStore → Prop
  | raised (op : ItemOp) (e : ShipmentError) : Outcome op (.error e, t)
  | created (dto : ItemCreateDTO) (item : Item) :
      Outcome (.create dto item.shipmentId item.itemId) (.ok (), t.put item)
  | changed (op : ItemOp) {old item : Item} (hop : ∀ dto s i, op ≠ .create dto s i)
      (hold : t.find? item.itemId = some old) (hship : item.shipmentId = old.shipmentId) :
      Outcome op (.ok (), t.put item)
  | deleted (itemId : UUID) :
      Outcome (.delete itemId) (.ok (), t.removeWhere fun i => i.itemId = itemId)

variable {t}

/-- A change of an item that keeps its id and its shipment has one of these outcomes. -/
theorem outcome_modify {op : ItemOp} (itemId : UUID) (change : Item → Except ShipmentError Item)
    (hop : ∀ dto s i, op ≠ .create dto s i)
    (hrun : op.program.run ItemStore.act t =
      ((ItemService.modify itemId change).bind fun _ => .ret ()).run ItemStore.act t)
    (hchange : ∀ item new, change item = .ok new →
      new.itemId = item.itemId ∧ new.shipmentId = item.shipmentId) :
    Outcome t op (op.program.run ItemStore.act t) := by
  rw [hrun, Coroutine.run_bind, run_modify]
  cases hfind : t.find? itemId with
  | none => exact .raised op _
  | some item =>
    cases hnew : change item with
    | error e => simpa only [hnew] using .raised op e
    | ok new =>
      obtain ⟨hid, hship⟩ := hchange item new hnew
      have hold : t.find? new.itemId = some item := by
        rw [hid, Table.key_of_find? hfind, hfind]
      simpa only [hnew, Coroutine.run_ret] using .changed op hop hold hship

theorem createDtoToEntity_eq_ok {dto : ItemCreateDTO} {shipmentId itemId : UUID} {item : Item}
    (h : ItemMapper.createDtoToEntity dto shipmentId itemId = .ok item) :
    item.itemId = itemId ∧ item.shipmentId = shipmentId := by
  obtain ⟨quantity, _, h⟩ := bind_eq_ok_iff.mp h
  obtain ⟨weight, _, h⟩ := bind_eq_ok_iff.mp h
  cases h
  exact ⟨rfl, rfl⟩

/-- The fields of the DTO that are left out keep the id and the shipment of the item. -/
theorem updateEntityFromDto_eq_ok {item new : Item} {dto : ItemUpdateDTO}
    (h : ItemMapper.updateEntityFromDto item dto = .ok new) :
    new.itemId = item.itemId ∧ new.shipmentId = item.shipmentId := by
  obtain ⟨quantity, _, h⟩ := bind_eq_ok_iff.mp h
  obtain ⟨weight, _, h⟩ := bind_eq_ok_iff.mp h
  cases h
  exact ⟨rfl, rfl⟩

theorem run_update (t : ItemStore) (itemId : UUID) (dto : ItemUpdateDTO) :
    (ItemOp.update itemId dto).program.run ItemStore.act t =
      ((ItemService.modify itemId fun item => ItemMapper.updateEntityFromDto item dto).bind
        fun _ => .ret ()).run ItemStore.act t := by
  rw [Coroutine.run_bind, run_modify]
  simp only [ItemOp.program, ItemService.get, Coroutine.bind_eq, Coroutine.run_bind,
    Coroutine.run_perform, ItemStore.act]
  cases hfind : t.find? itemId with
  | none => rfl
  | some item =>
    cases hnew : ItemMapper.updateEntityFromDto item dto with
    | error e => simp only [hnew, Coroutine.ofExcept_error, Coroutine.raise_bind, Coroutine.run_raise]
    | ok new =>
      have hagain : t.find? new.itemId = some item := by
        rw [(updateEntityFromDto_eq_ok hnew).1, Table.key_of_find? hfind, hfind]
      simp only [hnew, Coroutine.ofExcept_ok, Coroutine.ret_bind, ItemService.update,
        Coroutine.bind_eq, Coroutine.run_bind, Coroutine.run_perform, ItemStore.act, hagain,
        Coroutine.pure_eq, Coroutine.run_ret]

/-- Every operation has one of these outcomes. -/
theorem outcome_program (t : ItemStore) (op : ItemOp) :
    Outcome t op (op.program.run ItemStore.act t) := by
  cases op with
  | create dto shipmentId itemId =>
    simp only [ItemOp.program, Coroutine.bind_eq, Coroutine.pure_eq]
    cases hentity : ItemMapper.createDtoToEntity dto shipmentId itemId with
    | error e => exact .raised _ e
    | ok item =>
      obtain ⟨rfl, rfl⟩ := createDtoToEntity_eq_ok hentity
      exact .created dto item
  | update itemId dto =>
    exact outcome_modify itemId _ (fun _ _ _ h => by cases h) (run_update t itemId dto)
      fun item new h => updateEntityFromDto_eq_ok h
  | increaseQuantity itemId amount =>
    refine outcome_modify itemId (Item.increased amount) (fun _ _ _ h => by cases h)
      ?_ fun item new h => ?_
    · rw [ItemOp.program, ItemService.increaseQuantity_eq]
      rfl
    · obtain ⟨quantity, _, rfl⟩ := Item.increased_eq_ok_iff.mp h
      exact ⟨rfl, rfl⟩
  | decreaseQuantity itemId amount =>
    refine outcome_modify itemId (Item.decreased amount) (fun _ _ _ h => by cases h)
      ?_ fun item new h => ?_
    · rw [ItemOp.program, ItemService.decreaseQuantity_eq]
      rfl
    · obtain ⟨quantity, _, rfl⟩ := Item.increased_eq_ok_iff.mp (Item.decreased_eq_ok_iff.mp h)
      exact ⟨rfl, rfl⟩
  | updateWeight itemId newWeight =>
    refine outcome_modify itemId (Item.reweighed newWeight) (fun _ _ _ h => by cases h)
      ?_ fun item new h => ?_
    · rw [ItemOp.program, ItemService.updateWeight_eq]
      rfl
    · obtain ⟨weight, _, h⟩ := bind_eq_ok_iff.mp h
      cases h
      exact ⟨rfl, rfl⟩
  | delete itemId =>
    simp only [ItemOp.program, ItemService.delete, Coroutine.run_perform, ItemStore.act]
    split_ifs
    · exact .deleted itemId
    · exact .raised _ _

/-- An operation that raises leaves the store unchanged. -/
theorem store_of_raises {t : ItemStore} {op : ItemOp} {e : ShipmentError}
    (h : (op.program.run ItemStore.act t).1 = .error e) : (op.program.run ItemStore.act t).2 = t := by
  have houtcome := outcome_program t op
  generalize op.program.run ItemStore.act t = served at houtcome h
  cases houtcome with
  | raised _ e' => rfl
  | created dto item => cases h
  | changed _ hop hold hship => cases h
  | deleted itemId => cases h

/-- A decrease succeeds exactly when it leaves at least one piece of a stored item. -/
theorem decreaseQuantity_ok_iff (t : ItemStore) (itemId : UUID) (amount : Int) :
    (∃ item, ((ItemService.decreaseQuantity itemId amount).run ItemStore.act t).1 = .ok item) ↔
      ∃ item, t.find? itemId = some item ∧ 1 ≤ item.quantity.value - amount := by
  rw [ItemService.decreaseQuantity_eq, run_modify]
  cases t.find? itemId with
  | none => exact iff_of_false (fun ⟨_, h⟩ => by cases h) (fun ⟨_, h, _⟩ => by cases h)
  | some item =>
    simp only [Option.some.injEq, exists_eq_left']
    cases hnew : item.decreased amount with
    | error e =>
      refine iff_of_false (fun ⟨_, h⟩ => by cases h) fun hle => ?_
      have hok := Item.decreased_eq_ok_iff.mpr
        (Item.increased_eq_ok_iff.mpr ⟨⟨item.quantity.value + -amount, hle⟩, rfl, rfl⟩)
      cases hnew.symm.trans hok
    | ok new =>
      obtain ⟨quantity, hvalue, _⟩ :=
        Item.increased_eq_ok_iff.mp (Item.decreased_eq_ok_iff.mp hnew)
      have hpositive := quantity.positive
      exact iff_of_true ⟨new, rfl⟩ (by omega)

/-- A successful increase is undone by the decrease of the same amount. -/
theorem decreaseQuantity_increaseQuantity {t : ItemStore} {itemId : UUID} {amount : Int}
    {item : Item}
    (h : ((ItemService.increaseQuantity itemId amount).run ItemStore.act t).1 = .ok item) :
    ∃ restored, (ItemService.decreaseQuantity itemId amount).run ItemStore.act
      ((ItemService.increaseQuantity itemId amount).run ItemStore.act t).2 = (.ok restored, t) := by
  cases hfind : t.find? itemId with
  | none =>
    rw [ItemService.increaseQuantity_eq, run_modify, hfind] at h
    cases h
  | some old =>
    cases hnew : old.increased amount with
    | error e =>
      simp only [ItemService.increaseQuantity_eq, run_modify, hfind, hnew] at h
      cases h
    | ok new =>
      obtain ⟨quantity, hvalue, hchanged⟩ := Item.increased_eq_ok_iff.mp hnew
      have hraise : (ItemService.increaseQuantity itemId amount).run ItemStore.act t =
          (.ok new, t.put new) := by
        simp only [ItemService.increaseQuantity_eq, run_modify, hfind, hnew]
      have hid : new.itemId = itemId := by rw [hchanged, Table.key_of_find? hfind]
      have hraised : (t.put new).find? itemId = some new := by
        rw [← hid, Table.find?_put_self]
      have hback : new.decreased amount = .ok old := by
        refine Item.decreased_eq_ok_iff.mpr (Item.increased_eq_ok_iff.mpr ⟨old.quantity, ?_, ?_⟩)
        · rw [hchanged]
          dsimp only
          omega
        · rw [hchanged]
      have hsame : new.itemId = old.itemId := hid.trans (Table.key_of_find? hfind).symm
      have hstored : (t.put new).put old = t := by
        rw [t.put_put hsame]
        exact Table.put_of_find? (by rw [Table.key_of_find? hfind, hfind])
      refine ⟨old, ?_⟩
      simp only [hraise, ItemService.decreaseQuantity_eq, run_modify, hraised, hback, hstored]

end Effects

/-- A store with the shipment that the item of each id was created with. -/
structure ItemRun where
  store : ItemStore
  createdWith : UUID → Option UUID

namespace ItemRun

/-- The start of a run: what is stored counts as created. -/
def start (t : ItemStore) : ItemRun := ⟨t, fun itemId => (t.find? itemId).map Item.shipmentId⟩

/-- One more operation. -/
def step (s : ItemRun) (op : ItemOp) : ItemRun where
  store := (op.program.run ItemStore.act s.store).2
  createdWith :=
    match op, (op.program.run ItemStore.act s.store).1 with
    | .create _ shipmentId itemId, .ok _ =>
        Function.update s.createdWith itemId (some shipmentId)
    | _, _ => s.createdWith

/-- Every stored item belongs to the shipment it was created with. -/
def Kept (s : ItemRun) : Prop :=
  ∀ item ∈ s.store.rows, s.createdWith item.itemId = some item.shipmentId

theorem kept_start (t : ItemStore) : (start t).Kept := by
  intro item hitem
  have hfind : t.find? item.itemId = some item := Table.find?_of_mem hitem
  simp [start, hfind]

/-- An operation leaves every item with its shipment. -/
theorem Kept.step {s : ItemRun} (h : s.Kept) (op : ItemOp) : (s.step op).Kept := by
  have houtcome := outcome_program s.store op
  unfold Kept ItemRun.step
  generalize op.program.run ItemStore.act s.store = served at houtcome
  cases houtcome with
  | raised _ e =>
    cases op <;> exact h
  | created dto new =>
    intro item hitem
    rcases (s.store.mem_put new item).mp hitem with rfl | ⟨hmem, hne⟩
    · exact Function.update_self ..
    · exact (Function.update_of_ne hne _ _).trans (h item hmem)
  | changed _ hop hold hship =>
    rename_i old new
    have hcreated : ∀ item ∈ (s.store.put new).rows,
        s.createdWith item.itemId = some item.shipmentId := by
      intro item hitem
      rcases (s.store.mem_put new item).mp hitem with rfl | ⟨hmem, _⟩
      · rw [hship, ← h old (Table.mem_of_find? hold), Table.key_of_find? hold]
      · exact h item hmem
    cases op with
    | create dto shipmentId itemId => exact absurd rfl (hop dto shipmentId itemId)
    | _ => exact hcreated
  | deleted itemId => exact fun item hitem => h item (List.mem_of_mem_filter hitem)

end ItemRun

/-- What every state of a run of item operations has, from any store. -/
theorem item_runs (t : ItemStore) (ops : List ItemOp) :
    let s := ops.foldl ItemRun.step (.start t)
    (∀ item ∈ s.store.rows, 1 ≤ item.quantity.value ∧ 0 ≤ item.weight.value ∧
      s.createdWith item.itemId = some item.shipmentId) ∧
    (∀ itemId amount,
      (∃ item, ((ItemService.decreaseQuantity itemId amount).run ItemStore.act s.store).1 =
        .ok item) ↔
      ∃ item, s.store.find? itemId = some item ∧ 1 ≤ item.quantity.value - amount) ∧
    (∀ (op : ItemOp) (e : ShipmentError), (op.program.run ItemStore.act s.store).1 = .error e →
      (op.program.run ItemStore.act s.store).2 = s.store) ∧
    (∀ itemId amount item,
      ((ItemService.increaseQuantity itemId amount).run ItemStore.act s.store).1 = .ok item →
      ∃ restored, (ItemService.decreaseQuantity itemId amount).run ItemStore.act
        ((ItemService.increaseQuantity itemId amount).run ItemStore.act s.store).2 =
          (.ok restored, s.store)) := by
  intro s
  have hkept : s.Kept := List.foldlRecOn ops ItemRun.step (ItemRun.kept_start t)
    fun s' h op _ => h.step op
  exact ⟨fun item hitem => ⟨item.quantity.positive, item.weight.nonneg, hkept item hitem⟩,
    decreaseQuantity_ok_iff s.store, fun op e => store_of_raises,
    fun itemId amount item => decreaseQuantity_increaseQuantity⟩

end SupplyChainTracker.Shipments
