import SupplyChainTracker.Shipments.Api
import SupplyChainTracker.Shipments.ItemRun

/-!
# What a request changes in the shipment service

Each handler makes at most one call that stores or deletes a row. A request changes the
tables exactly when that call is reached and has an effect, whatever the handler returns
or raises afterwards.
-/

namespace SupplyChainTracker.Shipments

open Coroutine (perform)

namespace World

/-- The world after a statement that has left the tables alone. -/
def read (w : World) : World := w.after w.db

@[simp] theorem db_read (w : World) : w.read.db = w.db := rfl

/-- The item that a read of an id returns, if it returns one. -/
def item? (itemId : UUID) (w : World) : Option Item :=
  (w.db.items.find? itemId).bind fun row => (ItemRepository.rowToEntity row).toOption

/-- A call of `save` stores a row for an item that is not stored already. -/
def SavesItem (pg : Postgres) (item : Item) (w : World) : Prop :=
  w.db.Accepts pg item w.now ∧
    w.db.items.find? item.itemId ≠ some (w.db.itemTarget item w.now)

/-- A change of a stored item is not refused and has an effect. -/
def ChangesItem (pg : Postgres) (itemId : UUID) (change : Item → Except ShipmentError Item)
    (w : World) : Prop :=
  ∃ item new, w.item? itemId = some item ∧ change item = .ok new ∧ w.read.SavesItem pg new

/-- A call of `save` stores a row for a shipment that is not stored already. -/
def SavesShipment (backend : Backend) (shipment : Shipment) (w : World) : Prop :=
  ∃ origin destination, backend.textArgument shipment.origin = .ok origin ∧
    backend.textArgument shipment.destination = .ok destination ∧
    backend.pg.refusesShipment (w.db.shipmentTarget shipment origin destination w.now) = none ∧
    w.db.shipments.find? shipment.shipmentId ≠
      some (w.db.shipmentTarget shipment origin destination w.now)

end World

/-- The condition under which a request changes the tables. -/
def Request.Writes (backend : Backend) (w : World) : Request → Prop
  | createShipment dto shipmentId now _ =>
      w.SavesShipment backend (ShipmentMapper.createDtoToEntity dto shipmentId now)
  | createItem shipmentId dto itemId _ => ∃ item,
      ItemMapper.createDtoToEntity dto shipmentId itemId = .ok item ∧ w.SavesItem backend.pg item
  | updateItem itemId dto _ => ∃ item new, w.item? itemId = some item ∧
      ItemMapper.updateEntityFromDto item dto = .ok new ∧ w.read.read.SavesItem backend.pg new
  | deleteItem itemId _ => (w.item? itemId).isSome
  | increaseItemQuantity itemId amount _ =>
      w.ChangesItem backend.pg itemId (Item.increased amount)
  | decreaseItemQuantity itemId amount _ =>
      w.ChangesItem backend.pg itemId (Item.decreased amount)
  | updateItemWeight itemId newWeight _ =>
      w.ChangesItem backend.pg itemId (Item.reweighed newWeight)
  | _ => False

/-- The type of the event with which a handler announces what it has stored. -/
def Request.eventType? : Request → Option String
  | createShipment .. => some "shipment.created"
  | updateShipment .. => some "shipment.updated"
  | deleteShipment .. => some "shipment.cancelled"
  | markShipmentReceived .. => some "shipment.updated"
  | markShipmentReady .. => some "shipment.updated"
  | markShipmentInTransit .. => some "shipment.updated"
  | markShipmentDelivered .. => some "shipment.updated"
  | markShipmentCompleted .. => some "shipment.updated"
  | createItem .. => some "shipment.updated"
  | updateItem .. => some "shipment.updated"
  | deleteItem .. => some "shipment.updated"
  | increaseItemQuantity .. => some "shipment.updated"
  | decreaseItemQuantity .. => some "shipment.updated"
  | updateItemWeight .. => some "shipment.updated"
  | _ => none

/-- Databases with the same tables are the same. -/
theorem ShipmentDb.ext {db db' : ShipmentDb} (hshipments : db.shipments = db'.shipments)
    (hitems : db.items = db'.items) : db = db' := by
  cases db
  cases db'
  cases hshipments
  cases hitems
  rfl

section Calls

variable {pg : Postgres} {w : World}

/-- What `save` leaves differs from what was there when it stores a new row. -/
theorem db_saveItem_eq_iff (item : Item) :
    (ItemRepository.act pg (.save item) w).2.db = w.db ↔ ¬ w.SavesItem pg item := by
  by_cases haccepts : w.db.Accepts pg item w.now
  · obtain ⟨db, hact, hshipments, hitems⟩ := ItemRepository.act_save_of_accepts haccepts
    have hput := w.db.items.put_eq_self_iff (w.db.itemTarget item w.now)
    rw [ShipmentDb.itemId_itemTarget] at hput
    rw [hact, World.db_after, World.SavesItem]
    constructor
    · rintro rfl ⟨_, hne⟩
      exact hne (hput.mp hitems.symm)
    · intro hsaves
      have hstored := not_not.mp fun hne => hsaves ⟨haccepts, hne⟩
      exact ShipmentDb.ext hshipments (hitems.trans (hput.mpr hstored))
  · obtain ⟨violated, hact⟩ := ItemRepository.act_save_of_not_accepts haccepts
    rw [hact]
    exact iff_of_true rfl fun hsaves => haccepts hsaves.1

/-- A read returns the item, nothing or an exception, and leaves the tables alone. -/
theorem act_getItem_cases (pg : Postgres) (itemId : UUID) (w : World) :
    (∃ item, w.item? itemId = some item ∧
      ItemRepository.act pg (.get itemId) w = (.ok (some item), w.read)) ∨
    (w.item? itemId = none ∧ (ItemRepository.act pg (.get itemId) w = (.ok none, w.read) ∨
      ∃ e, ItemRepository.act pg (.get itemId) w = (.error e, w.read))) := by
  simp only [World.item?, ItemRepository.act]
  cases w.db.items.find? itemId with
  | none => exact .inr ⟨rfl, .inl rfl⟩
  | some row =>
    simp only [Option.bind_some]
    cases ItemRepository.rowToEntity row with
    | error e => exact .inr ⟨rfl, .inr ⟨e, rfl⟩⟩
    | ok item => exact .inl ⟨item, rfl, rfl⟩

/-- `get` of an item looks it up. -/
theorem loads_getItem (pg : Postgres) (itemId : UUID) :
    (ItemService.get itemId).Loads (ItemRepository.act pg) (World.item? itemId) World.read := by
  intro w
  rw [ItemService.get, Coroutine.run_perform]
  exact act_getItem_cases pg itemId w

/-- `get` of a shipment never returns one: no row is read back. -/
theorem loads_getShipment (pg : Postgres) (textArgument : Place → Except ShipmentError String)
    (shipmentId : UUID) :
    (ShipmentService.get shipmentId).Loads (ShipmentRepository.act pg textArgument)
      (fun _ => none) World.read := by
  intro w
  simp only [ShipmentService.get, Coroutine.run_perform, ShipmentRepository.act]
  cases w.db.shipments.find? shipmentId with
  | none => exact .inr ⟨trivial, .inl rfl⟩
  | some row => exact .inr ⟨trivial, .inr ⟨_, rfl⟩⟩

/-- An item that is read carries the id it is read by. -/
theorem itemId_of_item? {itemId : UUID} {item : Item} (h : w.item? itemId = some item) :
    item.itemId = itemId := by
  obtain ⟨row, hrow, hitem⟩ := Option.bind_eq_some_iff.mp h
  obtain ⟨hid, _⟩ := ItemRepository.rowToEntity_eq_ok_iff.mp (toOption_eq_some_iff.mp hitem)
  rw [← hid]
  exact Table.key_of_find? hrow

/-- An item that is read is stored. -/
theorem isSome_of_item? {itemId : UUID} {item : Item} (h : w.item? itemId = some item) :
    (w.db.items.find? itemId).isSome := by
  obtain ⟨row, hrow, _⟩ := Option.bind_eq_some_iff.mp h
  exact Option.isSome_iff_exists.mpr ⟨row, hrow⟩

/-- An update of an item that is read stores the item. -/
theorem db_updateItem_eq_iff {item : Item} (h : (w.item? item.itemId).isSome) :
    ((ItemService.update item).run (ItemRepository.act pg) w).2.db = w.db ↔
      ¬ w.read.SavesItem pg item := by
  simp only [ItemService.update, Coroutine.bind_eq, Coroutine.run_bind, Coroutine.run_perform]
  rcases act_getItem_cases pg item.itemId w with ⟨old, _, hact⟩ | ⟨hnone, _⟩
  · simp only [hact, Coroutine.run_perform]
    exact db_saveItem_eq_iff item
  · rw [hnone] at h
    cases h

/-- A deletion of a stored item removes it. -/
theorem run_deleteItem {itemId : UUID} (h : (w.db.items.find? itemId).isSome) :
    (ItemService.delete itemId).run (ItemRepository.act pg) w =
      (.ok (), w.after (w.db.deleteItem itemId)) := by
  rw [ItemService.delete, Coroutine.run_perform]
  exact if_pos h

/-- A change of an item stores what it makes of the item that is read. -/
theorem db_modifyItem_eq_iff (itemId : UUID) (change : Item → Except ShipmentError Item) :
    ((ItemService.modify itemId change).run (ItemRepository.act pg) w).2.db = w.db ↔
      ¬ w.ChangesItem pg itemId change := by
  simp only [ItemService.modify, Coroutine.bind_eq, Coroutine.run_bind, Coroutine.run_perform]
  rcases act_getItem_cases pg itemId w with ⟨item, hitem, hact⟩ | ⟨hnone, hact | ⟨e, hact⟩⟩
  · simp only [hact]
    cases hchange : change item with
    | error e =>
      refine iff_of_true rfl ?_
      rintro ⟨_, _, hitem', hnew, _⟩
      cases hitem.symm.trans hitem'
      cases hchange.symm.trans hnew
    | ok new =>
      simp only [Coroutine.ofExcept_ok, Coroutine.ret_bind, Coroutine.run_perform]
      refine (db_saveItem_eq_iff new).trans
        (not_congr ⟨fun h => ⟨item, new, hitem, hchange, h⟩, ?_⟩)
      rintro ⟨_, _, hitem', hnew, h⟩
      cases hitem.symm.trans hitem'
      cases hchange.symm.trans hnew
      exact h
  all_goals
    simp only [hact]
    refine iff_of_true rfl ?_
    rintro ⟨_, _, hitem, _⟩
    cases hnone.symm.trans hitem

/-- A shipment is never read back, so nothing that loads one first gets to change it. -/
theorem run_modifyShipment_table (textArgument : Place → Except ShipmentError String)
    (shipmentId : UUID) (change : Shipment → Shipment) :
    ((ShipmentService.modify shipmentId change).run
      (ShipmentRepository.act pg textArgument) w).2 = w.read := by
  simp only [ShipmentService.modify, Coroutine.bind_eq, Coroutine.run_bind, Coroutine.run_perform,
    ShipmentRepository.act]
  cases w.db.shipments.find? shipmentId with
  | none => rfl
  | some row => rfl

/-- A creation stores a row when both places are encoded and the row passes. -/
theorem db_createShipment_eq_iff (backend : Backend) (shipment : Shipment) :
    ((ShipmentService.create shipment).run
        (ShipmentRepository.act backend.pg backend.textArgument) w).2.db = w.db ↔
      ¬ w.SavesShipment backend shipment := by
  rw [ShipmentService.create, Coroutine.run_perform]
  simp only [ShipmentRepository.act]
  cases horigin : backend.textArgument shipment.origin with
  | error e =>
    refine iff_of_true rfl ?_
    rintro ⟨origin, _, hok, _⟩
    cases horigin.symm.trans hok
  | ok origin =>
    cases hdestination : backend.textArgument shipment.destination with
    | error e =>
      refine iff_of_true rfl ?_
      rintro ⟨_, destination, _, hok, _⟩
      cases hdestination.symm.trans hok
    | ok destination =>
      have hput := w.db.shipments.put_eq_self_iff
        (w.db.shipmentTarget shipment origin destination w.now)
      rw [ShipmentDb.shipmentId_shipmentTarget] at hput
      simp only [ShipmentDb.saveShipment]
      cases hrefuses : backend.pg.refusesShipment
          (w.db.shipmentTarget shipment origin destination w.now) with
      | some violated =>
        refine iff_of_true rfl ?_
        rintro ⟨_, _, horigin', hdestination', hpasses, _⟩
        cases horigin.symm.trans horigin'
        cases hdestination.symm.trans hdestination'
        cases hrefuses.symm.trans hpasses
      | none =>
        simp only [World.db_after]
        constructor
        · rintro hsame ⟨_, _, horigin', hdestination', _, hne⟩
          cases horigin.symm.trans horigin'
          cases hdestination.symm.trans hdestination'
          exact hne (hput.mp (congrArg ShipmentDb.shipments hsame))
        · intro hsaves
          have hstored := not_not.mp fun hne =>
            hsaves ⟨origin, destination, horigin, hdestination, hrefuses, hne⟩
          exact ShipmentDb.ext (hput.mpr hstored) rfl

end Calls

section Handlers

variable {backend : Backend} {s : Served World} {α β : Type}

/-- A method of the `ShipmentService` in a handler. -/
theorem run_shipmentService (p : ShipmentProgram α) :
    (shipmentService p).run (apiAct backend) s =
      ((p.run (ShipmentRepository.act backend.pg backend.textArgument) s.world).1,
        { s with world :=
            (p.run (ShipmentRepository.act backend.pg backend.textArgument) s.world).2 }) := by
  unfold apiAct shipmentService
  apply Handler.run_call
  · exact fun _ _ => congrFun Except.map_id _
  · exact fun _ _ => rfl

/-- A method of the `ItemService` in a handler. -/
theorem run_itemService (p : ItemProgram α) :
    (itemService p).run (apiAct backend) s =
      ((p.run (ItemRepository.act backend.pg) s.world).1,
        { s with world := (p.run (ItemRepository.act backend.pg) s.world).2 }) := by
  unfold apiAct itemService
  apply Handler.run_call
  · exact fun _ _ => congrFun Except.map_id _
  · exact fun _ _ => rfl

theorem loads_shipmentService {p : ShipmentProgram (Option α)} {value? : World → Option α}
    {next : World → World}
    (h : p.Loads (ShipmentRepository.act backend.pg backend.textArgument) value? next) :
    (shipmentService p).Loads (apiAct backend) (fun s => value? s.world)
      fun s => { s with world := next s.world } := by
  unfold apiAct shipmentService
  refine Handler.loads_call ?_ ?_ h
  · exact fun _ _ => congrFun Except.map_id _
  · exact fun _ _ => rfl

theorem loads_itemService {p : ItemProgram (Option α)} {value? : World → Option α}
    {next : World → World} (h : p.Loads (ItemRepository.act backend.pg) value? next) :
    (itemService p).Loads (apiAct backend) (fun s => value? s.world)
      fun s => { s with world := next s.world } := by
  unfold apiAct itemService
  refine Handler.loads_call ?_ ?_ h
  · exact fun _ _ => congrFun Except.map_id _
  · exact fun _ _ => rfl

theorem refuses_announce (domainEvent : DomainEvent) (draws : EventDraws) :
    (announce domainEvent draws).Refuses (apiAct backend) :=
  Handler.refuses_publishEvent _ _

/-- What a handler makes of its result has no effect. -/
theorem snd_handle {request : Request} {p : ApiProgram β} {respond : β → Response}
    (h : request.handler = p.bind fun b => .ret (respond b)) :
    (request.handle backend s).2 = (p.run (apiAct backend) s).2 := by
  rw [Request.handle, h]
  exact Coroutine.snd_run_map p respond s

/-- A handler that ends by announcing a change has the effect of what comes before. -/
theorem snd_handle_announced {request : Request} {p : ApiProgram α} {k : α → ApiProgram β}
    {respond : β → Response} (h : request.handler = (p.bind k).bind fun b => .ret (respond b))
    (hk : ∀ a, (k a).Refuses (apiAct backend)) :
    (request.handle backend s).2 = (p.run (apiAct backend) s).2 := by
  rw [snd_handle h]
  exact Coroutine.run_bind_of_idle p (fun a => (hk a).idle) s

/-- A handler that ends by announcing a change raises. -/
theorem raises_announced {request : Request} {p : ApiProgram α} {k : α → ApiProgram β}
    {respond : β → Response} (h : request.handler = (p.bind k).bind fun b => .ret (respond b))
    (hk : ∀ a, (k a).Refuses (apiAct backend)) : ∃ e, (request.handle backend s).1 = .error e := by
  rw [Request.handle, h, Coroutine.bind_assoc]
  exact Coroutine.run_bind_of_refuses p (fun a => (hk a).bind _) s

/-- A handler that loads a shipment first raises there. -/
theorem snd_handle_loadsShipment {request : Request} {shipmentId : UUID}
    {k : Option Shipment → ApiProgram β} {respond : β → Response}
    (h : request.handler = ((shipmentService (ShipmentService.get shipmentId)).bind k).bind
      fun b => .ret (respond b))
    (hnone : k none = .raise (notFound shipmentId)) :
    (request.handle backend s).2 = { s with world := s.world.read } := by
  have hload := loads_shipmentService (loads_getShipment backend.pg backend.textArgument shipmentId)
  have hrefuses : (k none).Refuses (apiAct backend) := hnone ▸ Coroutine.refuses_raise _
  rw [Request.handle, h]
  obtain ⟨_, hsome, _⟩ | ⟨_, hrun⟩ := hload.snd_run_map respond hrefuses s
  · cases hsome
  · exact hrun

/-- A handler that loads an item first goes on with the item or raises there. -/
theorem snd_handle_loadsItem {request : Request} {itemId : UUID}
    {k : Option Item → ApiProgram β} {respond : β → Response}
    (h : request.handler = ((itemService (ItemService.get itemId)).bind k).bind
      fun b => .ret (respond b))
    (hnone : k none = .raise (itemNotFound itemId)) :
    (∃ item, s.world.item? itemId = some item ∧ (request.handle backend s).2 =
      ((k (some item)).run (apiAct backend) { s with world := s.world.read }).2) ∨
    (s.world.item? itemId = none ∧
      (request.handle backend s).2 = { s with world := s.world.read }) := by
  have hload := @loads_itemService backend _ _ _ _ (loads_getItem backend.pg itemId)
  have hrefuses : (k none).Refuses (apiAct backend) := hnone ▸ Coroutine.refuses_raise _
  rw [Request.handle, h]
  exact hload.snd_run_map respond hrefuses s

/-- A handler that loads a shipment first does not get past it. -/
theorem raises_handle_loadsShipment {request : Request} {shipmentId : UUID}
    {k : Option Shipment → ApiProgram β} {respond : β → Response}
    (h : request.handler = ((shipmentService (ShipmentService.get shipmentId)).bind k).bind
      fun b => .ret (respond b))
    (hnone : k none = .raise (notFound shipmentId)) :
    ∃ e, (request.handle backend s).1 = .error e := by
  have hload := loads_shipmentService (loads_getShipment backend.pg backend.textArgument shipmentId)
  have hrefuses : (k none).Refuses (apiAct backend) := hnone ▸ Coroutine.refuses_raise _
  rw [Request.handle, h, Coroutine.run_bind]
  obtain ⟨_, hsome, _⟩ | ⟨_, e, hrun⟩ := hload.run_bind hrefuses s
  · cases hsome
  · exact ⟨e, by rw [hrun]⟩

/-- A handler that loads an item first and raises whatever becomes of it. -/
theorem raises_handle_loadsItem {request : Request} {itemId : UUID}
    {k : Option Item → ApiProgram β} {respond : β → Response}
    (h : request.handler = ((itemService (ItemService.get itemId)).bind k).bind
      fun b => .ret (respond b))
    (hnone : k none = .raise (itemNotFound itemId))
    (hsome : ∀ item s, ∃ e, ((k (some item)).run (apiAct backend) s).1 = .error e) :
    ∃ e, (request.handle backend s).1 = .error e := by
  have hload := @loads_itemService backend _ _ _ _ (loads_getItem backend.pg itemId)
  have hrefuses : (k none).Refuses (apiAct backend) := hnone ▸ Coroutine.refuses_raise _
  rw [Request.handle, h, Coroutine.run_bind]
  obtain ⟨item, _, hrun⟩ | ⟨_, e, hrun⟩ := hload.run_bind hrefuses s
  · obtain ⟨e, he⟩ := hsome item { s with world := s.world.read }
    exact ⟨e, by rw [hrun, he]⟩
  · exact ⟨e, by rw [hrun]⟩

/-- The relation between worlds with the same tables. -/
def SameTables (w w' : World) : Prop := w'.db = w.db

/-- What the calls of a handler keep. -/
abbrev Respects (backend : Backend) (R : World → World → Prop) :
    HandlerCall RepositoryCall → Prop :=
  Handler.Respects ShipmentError.ofQueue backend.adapter (RepositoryCall.act backend) R

theorem calls_shipmentService {R : World → World → Prop} {p : ShipmentProgram α}
    (hp : p.Calls fun op => ∀ w,
      R w (ShipmentRepository.act backend.pg backend.textArgument op w).2) :
    (shipmentService p).Calls (Respects backend R) :=
  Handler.calls_call (fun _ _ => rfl) hp

theorem calls_itemService {R : World → World → Prop} {p : ItemProgram α}
    (hp : p.Calls fun op => ∀ w, R w (ItemRepository.act backend.pg op w).2) :
    (itemService p).Calls (Respects backend R) :=
  Handler.calls_call (fun _ _ => rfl) hp

/-- The handler of a `GET` route only reads. -/
theorem calls_handler_get {request : Request} (h : request.route.method = .get) :
    request.handler.Calls (Respects backend SameTables) := by
  have hlist : ∀ limit offset, (ShipmentService.getAll limit offset).Calls fun op => ∀ w,
      SameTables w (ShipmentRepository.act backend.pg backend.textArgument op w).2 :=
    fun limit offset => Coroutine.calls_perform.mpr fun w => rfl
  have hlisting : ∀ p : ShipmentProgram (List Shipment), (p.Calls fun op => ∀ w,
      SameTables w (ShipmentRepository.act backend.pg backend.textArgument op w).2) →
      (ShipmentsRouter.listing p).Calls (Respects backend SameTables) :=
    fun p hp => (calls_shipmentService hp).map _
  have hshipment : ∀ shipmentId, (ShipmentService.get shipmentId).Calls fun op => ∀ w,
      SameTables w (ShipmentRepository.act backend.pg backend.textArgument op w).2 :=
    fun shipmentId => Coroutine.calls_perform.mpr fun w => rfl
  have hitem : ∀ itemId, (ItemService.get itemId).Calls fun op => ∀ w,
      SameTables w (ItemRepository.act backend.pg op w).2 :=
    fun itemId => Coroutine.calls_perform.mpr fun w => rfl
  have hitems : ∀ shipmentId, (ItemService.getByShipment shipmentId).Calls fun op => ∀ w,
      SameTables w (ItemRepository.act backend.pg op w).2 :=
    fun shipmentId => Coroutine.calls_perform.mpr fun w => rfl
  cases request with
  | getShipment shipmentId =>
    refine ((calls_shipmentService (hshipment _)).bind fun shipment => ?_).map _
    cases shipment <;> trivial
  | listShipments page => exact (hlisting _ (hlist _ _)).map _
  | listActiveShipments => exact (hlisting _ ((hlist _ _).map _)).map _
  | listInTransitShipments => exact (hlisting _ ((hlist _ _).map _)).map _
  | listShipmentItems shipmentId => exact ((calls_itemService (hitems _)).map _).map _
  | getShipmentTotalWeight shipmentId =>
    exact ((calls_itemService ((hitems _).map _)).map _).map _
  | getShipmentItemsCount shipmentId =>
    exact ((calls_itemService ((hitems _).map _)).map _).map _
  | getItem itemId =>
    refine ((calls_itemService (hitem _)).bind fun item => ?_).map _
    cases item <;> trivial
  | _ => cases h

/-- A `GET` request leaves the tables alone. -/
theorem db_handle_get {request : Request} (h : request.route.method = .get) :
    (request.handle backend s).2.world.db = s.world.db :=
  Handler.run_keeps (calls_handler_get h) s

end Handlers

section Requests

variable (backend : Backend) (s : Served World)

namespace Request

/-- The handler of a creation of an item, its parts put in a row. -/
theorem handler_createItem (shipmentId : UUID) (dto : ItemCreateDTO) (itemId : UUID)
    (draws : EventDraws) :
    (createItem shipmentId dto itemId draws).handler =
      (((Coroutine.ofExcept (ItemMapper.createDtoToEntity dto shipmentId itemId)).bind
        fun entity => itemService (ItemService.create entity)).bind fun created =>
          (ItemsRouter.announceItems shipmentId draws).bind fun _ =>
            .ret (ItemMapper.entityToDto created)).bind fun dto => .ret (.item dto) := by
  simp only [handler, ItemsRouter.createItem, Coroutine.bind_eq, Coroutine.pure_eq,
    Coroutine.bind_assoc]

theorem db_handle_createItem_iff (shipmentId : UUID) (dto : ItemCreateDTO) (itemId : UUID)
    (draws : EventDraws) :
    ((createItem shipmentId dto itemId draws).handle backend s).2.world.db = s.world.db ↔
      ¬ (createItem shipmentId dto itemId draws).Writes backend s.world := by
  rw [snd_handle_announced (handler_createItem shipmentId dto itemId draws)
    fun _ => (refuses_announce _ _).bind _]
  cases hdto : ItemMapper.createDtoToEntity dto shipmentId itemId with
  | error e =>
    refine iff_of_true rfl ?_
    rintro ⟨item, hok, _⟩
    cases hdto.symm.trans hok
  | ok item =>
    rw [Coroutine.ofExcept_ok, Coroutine.ret_bind, run_itemService, ItemService.create,
      Coroutine.run_perform]
    refine (db_saveItem_eq_iff item).trans (not_congr ⟨fun h => ⟨item, hdto, h⟩, ?_⟩)
    rintro ⟨item', hok, h⟩
    cases hdto.symm.trans hok
    exact h

theorem db_handle_updateItem_iff (itemId : UUID) (dto : ItemUpdateDTO) (draws : EventDraws) :
    ((updateItem itemId dto draws).handle backend s).2.world.db = s.world.db ↔
      ¬ (updateItem itemId dto draws).Writes backend s.world := by
  rcases @snd_handle_loadsItem backend s _ (.updateItem itemId dto draws) itemId _ _ rfl rfl with
    ⟨item, hitem, hrun⟩ | ⟨hitem, hrun⟩
  · rw [hrun]
    cases hdto : ItemMapper.updateEntityFromDto item dto with
    | error e =>
      simp only [hdto, Coroutine.ofExcept_error, Coroutine.bind_eq, Coroutine.raise_bind,
        Coroutine.run_raise]
      refine iff_of_true rfl ?_
      rintro ⟨_, _, hsome, hok, _⟩
      cases hitem.symm.trans hsome
      cases hdto.symm.trans hok
    | ok new =>
      have hid : new.itemId = itemId :=
        (updateEntityFromDto_eq_ok hdto).1.trans (itemId_of_item? hitem)
      have hread : (s.world.read.item? new.itemId).isSome := by
        rw [hid]
        exact Option.isSome_iff_exists.mpr ⟨item, hitem⟩
      have hidle : ∀ saved : Item, ((ItemsRouter.announceItems saved.shipmentId draws).bind
          fun _ => .ret (ItemMapper.entityToDto saved)).Idle (apiAct backend) :=
        fun saved => ((refuses_announce _ _).bind _).idle
      simp only [hdto, Coroutine.ofExcept_ok, Coroutine.bind_eq, Coroutine.pure_eq,
        Coroutine.ret_bind]
      rw [Coroutine.run_bind_of_idle _ hidle, run_itemService]
      refine (db_updateItem_eq_iff hread).trans
        (not_congr ⟨fun h => ⟨item, new, hitem, hdto, h⟩, ?_⟩)
      rintro ⟨_, _, hsome, hok, h⟩
      cases hitem.symm.trans hsome
      cases hdto.symm.trans hok
      exact h
  · rw [hrun]
    refine iff_of_true rfl ?_
    rintro ⟨_, _, hsome, _⟩
    cases hitem.symm.trans hsome

/-- An item that can be read is deleted by the handler of a deletion, and no other is. -/
theorem db_handle_deleteItem (itemId : UUID) (draws : EventDraws) :
    ((deleteItem itemId draws).handle backend s).2.world.db =
      if (s.world.item? itemId).isSome then s.world.db.deleteItem itemId else s.world.db := by
  rcases @snd_handle_loadsItem backend s _ (.deleteItem itemId draws) itemId _ _ rfl rfl with
    ⟨item, hitem, hrun⟩ | ⟨hitem, hrun⟩
  · have hstored : (s.world.read.db.items.find? itemId).isSome := isSome_of_item? hitem
    have hidle : ∀ _ : Unit, (ItemsRouter.announceItems item.shipmentId draws).Idle
        (apiAct backend) := fun _ => (refuses_announce _ _).idle
    rw [hrun, hitem]
    simp only [Coroutine.bind_eq]
    rw [Coroutine.run_bind_of_idle _ hidle, run_itemService, run_deleteItem hstored]
    rfl
  · rw [hrun, hitem]
    rfl

/-- A request that changes the status of a shipment leaves the tables alone. -/
theorem db_handle_status {request : Request} {shipmentId : UUID} {change : Shipment → Shipment}
    {draws : EventDraws}
    (h : request.handler = (ShipmentsRouter.announceStatus
      (ShipmentService.modify shipmentId change) draws).bind fun dto => .ret (.shipment dto)) :
    (request.handle backend s).2.world.db = s.world.db := by
  rw [snd_handle_announced h fun _ => (refuses_announce _ _).bind _, run_shipmentService,
    run_modifyShipment_table, World.db_read]

/-- A request that changes an item stores what the change makes of it. -/
theorem db_handle_change_iff {request : Request} {itemId : UUID}
    {change : Item → Except ShipmentError Item} {draws : EventDraws}
    (h : request.handler = (ItemsRouter.announceItem (ItemService.modify itemId change)
      draws).bind fun dto => .ret (.item dto)) :
    (request.handle backend s).2.world.db = s.world.db ↔
      ¬ s.world.ChangesItem backend.pg itemId change := by
  rw [snd_handle_announced h fun _ => (refuses_announce _ _).bind _, run_itemService]
  exact db_modifyItem_eq_iff itemId change

/-- A request changes the tables under its condition and under no other. -/
theorem db_handle_eq_iff (request : Request) :
    (request.handle backend s).2.world.db = s.world.db ↔ ¬ request.Writes backend s.world := by
  cases request with
  | createShipment dto shipmentId now draws =>
    rw [@snd_handle_announced backend s _ _ (.createShipment dto shipmentId now draws) _ _ _ rfl
      fun _ => (refuses_announce _ _).bind _, run_shipmentService]
    exact db_createShipment_eq_iff backend _
  | updateShipment shipmentId dto now draws =>
    rw [@snd_handle_loadsShipment backend s _ (.updateShipment shipmentId dto now draws) _ _ _
      rfl rfl]
    exact iff_of_true rfl not_false
  | deleteShipment shipmentId draws =>
    rw [@snd_handle_loadsShipment backend s _ (.deleteShipment shipmentId draws) _ _ _ rfl rfl]
    exact iff_of_true rfl not_false
  | markShipmentReceived => exact iff_of_true (db_handle_status backend s rfl) not_false
  | markShipmentReady => exact iff_of_true (db_handle_status backend s rfl) not_false
  | markShipmentInTransit => exact iff_of_true (db_handle_status backend s rfl) not_false
  | markShipmentDelivered => exact iff_of_true (db_handle_status backend s rfl) not_false
  | markShipmentCompleted => exact iff_of_true (db_handle_status backend s rfl) not_false
  | createItem => exact db_handle_createItem_iff backend s _ _ _ _
  | updateItem => exact db_handle_updateItem_iff backend s _ _ _
  | deleteItem itemId draws =>
    rw [db_handle_deleteItem]
    split_ifs with hitem
    · refine iff_of_false (fun hsame => ?_) (not_not.mpr hitem)
      have hgone := (s.world.db.items.removeWhere_key_eq_self_iff itemId).mp
        (congrArg ShipmentDb.items hsame)
      simp [World.item?, hgone] at hitem
    · exact iff_of_true rfl hitem
  | increaseItemQuantity itemId amount draws =>
    refine @db_handle_change_iff backend s _ itemId _ draws ?_
    rw [← ItemService.increaseQuantity_eq]
    rfl
  | decreaseItemQuantity itemId amount draws =>
    refine @db_handle_change_iff backend s _ itemId _ draws ?_
    rw [← ItemService.decreaseQuantity_eq]
    rfl
  | updateItemWeight itemId newWeight draws =>
    refine @db_handle_change_iff backend s _ itemId _ draws ?_
    rw [← ItemService.updateWeight_eq]
    rfl
  | _ => exact iff_of_true (db_handle_get rfl) not_false

/-- A request whose handler announces an event raises. -/
theorem raises_of_eventType? {request : Request} (h : request.eventType?.isSome) :
    ∃ e, (request.handle backend s).1 = .error e := by
  have hstatus : ∀ p draws, request.handler =
      (ShipmentsRouter.announceStatus p draws).bind (fun dto => .ret (.shipment dto)) →
      ∃ e, (request.handle backend s).1 = .error e :=
    fun p draws hhandler => raises_announced hhandler fun _ => (refuses_announce _ _).bind _
  have hitem : ∀ p draws, request.handler =
      (ItemsRouter.announceItem p draws).bind (fun dto => .ret (.item dto)) →
      ∃ e, (request.handle backend s).1 = .error e :=
    fun p draws hhandler => raises_announced hhandler fun _ => (refuses_announce _ _).bind _
  cases request with
  | createShipment dto shipmentId now draws =>
    exact @raises_announced backend s _ _ (.createShipment dto shipmentId now draws) _ _ _ rfl
      fun _ => (refuses_announce _ _).bind _
  | updateShipment shipmentId dto now draws =>
    exact @raises_handle_loadsShipment backend s _ (.updateShipment shipmentId dto now draws)
      shipmentId _ _ rfl rfl
  | deleteShipment shipmentId draws =>
    exact @raises_handle_loadsShipment backend s _ (.deleteShipment shipmentId draws)
      shipmentId _ _ rfl rfl
  | createItem shipmentId dto itemId draws =>
    exact raises_announced (handler_createItem shipmentId dto itemId draws)
      fun _ => (refuses_announce _ _).bind _
  | updateItem itemId dto draws =>
    refine @raises_handle_loadsItem backend s _ (.updateItem itemId dto draws) itemId _ _ rfl rfl
      fun item s => ?_
    simp only [Coroutine.bind_eq]
    rw [← Coroutine.bind_assoc]
    exact Coroutine.run_bind_of_refuses _ (fun _ => (refuses_announce _ _).bind _) s
  | deleteItem itemId draws =>
    refine @raises_handle_loadsItem backend s _ (.deleteItem itemId draws) itemId _ _ rfl rfl
      fun item s => ?_
    simp only [Coroutine.bind_eq]
    exact Coroutine.run_bind_of_refuses _ (fun _ => refuses_announce _ _) s
  | markShipmentReceived => exact hstatus _ _ rfl
  | markShipmentReady => exact hstatus _ _ rfl
  | markShipmentInTransit => exact hstatus _ _ rfl
  | markShipmentDelivered => exact hstatus _ _ rfl
  | markShipmentCompleted => exact hstatus _ _ rfl
  | increaseItemQuantity => exact hitem _ _ rfl
  | decreaseItemQuantity => exact hitem _ _ rfl
  | updateItemWeight => exact hitem _ _ rfl
  | _ => cases h

end Request

end Requests

end SupplyChainTracker.Shipments
