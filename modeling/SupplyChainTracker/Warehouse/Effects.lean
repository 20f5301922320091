import SupplyChainTracker.Warehouse.Api

/-!
# What a request changes in the warehouse service

Each handler makes at most one call that stores or deletes rows, after reads that leave
the tables alone. A request changes the tables exactly when that call is reached and has
an effect.
-/

namespace SupplyChainTracker.Warehouse

/-- The warehouse that a read of an id returns, if it returns one. -/
def InventoryDb.warehouse? (text : LocationText) (warehouseId : UUID) (db : InventoryDb) :
    Option Warehouse :=
  (db.warehouses.find? warehouseId).bind fun row =>
    (WarehouseRepository.rowToEntity text row).toOption

/-- The record that a read of an id returns, if it returns one. -/
def InventoryDb.record? (recordId : UUID) (now : Clock) (db : InventoryDb) :
    Option InventoryRecord :=
  (db.records.find? recordId).bind fun row => (rowToEntity row now).toOption

/-- A call of `save` stores a row for a warehouse that is not stored already. -/
def SavesWarehouse (backend : Backend) (warehouse : Warehouse) (w : World) : Prop :=
  backend.pg.refusesWarehouse (w.db.warehouseTarget warehouse.warehouseId warehouse.name
      (backend.text.dumps warehouse.location) w.now) = none ∧
    w.db.warehouses.find? warehouse.warehouseId ≠
      some (w.db.warehouseTarget warehouse.warehouseId warehouse.name
        (backend.text.dumps warehouse.location) w.now)

/-- A call of `save` stores a row for a record that is not stored already. -/
def InventoryDb.SavesRecord (record : InventoryRecord) (db : InventoryDb) : Prop :=
  (db.warehouses.find? record.warehouseId).isSome ∧
    db.records.find? record.recordId ≠ some (db.target record.toRow)

/-- The record of a request is there, in the warehouse of the request. -/
def InventoryDb.HasRecord (warehouseId recordId : UUID) (now : Clock) (db : InventoryDb) : Prop :=
  ∃ record, db.record? recordId now = some record ∧ record.warehouseId = warehouseId

/-- The condition under which a request changes the tables. -/
def Request.Writes (backend : Backend) (w : World) : Request → Prop
  | createWarehouse dto warehouseId => ∃ warehouse,
      WarehouseMapper.createDtoToEntity dto warehouseId = .ok warehouse ∧
      SavesWarehouse backend warehouse w
  | updateWarehouse warehouseId dto => ∃ warehouse new,
      w.db.warehouse? backend.text warehouseId = some warehouse ∧
      WarehouseMapper.updateEntityFromDto warehouse dto = .ok new ∧
      SavesWarehouse backend new w.read.read
  | deleteWarehouse warehouseId => (w.db.warehouse? backend.text warehouseId).isSome
  | createInventoryRecord warehouseId dto recordId now _ =>
      w.db.SavesRecord (InventoryRouter.newRecord warehouseId dto recordId now)
  | updateInventoryRecord warehouseId recordId dto now _ =>
      w.db.HasRecord warehouseId recordId now ∧
      ∃ record status, w.db.record? recordId (now.after 2) = some record ∧
        dto.status = some status ∧ (record.status = .shipped → status = .shipped) ∧
        w.db.SavesRecord (record.updateStatus status (now 4))
  | deleteInventoryRecord warehouseId recordId now _ => w.db.HasRecord warehouseId recordId now
  | _ => False

/-- The type of the event with which a handler announces what it has stored. -/
def Request.eventType? : Request → Option String
  | createInventoryRecord .. => some "inventory.reserved"
  | updateInventoryRecord .. => some "inventory.updated"
  | deleteInventoryRecord .. => some "inventory.released"
  | _ => none

/-- Databases with the same tables are the same. -/
theorem InventoryDb.ext {db db' : InventoryDb} (hwarehouses : db.warehouses = db'.warehouses)
    (hrecords : db.records = db'.records) : db = db' := by
  cases db
  cases db'
  cases hwarehouses
  cases hrecords
  rfl

/-- The row of a record stays in its warehouse and keeps its key. -/
theorem InventoryDb.target_toRow (db : InventoryDb) (record : InventoryRecord) :
    (db.target record.toRow).recordId = record.recordId ∧
      (db.target record.toRow).warehouseId = record.warehouseId := by
  unfold InventoryDb.target
  cases h : db.records.find? record.toRow.recordId with
  | none => exact ⟨rfl, rfl⟩
  | some old =>
    have hold : old.recordId = record.recordId := Table.key_of_find? h
    exact ⟨hold, rfl⟩

section Calls

variable {backend : Backend} {pg : Postgres} {w : World} {db : InventoryDb}

/-- What `save` of a warehouse leaves differs from what was there when it stores a new row. -/
theorem db_saveWarehouse_eq_iff (backend : Backend) (warehouse : Warehouse) :
    ((WarehouseRepository.save backend.text warehouse).run (Statement.act backend.pg) w).2.db =
        w.db ↔ ¬ SavesWarehouse backend warehouse w := by
  have hput := w.db.warehouses.put_eq_self_iff (w.db.warehouseTarget warehouse.warehouseId
    warehouse.name (backend.text.dumps warehouse.location) w.now)
  rw [InventoryDb.warehouseId_warehouseTarget] at hput
  simp only [WarehouseRepository.save, Coroutine.bind_eq, Coroutine.run_bind,
    Coroutine.run_perform, Statement.act, InventoryDb.saveWarehouse]
  cases hrefuses : backend.pg.refusesWarehouse (w.db.warehouseTarget warehouse.warehouseId
      warehouse.name (backend.text.dumps warehouse.location) w.now) with
  | some violated =>
    refine iff_of_true rfl fun hsaves => ?_
    cases hrefuses.symm.trans hsaves.1
  | none =>
    simp only [Coroutine.run_ofExcept, Database.db_after]
    constructor
    · rintro hsame ⟨_, hne⟩
      exact hne (hput.mp (congrArg InventoryDb.warehouses hsame))
    · intro hsaves
      have hstored := not_not.mp fun hne => hsaves ⟨hrefuses, hne⟩
      exact InventoryDb.ext (hput.mpr hstored) rfl

/-- A statement stores the row of a record whose warehouse is there and refuses any other. -/
theorem save_cases (record : InventoryRecord) (db : InventoryDb) :
    ((db.warehouses.find? record.warehouseId).isSome ∧
      ∃ db', db.save record = (.ok (db.target record.toRow), db') ∧
        db'.warehouses = db.warehouses ∧
        db'.records = db.records.put (db.target record.toRow)) ∨
    (¬ (db.warehouses.find? record.warehouseId).isSome ∧
      ∃ e, db.save record = (.error e, db)) := by
  have hwarehouse := (db.target_toRow record).2
  unfold InventoryDb.save
  split_ifs with hstored
  · rw [hwarehouse] at hstored
    exact .inl ⟨hstored, _, rfl, rfl, rfl⟩
  · rw [hwarehouse] at hstored
    exact .inr ⟨hstored, _, rfl⟩

/-- What `save` of a record leaves differs from what was there when it stores a new row. -/
theorem db_saveRecord_eq_iff (record : InventoryRecord) (now : Clock) :
    ((InventoryRepository.save record now).run act db).2 = db ↔ ¬ db.SavesRecord record := by
  have hdb : ((InventoryRepository.save record now).run act db).2 = (db.save record).2 := by
    simp only [InventoryRepository.save, Coroutine.bind_eq, Coroutine.run_bind,
      Coroutine.run_perform, act]
    cases (db.save record).1 with
    | error e => rfl
    | ok row => simp only [Coroutine.run_ofExcept]
  rw [hdb, InventoryDb.SavesRecord]
  rcases save_cases record db with
    ⟨hstored, db', hsave, hwarehouses, hrecords⟩ | ⟨hmissing, e, hsave⟩
  · have hput := db.records.put_eq_self_iff (db.target record.toRow)
    rw [(db.target_toRow record).1] at hput
    rw [hsave]
    constructor
    · rintro hsame ⟨_, hne⟩
      exact hne (hput.mp (hrecords.symm.trans (congrArg InventoryDb.records hsame)))
    · intro hsaves
      have hsame := not_not.mp fun hne => hsaves ⟨hstored, hne⟩
      exact InventoryDb.ext hwarehouses (hrecords.trans (hput.mpr hsame))
  · rw [hsave]
    exact iff_of_true rfl fun hsaves => hmissing hsaves.1

/-- `get` of a warehouse looks it up. -/
theorem loads_getWarehouse (pg : Postgres) (text : LocationText) (warehouseId : UUID) :
    (WarehouseService.get text warehouseId).Loads (Statement.act pg)
      (fun w => w.db.warehouse? text warehouseId) Database.read := by
  intro w
  simp only [WarehouseService.get, WarehouseRepository.get, InventoryDb.warehouse?,
    Coroutine.bind_eq, Coroutine.run_bind, Coroutine.run_perform, Statement.act]
  cases w.db.warehouses.find? warehouseId with
  | none => exact .inr ⟨rfl, .inl rfl⟩
  | some row =>
    simp only [Option.bind_some, Coroutine.run_bind, Coroutine.run_ofExcept]
    cases WarehouseRepository.rowToEntity text row with
    | error e => exact .inr ⟨rfl, .inr ⟨e, rfl⟩⟩
    | ok warehouse => exact .inl ⟨warehouse, rfl, rfl⟩

/-- `get` of a record looks it up. -/
theorem loads_getRecord (recordId : UUID) (now : Clock) :
    (InventoryRepository.get recordId now).Loads act (fun db => db.record? recordId now) id := by
  intro db
  simp only [InventoryRepository.get, InventoryDb.record?, Coroutine.bind_eq,
    Coroutine.run_bind, Coroutine.run_perform, act]
  cases db.records.find? recordId with
  | none => exact .inr ⟨rfl, .inl rfl⟩
  | some row =>
    simp only [Option.bind_some, Coroutine.run_bind, Coroutine.run_ofExcept]
    cases rowToEntity row now with
    | error e => exact .inr ⟨rfl, .inr ⟨e, rfl⟩⟩
    | ok record => exact .inl ⟨record, rfl, rfl⟩

/-- A warehouse that is read carries the id it is read by. -/
theorem warehouseId_of_warehouse? {text : LocationText} {warehouseId : UUID}
    {warehouse : Warehouse} (h : db.warehouse? text warehouseId = some warehouse) :
    warehouse.warehouseId = warehouseId := by
  obtain ⟨row, hrow, hentity⟩ := Option.bind_eq_some_iff.mp h
  obtain ⟨location, _, hentity⟩ := bind_eq_ok_iff.mp (toOption_eq_some_iff.mp hentity)
  cases hentity
  have hid : row.warehouseId = warehouseId := Table.key_of_find? hrow
  exact hid

/-- The clock does not decide whether a record is read. -/
theorem isSome_record?_congr (recordId : UUID) (now now' : Clock) :
    (db.record? recordId now).isSome = (db.record? recordId now').isSome := by
  unfold InventoryDb.record? rowToEntity
  cases db.records.find? recordId with
  | none => rfl
  | some row =>
    cases hstatus : InventoryStatus.ofValue? row.status <;> simp [hstatus, Except.toOption]

end Calls

section Methods

variable {w : World} {db : InventoryDb}

/-- An update of a warehouse that is read stores it. -/
theorem db_updateWarehouse_eq_iff (backend : Backend) {warehouse : Warehouse}
    (h : (w.db.warehouse? backend.text warehouse.warehouseId).isSome) :
    ((WarehouseService.update backend.text warehouse).run
        (Statement.act backend.pg) w).2.db = w.db ↔ ¬ SavesWarehouse backend warehouse w.read := by
  obtain ⟨_, _, hrun⟩ | ⟨hnone, _⟩ :=
    (loads_getWarehouse backend.pg backend.text warehouse.warehouseId).run_eq
      (q := WarehouseService.update backend.text warehouse) rfl (Coroutine.refuses_raise _) w
  · rw [hrun, ← db_saveWarehouse_eq_iff]
    exact Iff.rfl
  · simp [hnone] at h

/-- The deletion of a warehouse that is read removes it with its records. -/
theorem run_deleteWarehouse {pg : Postgres} {text : LocationText} {warehouseId : UUID}
    (h : (w.db.warehouse? text warehouseId).isSome) :
    (WarehouseService.delete text warehouseId).run (Statement.act pg) w =
      (.ok (), w.read.after (w.db.deleteWarehouse warehouseId)) := by
  obtain ⟨warehouse, _, hrun⟩ | ⟨hnone, _⟩ := loads_getWarehouse pg text warehouseId w
  · rw [WarehouseService.get] at hrun
    simp only [WarehouseService.delete, Coroutine.bind_eq, Coroutine.run_bind, hrun,
      WarehouseRepository.delete, Coroutine.run_perform, Statement.act, Database.db_read]
  · simp [hnone] at h

/-- A change of the status of a record stores it unless the record is not there or has been
shipped. -/
theorem db_updateStatus_eq_iff (recordId : UUID) (status : InventoryStatus) (now : Clock) :
    ((InventoryService.updateStatus recordId status now).run act db).2 = db ↔
      ¬ ∃ record, db.record? recordId now = some record ∧
        (record.status = .shipped → status = .shipped) ∧
        db.SavesRecord (record.updateStatus status (now 2)) := by
  rcases (loads_getRecord recordId now).run_eq
      (q := InventoryService.updateStatus recordId status now) rfl (Coroutine.refuses_raise _) db
      with
    ⟨record, hrecord, hrun⟩ | ⟨hnone, e, hrun⟩
  · rw [hrun]
    dsimp only [id]
    split_ifs with hshipped
    · refine iff_of_true rfl ?_
      rintro ⟨_, hsome, hallowed, _⟩
      cases hrecord.symm.trans hsome
      exact hshipped.2 (hallowed hshipped.1)
    · refine (db_saveRecord_eq_iff _ _).trans (not_congr ⟨fun h => ⟨record, hrecord, ?_, h⟩, ?_⟩)
      · exact fun hstatus => not_not.mp fun hne => hshipped ⟨hstatus, hne⟩
      · rintro ⟨_, hsome, _, h⟩
        cases hrecord.symm.trans hsome
        exact h
  · rw [hrun]
    refine iff_of_true rfl ?_
    rintro ⟨_, hsome, _⟩
    cases hnone.symm.trans hsome

/-- The deletion of a record that is read removes it. -/
theorem run_deleteRecord {recordId : UUID} {now : Clock} (h : (db.record? recordId now).isSome) :
    (InventoryService.deleteRecord recordId now).run act db = (.ok (), db.delete recordId) := by
  obtain ⟨record, _, hrun⟩ | ⟨hnone, _⟩ := loads_getRecord recordId now db
  · simp only [InventoryService.deleteRecord, Coroutine.bind_eq, Coroutine.run_bind, hrun,
      InventoryRepository.delete, Coroutine.run_perform, act, id]
  · simp [hnone] at h

end Methods

section Handlers

variable {backend : Backend} {s : Served World} {α β : Type}

/-- A method of a service in a handler. -/
theorem run_service (p : ServiceProgram α) :
    (service p).run (apiAct backend) s = ((p.run (Statement.act backend.pg) s.world).1,
      { s with world := (p.run (Statement.act backend.pg) s.world).2 }) := by
  unfold apiAct service
  apply Handler.run_call
  · exact fun _ _ => congrFun Except.map_id _
  · exact fun _ _ => rfl

/-- A method of the `InventoryService` runs on the tables. -/
theorem run_inService (pg : Postgres) (p : Program α) (w : World) :
    ((inService p).run (Statement.act pg) w).1 = (p.run act w.db).1 ∧
      ((inService p).run (Statement.act pg) w).2.db = (p.run act w.db).2 := by
  refine Coroutine.run_lift_of_view ?_ ?_ p w
  · exact fun _ _ => congrFun Except.map_id _
  · exact fun _ _ => rfl

theorem loads_service {p : ServiceProgram (Option α)} {value? : World → Option α}
    {next : World → World} (h : p.Loads (Statement.act backend.pg) value? next) :
    (service p).Loads (apiAct backend) (fun s => value? s.world)
      fun s => { s with world := next s.world } := by
  unfold apiAct service
  refine Handler.loads_call ?_ ?_ h
  · exact fun _ _ => congrFun Except.map_id _
  · exact fun _ _ => rfl

theorem refuses_announce (domainEvent : DomainEvent) (draws : EventDraws) :
    (announce domainEvent draws).Refuses (apiAct backend) :=
  Handler.refuses_publishEvent _ _

/-- What a handler makes of its result has no effect. -/
theorem snd_handle {request : Request} {p : ApiProgram β} {respond : β → Response}
    (h : request.handler backend.text = p.bind fun b => .ret (respond b)) :
    (request.handle backend s).2 = (p.run (apiAct backend) s).2 := by
  rw [Request.handle, h]
  exact Coroutine.snd_run_map p respond s

/-- A handler that looks a warehouse up first goes on with it or raises there. -/
theorem snd_handle_loadsWarehouse {request : Request} {warehouseId : UUID}
    {k : Option Warehouse → ApiProgram β} {respond : β → Response}
    (h : request.handler backend.text =
      ((service (WarehouseService.get backend.text warehouseId)).bind k).bind
        fun b => .ret (respond b))
    (hnone : (k none).Refuses (apiAct backend)) :
    (∃ a, s.world.db.warehouse? backend.text warehouseId = some a ∧
      (request.handle backend s).2 =
        ((k (some a)).run (apiAct backend) { s with world := s.world.read }).2) ∨
    (s.world.db.warehouse? backend.text warehouseId = none ∧
      (request.handle backend s).2 = { s with world := s.world.read }) := by
  rw [Request.handle, h]
  exact (loads_service (loads_getWarehouse backend.pg backend.text warehouseId)).snd_run_map
    respond hnone s

/-- A handler that announces what it has stored. -/
theorem snd_announced (p : ServiceProgram α) {k : α → ApiProgram β}
    (hk : ∀ a, (k a).Idle (apiAct backend)) :
    (((service p).bind k).run (apiAct backend) s).2 =
      { s with world := (p.run (Statement.act backend.pg) s.world).2 } := by
  rw [Coroutine.run_bind_of_idle _ hk, run_service]

/-- The record of a request is read, or the request is refused. -/
theorem run_recordOf (backend : Backend) (s : Served World) (warehouseId recordId : UUID)
    (now : Clock) : ∃ s' : Served World, s'.world.db = s.world.db ∧
      ((∃ record, s.world.db.record? recordId now = some record ∧
        record.warehouseId = warehouseId ∧
        (InventoryRouter.recordOf warehouseId recordId now).run (apiAct backend) s =
          (.ok record, s')) ∨
      (¬ s.world.db.HasRecord warehouseId recordId now ∧ ∃ e,
        (InventoryRouter.recordOf warehouseId recordId now).run (apiAct backend) s =
          (.error e, s'))) := by
  obtain ⟨hans, hdb⟩ := run_inService backend.pg (InventoryService.getRecord recordId now) s.world
  refine ⟨{ s with world := ((inService (InventoryService.getRecord recordId now)).run
    (Statement.act backend.pg) s.world).2 }, ?_, ?_⟩
  · rcases loads_getRecord recordId now s.world.db with ⟨_, _, hrun⟩ | ⟨_, hrun | ⟨e, hrun⟩⟩ <;>
      exact hdb.trans (congrArg Prod.snd hrun)
  · simp only [InventoryRouter.recordOf, Coroutine.bind_eq, Coroutine.run_bind, run_service, hans]
    simp only [InventoryService.getRecord]
    have hmissing : s.world.db.record? recordId now = none →
        ¬ s.world.db.HasRecord warehouseId recordId now := by
      rintro hnone ⟨_, hsome, _⟩
      cases hnone.symm.trans hsome
    rcases loads_getRecord recordId now s.world.db with
      ⟨record, hrecord, hrun⟩ | ⟨hnone, hrun | ⟨e, hrun⟩⟩
    · rw [hrun]
      by_cases hwarehouse : record.warehouseId = warehouseId
      · simp only [if_pos hwarehouse]
        exact .inl ⟨record, hrecord, hwarehouse, rfl⟩
      · simp only [if_neg hwarehouse]
        refine .inr ⟨?_, _, rfl⟩
        rintro ⟨_, hsome, hin⟩
        cases hrecord.symm.trans hsome
        exact hwarehouse hin
    · rw [hrun]
      exact .inr ⟨hmissing hnone, _, rfl⟩
    · rw [hrun]
      exact .inr ⟨hmissing hnone, _, rfl⟩

/-- The relation between worlds with the same tables. -/
def SameTables (w w' : World) : Prop := w'.db = w.db

/-- What the calls of a handler keep. -/
abbrev Respects (backend : Backend) (R : World → World → Prop) : HandlerCall Statement → Prop :=
  Handler.Respects InventoryError.ofQueue backend.adapter (Statement.act backend.pg) R

theorem calls_service {R : World → World → Prop} {p : ServiceProgram α}
    (hp : p.Calls fun op => ∀ w, R w (Statement.act backend.pg op w).2) :
    (service p).Calls (Respects backend R) :=
  Handler.calls_call (fun _ _ => rfl) hp

/-- A record is got by a statement that only reads. -/
theorem calls_getRecord {ok : Call → Prop} (recordId : UUID) (now : Clock)
    (hok : ok (.get recordId)) : (InventoryRepository.get recordId now).Calls ok := by
  refine (Coroutine.calls_perform.mpr hok).found trivial fun row => ?_
  exact (Coroutine.calls_ofExcept _).map _

/-- The handler of a `GET` route only reads. -/
theorem calls_handler_get {request : Request} (h : request.route.method = .get) :
    (request.handler backend.text).Calls (Respects backend SameTables) := by
  cases request with
  | listWarehouses page =>
    exact ((calls_service ((Coroutine.calls_perform.mpr fun w => rfl).bind fun _ =>
      Coroutine.calls_ofExcept _)).map _).map _
  | getWarehouse warehouseId =>
    refine ((calls_service ?_).bind fun warehouse => ?_).map _
    · refine (Coroutine.calls_perform.mpr fun w => rfl).found trivial fun row => ?_
      exact (Coroutine.calls_ofExcept _).map _
    · cases warehouse <;> trivial
  | listInventoryRecordsForShipment warehouseId shipmentId now =>
    have hlist : (InventoryService.listRecordsByShipment shipmentId now).Calls
        fun op => ∀ db, (act op db).2 = db :=
      (Coroutine.calls_perform.mpr fun db => rfl).bind fun _ => Coroutine.calls_ofExcept _
    exact ((calls_service (hlist.lift fun _ hop w => hop w.db)).map _).map _
  | getInventoryRecord warehouseId recordId now =>
    have hget : (InventoryService.getRecord recordId now).Calls
        fun op => ∀ db, (act op db).2 = db := calls_getRecord recordId now fun db => rfl
    refine (((calls_service (hget.lift fun _ hop w => hop w.db)).found (by trivial)
      fun record => ?_).map _).map _
    dsimp only
    split_ifs <;> trivial
  | _ => cases h

/-- A `GET` request leaves the tables alone. -/
theorem db_handle_get {request : Request} (h : request.route.method = .get) :
    (request.handle backend s).2.world.db = s.world.db :=
  Handler.run_keeps (calls_handler_get h) s

end Handlers

section Requests

variable (backend : Backend) (s : Served World)

namespace Request

theorem db_handle_createWarehouse_iff (dto : WarehouseCreateDTO) (warehouseId : UUID) :
    ((createWarehouse dto warehouseId).handle backend s).2.world.db = s.world.db ↔
      ¬ (createWarehouse dto warehouseId).Writes backend s.world := by
  rw [@snd_handle backend s _ (.createWarehouse dto warehouseId) _ _ rfl]
  simp only [WarehouseRouter.createWarehouse, Coroutine.bind_eq, Coroutine.pure_eq]
  cases hdto : WarehouseMapper.createDtoToEntity dto warehouseId with
  | error e =>
    refine iff_of_true rfl ?_
    rintro ⟨_, hok, _⟩
    cases hdto.symm.trans hok
  | ok warehouse =>
    rw [Coroutine.ofExcept_ok, Coroutine.ret_bind, snd_announced _ fun _ => Coroutine.idle_ret _]
    refine (db_saveWarehouse_eq_iff backend warehouse).trans
      (not_congr ⟨fun h => ⟨warehouse, hdto, h⟩, ?_⟩)
    rintro ⟨_, hok, h⟩
    cases hdto.symm.trans hok
    exact h

theorem db_handle_updateWarehouse_iff (warehouseId : UUID) (dto : WarehouseUpdateDTO) :
    ((updateWarehouse warehouseId dto).handle backend s).2.world.db = s.world.db ↔
      ¬ (updateWarehouse warehouseId dto).Writes backend s.world := by
  rcases @snd_handle_loadsWarehouse backend s _ (.updateWarehouse warehouseId dto) warehouseId
    _ _ rfl (Coroutine.refuses_raise _) with ⟨warehouse, hwarehouse, hrun⟩ | ⟨hwarehouse, hrun⟩
  · rw [hrun]
    cases hdto : WarehouseMapper.updateEntityFromDto warehouse dto with
    | error e =>
      simp only [hdto, Coroutine.ofExcept_error, Coroutine.bind_eq, Coroutine.raise_bind,
        Coroutine.run_raise]
      refine iff_of_true rfl ?_
      rintro ⟨_, _, hsome, hok, _⟩
      cases hwarehouse.symm.trans hsome
      cases hdto.symm.trans hok
    | ok new =>
      have hread : (s.world.read.db.warehouse? backend.text new.warehouseId).isSome := by
        rw [WarehouseMapper.updateEntityFromDto_eq_ok hdto, warehouseId_of_warehouse? hwarehouse]
        exact Option.isSome_iff_exists.mpr ⟨warehouse, hwarehouse⟩
      simp only [hdto, Coroutine.ofExcept_ok, Coroutine.bind_eq, Coroutine.pure_eq,
        Coroutine.ret_bind]
      rw [snd_announced _ fun _ => Coroutine.idle_ret _]
      refine (db_updateWarehouse_eq_iff backend hread).trans
        (not_congr ⟨fun h => ⟨warehouse, new, hwarehouse, hdto, h⟩, ?_⟩)
      rintro ⟨_, _, hsome, hok, h⟩
      cases hwarehouse.symm.trans hsome
      cases hdto.symm.trans hok
      exact h
  · rw [hrun]
    refine iff_of_true rfl ?_
    rintro ⟨_, _, hsome, _⟩
    cases hwarehouse.symm.trans hsome

/-- A warehouse that can be read is deleted with its records, and no other is. -/
theorem db_handle_deleteWarehouse (warehouseId : UUID) :
    ((deleteWarehouse warehouseId).handle backend s).2.world.db =
      if (s.world.db.warehouse? backend.text warehouseId).isSome then
        s.world.db.deleteWarehouse warehouseId
      else s.world.db := by
  rcases @snd_handle_loadsWarehouse backend s _ (.deleteWarehouse warehouseId) warehouseId
    _ _ rfl (Coroutine.refuses_raise _) with ⟨warehouse, hwarehouse, hrun⟩ | ⟨hwarehouse, hrun⟩
  · have hread : (s.world.read.db.warehouse? backend.text warehouseId).isSome :=
      Option.isSome_iff_exists.mpr ⟨warehouse, hwarehouse⟩
    rw [hrun, hwarehouse, run_service, run_deleteWarehouse hread]
    rfl
  · rw [hrun, hwarehouse]
    rfl

theorem db_handle_createInventoryRecord_iff (warehouseId : UUID) (dto : InventoryRecordCreateDTO)
    (recordId : UUID) (now : Clock) (draws : EventDraws) :
    ((createInventoryRecord warehouseId dto recordId now draws).handle backend s).2.world.db =
        s.world.db ↔
      ¬ (createInventoryRecord warehouseId dto recordId now draws).Writes backend s.world := by
  rw [@snd_handle backend s _ (.createInventoryRecord warehouseId dto recordId now draws) _ _ rfl]
  simp only [InventoryRouter.createInventoryRecord, Coroutine.bind_eq]
  rw [snd_announced _ fun _ => ((refuses_announce _ _).bind _).idle]
  dsimp only
  rw [(run_inService backend.pg _ s.world).2]
  exact db_saveRecord_eq_iff _ _

theorem db_handle_updateInventoryRecord_iff (warehouseId recordId : UUID)
    (dto : InventoryRecordUpdateDTO) (now : Clock) (draws : EventDraws) :
    ((updateInventoryRecord warehouseId recordId dto now draws).handle backend s).2.world.db =
        s.world.db ↔
      ¬ (updateInventoryRecord warehouseId recordId dto now draws).Writes backend s.world := by
  rw [@snd_handle backend s _ (.updateInventoryRecord warehouseId recordId dto now draws) _ _ rfl]
  simp only [InventoryRouter.updateInventoryRecord, Coroutine.bind_eq]
  rw [Coroutine.run_bind]
  obtain ⟨s', hsame, ⟨record, hrecord, hin, hrun⟩ | ⟨hmissing, e, hrun⟩⟩ :=
    run_recordOf backend s warehouseId recordId now
  · rw [hrun]
    cases hstatus : dto.status with
    | none =>
      refine iff_of_true hsame ?_
      rintro ⟨_, _, _, _, hsome, _⟩
      cases hstatus.symm.trans hsome
    | some status =>
      dsimp only
      rw [snd_announced _ fun _ => ((refuses_announce _ _).bind _).idle]
      dsimp only
      rw [(run_inService backend.pg _ s'.world).2, ← hsame]
      refine (db_updateStatus_eq_iff recordId status (now.after 2)).trans (not_congr ⟨?_, ?_⟩)
      · rintro ⟨loaded, hloaded, hallowed, hsaves⟩
        exact ⟨⟨record, hrecord, hin⟩, loaded, status, hsame ▸ hloaded, hstatus, hallowed,
          hsame ▸ hsaves⟩
      · rintro ⟨_, loaded, _, hloaded, hsome, hallowed, hsaves⟩
        cases hstatus.symm.trans hsome
        exact ⟨loaded, hsame ▸ hloaded, hallowed, hsame ▸ hsaves⟩
  · rw [hrun]
    exact iff_of_true hsame fun hwrites => hmissing hwrites.1

/-- A record that can be read in its warehouse is deleted, and no other is. -/
theorem db_handle_deleteInventoryRecord (warehouseId recordId : UUID) (now : Clock)
    (draws : EventDraws) :
    (s.world.db.HasRecord warehouseId recordId now ∧
      ((deleteInventoryRecord warehouseId recordId now draws).handle backend s).2.world.db =
        s.world.db.delete recordId) ∨
    (¬ s.world.db.HasRecord warehouseId recordId now ∧
      ((deleteInventoryRecord warehouseId recordId now draws).handle backend s).2.world.db =
        s.world.db) := by
  rw [@snd_handle backend s _ (.deleteInventoryRecord warehouseId recordId now draws) _ _ rfl]
  simp only [InventoryRouter.deleteInventoryRecord, Coroutine.bind_eq]
  rw [Coroutine.run_bind]
  obtain ⟨s', hsame, ⟨record, hrecord, hin, hrun⟩ | ⟨hmissing, e, hrun⟩⟩ :=
    run_recordOf backend s warehouseId recordId now
  · have hread : (s'.world.db.record? recordId (now.after 2)).isSome := by
      rw [isSome_record?_congr _ _ now, hsame, hrecord]
      rfl
    refine .inl ⟨⟨record, hrecord, hin⟩, ?_⟩
    rw [hrun]
    dsimp only
    rw [snd_announced _ fun _ => (refuses_announce _ _).idle]
    dsimp only
    rw [(run_inService backend.pg _ s'.world).2, run_deleteRecord hread, hsame]
  · exact .inr ⟨hmissing, by rw [hrun]; exact hsame⟩

/-- A request changes the tables under its condition and under no other. -/
theorem db_handle_eq_iff (request : Request) :
    (request.handle backend s).2.world.db = s.world.db ↔ ¬ request.Writes backend s.world := by
  cases request with
  | createWarehouse => exact db_handle_createWarehouse_iff backend s _ _
  | updateWarehouse => exact db_handle_updateWarehouse_iff backend s _ _
  | deleteWarehouse warehouseId =>
    rw [db_handle_deleteWarehouse]
    split_ifs with hwarehouse
    · refine iff_of_false (fun hsame => ?_) (not_not.mpr hwarehouse)
      have hgone := (s.world.db.warehouses.removeWhere_key_eq_self_iff warehouseId).mp
        (congrArg InventoryDb.warehouses hsame)
      simp [InventoryDb.warehouse?, hgone] at hwarehouse
    · exact iff_of_true rfl hwarehouse
  | createInventoryRecord => exact db_handle_createInventoryRecord_iff backend s _ _ _ _ _
  | updateInventoryRecord => exact db_handle_updateInventoryRecord_iff backend s _ _ _ _ _
  | deleteInventoryRecord warehouseId recordId now draws =>
    obtain ⟨hrecord, hdb⟩ | ⟨hmissing, hdb⟩ :=
      db_handle_deleteInventoryRecord backend s warehouseId recordId now draws
    · refine iff_of_false (fun hsame => ?_) (not_not.mpr hrecord)
      have hgone := (s.world.db.records.removeWhere_key_eq_self_iff recordId).mp
        (congrArg InventoryDb.records (hdb.symm.trans hsame))
      obtain ⟨record, hsome, _⟩ := hrecord
      simp [InventoryDb.record?, hgone] at hsome
    · exact iff_of_true hdb hmissing
  | _ => exact iff_of_true (db_handle_get rfl) not_false

/-- A request whose handler announces an event raises. -/
theorem raises_of_eventType? {request : Request} (h : request.eventType?.isSome) :
    ∃ e, (request.handle backend s).1 = .error e := by
  have hraises : ∀ {β : Type} {p : ApiProgram β} {respond : β → Response},
      (∃ e, (p.run (apiAct backend) s).1 = .error e) →
      ∃ e, ((p.bind fun b => .ret (respond b)).run (apiAct backend) s).1 = .error e := by
    rintro β p respond ⟨e, he⟩
    exact ⟨e, by rw [Coroutine.run_bind, he]⟩
  cases request with
  | createInventoryRecord warehouseId dto recordId now draws =>
    refine hraises ?_
    simp only [InventoryRouter.createInventoryRecord, Coroutine.bind_eq]
    exact Coroutine.run_bind_of_refuses _ (fun _ => (refuses_announce _ _).bind _) s
  | updateInventoryRecord warehouseId recordId dto now draws =>
    refine hraises ?_
    simp only [InventoryRouter.updateInventoryRecord, Coroutine.bind_eq]
    obtain ⟨s', _, ⟨record, _, _, hrun⟩ | ⟨_, e, hrun⟩⟩ :=
      run_recordOf backend s warehouseId recordId now
    · rw [Coroutine.run_bind, hrun]
      cases dto.status with
      | none => exact ⟨_, rfl⟩
      | some status =>
        exact Coroutine.run_bind_of_refuses _ (fun _ => (refuses_announce _ _).bind _) s'
    · exact ⟨e, by rw [Coroutine.run_bind, hrun]⟩
  | deleteInventoryRecord warehouseId recordId now draws =>
    refine hraises ?_
    simp only [InventoryRouter.deleteInventoryRecord, Coroutine.bind_eq]
    obtain ⟨s', _, ⟨record, _, _, hrun⟩ | ⟨_, e, hrun⟩⟩ :=
      run_recordOf backend s warehouseId recordId now
    · rw [Coroutine.run_bind, hrun]
      exact Coroutine.run_bind_of_refuses _ (fun _ => refuses_announce _ _) s'
    · exact ⟨e, by rw [Coroutine.run_bind, hrun]⟩
  | _ => cases h

end Request

end Requests

end SupplyChainTracker.Warehouse
