import SupplyChainTracker.Warehouse.Effects

/-!
# What a request keeps in the warehouse service

Stored warehouses and inventory records stay stored unless a deletion is requested. Every
other handler only executes statements after which each row is still there.
-/

namespace SupplyChainTracker.Warehouse

/-- Every stored warehouse and every stored record is still stored. -/
structure InventoryDb.Kept (db db' : InventoryDb) : Prop where
  warehouses : db.warehouses.Keeps db'.warehouses
  records : db.records.Keeps db'.records

/-- The condition under which a request deletes a row. -/
def Request.Deletes (text : LocationText) (w : World) : Request → Prop
  | deleteWarehouse warehouseId => (w.db.warehouse? text warehouseId).isSome
  | deleteInventoryRecord warehouseId recordId now _ => w.db.HasRecord warehouseId recordId now
  | _ => False

/-- The requests that may store a row. -/
def Request.Stores : Request → Prop
  | createWarehouse .. => True
  | updateWarehouse .. => True
  | createInventoryRecord .. => True
  | updateInventoryRecord .. => True
  | _ => False

/-- The statements that delete rows. -/
def Statement.Deletes : Statement → Prop
  | shared (.delete _) => True
  | deleteWarehouse _ => True
  | _ => False

section Handlers

variable {backend : Backend} {α : Type}

/-- The relation between worlds in which every stored row is still stored. -/
def KeepsRows (w w' : World) : Prop := w.db.Kept w'.db

theorem keepsRows_refl (w : World) : KeepsRows w w := ⟨.refl _, .refl _⟩

theorem KeepsRows.trans {w w' w'' : World} (h : KeepsRows w w') (h' : KeepsRows w' w'') :
    KeepsRows w w'' :=
  ⟨h.warehouses.trans h'.warehouses, h.records.trans h'.records⟩

/-- No statement but a deletion deletes a row. -/
theorem keepsRows_act {op : Statement} (hop : ¬ op.Deletes) (w : World) :
    KeepsRows w (Statement.act backend.pg op w).2 := by
  cases op with
  | shared op =>
    cases op with
    | get recordId => exact keepsRows_refl w
    | listByShipment shipmentId => exact keepsRows_refl w
    | delete recordId => exact absurd trivial hop
    | save record =>
      rcases save_cases record w.db with ⟨_, db, hsave, hwarehouses, hrecords⟩ | ⟨_, e, hsave⟩
      · simp only [Statement.act, act, hsave]
        refine ⟨?_, ?_⟩
        · rw [Database.db_after, hwarehouses]
          exact .refl _
        · rw [Database.db_after, hrecords]
          exact Table.keeps_put _ _
      · simp only [Statement.act, act, hsave]
        exact keepsRows_refl w
  | saveWarehouse warehouseId name location =>
    simp only [Statement.act, InventoryDb.saveWarehouse]
    split
    · exact keepsRows_refl w
    · exact ⟨Table.keeps_put _ _, .refl _⟩
  | deleteWarehouse warehouseId => exact absurd trivial hop
  | getWarehouse warehouseId => exact keepsRows_refl w
  | listWarehouses limit offset => exact keepsRows_refl w

/-- Each statement is one that deletes nothing. -/
def Deletionless (p : ServiceProgram α) : Prop := p.Calls fun op => ¬ op.Deletes

theorem deletionless_getWarehouse (text : LocationText) (warehouseId : UUID) :
    Deletionless (WarehouseService.get text warehouseId) := by
  refine (Coroutine.calls_perform.mpr fun h => nomatch h).found trivial fun row => ?_
  exact (Coroutine.calls_ofExcept _).map _

theorem deletionless_saveWarehouse (text : LocationText) (warehouse : Warehouse) :
    Deletionless (WarehouseRepository.save text warehouse) :=
  (Coroutine.calls_perform.mpr fun h => nomatch h).bind fun _ => Coroutine.calls_ofExcept _

theorem deletionless_updateWarehouse (text : LocationText) (warehouse : Warehouse) :
    Deletionless (WarehouseService.update text warehouse) := by
  refine (deletionless_getWarehouse text _).found trivial fun existing => ?_
  exact deletionless_saveWarehouse text warehouse

theorem calls_saveRecord {ok : Call → Prop} (record : InventoryRecord) (now : Clock)
    (hok : ok (.save record)) : (InventoryRepository.save record now).Calls ok :=
  (Coroutine.calls_perform.mpr hok).bind fun _ => Coroutine.calls_ofExcept _

theorem deletionless_inService {p : Program α}
    (hp : p.Calls fun op => ¬ (Statement.shared op).Deletes) : Deletionless (inService p) :=
  hp.lift fun _ hop => hop

theorem deletionless_updateStatus (recordId : UUID) (status : InventoryStatus) (now : Clock) :
    Deletionless (inService (InventoryService.updateStatus recordId status now)) := by
  refine deletionless_inService
    ((calls_getRecord recordId now fun h => nomatch h).found trivial fun record => ?_)
  dsimp only
  split_ifs
  · trivial
  · exact calls_saveRecord _ _ fun h => nomatch h

theorem keepsRows_service {p : ServiceProgram α} (hp : Deletionless p) :
    (service p).Calls (Respects backend KeepsRows) :=
  calls_service (hp.imp fun _ hop w => keepsRows_act hop w)

theorem keepsRows_announce (domainEvent : DomainEvent) (draws : EventDraws) :
    (announce domainEvent draws).Calls (Respects backend KeepsRows) :=
  Handler.calls_publishEvent keepsRows_refl _ _

theorem keepsRows_recordOf (warehouseId recordId : UUID) (now : Clock) :
    (InventoryRouter.recordOf warehouseId recordId now).Calls (Respects backend KeepsRows) := by
  refine (keepsRows_service (deletionless_inService
    (calls_getRecord recordId now fun h => nomatch h))).found trivial fun record => ?_
  dsimp only
  split_ifs <;> trivial

/-- A handler that may store a row keeps every row. -/
theorem keepsRows_handler {request : Request} (h : request.Stores) :
    (request.handler backend.text).Calls (Respects backend KeepsRows) := by
  cases request with
  | createWarehouse dto warehouseId =>
    exact ((Coroutine.calls_ofExcept _).bind fun _ =>
      (keepsRows_service (deletionless_saveWarehouse _ _)).map _).map _
  | updateWarehouse warehouseId dto =>
    refine ((keepsRows_service (deletionless_getWarehouse _ _)).found (by trivial)
      fun warehouse => ?_).map _
    exact (Coroutine.calls_ofExcept _).bind fun _ =>
      (keepsRows_service (deletionless_updateWarehouse _ _)).map _
  | createInventoryRecord warehouseId dto recordId now draws =>
    exact ((keepsRows_service (deletionless_inService
      (calls_saveRecord _ _ fun h => nomatch h))).bind fun _ =>
        (keepsRows_announce _ _).map _).map _
  | updateInventoryRecord warehouseId recordId dto now draws =>
    refine ((keepsRows_recordOf warehouseId recordId now).bind fun _ => ?_).map _
    cases dto.status with
    | none => trivial
    | some status => exact (keepsRows_service (deletionless_updateStatus _ _ _)).bind fun _ =>
        (keepsRows_announce _ _).map _
  | _ => cases h

end Handlers

/-- A request keeps every stored row unless it deletes one. -/
theorem Request.kept_handle_iff (backend : Backend) (s : Served World) (request : Request) :
    s.world.db.Kept (request.handle backend s).2.world.db ↔
      ¬ request.Deletes backend.text s.world := by
  by_cases hstores : request.Stores
  · refine iff_of_true (Handler.run_respects (R := KeepsRows) keepsRows_refl
      (fun _ _ _ => KeepsRows.trans) (keepsRows_handler hstores) s) ?_
    cases request <;> first | exact not_false | cases hstores
  · by_cases hdeletes : request.Deletes backend.text s.world
    · refine iff_of_false (fun hkept => ?_) (not_not.mpr hdeletes)
      cases request with
      | deleteWarehouse warehouseId =>
        have hread : (s.world.db.warehouse? backend.text warehouseId).isSome := hdeletes
        obtain ⟨warehouse, hwarehouse⟩ := Option.isSome_iff_exists.mp hread
        obtain ⟨row, hrow, _⟩ := Option.bind_eq_some_iff.mp hwarehouse
        rw [db_handle_deleteWarehouse, if_pos hread] at hkept
        exact Table.not_keeps_removeWhere (Option.isSome_iff_exists.mpr ⟨row, hrow⟩)
          hkept.warehouses
      | deleteInventoryRecord warehouseId recordId now draws =>
        obtain ⟨⟨record, hrecord, _⟩, hdb⟩ | ⟨hmissing, _⟩ :=
          db_handle_deleteInventoryRecord backend s warehouseId recordId now draws
        · obtain ⟨row, hrow, _⟩ := Option.bind_eq_some_iff.mp hrecord
          rw [hdb] at hkept
          exact Table.not_keeps_removeWhere (Option.isSome_iff_exists.mpr ⟨row, hrow⟩)
            hkept.records
        · exact hmissing hdeletes
      | _ => exact hdeletes
    · refine iff_of_true ?_ hdeletes
      have hsame : (request.handle backend s).2.world.db = s.world.db := by
        refine (db_handle_eq_iff backend s request).mpr fun hwrites => ?_
        cases request <;> first | exact hwrites | exact hdeletes hwrites | exact hstores trivial
      rw [hsame]
      exact keepsRows_refl s.world

end SupplyChainTracker.Warehouse
