import SupplyChainTracker.Warehouse.Inventory

/-!
# `WarehouseCommandWorker`

The handler of release commands. One pass over the records of a shipment takes each
of them back to `RECEIVED` unless it has been shipped, and a second pass finds
nothing left to do.
-/

namespace SupplyChainTracker.Warehouse

namespace WarehouseCommandWorker

/-- The topic that the worker consumes. -/
def commandTopic : String := "inventory.commands"

/-- Release one record after the other; whatever `update_status` raises is only logged. -/
def releaseEach (records : List InventoryRecord) (now : Clock) : Program Unit :=
  Coroutine.inTurn (fun (p : InventoryRecord × Nat) =>
    InventoryService.updateStatus p.1.recordId .received (now.after (5 * p.2))) records.zipIdx

/-- `_handle_release_inventory`. -/
def handleReleaseInventory (command : Command) (now : Clock) : Program Unit :=
  match command.payload.get? "shipment_id" with
  | none => .raise (.attributeError command.payload.noAttributeGet)
  | some none => return ()
  | some (some raw) =>
    if !raw.truthy then return ()
    else match raw.uuid with
      | none => return ()
      | some shipmentId => do
        let records ← InventoryService.listRecordsByShipment shipmentId now
        releaseEach records (now.after (2 * records.length))

/-- `_handle_command`; a command of another type is skipped. -/
def handleCommand (command : Command) (now : Clock) : Program Unit :=
  if command.commandType = ReleaseInventoryCommand.commandType then
    handleReleaseInventory command now
  else return ()

end WarehouseCommandWorker

/-- The shipment whose records the handling of a command releases, if it releases any. -/
def releasedShipment? (command : Command) : Option UUID :=
  if command.commandType = ReleaseInventoryCommand.commandType then
    match command.payload.get? "shipment_id" with
    | some (some raw) => if raw.truthy then raw.uuid else none
    | _ => none
  else none

@[simp] theorem releasedShipment?_create (shipmentId warehouseId : UUID) (items : List Json)
    (sagaId : UUID) (reason : Json) (commandId : UUID) :
    releasedShipment? (ReleaseInventoryCommand.create shipmentId warehouseId items sagaId reason
      commandId) = some shipmentId := by
  have hpayload : (ReleaseInventoryCommand.create shipmentId warehouseId items sagaId reason
      commandId).payload.get? "shipment_id" = some (some (.str shipmentId.str)) := rfl
  simp only [releasedShipment?, hpayload, Json.truthy_str_uuid, Json.uuid_str, if_true]
  rfl

/-- Every stored status is known. -/
def InventoryDb.Loadable (db : InventoryDb) : Prop :=
  ∀ r ∈ db.records.rows, ∃ status : InventoryStatus, r.status = status.value

/-- A row without the time of its last update. -/
def InventoryRow.timeless (r : InventoryRow) : InventoryRow := { r with updatedAt := 0 }

/-- The row back in `RECEIVED`, unless it has been shipped. -/
def InventoryRow.released (r : InventoryRow) : InventoryRow :=
  if r.status = InventoryStatus.shipped.value then r
  else { r with status := InventoryStatus.received.value }

/-- The row with another status, unless it has been shipped. -/
def InventoryRow.written (status : InventoryStatus) (r : InventoryRow) : InventoryRow :=
  if r.status = InventoryStatus.shipped.value then r
  else { r with status := status.value }

/-- The records without the times of their last updates. -/
def InventoryDb.view (db : InventoryDb) : List InventoryRow := db.records.rows.map (·.timeless)

/-- Release the rows that satisfy a condition. -/
def releaseWhere (p : InventoryRow → Bool) (rows : List InventoryRow) : List InventoryRow :=
  rows.map fun r => if p r then r.released else r

namespace InventoryRow

@[simp] theorem recordId_released (r : InventoryRow) : r.released.recordId = r.recordId := by
  unfold released
  split <;> rfl

@[simp] theorem shipmentId_released (r : InventoryRow) :
    r.released.shipmentId = r.shipmentId := by
  unfold released
  split <;> rfl

@[simp] theorem released_released (r : InventoryRow) : r.released.released = r.released := by
  have hne : InventoryStatus.received.value ≠ InventoryStatus.shipped.value := by decide
  unfold released
  split <;> simp_all

@[simp] theorem recordId_timeless (r : InventoryRow) : r.timeless.recordId = r.recordId := rfl

@[simp] theorem shipmentId_timeless (r : InventoryRow) :
    r.timeless.shipmentId = r.shipmentId := rfl

/-- A release writes `RECEIVED`. -/
theorem written_received (r : InventoryRow) : r.written .received = r.released := rfl

/-- What is written keeps what identifies a record. -/
theorem ids_written (status : InventoryStatus) (r : InventoryRow) :
    (r.written status).recordId = r.recordId ∧ (r.written status).shipmentId = r.shipmentId ∧
      (r.written status).warehouseId = r.warehouseId := by
  unfold written
  split <;> exact ⟨rfl, rfl, rfl⟩

theorem timeless_written (status : InventoryStatus) (r : InventoryRow) :
    (r.written status).timeless = r.timeless.written status := by
  by_cases h : r.status = InventoryStatus.shipped.value <;> simp [written, timeless, h]

/-- A row whose status may be left is stored as what is written. -/
theorem timeless_written_of_allowed {r : InventoryRow} {status newStatus : InventoryStatus}
    (hst : r.status = status.value) (hallowed : ¬ (status = .shipped ∧ newStatus ≠ .shipped))
    (updatedAt : DateTime) :
    InventoryRow.timeless { r with status := newStatus.value, updatedAt := updatedAt } =
      r.timeless.written newStatus := by
  rw [← timeless_written, written]
  split
  · rename_i hshipped
    have hstatus : status = .shipped := InventoryStatus.value_injective (hst.symm.trans hshipped)
    have hnew : newStatus = .shipped := not_not.mp fun hne => hallowed ⟨hstatus, hne⟩
    rw [hnew, ← hshipped]
    rfl
  · rfl

end InventoryRow

/-- Releases of rows that are told apart by what a release keeps take place at once. -/
theorem releaseWhere_releaseWhere {p q : InventoryRow → Bool}
    (hq : ∀ r, q r.released = q r) (rows : List InventoryRow) :
    releaseWhere q (releaseWhere p rows) = releaseWhere (fun r => p r || q r) rows := by
  simp only [releaseWhere, List.map_map]
  refine List.map_congr_left fun r _ => ?_
  by_cases hp : p r <;> by_cases hqr : q r <;> simp [hp, hqr, hq]

section Release

variable {db : InventoryDb} (now : Clock)

/-- The upsert of a stored record that stays in its warehouse. -/
theorem save_stored {row : InventoryRow} (record : InventoryRecord)
    (hrow : db.records.find? record.recordId = some row)
    (hship : record.shipmentId = row.shipmentId) (hwh : record.warehouseId = row.warehouseId) :
    ∃ db', db.save record =
        (.ok { row with status := record.status.value, updatedAt := record.updatedAt }, db') ∧
      db'.records = db.records.put
        { row with status := record.status.value, updatedAt := record.updatedAt } ∧
      db'.warehouses = db.warehouses := by
  have htarget : db.target record.toRow =
      { row with status := record.status.value, updatedAt := record.updatedAt } := by
    unfold InventoryDb.target
    rw [show db.records.find? record.toRow.recordId = some row from hrow]
    simp only [InventoryRecord.toRow, hship, hwh]
  have hstored : (db.warehouses.find? (db.target record.toRow).warehouseId).isSome := by
    rw [htarget]
    exact db.warehouseOf row (Table.mem_of_find? hrow)
  have hsave : (db.save record).1 = .ok (db.target record.toRow) ∧
      (db.save record).2.records = db.records.put (db.target record.toRow) ∧
      (db.save record).2.warehouses = db.warehouses := by
    simp only [InventoryDb.save, hstored, dif_pos, and_self]
  rw [htarget] at hsave
  exact ⟨(db.save record).2, Prod.ext hsave.1 rfl, hsave.2⟩

/-- A loadable row is read as a record of its own columns. -/
theorem rowToEntity_of_status {row : InventoryRow} {status : InventoryStatus}
    (h : row.status = status.value) :
    rowToEntity row now =
      .ok ⟨row.recordId, row.shipmentId, row.warehouseId, status, now 0, now 1⟩ := by
  simp [rowToEntity, h]

/-- Where no stored row changes, neither do the records. -/
theorem InventoryDb.view_eq_map {f : InventoryRow → InventoryRow}
    (hf : ∀ r ∈ db.records.rows, f r.timeless = r.timeless) : db.view = db.view.map f := by
  rw [InventoryDb.view, List.map_map]
  exact List.map_congr_left fun r hr => (hf r hr).symm

/-- Replacing a stored row by one with its key. -/
private theorem view_put {db' : InventoryDb} {row new : InventoryRow}
    (hrow : row ∈ db.records.rows) (hrecords : db'.records = db.records.put new)
    (hid : row.recordId = new.recordId) :
    db'.view = db.view.map fun r => if row.recordId = r.recordId then new.timeless else r := by
  rw [InventoryDb.view, hrecords, db.records.rows_put_of_mem hrow hid, InventoryDb.view,
    List.map_map, List.map_map]
  refine List.map_congr_left fun r _ => ?_
  by_cases hr : r.recordId = new.recordId
  · have hr' : row.recordId = r.recordId := hid.trans hr.symm
    simp [hr, hr']
  · have hr' : row.recordId ≠ r.recordId := fun h => hr (h.symm.trans hid)
    simp [hr, hr']

/-- What an operation leaves behind when all it does is to release rows. -/
structure ReleasesWhere (p : InventoryRow → Bool) (db db' : InventoryDb) : Prop where
  warehouses : db'.warehouses = db.warehouses
  view : db'.view = releaseWhere p db.view

/-- Released rows can still be read. -/
theorem ReleasesWhere.loadable {p : InventoryRow → Bool} {db' : InventoryDb}
    (h : ReleasesWhere p db db') (hload : db.Loadable) : db'.Loadable := by
  intro r hr
  have hmem : r.timeless ∈ releaseWhere p db.view := h.view ▸ List.mem_map_of_mem hr
  obtain ⟨t, ht, heq⟩ := List.mem_map.mp hmem
  obtain ⟨s, hs, rfl⟩ := List.mem_map.mp ht
  obtain ⟨status, hst⟩ := hload s hs
  have hstatus : r.status = (if p s.timeless then s.timeless.released else s.timeless).status :=
    (congrArg InventoryRow.status heq).symm
  rw [hstatus]
  split
  · unfold InventoryRow.released
    split
    · exact ⟨status, hst⟩
    · exact ⟨.received, rfl⟩
  · exact ⟨status, hst⟩

/-- Nothing needs to change when the selected rows have been shipped. -/
theorem releasesWhere_refl {p : InventoryRow → Bool}
    (h : ∀ r ∈ db.records.rows, p r.timeless → r.status = InventoryStatus.shipped.value) :
    ReleasesWhere p db db := by
  refine ⟨rfl, db.view_eq_map fun r hr => ?_⟩
  by_cases hp : p r.timeless
  · have hshipped : r.timeless.status = InventoryStatus.shipped.value := h r hr hp
    rw [if_pos hp, InventoryRow.released, if_pos hshipped]
  · rw [if_neg hp]

/-- Reading a stored record. -/
theorem run_get {recordId : UUID} {row : InventoryRow} {status : InventoryStatus}
    (hrow : db.records.find? recordId = some row) (hst : row.status = status.value) :
    (InventoryRepository.get recordId now).run act db =
      (.ok (some ⟨row.recordId, row.shipmentId, row.warehouseId, status, now 0, now 1⟩), db) := by
  simp [InventoryRepository.get, Coroutine.run_bind, act, hrow, rowToEntity_of_status now hst]

/-- `update_status` writes the status of the record, and changes nothing where it raises. -/
theorem run_updateStatus (hload : db.Loadable) (recordId : UUID) (newStatus : InventoryStatus) :
    ((InventoryService.updateStatus recordId newStatus now).run act db).2.warehouses =
        db.warehouses ∧
      ((InventoryService.updateStatus recordId newStatus now).run act db).2.view =
        db.view.map fun r => if recordId = r.recordId then r.written newStatus else r := by
  cases hrow : db.records.find? recordId with
  | none =>
    have hrun : ((InventoryService.updateStatus recordId newStatus now).run act db).2 = db := by
      simp [InventoryService.updateStatus, InventoryRepository.get, Coroutine.run_bind, act, hrow]
    rw [hrun]
    refine ⟨rfl, db.view_eq_map fun r hr => if_neg fun hid => ?_⟩
    exact absurd hid.symm ((db.records.find?_eq_none_iff _).mp hrow r hr)
  | some row =>
    have hmem := Table.mem_of_find? hrow
    have hid : row.recordId = recordId := Table.key_of_find? hrow
    obtain ⟨status, hst⟩ := hload row hmem
    by_cases hrefused : status = .shipped ∧ newStatus ≠ .shipped
    · have hrun : ((InventoryService.updateStatus recordId newStatus now).run act db).2 = db := by
        simp [InventoryService.updateStatus, Coroutine.run_bind, run_get now hrow hst, hrefused]
      rw [hrun]
      refine ⟨rfl, db.view_eq_map fun r hr => ?_⟩
      split
      · rename_i hr'
        have hrow' : r = row := db.records.eq_of_key_eq hr hmem (hr'.symm.trans hid.symm)
        have hshipped : r.timeless.status = InventoryStatus.shipped.value := by
          rw [hrow', ← hrefused.1]
          exact hst
        rw [InventoryRow.written, if_pos hshipped]
      · rfl
    · obtain ⟨db', hsave, hrecords, hwarehouses⟩ := save_stored
        ⟨row.recordId, row.shipmentId, row.warehouseId, newStatus, now 0, now 2⟩
        (hid.symm ▸ hrow) rfl rfl
      have hrun : ((InventoryService.updateStatus recordId newStatus now).run act db).2 = db' := by
        simp [InventoryService.updateStatus, Coroutine.run_bind, run_get now hrow hst, hrefused,
          InventoryRepository.save, act, InventoryRecord.updateStatus, hsave, rowToEntity]
      rw [hrun]
      refine ⟨hwarehouses, (view_put hmem hrecords rfl).trans (List.map_congr_left fun r hr => ?_)⟩
      obtain ⟨stored, hstored, rfl⟩ := List.mem_map.mp hr
      subst hid
      split
      · rename_i hr'
        have hrow' : stored = row := db.records.eq_of_key_eq hstored hmem hr'.symm
        rw [hrow']
        exact InventoryRow.timeless_written_of_allowed hst hrefused _
      · rfl

/-- `update_status` to `RECEIVED` releases the record, and changes nothing where it raises. -/
theorem releasesWhere_updateStatus (hload : db.Loadable) (recordId : UUID) :
    ReleasesWhere (fun r => recordId = r.recordId) db
      ((InventoryService.updateStatus recordId .received now).run act db).2 := by
  obtain ⟨hwarehouses, hview⟩ := run_updateStatus now hload recordId .received
  refine ⟨hwarehouses, hview.trans (List.map_congr_left fun r _ => ?_)⟩
  simp only [InventoryRow.written_received, decide_eq_true_eq]

/-- Two passes that release rows release the rows of both. -/
theorem ReleasesWhere.trans {p q : InventoryRow → Bool} {db' db'' : InventoryDb}
    (h : ReleasesWhere p db db') (h' : ReleasesWhere q db' db'') (hq : ∀ r, q r.released = q r) :
    ReleasesWhere (fun r => p r || q r) db db'' := by
  refine ⟨h'.warehouses.trans h.warehouses, ?_⟩
  rw [h'.view, h.view]
  exact releaseWhere_releaseWhere hq db.view

/-- Only the stored rows matter. -/
theorem ReleasesWhere.congr {p q : InventoryRow → Bool} {db' : InventoryDb}
    (h : ReleasesWhere p db db') (hpq : ∀ r ∈ db.view, p r = q r) : ReleasesWhere q db db' := by
  refine ⟨h.warehouses, h.view.trans (List.map_congr_left fun r hr => ?_)⟩
  rw [hpq r hr]

/-- One pass over records releases them all. -/
theorem releasesWhere_inTurn (hload : db.Loadable) (records : List (InventoryRecord × Nat)) :
    ReleasesWhere (fun r => records.any fun p => p.1.recordId = r.recordId) db
      (records.foldl (fun db p => ((InventoryService.updateStatus p.1.recordId .received
        (now.after (5 * p.2))).run act db).2) db) := by
  induction records generalizing db with
  | nil => exact releasesWhere_refl nofun
  | cons p records ih =>
    have hone := releasesWhere_updateStatus (now.after (5 * p.2)) hload p.1.recordId
    exact hone.trans (ih (hone.loadable hload)) fun r => by simp

/-- Rows that are loadable are read as records of the same ids. -/
theorem rowsToEntities_of_loadable {rows : List InventoryRow}
    (h : ∀ r ∈ rows, ∃ status : InventoryStatus, r.status = status.value) :
    ∃ records, rowsToEntities now rows = .ok records ∧
      records.map InventoryRecord.recordId = rows.map InventoryRow.recordId := by
  induction rows generalizing now with
  | nil => exact ⟨[], rfl, rfl⟩
  | cons r rows ih =>
    obtain ⟨status, hst⟩ := h r (List.mem_cons_self ..)
    obtain ⟨records, hrecords, hids⟩ := ih (now.after 2)
      (fun s hs => h s (List.mem_cons_of_mem _ hs))
    refine ⟨⟨r.recordId, r.shipmentId, r.warehouseId, status, now 0, now 1⟩ :: records, ?_,
      congrArg (r.recordId :: ·) hids⟩
    simp [rowsToEntities, rowToEntity_of_status now hst, hrecords, bind, Except.bind, pure,
      Except.pure]

/-- The rows listed for a shipment are its stored rows. -/
theorem mem_listByShipment {shipmentId : UUID} {r : InventoryRow} :
    r ∈ db.listByShipment shipmentId ↔ r ∈ db.records.rows ∧ r.shipmentId = shipmentId := by
  simp [InventoryDb.listByShipment, List.mem_insertionSort]

/-- A stored row is listed for the shipment that it names, and for no other. -/
theorem recordId_mem_listed_iff {shipmentId : UUID} {r : InventoryRow} (hr : r ∈ db.records.rows) :
    r.recordId ∈ (db.listByShipment shipmentId).map InventoryRow.recordId ↔
      r.shipmentId = shipmentId := by
  constructor
  · intro h
    obtain ⟨t, ht, hid⟩ := List.mem_map.mp h
    obtain ⟨ht, hship⟩ := mem_listByShipment.mp ht
    exact db.records.eq_of_key_eq ht hr hid ▸ hship
  · exact fun hship => List.mem_map_of_mem (mem_listByShipment.mpr ⟨hr, hship⟩)

/-- The records listed for a shipment are those of the rows that name it. -/
private theorem any_listed_eq {shipmentId : UUID} {records : List InventoryRecord}
    (hids : records.map InventoryRecord.recordId =
      (db.listByShipment shipmentId).map InventoryRow.recordId) {r : InventoryRow}
    (hr : r ∈ db.view) :
    (records.zipIdx.any fun p => p.1.recordId = r.recordId) =
      decide (r.shipmentId = shipmentId) := by
  obtain ⟨s, hs, rfl⟩ := List.mem_map.mp hr
  have hlisted : (records.zipIdx.any fun p => p.1.recordId = s.timeless.recordId) = true ↔
      s.recordId ∈ records.map InventoryRecord.recordId := by
    have hfst : (records.zipIdx.map Prod.fst).any (fun r => r.recordId = s.recordId) =
        records.zipIdx.any fun p => p.1.recordId = s.recordId := List.any_map
    rw [InventoryRow.recordId_timeless, ← hfst, List.zipIdx_map_fst]
    simp
  rw [Bool.eq_iff_iff, hlisted, hids, decide_eq_true_eq]
  exact recordId_mem_listed_iff hs

/-- The pass over the records of a shipment lets no exception escape and releases exactly these. -/
theorem run_release (hload : db.Loadable) (shipmentId : UUID) :
    ∃ db', ((InventoryService.listRecordsByShipment shipmentId now).bind fun records =>
        WarehouseCommandWorker.releaseEach records (now.after (2 * records.length))).run act db =
          (.ok (), db') ∧
      ReleasesWhere (fun r => r.shipmentId = shipmentId) db db' := by
  have hlisted : ∀ r ∈ db.listByShipment shipmentId,
      ∃ status : InventoryStatus, r.status = status.value :=
    fun r hr => hload r (mem_listByShipment.mp hr).1
  obtain ⟨records, hrecords, hids⟩ := rowsToEntities_of_loadable now hlisted
  refine ⟨_, ?_, (releasesWhere_inTurn (now.after (2 * records.length)) hload
    records.zipIdx).congr fun r hr => any_listed_eq hids hr⟩
  simp only [Coroutine.run_bind, InventoryService.listRecordsByShipment,
    InventoryRepository.listByShipment, Coroutine.bind_eq, Coroutine.run_perform, act, hrecords,
    Coroutine.ofExcept_ok, Coroutine.run_ret, WarehouseCommandWorker.releaseEach,
    Coroutine.run_inTurn]

/-- Handling the release command of a shipment lets no exception escape and releases exactly the
records of the shipment. -/
theorem run_handleCommand (hload : db.Loadable) (command : Command) (shipmentId : UUID)
    (htype : command.commandType = ReleaseInventoryCommand.commandType)
    (hpayload : command.payload.get? "shipment_id" = some (some (.str shipmentId.str))) :
    ∃ db', (WarehouseCommandWorker.handleCommand command now).run act db = (.ok (), db') ∧
      ReleasesWhere (fun r => r.shipmentId = shipmentId) db db' := by
  obtain ⟨db', hrun, hreleases⟩ := run_release now hload shipmentId
  refine ⟨db', ?_, hreleases⟩
  simpa only [WarehouseCommandWorker.handleCommand, htype, if_true,
    WarehouseCommandWorker.handleReleaseInventory, hpayload, Json.truthy_str_uuid, Json.uuid_str,
    Bool.not_true, Bool.false_eq_true, if_false, Coroutine.bind_eq] using hrun

/-- Handling any command releases the records of the shipment that it names, if it is a release
command that names one. -/
theorem releasesWhere_handleCommand (hload : db.Loadable) (command : Command) :
    ReleasesWhere (fun r => releasedShipment? command = some r.shipmentId) db
      ((WarehouseCommandWorker.handleCommand command now).run act db).2 := by
  have hnone : releasedShipment? command = none →
      ReleasesWhere (fun r => releasedShipment? command = some r.shipmentId) db db := by
    intro h
    refine releasesWhere_refl fun r _ hr => ?_
    rw [h] at hr
    cases of_decide_eq_true hr
  unfold WarehouseCommandWorker.handleCommand
  by_cases htype : command.commandType = ReleaseInventoryCommand.commandType
  · rw [if_pos htype]
    unfold WarehouseCommandWorker.handleReleaseInventory
    cases hpayload : command.payload.get? "shipment_id" with
    | none => exact hnone (by simp [releasedShipment?, hpayload])
    | some raw? =>
      cases raw? with
      | none => exact hnone (by simp [releasedShipment?, hpayload])
      | some raw =>
        by_cases htruthy : raw.truthy = true
        · cases huuid : raw.uuid with
          | none =>
            simp only [htruthy, huuid]
            exact hnone (by simp [releasedShipment?, hpayload, huuid])
          | some shipmentId =>
            have hnames : releasedShipment? command = some shipmentId := by
              simp [releasedShipment?, htype, hpayload, htruthy, huuid]
            obtain ⟨db', hrun, hreleases⟩ := run_release now hload shipmentId
            simp only [htruthy, huuid, Bool.not_true, Bool.false_eq_true, if_false,
              Coroutine.bind_eq, hrun, hnames]
            refine hreleases.congr fun r _ => ?_
            simp only [Option.some.injEq, decide_eq_decide]
            exact eq_comm
        · simp only [htruthy]
          exact hnone (by simp [releasedShipment?, hpayload, htruthy])
  · rw [if_neg htype]
    exact hnone (by simp [releasedShipment?, htype])

end Release

end SupplyChainTracker.Warehouse
