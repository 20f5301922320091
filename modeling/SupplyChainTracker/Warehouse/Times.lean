import SupplyChainTracker.Core.Run
import SupplyChainTracker.Warehouse.CommandWorker
import SupplyChainTracker.Warehouse.Retention

/-!
# The times of an inventory record

A row keeps the time at which its record was received, and every write renews the time of its last
update. What is read back has neither: `_row_to_entity` leaves both to the defaults of the
constructor, which read the clock. A record is reported as it is stored exactly when these readings
agree with its row.
-/

namespace SupplyChainTracker.Warehouse

/-- An operation of the service that returns records. -/
inductive RecordOp : Type
  | create (record : InventoryRecord) (now : Clock)
  | updateStatus (recordId : UUID) (newStatus : InventoryStatus) (now : Clock)
  | get (recordId : UUID) (now : Clock)
  | listByShipment (shipmentId : UUID) (now : Clock)

/-- The coroutine of an operation, with the records that it returns. -/
def RecordOp.program : RecordOp → Program (List InventoryRecord)
  | create record now => do
      let saved ← InventoryService.createRecord record now
      return [saved]
  | updateStatus recordId newStatus now => do
      let saved ← InventoryService.updateStatus recordId newStatus now
      return [saved]
  | get recordId now => do
      let record? ← InventoryService.getRecord recordId now
      return record?.toList
  | listByShipment shipmentId now => InventoryService.listRecordsByShipment shipmentId now

/-- One operation of a run. -/
def recordStep (op : RecordOp) (db : InventoryDb) : InventoryDb := (op.program.run act db).2

/-- A record has the times that are stored for it. -/
def InventoryDb.Reported (db : InventoryDb) (record : InventoryRecord) : Prop :=
  ∃ row, db.records.find? record.recordId = some row ∧ record.receivedAt = row.receivedAt ∧
    record.updatedAt = row.updatedAt

/-- All records that an operation returns have the times that are stored for them. -/
def Reports (db : InventoryDb) (op : RecordOp) : Prop :=
  ∀ records, (op.program.run act db).1 = .ok records →
    ∀ record ∈ records, (recordStep op db).Reported record

/-- The clock shows the times of a row while it is read. -/
def InventoryRow.InTime (row : InventoryRow) (now : Clock) : Prop :=
  row.receivedAt = now 0 ∧ row.updatedAt = now 1

/-- The clock shows the times of each row while it is read. -/
def RowsInTime : Clock → List InventoryRow → Prop
  | _, [] => True
  | now, row :: rows => row.InTime now ∧ RowsInTime (now.after 2) rows

/-- The clock shows the times of every row that an operation reads back. -/
def RecordOp.InTime (db : InventoryDb) : RecordOp → Prop
  | create record now => (db.warehouses.find? record.warehouseId).isSome →
      ((db.records.find? record.recordId).map InventoryRow.receivedAt).getD record.receivedAt =
        now 0 ∧ record.updatedAt = now 1
  | updateStatus recordId newStatus now => ∀ row, db.records.find? recordId = some row →
      (row.status = InventoryStatus.shipped.value → newStatus = .shipped) →
        row.receivedAt = now 3 ∧ now 2 = now 4
  | get recordId now => ∀ row, db.records.find? recordId = some row → row.InTime now
  | listByShipment shipmentId now => RowsInTime now (db.listByShipment shipmentId)

section Read

variable {db : InventoryDb}

/-- A stored row is read as a record with its times exactly when the clock shows them. -/
theorem reported_iff_inTime {row : InventoryRow} (hrow : db.records.find? row.recordId = some row)
    (status : InventoryStatus) (now : Clock) :
    db.Reported ⟨row.recordId, row.shipmentId, row.warehouseId, status, now 0, now 1⟩ ↔
      row.InTime now := by
  simp only [InventoryDb.Reported, hrow, Option.some.injEq, exists_eq_left', InventoryRow.InTime,
    eq_comm]

/-- A record that is read has the ids of its row and two readings of the clock. -/
theorem eq_of_rowToEntity {row : InventoryRow} {now : Clock} {record : InventoryRecord}
    (h : rowToEntity row now = .ok record) : ∃ status,
      record = ⟨row.recordId, row.shipmentId, row.warehouseId, status, now 0, now 1⟩ := by
  unfold rowToEntity at h
  split at h
  · cases h
    exact ⟨_, rfl⟩
  · cases h

/-- Rows are read as records with their times exactly when the clock shows them all. -/
theorem reported_rows_iff {rows : List InventoryRow}
    (hrows : ∀ row ∈ rows, db.records.find? row.recordId = some row) {now : Clock}
    {records : List InventoryRecord} (hread : rowsToEntities now rows = .ok records) :
    (∀ record ∈ records, db.Reported record) ↔ RowsInTime now rows := by
  induction rows generalizing now records with
  | nil =>
    cases hread
    exact iff_of_true (fun _ h => absurd h List.not_mem_nil) trivial
  | cons row rows ih =>
    obtain ⟨record, hrecord, hread⟩ := bind_eq_ok_iff.mp hread
    obtain ⟨rest, hrest, hread⟩ := bind_eq_ok_iff.mp hread
    cases hread
    obtain ⟨status, rfl⟩ := eq_of_rowToEntity hrecord
    rw [List.forall_mem_cons, reported_iff_inTime (hrows row (List.mem_cons_self ..)), RowsInTime,
      ih (fun row hrow => hrows row (List.mem_cons_of_mem _ hrow)) hrest]

end Read

section Report

variable {db : InventoryDb}

/-- The row that saving a record leaves has the time at which the stored row was received, if there
is one, and takes the status and the time of its update from the record. -/
theorem target_columns (db : InventoryDb) (record : InventoryRecord) :
    (db.target record.toRow).receivedAt =
        ((db.records.find? record.recordId).map InventoryRow.receivedAt).getD record.receivedAt ∧
      (db.target record.toRow).updatedAt = record.updatedAt ∧
      (db.target record.toRow).status = record.status.value := by
  have hid : record.toRow.recordId = record.recordId := rfl
  unfold InventoryDb.target
  rw [hid]
  cases db.records.find? record.recordId <;> exact ⟨rfl, rfl, rfl⟩

/-- A save is refused, or returns its record with two readings of the clock. -/
theorem run_save_cases (db : InventoryDb) (record : InventoryRecord) (now : Clock) :
    ((db.warehouses.find? record.warehouseId).isSome ∧ ∃ db',
      (InventoryRepository.save record now).run act db = (.ok
        ⟨(db.target record.toRow).recordId, (db.target record.toRow).shipmentId,
          (db.target record.toRow).warehouseId, record.status, now 0, now 1⟩, db') ∧
      db'.records = db.records.put (db.target record.toRow)) ∨
    (¬ (db.warehouses.find? record.warehouseId).isSome ∧
      ∃ e, (InventoryRepository.save record now).run act db = (.error e, db)) := by
  have hrun : (InventoryRepository.save record now).run act db =
      match (db.save record).1 with
      | .ok row => (rowToEntity row now, (db.save record).2)
      | .error e => (.error e, (db.save record).2) := by
    simp only [InventoryRepository.save, Coroutine.bind_eq, Coroutine.run_bind,
      Coroutine.run_perform, act]
    cases (db.save record).1 with
    | error e => rfl
    | ok row => simp only [Coroutine.run_ofExcept]
  rcases save_cases record db with ⟨hwarehouse, db', hsave, _, hrecords⟩ | ⟨hwarehouse, e, hsave⟩
  · refine .inl ⟨hwarehouse, db', ?_, hrecords⟩
    rw [hrun, hsave]
    simp only [rowToEntity_of_status now (target_columns db record).2.2]
  · exact .inr ⟨hwarehouse, e, by rw [hrun, hsave]⟩

/-- A saved record is returned with the times of its row exactly when the clock shows the time at
which the record was received and the time that is written. -/
theorem reports_save_iff (record : InventoryRecord) (now : Clock) :
    (∀ saved, ((InventoryRepository.save record now).run act db).1 = .ok saved →
      ((InventoryRepository.save record now).run act db).2.Reported saved) ↔
    ((db.warehouses.find? record.warehouseId).isSome →
      ((db.records.find? record.recordId).map InventoryRow.receivedAt).getD record.receivedAt =
        now 0 ∧ record.updatedAt = now 1) := by
  obtain ⟨hreceived, hupdated, _⟩ := target_columns db record
  rcases run_save_cases db record now with
    ⟨hwarehouse, db', hrun, hrecords⟩ | ⟨hwarehouse, e, hrun⟩
  · have hstored : db'.records.find? (db.target record.toRow).recordId =
        some (db.target record.toRow) := by
      rw [hrecords]
      exact Table.find?_put_self _ _
    simp only [hrun, Except.ok.injEq, forall_eq', reported_iff_inTime hstored,
      InventoryRow.InTime, hreceived, hupdated, hwarehouse, forall_const]
  · simp [hrun, hwarehouse]

/-- What an operation reports that returns the record of a coroutine. -/
theorem reports_bind_iff {α : Type} (p : Program α) (f : α → List InventoryRecord) :
    (∀ records, ((p.bind fun a => .ret (f a)).run act db).1 = .ok records → ∀ record ∈ records,
      ((p.bind fun a => .ret (f a)).run act db).2.Reported record) ↔
    ∀ a, (p.run act db).1 = .ok a → ∀ record ∈ f a, (p.run act db).2.Reported record := by
  rw [Coroutine.run_bind]
  cases (p.run act db).1 with
  | error e => simp
  | ok a => simp only [Coroutine.run_ret, Except.ok.injEq, forall_eq']

/-- The same for a single record. -/
theorem reports_single_iff (p : Program InventoryRecord) :
    (∀ records, ((p.bind fun saved => .ret [saved]).run act db).1 = .ok records →
      ∀ record ∈ records, ((p.bind fun saved => .ret [saved]).run act db).2.Reported record) ↔
    ∀ saved, (p.run act db).1 = .ok saved → (p.run act db).2.Reported saved := by
  rw [reports_bind_iff]
  simp only [List.mem_singleton, forall_eq]

/-- A change of a status reports the stored times exactly when the clock shows the time at which the
record was received and, once more, the time that is written. -/
theorem reports_updateStatus_iff (hload : db.Loadable) (recordId : UUID)
    (newStatus : InventoryStatus) (now : Clock) :
    (∀ saved, ((InventoryService.updateStatus recordId newStatus now).run act db).1 = .ok saved →
      ((InventoryService.updateStatus recordId newStatus now).run act db).2.Reported saved) ↔
    (RecordOp.updateStatus recordId newStatus now).InTime db := by
  cases hrow : db.records.find? recordId with
  | none =>
    have hrun : ((InventoryService.updateStatus recordId newStatus now).run act db) =
        (.error (notFound recordId), db) := by
      simp [InventoryService.updateStatus, InventoryRepository.get, Coroutine.run_bind, act, hrow]
    rw [hrun]
    refine iff_of_true (fun _ h => ?_) fun row hsome => ?_
    · cases h
    · cases hrow.symm.trans hsome
  | some row =>
    have hmem := Table.mem_of_find? hrow
    have hid : row.recordId = recordId := Table.key_of_find? hrow
    obtain ⟨status, hst⟩ := hload row hmem
    have hallowed : (status = .shipped ∧ newStatus ≠ .shipped) ↔
        ¬ (row.status = InventoryStatus.shipped.value → newStatus = .shipped) := by
      rw [hst, InventoryStatus.value_inj, Classical.not_imp]
    have hinTime : (RecordOp.updateStatus recordId newStatus now).InTime db ↔
        ((row.status = InventoryStatus.shipped.value → newStatus = .shipped) →
          row.receivedAt = now 3 ∧ now 2 = now 4) := by
      simp only [RecordOp.InTime, hrow, Option.some.injEq, forall_eq']
    rw [hinTime]
    by_cases hrefused : status = .shipped ∧ newStatus ≠ .shipped
    · have hrun : ∃ e, (InventoryService.updateStatus recordId newStatus now).run act db =
          (.error e, db) := by
        simp [InventoryService.updateStatus, Coroutine.run_bind, run_get now hrow hst, hrefused]
      obtain ⟨e, hrun⟩ := hrun
      rw [hrun]
      refine iff_of_true (fun _ h => ?_) fun h => absurd h (hallowed.mp hrefused)
      cases h
    · have hrun : (InventoryService.updateStatus recordId newStatus now).run act db =
          (InventoryRepository.save
            ⟨row.recordId, row.shipmentId, row.warehouseId, newStatus, now 0, now 2⟩
            (now.after 3)).run act db := by
        simp only [InventoryService.updateStatus, Coroutine.bind_eq, Coroutine.run_bind,
          run_get now hrow hst, hrefused, if_false, InventoryRecord.updateStatus]
      rw [hrun, reports_save_iff]
      have hfound : db.records.find? row.recordId = some row := hid.symm ▸ hrow
      have hwarehouse := db.warehouseOf row hmem
      have hmay := not_not.mp (mt hallowed.mpr hrefused)
      simp only [hfound, hwarehouse, Option.map_some, Option.getD_some, forall_const, Clock.after]
      exact ⟨fun h _ => h, fun h => h hmay⟩

/-- Listing rows reports the stored times exactly when the clock shows them all. -/
theorem reports_listByShipment_iff (hload : db.Loadable) (shipmentId : UUID) (now : Clock) :
    Reports db (.listByShipment shipmentId now) ↔
      RowsInTime now (db.listByShipment shipmentId) := by
  have hlisted : ∀ r ∈ db.listByShipment shipmentId,
      ∃ status : InventoryStatus, r.status = status.value :=
    fun r hr => hload r (mem_listByShipment.mp hr).1
  obtain ⟨records, hrecords, _⟩ := rowsToEntities_of_loadable now hlisted
  have hrun : (RecordOp.listByShipment shipmentId now).program.run act db = (.ok records, db) := by
    simp only [RecordOp.program, InventoryService.listRecordsByShipment,
      InventoryRepository.listByShipment, Coroutine.bind_eq, Coroutine.run_bind,
      Coroutine.run_perform, act, hrecords, Coroutine.ofExcept_ok, Coroutine.run_ret]
  simp only [Reports, recordStep, hrun, Except.ok.injEq, forall_eq']
  refine reported_rows_iff (fun row hrow => ?_) hrecords
  exact Table.find?_of_mem (mem_listByShipment.mp hrow).1

/-- An operation reports the stored times exactly when the clock shows them while it reads them
back. -/
theorem reports_iff_inTime (hload : db.Loadable) (op : RecordOp) :
    Reports db op ↔ op.InTime db := by
  cases op with
  | create record now =>
    exact (reports_single_iff (InventoryService.createRecord record now)).trans
      (reports_save_iff record now)
  | updateStatus recordId newStatus now =>
    exact (reports_single_iff (InventoryService.updateStatus recordId newStatus now)).trans
      (reports_updateStatus_iff hload recordId newStatus now)
  | get recordId now =>
    refine (reports_bind_iff (InventoryService.getRecord recordId now) Option.toList).trans ?_
    cases hrow : db.records.find? recordId with
    | none =>
      have hrun : (InventoryService.getRecord recordId now).run act db = (.ok none, db) := by
        simp [InventoryService.getRecord, InventoryRepository.get, Coroutine.run_bind, act, hrow]
      simp [hrun, RecordOp.InTime, hrow]
    | some row =>
      have hid : row.recordId = recordId := Table.key_of_find? hrow
      obtain ⟨status, hst⟩ := hload row (Table.mem_of_find? hrow)
      have hfound : db.records.find? row.recordId = some row := hid.symm ▸ hrow
      simp only [InventoryService.getRecord, run_get now hrow hst, RecordOp.InTime, hrow,
        Except.ok.injEq, forall_eq', Option.toList_some, List.mem_singleton, forall_eq,
        Option.some.injEq, reported_iff_inTime hfound]
  | listByShipment shipmentId now => exact reports_listByShipment_iff hload shipmentId now

end Report

/-- What any operation keeps: every stored row stays with the time at which it was received, and
every row can be read. -/
structure KeepsReceivedAt (db db' : InventoryDb) : Prop where
  receivedAt : ∀ recordId row, db.records.find? recordId = some row →
    ∃ row', db'.records.find? recordId = some row' ∧ row'.receivedAt = row.receivedAt
  loadable : db.Loadable → db'.Loadable

theorem KeepsReceivedAt.refl (db : InventoryDb) : KeepsReceivedAt db db :=
  ⟨fun _ row h => ⟨row, h, rfl⟩, id⟩

theorem KeepsReceivedAt.trans {db db' db'' : InventoryDb} (h : KeepsReceivedAt db db')
    (h' : KeepsReceivedAt db' db'') : KeepsReceivedAt db db'' where
  receivedAt recordId row hrow := by
    obtain ⟨row', hrow', hsame⟩ := h.receivedAt recordId row hrow
    obtain ⟨row'', hrow'', hsame'⟩ := h'.receivedAt recordId row' hrow'
    exact ⟨row'', hrow'', hsame'.trans hsame⟩
  loadable := h'.loadable ∘ h.loadable

/-- A save keeps the time at which a record was received. -/
theorem keepsReceivedAt_save (record : InventoryRecord) (db : InventoryDb) :
    KeepsReceivedAt db (act (.save record) db).2 := by
  obtain ⟨hreceived, _, hstatus⟩ := target_columns db record
  rcases save_cases record db with ⟨_, db', hsave, _, hrecords⟩ | ⟨_, e, hsave⟩
  · simp only [act, hsave]
    refine ⟨fun recordId row hrow => ?_, fun hload row hrow => ?_⟩
    · rw [hrecords, Table.find?_put, (db.target_toRow record).1]
      split_ifs with hid
      · subst hid
        rw [hrow, Option.map_some, Option.getD_some] at hreceived
        exact ⟨_, rfl, hreceived⟩
      · exact ⟨row, hrow, rfl⟩
    · rw [hrecords, Table.mem_put] at hrow
      rcases hrow with rfl | ⟨hrow, _⟩
      · exact ⟨record.status, hstatus⟩
      · exact hload row hrow
  · simp only [act, hsave]
    exact .refl db

/-- An operation keeps the times at which records were received. -/
theorem keepsReceivedAt_recordStep (op : RecordOp) (db : InventoryDb) :
    KeepsReceivedAt db (recordStep op db) := by
  have hcalls : op.program.Calls fun op => ∀ db, KeepsReceivedAt db (act op db).2 := by
    cases op with
    | create record now =>
      exact (calls_saveRecord record now (keepsReceivedAt_save record)).map _
    | updateStatus recordId newStatus now =>
      refine Coroutine.Calls.map
        ((calls_getRecord recordId now fun db => .refl db).found (by trivial) fun record => ?_) _
      dsimp only
      split_ifs
      · trivial
      · exact calls_saveRecord _ _ (keepsReceivedAt_save _)
    | get recordId now => exact (calls_getRecord recordId now fun db => .refl db).map _
    | listByShipment shipmentId now =>
      exact (Coroutine.calls_perform.mpr fun db => .refl db).bind fun _ =>
        Coroutine.calls_ofExcept _
  exact hcalls.run .refl (fun _ _ _ => .trans) (fun op hop => hop) db

/-- A run keeps the times at which records were received. -/
theorem keepsReceivedAt_run (ops : List RecordOp) (db : InventoryDb) :
    KeepsReceivedAt db (ops.foldl (fun db op => recordStep op db) db) := by
  induction ops generalizing db with
  | nil => exact .refl db
  | cons op ops ih => exact (keepsReceivedAt_recordStep op db).trans (ih _)

/-- In a run every operation reports the times that are stored exactly when the clock shows them
while each row is read back. The stored time at which a record was received never changes. -/
theorem times_reported_iff (db : InventoryDb) (hload : db.Loadable) (ops : List RecordOp) :
    (EachStep recordStep Reports ops db ↔ EachStep recordStep RecordOp.InTime ops db) ∧
    ∀ recordId row, db.records.find? recordId = some row →
      ∃ row', (ops.foldl (fun db op => recordStep op db) db).records.find? recordId = some row' ∧
        row'.receivedAt = row.receivedAt := by
  have hinv : ∀ (db : InventoryDb) op, db.Loadable → (recordStep op db).Loadable :=
    fun db op => (keepsReceivedAt_recordStep op db).loadable
  exact ⟨eachStep_congr_of_inv hinv (fun db op hload => reports_iff_inTime hload op) ops hload,
    (keepsReceivedAt_run ops db).receivedAt⟩

/-- One warehouse and no records. -/
def emptyWarehouse : InventoryDb where
  warehouses := ⟨[⟨⟨90⟩, "West", "", 0, 0⟩], by decide⟩
  records := Table.empty
  warehouseOf := by decide

/-- A record that is received at the time 7. -/
def newRecord : InventoryRecord where
  recordId := ⟨91⟩
  shipmentId := ⟨92⟩
  warehouseId := ⟨90⟩
  receivedAt := 7
  updatedAt := 7

/-- The clock stands still. -/
theorem times_reported_iff_sample :
    EachStep recordStep Reports [.create newRecord fun _ => 7, .get ⟨91⟩ fun _ => 7]
      emptyWarehouse := by
  refine (times_reported_iff emptyWarehouse (fun _ h => absurd h List.not_mem_nil) _).1.mpr
    ⟨fun _ => ⟨rfl, rfl⟩, ?_, trivial⟩
  rintro row hrow
  cases hrow
  exact ⟨rfl, rfl⟩

/-- The record is read twice after its creation: it is reported as received at the time of each
reading, and neither time is stored. -/
theorem times_not_reported :
    ¬ EachStep recordStep Reports [.create newRecord fun _ => 7, .get ⟨91⟩ fun _ => 8,
      .get ⟨91⟩ fun _ => 9] emptyWarehouse ∧
    ((recordStep (.create newRecord fun _ => 7) emptyWarehouse).records.find? ⟨91⟩).map
      InventoryRow.receivedAt = some 7 ∧
    (((RecordOp.get ⟨91⟩ fun _ => 8).program.run act
      (recordStep (.create newRecord fun _ => 7) emptyWarehouse)).1.map
        (List.map InventoryRecord.receivedAt)) = .ok [8] ∧
    (((RecordOp.get ⟨91⟩ fun _ => 9).program.run act
      (recordStep (.create newRecord fun _ => 7) emptyWarehouse)).1.map
        (List.map InventoryRecord.receivedAt)) = .ok [9] := by
  refine ⟨fun h => ?_, rfl, rfl, rfl⟩
  obtain ⟨row, hrow, hreceived, _⟩ := h.2.1 _ rfl _ (List.mem_singleton_self _)
  obtain rfl := Option.some.inj hrow
  exact absurd hreceived (by decide)

end SupplyChainTracker.Warehouse
