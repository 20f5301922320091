import SupplyChainTracker.Warehouse.CommandWorker

/-!
# A release in which calls fail

The records of a shipment are released one by one, and any of these releases may fail: the record
has been deleted since it was listed, or the database raises. The others are released all the same,
and a later pass without failures releases what is left over.
-/

namespace SupplyChainTracker.Warehouse

/-- Why `update_status` of a listed record raises. -/
inductive Failure : Type
  /-- Another writer has deleted the record in the meantime. -/
  | deleted
  /-- The database raises when the record is read. -/
  | onGet (error : InventoryError)
  /-- The database raises when the record is saved. -/
  | onSave (error : InventoryError)

/-- The effect of a statement while the updates of some records fail. -/
def actFailing (failure : UUID → Option Failure) : (op : Call) → InventoryDb →
    Except InventoryError op.Ans × InventoryDb
  | .get recordId, db =>
      match failure recordId with
      | some .deleted => act (.get recordId) (db.delete recordId)
      | some (.onGet e) => (.error e, db)
      | _ => act (.get recordId) db
  | .save record, db =>
      match failure record.recordId with
      | some (.onSave e) => (.error e, db)
      | _ => act (.save record) db
  | op, db => act op db

/-- Without failures a statement has its usual effect. -/
theorem actFailing_none : actFailing (fun _ => none) = act := by
  funext op db
  cases op <;> rfl

/-- What is stored of a row after an attempt to release it. -/
def Left (failure : Option Failure) (r : InventoryRow) (after : Option InventoryRow) : Prop :=
  match failure with
  | some .deleted => after = none
  | some _ => after = some r
  | none =>
      if r.status = InventoryStatus.shipped.value then after = some r
      else ∃ t, after = some { r with status := InventoryStatus.received.value, updatedAt := t }

/-- An attempt leaves a row with its ids, or none. -/
theorem Left.same_ids {failure : Option Failure} {r r' : InventoryRow}
    (h : Left failure r (some r')) : r'.recordId = r.recordId ∧ r'.shipmentId = r.shipmentId := by
  unfold Left at h
  split at h
  · cases h
  · cases h
    exact ⟨rfl, rfl⟩
  · split_ifs at h
    · cases h
      exact ⟨rfl, rfl⟩
    · obtain ⟨t, ht⟩ := h
      cases ht
      exact ⟨rfl, rfl⟩

/-- A second attempt leaves what a single one does. -/
theorem Left.again {failure : Option Failure} {r r' : InventoryRow} {after : Option InventoryRow}
    (h : Left failure r (some r')) (h' : Left failure r' after) : Left failure r after := by
  have hne : InventoryStatus.received.value ≠ InventoryStatus.shipped.value := by decide
  rcases failure with _ | _ | e | e
  · by_cases hshipped : r.status = InventoryStatus.shipped.value
    · simp only [Left, if_pos hshipped, Option.some.injEq] at h
      exact h ▸ h'
    · simp only [Left, if_neg hshipped, Option.some.injEq] at h ⊢
      obtain ⟨t, rfl⟩ := h
      simpa only [Left, if_neg hne] using h'
  · cases h
  all_goals
    cases h
    exact h'

/-- An attempt on a row that stays readable leaves it readable. -/
theorem Left.loadable {failure : Option Failure} {r r' : InventoryRow}
    (h : Left failure r (some r')) (hr : ∃ status : InventoryStatus, r.status = status.value) :
    ∃ status : InventoryStatus, r'.status = status.value := by
  unfold Left at h
  split at h
  · cases h
  · cases h
    exact hr
  · split_ifs at h
    · cases h
      exact hr
    · obtain ⟨t, ht⟩ := h
      cases ht
      exact ⟨.received, rfl⟩

/-- The rows that satisfy a condition have been released as far as their updates do not fail, and
the others are unchanged. -/
structure PartlyReleases (failure : UUID → Option Failure) (p : InventoryRow → Prop)
    (db db' : InventoryDb) : Prop where
  /-- No row is new. -/
  absent : ∀ recordId, db.records.find? recordId = none → db'.records.find? recordId = none
  /-- The other rows are unchanged. -/
  kept : ∀ r ∈ db.records.rows, ¬ p r → db'.records.find? r.recordId = some r
  /-- A selected row is gone, unchanged or released. -/
  left : ∀ r ∈ db.records.rows, p r →
    Left (failure r.recordId) r (db'.records.find? r.recordId)

section Pass

variable {failure : UUID → Option Failure} {p q : InventoryRow → Prop}
  {db db' db'' : InventoryDb} (now : Clock)

namespace PartlyReleases

/-- Nothing happens to no rows. -/
theorem refl (failure : UUID → Option Failure) (db : InventoryDb) :
    PartlyReleases failure (fun _ => False) db db where
  absent _ h := h
  kept _ hr _ := Table.find?_of_mem hr
  left _ _ h := h.elim

/-- Only the stored rows matter. -/
theorem congr (h : PartlyReleases failure p db db') (hpq : ∀ r ∈ db.records.rows, p r ↔ q r) :
    PartlyReleases failure q db db' where
  absent := h.absent
  kept r hr hq := h.kept r hr fun hp => hq ((hpq r hr).mp hp)
  left r hr hq := h.left r hr ((hpq r hr).mpr hq)

/-- A row that is stored afterwards is what has been left of a row, which may be itself. -/
theorem exists_before (h : PartlyReleases failure p db db') {r' : InventoryRow}
    (hr' : r' ∈ db'.records.rows) :
    ∃ r ∈ db.records.rows, ¬ p r ∧ r' = r ∨ p r ∧ Left (failure r.recordId) r (some r') := by
  have hfind' : db'.records.find? r'.recordId = some r' := Table.find?_of_mem hr'
  cases hfind : db.records.find? r'.recordId with
  | none => cases hfind'.symm.trans (h.absent _ hfind)
  | some r =>
    have hr := Table.mem_of_find? hfind
    have hid : r.recordId = r'.recordId := Table.key_of_find? hfind
    refine ⟨r, hr, ?_⟩
    by_cases hp : p r
    · exact .inr ⟨hp, hfind' ▸ hid ▸ h.left r hr hp⟩
    · exact .inl ⟨hp, Option.some.inj (hfind'.symm.trans (hid ▸ h.kept r hr hp))⟩

/-- Rows that can be read can still be read. -/
theorem loadable (h : PartlyReleases failure p db db') (hload : db.Loadable) : db'.Loadable := by
  intro r' hr'
  obtain ⟨r, hr, ⟨_, rfl⟩ | ⟨_, hleft⟩⟩ := h.exists_before hr'
  · exact hload r' hr
  · exact hleft.loadable (hload r hr)

/-- Two passes over rows that are told apart by their ids are one pass over the rows of both. -/
theorem trans (h : PartlyReleases failure p db db') (h' : PartlyReleases failure q db' db'')
    (hq : ∀ r r' : InventoryRow, r'.recordId = r.recordId → r'.shipmentId = r.shipmentId →
      (q r' ↔ q r)) :
    PartlyReleases failure (fun r => p r ∨ q r) db db'' where
  absent recordId hfind := h'.absent recordId (h.absent recordId hfind)
  kept r hr hpq := by
    rw [not_or] at hpq
    have hr' := Table.mem_of_find? (h.kept r hr hpq.1)
    exact h'.kept r hr' hpq.2
  left r hr hpq := by
    by_cases hp : p r
    · have hleft := h.left r hr hp
      cases hfind : db'.records.find? r.recordId with
      | none =>
        rw [h'.absent _ hfind, ← hfind]
        exact hleft
      | some r' =>
        rw [hfind] at hleft
        obtain ⟨hid, hship⟩ := hleft.same_ids
        have hr' := Table.mem_of_find? hfind
        by_cases hqr : q r
        · have hagain := h'.left r' hr' ((hq r r' hid hship).mpr hqr)
          rw [hid] at hagain
          exact hleft.again hagain
        · have hkept := h'.kept r' hr' fun hqr' => hqr ((hq r r' hid hship).mp hqr')
          rw [hid] at hkept
          rw [hkept]
          exact hleft
    · have hr' := Table.mem_of_find? (h.kept r hr hp)
      exact h'.left r hr' (hpq.resolve_left hp)

end PartlyReleases

/-- Deleting a record takes its row away and keeps the others. -/
theorem partlyReleases_delete {recordId : UUID} (hfailure : failure recordId = some .deleted) :
    PartlyReleases failure (fun r => r.recordId = recordId) db (db.delete recordId) := by
  have hfind : ∀ k, (db.delete recordId).records.find? k =
      if k = recordId then none else db.records.find? k :=
    db.records.find?_removeWhere_key recordId
  refine ⟨fun k hk => ?_, fun r hr hne => ?_, fun r _ hid => ?_⟩
  · rw [hfind, hk, ite_self]
  · rw [hfind, if_neg hne]
    exact Table.find?_of_mem hr
  · rw [hid, hfailure, hfind, if_pos rfl]
    rfl

/-- A state in which nothing has been written, because the update failed or there was nothing to
release. -/
theorem partlyReleases_unchanged {recordId : UUID}
    (h : ∀ r ∈ db.records.rows, r.recordId = recordId → Left (failure recordId) r (some r)) :
    PartlyReleases failure (fun r => r.recordId = recordId) db db := by
  refine ⟨fun _ hk => hk, fun r hr _ => ?_, fun r hr hid => ?_⟩
  · exact Table.find?_of_mem hr
  · rw [Table.find?_of_mem hr, hid]
    exact h r hr hid

/-- Reading a stored record, unless that fails. -/
theorem run_get_failing {recordId : UUID} {row : InventoryRow} {status : InventoryStatus}
    (hfailure : failure recordId = none ∨ ∃ e, failure recordId = some (.onSave e))
    (hrow : db.records.find? recordId = some row) (hst : row.status = status.value) :
    (InventoryRepository.get recordId now).run (actFailing failure) db =
      (.ok (some ⟨row.recordId, row.shipmentId, row.warehouseId, status, now 0, now 1⟩), db) := by
  have hact : actFailing failure (.get recordId) db = act (.get recordId) db := by
    rcases hfailure with h | ⟨e, h⟩ <;> simp only [actFailing, h]
  simp only [InventoryRepository.get, Coroutine.bind_eq, Coroutine.run_bind, Coroutine.run_perform,
    hact, act, hrow, rowToEntity_of_status now hst, Coroutine.ofExcept_ok, Coroutine.run_ret,
    Coroutine.pure_eq]

/-- `update_status` to `RECEIVED` of a stored record that is read and has not been shipped saves
it as `RECEIVED`. -/
theorem run_updateStatus_failing {recordId : UUID} {row : InventoryRow} {status : InventoryStatus}
    (hfailure : failure recordId = none ∨ ∃ e, failure recordId = some (.onSave e))
    (hrow : db.records.find? recordId = some row) (hst : row.status = status.value)
    (hunshipped : status ≠ .shipped) :
    ((InventoryService.updateStatus recordId .received now).run (actFailing failure) db).2 =
      (actFailing failure (.save ⟨row.recordId, row.shipmentId, row.warehouseId, .received, now 0,
        now 2⟩) db).2 := by
  simp only [InventoryService.updateStatus, Coroutine.bind_eq, Coroutine.run_bind,
    run_get_failing now hfailure hrow hst, hunshipped, false_and, if_false,
    InventoryRepository.save, Coroutine.run_perform, InventoryRecord.updateStatus]
  split
  · rw [Coroutine.run_ofExcept]
  · rfl

/-- `update_status` to `RECEIVED` of a stored row that has not been shipped stores it as `RECEIVED`,
unless that fails. -/
theorem partlyReleases_save {recordId : UUID} {row : InventoryRow} {status : InventoryStatus}
    (hfailure : failure recordId = none ∨ ∃ e, failure recordId = some (.onSave e))
    (hrow : db.records.find? recordId = some row) (hst : row.status = status.value)
    (hunshipped : status ≠ .shipped) :
    PartlyReleases failure (fun r => r.recordId = recordId) db
      (actFailing failure (.save ⟨row.recordId, row.shipmentId, row.warehouseId, .received, now 0,
        now 2⟩) db).2 := by
  obtain rfl : row.recordId = recordId := Table.key_of_find? hrow
  rcases hfailure with hnone | ⟨e, he⟩
  · obtain ⟨db', hsave, hrecords, _⟩ := save_stored
      ⟨row.recordId, row.shipmentId, row.warehouseId, .received, now 0, now 2⟩ hrow rfl rfl
    have hfind : ∀ k, db'.records.find? k = if row.recordId = k then
        some { row with status := InventoryStatus.received.value, updatedAt := now 2 }
      else db.records.find? k := by
      intro k
      rw [hrecords]
      exact Table.find?_put _ _ k
    simp only [actFailing, hnone, act, hsave]
    refine ⟨fun k hk => ?_, fun r hr hne => ?_, fun r hr hid => ?_⟩
    · have hne : row.recordId ≠ k := by
        rintro rfl
        cases hk.symm.trans hrow
      rw [hfind, if_neg hne, hk]
    · rw [hfind, if_neg (Ne.symm hne)]
      exact Table.find?_of_mem hr
    · obtain rfl := db.records.eq_of_key_eq hr (Table.mem_of_find? hrow) hid
      have hne : r.status ≠ InventoryStatus.shipped.value := by
        rw [hst]
        exact fun h => hunshipped (InventoryStatus.value_injective h)
      rw [hnone, hfind, if_pos rfl]
      simp only [Left, if_neg hne]
      exact ⟨now 2, rfl⟩
  · simp only [actFailing, he]
    exact partlyReleases_unchanged fun _ _ _ => he ▸ rfl

/-- An update that reads its record releases it, unless the save fails. -/
theorem partlyReleases_attempt (hload : db.Loadable) {recordId : UUID}
    (hfailure : failure recordId = none ∨ ∃ e, failure recordId = some (.onSave e)) :
    PartlyReleases failure (fun r => r.recordId = recordId) db
      ((InventoryService.updateStatus recordId .received now).run (actFailing failure) db).2 := by
  have hact : actFailing failure (.get recordId) db = act (.get recordId) db := by
    rcases hfailure with h | ⟨e, h⟩ <;> simp only [actFailing, h]
  cases hrow : db.records.find? recordId with
  | none =>
    have hrun : ((InventoryService.updateStatus recordId .received now).run
        (actFailing failure) db).2 = db := by
      simp [InventoryService.updateStatus, InventoryRepository.get, Coroutine.run_bind, hact, act,
        hrow]
    rw [hrun]
    exact partlyReleases_unchanged fun r hr hid =>
      absurd hid ((db.records.find?_eq_none_iff _).mp hrow r hr)
  | some row =>
    obtain ⟨status, hst⟩ := hload row (Table.mem_of_find? hrow)
    by_cases hshipped : status = .shipped
    · have hrun : ((InventoryService.updateStatus recordId .received now).run
          (actFailing failure) db).2 = db := by
        simp [InventoryService.updateStatus, Coroutine.run_bind,
          run_get_failing now hfailure hrow hst, hshipped]
      rw [hrun]
      refine partlyReleases_unchanged fun r hr hid => ?_
      have hid' : row.recordId = recordId := Table.key_of_find? hrow
      obtain rfl := db.records.eq_of_key_eq hr (Table.mem_of_find? hrow) (hid.trans hid'.symm)
      rcases hfailure with h | ⟨e, h⟩
      · simp only [Left, h, hst, hshipped, if_true]
      · rw [h]
        rfl
    · rw [run_updateStatus_failing now hfailure hrow hst hshipped]
      exact partlyReleases_save now hfailure hrow hst hshipped

/-- `update_status` to `RECEIVED` releases its record as far as it does not fail. -/
theorem partlyReleases_updateStatus (hload : db.Loadable) (recordId : UUID) :
    PartlyReleases failure (fun r => r.recordId = recordId) db
      ((InventoryService.updateStatus recordId .received now).run (actFailing failure) db).2 := by
  cases hfailure : failure recordId with
  | some f =>
    cases f with
    | deleted =>
      have hgone : (db.delete recordId).records.find? recordId = none :=
        (db.records.find?_removeWhere_key recordId recordId).trans (if_pos rfl)
      have hrun : ((InventoryService.updateStatus recordId .received now).run
          (actFailing failure) db).2 = db.delete recordId := by
        simp [InventoryService.updateStatus, InventoryRepository.get, Coroutine.run_bind,
          actFailing, hfailure, act, hgone]
      rw [hrun]
      exact partlyReleases_delete hfailure
    | onGet e =>
      have hrun : ((InventoryService.updateStatus recordId .received now).run
          (actFailing failure) db).2 = db := by
        simp [InventoryService.updateStatus, InventoryRepository.get, Coroutine.run_bind,
          actFailing, hfailure]
      rw [hrun]
      exact partlyReleases_unchanged fun r _ _ => hfailure ▸ rfl
    | onSave e => exact partlyReleases_attempt now hload (.inr ⟨e, hfailure⟩)
  | none => exact partlyReleases_attempt now hload (.inl hfailure)

/-- One pass over records releases them all as far as their updates do not fail. -/
theorem partlyReleases_inTurn (hload : db.Loadable) (records : List (InventoryRecord × Nat)) :
    PartlyReleases failure (fun r => r.recordId ∈ records.map fun p => p.1.recordId) db
      (records.foldl (fun db p => ((InventoryService.updateStatus p.1.recordId .received
        (now.after (5 * p.2))).run (actFailing failure) db).2) db) := by
  induction records generalizing db with
  | nil => exact (PartlyReleases.refl failure db).congr fun r _ => by simp
  | cons p records ih =>
    have hone : PartlyReleases failure (fun r => r.recordId = p.1.recordId) db _ :=
      partlyReleases_updateStatus (now.after (5 * p.2)) hload p.1.recordId
    refine (hone.trans (ih (hone.loadable hload)) fun r r' hid _ => by rw [hid]).congr
      fun r _ => ?_
    rw [List.map_cons, List.mem_cons]

/-- The pass over the records of a shipment lets no exception escape and releases exactly these, as
far as their updates do not fail. -/
theorem run_release_failing (failure : UUID → Option Failure) (hload : db.Loadable)
    (shipmentId : UUID) :
    ∃ db', ((InventoryService.listRecordsByShipment shipmentId now).bind fun records =>
        WarehouseCommandWorker.releaseEach records (now.after (2 * records.length))).run
          (actFailing failure) db = (.ok (), db') ∧
      PartlyReleases failure (fun r => r.shipmentId = shipmentId) db db' := by
  have hlisted : ∀ r ∈ db.listByShipment shipmentId,
      ∃ status : InventoryStatus, r.status = status.value :=
    fun r hr => hload r (mem_listByShipment.mp hr).1
  obtain ⟨records, hrecords, hids⟩ := rowsToEntities_of_loadable now hlisted
  refine ⟨_, ?_, (partlyReleases_inTurn (now.after (2 * records.length)) hload
    records.zipIdx).congr fun r hr => ?_⟩
  · simp only [Coroutine.run_bind, InventoryService.listRecordsByShipment,
      InventoryRepository.listByShipment, Coroutine.bind_eq, Coroutine.run_perform, actFailing, act,
      hrecords, Coroutine.ofExcept_ok, Coroutine.run_ret, WarehouseCommandWorker.releaseEach,
      Coroutine.run_inTurn]
  · have hzip : (records.zipIdx.map fun p => p.1.recordId) =
        (db.listByShipment shipmentId).map InventoryRow.recordId := by
      rw [← hids, ← List.zipIdx_map_fst 0 records, List.map_map, List.zipIdx_map_fst]
      rfl
    rw [hzip]
    exact recordId_mem_listed_iff hr

end Pass

/-- The UUID that the `shipment_id` of a payload parses as. -/
def namedShipment? (payload : Json) : Option UUID :=
  (payload.get? "shipment_id").join.bind Json.uuid

section Handler

variable {command : Command} (now : Clock)

/-- A command that names a shipment has its records released. -/
theorem handleReleaseInventory_of_some {shipmentId : UUID}
    (h : namedShipment? command.payload = some shipmentId) :
    WarehouseCommandWorker.handleReleaseInventory command now =
      (InventoryService.listRecordsByShipment shipmentId now).bind fun records =>
        WarehouseCommandWorker.releaseEach records (now.after (2 * records.length)) := by
  obtain ⟨raw, hraw, huuid⟩ := Option.bind_eq_some_iff.mp h
  simp only [WarehouseCommandWorker.handleReleaseInventory, Option.join_eq_some_iff.mp hraw,
    Json.truthy_of_uuid huuid, huuid, Bool.not_true, Bool.false_eq_true, if_false,
    Coroutine.bind_eq]

/-- A command that names no shipment has nothing done. -/
theorem run_handleReleaseInventory_of_none (h : namedShipment? command.payload = none)
    (failure : UUID → Option Failure) (db : InventoryDb) :
    ((WarehouseCommandWorker.handleReleaseInventory command now).run (actFailing failure) db).2 =
      db := by
  unfold WarehouseCommandWorker.handleReleaseInventory
  cases hget : command.payload.get? "shipment_id" with
  | none => rfl
  | some raw? =>
    cases raw? with
    | none => rfl
    | some raw =>
      have huuid : raw.uuid = none := by simpa [namedShipment?, hget] using h
      simp only [huuid]
      split <;> rfl

end Handler

/-- Of every record of a shipment that has not been shipped the status is `RECEIVED`. -/
def InventoryDb.AllReceived (db : InventoryDb) (shipmentId : UUID) : Prop :=
  ∀ r ∈ db.records.rows, r.shipmentId = shipmentId →
    r.status = InventoryStatus.shipped.value ∨ r.status = InventoryStatus.received.value

/-- The rows stored under each id are the same but for the times of their last updates. -/
def InventoryDb.SameButUpdatedAt (db db' : InventoryDb) : Prop :=
  ∀ recordId, (db'.records.find? recordId).map InventoryRow.timeless =
    (db.records.find? recordId).map InventoryRow.timeless

section Again

variable {shipmentId : UUID} {db db' : InventoryDb}

/-- A pass without failures leaves no record of the shipment unreleased. -/
theorem PartlyReleases.allReceived
    (h : PartlyReleases (fun _ => none) (fun r => r.shipmentId = shipmentId) db db') :
    db'.AllReceived shipmentId := by
  intro r' hr' hship
  obtain ⟨r, _, ⟨hother, rfl⟩ | ⟨_, hleft⟩⟩ := h.exists_before hr'
  · exact absurd hship hother
  · by_cases hshipped : r.status = InventoryStatus.shipped.value
    · simp only [Left, if_pos hshipped, Option.some.injEq] at hleft
      exact .inl (hleft ▸ hshipped)
    · simp only [Left, if_neg hshipped, Option.some.injEq] at hleft
      obtain ⟨t, rfl⟩ := hleft
      exact .inr rfl

/-- Where every record has been released a pass changes nothing but the times. -/
theorem PartlyReleases.sameButUpdatedAt
    (h : PartlyReleases (fun _ => none) (fun r => r.shipmentId = shipmentId) db db')
    (hreceived : db.AllReceived shipmentId) : db.SameButUpdatedAt db' := by
  intro recordId
  cases hfind : db.records.find? recordId with
  | none => rw [h.absent recordId hfind]
  | some r =>
    have hr := Table.mem_of_find? hfind
    obtain rfl : r.recordId = recordId := Table.key_of_find? hfind
    by_cases hship : r.shipmentId = shipmentId
    · have hleft := h.left r hr hship
      by_cases hshipped : r.status = InventoryStatus.shipped.value
      · simp only [Left, if_pos hshipped] at hleft
        rw [hleft]
      · simp only [Left, if_neg hshipped] at hleft
        obtain ⟨t, ht⟩ := hleft
        have hstatus := (hreceived r hr hship).resolve_left hshipped
        rw [ht]
        simp only [Option.map_some, InventoryRow.timeless, ← hstatus]
    · rw [h.kept r hr hship]

/-- However often the handler runs again without failures, once every record has been released it
changes nothing but the times. -/
theorem sameButUpdatedAt_handlings {command : Command}
    (hnamed : namedShipment? command.payload = some shipmentId) (hload : db.Loadable)
    (hreceived : db.AllReceived shipmentId) (later : List Clock) :
    db.SameButUpdatedAt (later.foldl (fun db now =>
      ((WarehouseCommandWorker.handleReleaseInventory command now).run act db).2) db) := by
  induction later generalizing db with
  | nil => exact fun _ => rfl
  | cons now later ih =>
    obtain ⟨next, hrun, hreleases⟩ :=
      run_release_failing now (fun _ => none) hload shipmentId
    rw [actFailing_none] at hrun
    rw [List.foldl_cons, handleReleaseInventory_of_some now hnamed, hrun]
    exact fun recordId => (ih (hreleases.loadable hload) hreleases.allReceived recordId).trans
      (hreleases.sameButUpdatedAt hreceived recordId)

end Again

/-- Handling the release of a shipment while any updates fail lets no exception escape and releases
exactly the records of the shipment whose updates do not fail; handling it again without failures
releases those left over, and after that nothing changes but the times. A command that names no
shipment changes nothing. -/
theorem release_tolerates_failures (db : InventoryDb) (hload : db.Loadable) (command : Command)
    (failure : UUID → Option Failure) (now again : Clock) (later : List Clock) :
    (∀ shipmentId, namedShipment? command.payload = some shipmentId → ∃ first second,
      (WarehouseCommandWorker.handleReleaseInventory command now).run (actFailing failure) db =
        (.ok (), first) ∧
      PartlyReleases failure (fun r => r.shipmentId = shipmentId) db first ∧
      (WarehouseCommandWorker.handleReleaseInventory command again).run act first =
        (.ok (), second) ∧
      PartlyReleases (fun _ => none) (fun r => r.shipmentId = shipmentId) first second ∧
      second.AllReceived shipmentId ∧
      second.SameButUpdatedAt (later.foldl (fun db now =>
        ((WarehouseCommandWorker.handleReleaseInventory command now).run act db).2) second)) ∧
    (namedShipment? command.payload = none →
      ((WarehouseCommandWorker.handleReleaseInventory command now).run (actFailing failure) db).2 =
        db) := by
  refine ⟨fun shipmentId hnamed => ?_, fun hnone =>
    run_handleReleaseInventory_of_none now hnone failure db⟩
  obtain ⟨first, hfirst, hpartly⟩ := run_release_failing now failure hload shipmentId
  have hload' := hpartly.loadable hload
  obtain ⟨second, hsecond, hall⟩ := run_release_failing again (fun _ => none) hload' shipmentId
  rw [← handleReleaseInventory_of_some now hnamed] at hfirst
  rw [← handleReleaseInventory_of_some again hnamed, actFailing_none] at hsecond
  exact ⟨first, second, hfirst, hpartly, hsecond, hall, hall.allReceived,
    sameButUpdatedAt_handlings hnamed (hall.loadable hload') hall.allReceived later⟩

/-- Three records of a shipment, of which one has been shipped. -/
def threeRecords : InventoryDb where
  warehouses := ⟨[⟨⟨90⟩, "South", "", 0, 0⟩], by decide⟩
  records := ⟨[⟨⟨1⟩, ⟨92⟩, ⟨90⟩, "stored", 0, 0⟩, ⟨⟨2⟩, ⟨92⟩, ⟨90⟩, "shipped", 0, 0⟩,
    ⟨⟨3⟩, ⟨92⟩, ⟨90⟩, "stored", 0, 0⟩], by decide⟩
  warehouseOf := by decide

/-- The save of the first record fails. -/
theorem release_tolerates_failures_sample :
    ∃ first second : InventoryDb,
      PartlyReleases (fun id => if id = ⟨1⟩ then some (.onSave (.external "timeout")) else none)
        (fun r => r.shipmentId = ⟨92⟩) threeRecords first ∧
      PartlyReleases (fun _ => none) (fun r => r.shipmentId = ⟨92⟩) first second ∧
      second.AllReceived ⟨92⟩ := by
  have hload : threeRecords.Loadable := by
    intro r hr
    simp only [threeRecords, List.mem_cons, List.not_mem_nil, or_false] at hr
    obtain rfl | rfl | rfl := hr
    · exact ⟨.stored, rfl⟩
    · exact ⟨.shipped, rfl⟩
    · exact ⟨.stored, rfl⟩
  obtain ⟨first, second, _, hfirst, _, hsecond, hreceived, _⟩ :=
    (release_tolerates_failures threeRecords hload
      (ReleaseInventoryCommand.create ⟨92⟩ ⟨90⟩ [] ⟨93⟩ .null ⟨94⟩) _ (fun _ => 1) (fun _ => 2)
      []).1 ⟨92⟩ (Json.uuid_str ⟨92⟩)
  exact ⟨first, second, hfirst, hsecond, hreceived⟩

end SupplyChainTracker.Warehouse
