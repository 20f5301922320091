import SupplyChainTracker.Blockchain.Monitor

/-!
# How records evolve

What the monitor and any number of registrations make of the stored records, whatever the
gateway answers, whichever calls raise and however the calls interleave.
-/

namespace SupplyChainTracker.Blockchain

/-- What a row has besides its status belongs to its status. -/
structure RecordRow.Consistent (row : RecordRow) : Prop where
  confirmedAt : row.confirmedAt.isSome ↔ row.status = .confirmed
  blockNumber : row.blockNumber.isSome ↔ row.status = .confirmed
  gasUsed : row.gasUsed.isSome ↔ row.status = .confirmed
  errorMessage : row.errorMessage.isSome ↔ row.status = .failed

/-- Every row is consistent. -/
def RecordDb.Consistent (db : RecordDb) : Prop := ∀ row ∈ db.records.rows, row.Consistent

/-- What is inserted of a row does not change, and its status only from `PENDING`, to `CONFIRMED`
or `FAILED`. -/
structure RecordRow.Precedes (old new : RecordRow) : Prop where
  recordId : new.recordId = old.recordId
  shipmentId : new.shipmentId = old.shipmentId
  txHash : new.txHash = old.txHash
  payload : new.payload = old.payload
  createdAt : new.createdAt = old.createdAt
  status : new.status = old.status ∨
    old.status = .pending ∧ (new.status = .confirmed ∨ new.status = .failed)

/-- Every stored row is kept, or replaced by one that it precedes. -/
def RecordDb.Evolves (db db' : RecordDb) : Prop :=
  ∀ id old, db.records.find? id = some old → ∃ new, db'.records.find? id = some new ∧
    old.Precedes new

/-- A new row of a registration. -/
structure RecordRow.Inserted (row : RecordRow) : Prop where
  status : row.status = .pending
  confirmedAt : row.confirmedAt = none
  blockNumber : row.blockNumber = none
  gasUsed : row.gasUsed = none
  errorMessage : row.errorMessage = none

/-- The row that a task leaves of a pending one. -/
inductive RecordRow.Settles (old : RecordRow) : RecordRow → Prop
  | confirm (blockNumber gasUsed : Int) (timestamp : DateTime) :
      Settles old (old.updated (old.toPending.confirm blockNumber gasUsed timestamp))
  | fail (reason : String) : Settles old (old.updated (old.toPending.fail reason))

/-- What one call makes of the table. -/
inductive RecordDb.Changes (db : RecordDb) : RecordDb → Prop
  | refl : Changes db db
  | insert {row : RecordRow} {db' : RecordDb} (hnew : db.records.find? row.recordId = none)
      (hrow : row.Inserted) (hput : db'.records = db.records.put row) : Changes db db'
  | settle {old new : RecordRow} {db' : RecordDb}
      (hold : db.records.find? old.recordId = some old) (hpending : old.status = .pending)
      (hsettles : old.Settles new) (hput : db'.records = db.records.put new) : Changes db db'

section Changes

variable {db db' db'' : RecordDb} {old new row : RecordRow}

theorem RecordRow.Precedes.refl (row : RecordRow) : row.Precedes row :=
  ⟨rfl, rfl, rfl, rfl, rfl, .inl rfl⟩

theorem RecordRow.Precedes.trans (h : row.Precedes old) (h' : old.Precedes new) :
    row.Precedes new where
  recordId := h'.recordId.trans h.recordId
  shipmentId := h'.shipmentId.trans h.shipmentId
  txHash := h'.txHash.trans h.txHash
  payload := h'.payload.trans h.payload
  createdAt := h'.createdAt.trans h.createdAt
  status := by
    rcases h.status with hsame | ⟨hpending, hset⟩
    · rw [← hsame]
      exact h'.status
    · rcases h'.status with hsame' | ⟨hpending', _⟩
      · rw [hsame']
        exact .inr ⟨hpending, hset⟩
      · rw [hpending'] at hset
        rcases hset with hset | hset <;> cases hset

theorem RecordDb.Evolves.refl (db : RecordDb) : db.Evolves db :=
  fun _ old hold => ⟨old, hold, .refl old⟩

theorem RecordDb.Evolves.trans (h : db.Evolves db') (h' : db'.Evolves db'') : db.Evolves db'' := by
  intro id old hold
  obtain ⟨mid, hmid, hle⟩ := h id old hold
  obtain ⟨new, hnew, hle'⟩ := h' id mid hmid
  exact ⟨new, hnew, hle.trans hle'⟩

theorem RecordRow.Settles.precedes (h : old.Settles new) (hpending : old.status = .pending) :
    old.Precedes new := by
  cases h with
  | confirm => exact ⟨rfl, rfl, rfl, rfl, rfl, .inr ⟨hpending, .inl rfl⟩⟩
  | fail => exact ⟨rfl, rfl, rfl, rfl, rfl, .inr ⟨hpending, .inr rfl⟩⟩

/-- A consistent pending row becomes a consistent one. -/
theorem RecordRow.Settles.consistent (h : old.Settles new) (hpending : old.status = .pending)
    (hold : old.Consistent) : new.Consistent := by
  obtain ⟨hconfirmed, hblock, hgas, herror⟩ := hold
  simp only [hpending, reduceCtorEq, iff_false] at hconfirmed hblock hgas herror
  cases h with
  | confirm => constructor <;> simp [updated, BlockchainRecord.confirm, toPending,
      TransactionStatus.value, herror]
  | fail => constructor <;> simp [updated, BlockchainRecord.fail, toPending,
      TransactionStatus.value, hconfirmed, hblock, hgas]

theorem RecordRow.Inserted.consistent (h : row.Inserted) : row.Consistent := by
  obtain ⟨hstatus, hconfirmed, hblock, hgas, herror⟩ := h
  constructor <;> simp [hstatus, hconfirmed, hblock, hgas, herror]

theorem RecordRow.Settles.recordId (h : old.Settles new) : new.recordId = old.recordId := by
  cases h <;> rfl

theorem RecordDb.Changes.of_eq (h : db' = db) : db.Changes db' := h ▸ .refl

/-- One call lets the records evolve. -/
theorem RecordDb.Changes.evolves (h : db.Changes db') : db.Evolves db' := by
  cases h with
  | refl => exact .refl db
  | @insert row db' hnew hrow hput =>
    intro id old hold
    have hne : row.recordId ≠ id := by
      rintro rfl
      cases hnew.symm.trans hold
    rw [hput, Table.find?_put_of_ne _ _ hne]
    exact ⟨old, hold, .refl old⟩
  | @settle old new db' hold hpending hsettles hput =>
    intro id other hother
    rw [hput]
    by_cases hid : new.recordId = id
    · have hsame : other = old := by
        rw [← hid, hsettles.recordId, hold] at hother
        exact (Option.some.inj hother).symm
      subst hid hsame
      exact ⟨new, Table.find?_put_self _ _, hsettles.precedes hpending⟩
    · rw [Table.find?_put_of_ne _ _ hid]
      exact ⟨other, hother, .refl other⟩

/-- One call keeps the records consistent. -/
theorem RecordDb.Changes.consistent (h : db.Changes db') (hdb : db.Consistent) :
    db'.Consistent := by
  cases h with
  | refl => exact hdb
  | insert hnew hrow hput =>
    intro other hother
    rw [hput] at hother
    rcases (Table.mem_put _ _ _).mp hother with rfl | ⟨hmem, _⟩
    · exact hrow.consistent
    · exact hdb other hmem
  | settle hold hpending hsettles hput =>
    intro other hother
    rw [hput] at hother
    rcases (Table.mem_put _ _ _).mp hother with rfl | ⟨hmem, _⟩
    · exact hsettles.consistent hpending (hdb _ (Table.mem_of_find? hold))
    · exact hdb other hmem

end Changes

/-- A record is stored as confirmed, and a receipt says so. -/
def World.Verified (required : Int) (w : World) (recordId : UUID) : Prop :=
  ∃ row, w.db.records.find? recordId = some row ∧ row.status = .confirmed ∧
    ∃ receipt, (row.txHash, receipt) ∈ w.receipts ∧ receipt.Final required

/-- The monitor holds pending records as they are stored, those that it has saved are confirmed,
and no registration finds its record there before it inserts it. -/
structure Sound {κ : Type} (required : Int) (registrations : κ → Registration)
    (st : Option κ → Holding) (w : World) : Prop where
  read : ∀ id row, (st none).held id = some (row, false) →
    w.db.records.find? id = some row ∧ row.status = .pending
  saved : ∀ id row, (st none).held id = some (row, true) → w.Verified required id
  seen : (st none).seen ⊆ w.receipts
  fresh : ∀ k, (st (some k)).inserted = false →
    w.db.records.find? (registrations k).recordId = none

/-- The protocol of each participant. -/
def protocol {κ : Type} (required : Int) (registrations : κ → Registration) :
    Option κ → Protocol Call Call.Ans BlockchainError Holding
  | none => monitoring required
  | some k => registering (registrations k)

section Steps

variable {required : Int} {w : World}

/-- The receipts only grow. -/
theorem receipts_act (op : Call) (w : World) : w.receipts ⊆ (act op w).2.receipts := by
  cases op with
  | sendTransaction payload =>
    simp only [act]
    split <;> exact List.Subset.refl _
  | getReceipt txHash =>
    simp only [act]
    split
    · exact List.subset_append_left _ _
    · exact List.Subset.refl _
    · exact List.Subset.refl _
  | save record =>
    simp only [act]
    split <;> exact List.Subset.refl _
  | getPendingRecords limit =>
    simp only [act]
    split <;> exact List.Subset.refl _
  | publishEvent event topics =>
    simp only [act]
    split <;> exact List.Subset.refl _

-- Only a `save` touches the table.
@[simp] theorem db_sendTransaction (payload : Json) (w : World) :
    (act (.sendTransaction payload) w).2.db = w.db := by
  simp only [act]
  split <;> rfl

@[simp] theorem db_getReceipt (txHash : String) (w : World) :
    (act (.getReceipt txHash) w).2.db = w.db := by
  simp only [act]
  split <;> rfl

@[simp] theorem db_getPendingRecords (limit : Nat) (w : World) :
    (act (.getPendingRecords limit) w).2.db = w.db := by
  simp only [act]
  split <;> rfl

@[simp] theorem db_publishEvent (event : Event) (topics : List String) (w : World) :
    (act (.publishEvent event topics) w).2.db = w.db := by
  simp only [act]
  split <;> rfl

/-- A `save` raises without effect, or stores the row of an accepted record. -/
theorem act_save_cases (record : BlockchainRecord) (w : World) :
    (∃ e, (act (.save record) w).1 = .error e ∧ (act (.save record) w).2.db = w.db) ∨
    (w.db.Accepts record ∧ (act (.save record) w).1 = .ok (w.db.target record) ∧
      (act (.save record) w).2.db.records = w.db.records.put (w.db.target record)) := by
  simp only [act]
  cases w.raises with
  | some e => exact .inl ⟨e, rfl, rfl⟩
  | none =>
    obtain ⟨haccepts, db', hsave, hput⟩ | ⟨_, e, hsave⟩ := w.db.save_cases record
    · exact .inr ⟨haccepts, by rw [hsave], by rw [hsave]; exact hput⟩
    · exact .inl ⟨e, by rw [hsave], by rw [hsave]⟩

/-- A pending row and the record that a `save` stores for it. -/
theorem MaySave.settles {seen : List (String × Receipt)} {row : RecordRow}
    {record : BlockchainRecord} (h : MaySave required seen row record) :
    row.Settles (row.updated record) := by
  rcases h with ⟨reason, rfl⟩ | ⟨blockNumber, gasUsed, timestamp, _, rfl, _⟩
  · exact .fail reason
  · exact .confirm blockNumber gasUsed timestamp

theorem MaySave.recordId {seen : List (String × Receipt)} {row : RecordRow}
    {record : BlockchainRecord} (h : MaySave required seen row record) :
    record.recordId = row.recordId := by
  rcases h with ⟨_, rfl⟩ | ⟨_, _, _, _, rfl, _⟩ <;> rfl

/-- The rows that are returned are as they are expected. -/
theorem expectedRows_act (op : Call) (w : World) : ExpectedRows op (act op w).1 := by
  cases op with
  | sendTransaction payload => trivial
  | getReceipt txHash => trivial
  | publishEvent event topics => trivial
  | getPendingRecords limit =>
    simp only [act]
    cases w.raises with
    | some e => trivial
    | none =>
      exact ⟨w.db.nodup_pendingRecords limit, fun row hrow =>
        (RecordDb.mem_pendingRecords hrow).2⟩
  | save record =>
    rcases act_save_cases record w with ⟨e, hanswer, _⟩ | ⟨_, hanswer, _⟩
    · rw [hanswer]
      trivial
    · rw [hanswer]
      change (w.db.target record).status = record.status.value
      unfold RecordDb.target
      split <;> rfl

/-- What is verified stays so. -/
theorem World.Verified.mono {w' : World} {recordId : UUID} (h : w.Verified required recordId)
    (hdb : w.db.Evolves w'.db) (hreceipts : w.receipts ⊆ w'.receipts) :
    w'.Verified required recordId := by
  obtain ⟨row, hrow, hstatus, receipt, hmem, hfinal⟩ := h
  obtain ⟨new, hnew, hle⟩ := hdb recordId row hrow
  refine ⟨new, hnew, ?_, receipt, ?_, hfinal⟩
  · rcases hle.status with hsame | ⟨hpending, _⟩
    · rw [hsame, hstatus]
    · rw [hstatus] at hpending
      cases hpending
  · rw [hle.txHash]
    exact hreceipts hmem

variable {κ : Type} {registrations : κ → Registration} {st : Option κ → Holding}

/-- What a call makes of the table. -/
theorem Sound.changes (h : Sound required registrations st w) {i : Option κ} {op : Call}
    (hmay : (protocol required registrations i).may (st i) op) :
    w.db.Changes (act op w).2.db := by
  cases op with
  | sendTransaction payload => exact .of_eq (db_sendTransaction payload w)
  | getReceipt txHash => exact .of_eq (db_getReceipt txHash w)
  | getPendingRecords limit => exact .of_eq (db_getPendingRecords limit w)
  | publishEvent event topics => exact .of_eq (db_publishEvent event topics w)
  | save record =>
    rcases act_save_cases record w with ⟨e, _, hdb⟩ | ⟨_, _, hput⟩
    · exact .of_eq hdb
    · cases i with
      | none =>
        obtain ⟨row, hheld, hsave⟩ := hmay
        obtain ⟨hrow, hpending⟩ := h.read _ row hheld
        rw [RecordDb.target_of_find? hrow] at hput
        exact .settle (hsave.recordId ▸ hrow) hpending hsave.settles hput
      | some k =>
        obtain ⟨hinserted, hid, txHash, hrow⟩ := hmay
        have hnew : w.db.records.find? record.recordId = none := hid ▸ h.fresh k hinserted
        rw [RecordDb.target_of_find?_none hnew, hrow] at hput
        refine .insert ?_ ⟨rfl, rfl, rfl, rfl, rfl⟩ hput
        exact h.fresh k hinserted

/-- A row stays where it is when a record of another id is saved. -/
theorem find?_act_save {record : BlockchainRecord} {id : UUID} (hid : record.recordId ≠ id)
    (w : World) :
    (act (.save record) w).2.db.records.find? id = w.db.records.find? id := by
  rcases act_save_cases record w with ⟨e, _, hdb⟩ | ⟨_, _, hput⟩
  · rw [hdb]
  · rw [hput, Table.find?_put_of_ne _ _ (by rwa [RecordDb.recordId_target])]

/-- What the monitor still holds unsaved was held before, unless it has been read just now. -/
theorem Sound.read_monitor (h : Sound required registrations st w) (op : Call) (id : UUID)
    (row : RecordRow)
    (hheld : ((st none).answered op (act op w).1).held id = some (row, false)) :
    (act op w).2.db.records.find? id = some row ∧ row.status = .pending := by
  cases op with
  | sendTransaction payload =>
    rw [db_sendTransaction]
    exact h.read id row hheld
  | getReceipt txHash =>
    rw [db_getReceipt]
    rw [Holding.held_getReceipt] at hheld
    exact h.read id row hheld
  | publishEvent event topics =>
    rw [db_publishEvent]
    by_cases hid : id = event.aggregateId
    · subst hid
      rw [Holding.held_publishEvent] at hheld
      cases hheld
    · rw [Holding.held_publishEvent_of_ne _ hid] at hheld
      exact h.read id row hheld
  | getPendingRecords limit =>
    rw [db_getPendingRecords]
    simp only [act] at hheld
    cases hraises : w.raises with
    | some e =>
      simp only [hraises] at hheld
      cases hheld
    | none =>
      simp only [hraises] at hheld
      obtain ⟨other, hother, heq⟩ := Option.map_eq_some_iff.mp hheld
      cases heq
      have hid : row.recordId = id := by simpa using List.find?_some hother
      obtain ⟨hmem, hpending⟩ :=
        RecordDb.mem_pendingRecords (List.mem_of_find?_eq_some hother)
      exact ⟨(Table.find?_eq_some_iff _ _ _).mpr ⟨hmem, hid⟩, hpending⟩
  | save record =>
    by_cases hid : id = record.recordId
    · subst hid
      obtain ⟨e, hanswer, _⟩ | ⟨_, hanswer, _⟩ := act_save_cases record w
      · rw [hanswer, Holding.held_save_error] at hheld
        cases hheld
      · rw [hanswer, Holding.held_save_ok, heldAfterSave] at hheld
        split_ifs at hheld
        obtain ⟨_, _, heq⟩ := Option.map_eq_some_iff.mp hheld
        cases heq
    · rw [Holding.held_save_of_ne _ hid] at hheld
      rw [find?_act_save (Ne.symm hid)]
      exact h.read id row hheld

/-- A record that is saved as confirmed is verified. -/
theorem Sound.verified_save (h : Sound required registrations st w) {record : BlockchainRecord}
    (hmay : (monitoring required).may (st none) (.save record))
    (hconfirmed : record.status = .confirmed)
    (hput : (act (.save record) w).2.db.records = w.db.records.put (w.db.target record)) :
    (act (.save record) w).2.Verified required record.recordId := by
  obtain ⟨row, hheld, hsave⟩ := hmay
  obtain ⟨hrow, hpending⟩ := h.read _ row hheld
  rw [RecordDb.target_of_find? hrow] at hput
  rcases hsave with ⟨reason, rfl⟩ |
    ⟨blockNumber, gasUsed, timestamp, receipt, rfl, hmem, hfinal⟩
  · cases hconfirmed
  · refine ⟨row.updated (row.toPending.confirm blockNumber gasUsed timestamp), ?_, rfl, receipt,
      receipts_act _ w (h.seen hmem), hfinal⟩
    rw [hput]
    exact Table.find?_put_self _ _

/-- What the monitor holds as saved is verified. -/
theorem Sound.saved_monitor (h : Sound required registrations st w) {op : Call}
    (hmay : (monitoring required).may (st none) op) (id : UUID) (row : RecordRow)
    (hheld : ((st none).answered op (act op w).1).held id = some (row, true)) :
    (act op w).2.Verified required id := by
  have hmono : ∀ row, (st none).held id = some (row, true) →
      (act op w).2.Verified required id := fun row hrow =>
    (h.saved id row hrow).mono (h.changes (i := none) hmay).evolves (receipts_act op w)
  cases op with
  | sendTransaction payload => exact hmay.elim
  | getReceipt txHash =>
    rw [Holding.held_getReceipt] at hheld
    exact hmono row hheld
  | publishEvent event topics =>
    by_cases hid : id = event.aggregateId
    · subst hid
      rw [Holding.held_publishEvent] at hheld
      cases hheld
    · rw [Holding.held_publishEvent_of_ne _ hid] at hheld
      exact hmono row hheld
  | getPendingRecords limit =>
    cases hr : (act (.getPendingRecords limit) w).1 with
    | error e =>
      rw [hr] at hheld
      cases hheld
    | ok rows =>
      rw [hr] at hheld
      obtain ⟨_, _, heq⟩ := Option.map_eq_some_iff.mp hheld
      cases heq
  | save record =>
    by_cases hid : id = record.recordId
    · subst hid
      obtain ⟨e, hanswer, _⟩ | ⟨_, hanswer, hput⟩ := act_save_cases record w
      · rw [hanswer, Holding.held_save_error] at hheld
        cases hheld
      · rw [hanswer, Holding.held_save_ok, heldAfterSave] at hheld
        split_ifs at hheld with hconfirmed
        exact h.verified_save hmay hconfirmed hput
    · rw [Holding.held_save_of_ne _ hid] at hheld
      exact hmono row hheld

/-- The receipts that the monitor has seen have been returned. -/
theorem Sound.seen_monitor (h : Sound required registrations st w) (op : Call) :
    ((st none).answered op (act op w).1).seen ⊆ (act op w).2.receipts := by
  have hmono : (st none).seen ⊆ (act op w).2.receipts :=
    List.Subset.trans h.seen (receipts_act op w)
  cases op with
  | sendTransaction payload => exact hmono
  | publishEvent event topics => exact hmono
  | getPendingRecords limit =>
    cases hr : (act (.getPendingRecords limit) w).1 <;> exact hmono
  | save record => cases hr : (act (.save record) w).1 <;> exact hmono
  | getReceipt txHash =>
    simp only [act]
    rcases w.environment.getReceipt w.calls with e | (_ | receipt)
    · exact h.seen
    · exact h.seen
    · exact List.append_subset.mpr
        ⟨List.Subset.trans h.seen (List.subset_append_left _ _), List.subset_append_right _ _⟩

/-- A key that no row has is not given away by a record of another id. -/
theorem find?_none_of_changes {op : Call} {id : UUID} (hnone : w.db.records.find? id = none)
    (hother : ∀ record, op = .save record → record.recordId ≠ id) :
    (act op w).2.db.records.find? id = none := by
  cases op with
  | save record => rw [find?_act_save (hother record rfl), hnone]
  | sendTransaction payload => rw [db_sendTransaction, hnone]
  | getReceipt txHash => rw [db_getReceipt, hnone]
  | getPendingRecords limit => rw [db_getPendingRecords, hnone]
  | publishEvent event topics => rw [db_publishEvent, hnone]

variable [DecidableEq κ]

/-- Every step keeps what the participants rely on. -/
theorem Sound.step (hinjective : Function.Injective fun k => (registrations k).recordId)
    (h : Sound required registrations st w) {i : Option κ} {op : Call}
    (hmay : (protocol required registrations i).may (st i) op) :
    Sound required registrations
      (Function.update st i ((protocol required registrations i).next (st i) op (act op w).1))
      (act op w).2 := by
  have hevolves := (h.changes hmay).evolves
  cases i with
  | none =>
    refine ⟨fun id row hheld => ?_, fun id row hheld => ?_, ?_, fun k hk => ?_⟩
    · rw [Function.update_self] at hheld
      exact h.read_monitor op id row hheld
    · rw [Function.update_self] at hheld
      exact h.saved_monitor hmay id row hheld
    · rw [Function.update_self]
      exact h.seen_monitor op
    · rw [Function.update_of_ne (by simp)] at hk
      refine find?_none_of_changes (h.fresh k hk) ?_
      rintro record rfl hid
      obtain ⟨row, hheld, _⟩ := hmay
      cases (h.fresh k hk).symm.trans (hid ▸ (h.read _ row hheld).1)
  | some k =>
    have hmonitor : Function.update st (some k)
        ((protocol required registrations (some k)).next (st (some k)) op (act op w).1) none =
          st none := Function.update_of_ne (by simp) _ _
    refine ⟨fun id row hheld => ?_, fun id row hheld => ?_, ?_, fun k' hk' => ?_⟩
    · rw [hmonitor] at hheld
      obtain ⟨hrow, hpending⟩ := h.read id row hheld
      refine ⟨?_, hpending⟩
      cases op with
      | save record =>
        obtain ⟨hinserted, hid, _⟩ := hmay
        have hne : record.recordId ≠ id := by
          rintro rfl
          cases hrow.symm.trans (hid ▸ h.fresh k hinserted)
        rw [find?_act_save hne, hrow]
      | sendTransaction payload => rw [db_sendTransaction, hrow]
      | _ => exact hmay.elim
    · rw [hmonitor] at hheld
      exact (h.saved id row hheld).mono hevolves (receipts_act op w)
    · rw [hmonitor]
      exact List.Subset.trans h.seen (receipts_act op w)
    · by_cases hk : k' = k
      · subst hk
        rw [Function.update_self] at hk'
        cases op with
        | save record => cases hk'
        | sendTransaction payload =>
          rw [db_sendTransaction]
          exact h.fresh k' hk'
        | _ => exact hmay.elim
      · rw [Function.update_of_ne (by simpa using hk)] at hk'
        refine find?_none_of_changes (h.fresh k' hk') ?_
        rintro record rfl hid
        exact hk (hinjective (hid.symm.trans hmay.2.1))

end Steps

section Runs

variable {κ : Type} (monitor : ConfirmationMonitor) (registrations : κ → Registration)

/-- What a participant has left behind when it has returned. -/
def Returned : Option κ → Unit → Holding → Prop
  | none, _, s => s.Settled
  | some _, _, _ => True

/-- Every participant keeps to its protocol, and finds what it relies on. -/
def Regular (c : Config (Option κ) Call Call.Ans BlockchainError Unit World) : Prop :=
  ∃ st, c.Conforms (protocol monitor.service.requiredConfirmations registrations) Returned st ∧
    Sound monitor.service.requiredConfirmations registrations st c.world

variable {monitor} {registrations}

theorem conforms_monitored (passes : List Pass) (db : RecordDb) (environment : Environment) :
    (monitored monitor passes registrations db environment).Conforms
      (protocol monitor.service.requiredConfirmations registrations) Returned
      fun _ => Holding.initial := by
  rintro (_ | k)
  · refine Coroutine.Keeps.mono (fun r s hs _ _ => hs) (monitoring_run monitor passes ?_)
    exact fun _ _ h => nomatch h
  · exact Coroutine.Grants.mono (fun _ _ _ => trivial)
      (registering_program (registrations k) rfl)

theorem sound_start {db : RecordDb} (hfresh : FreshIds registrations db)
    (environment : Environment) :
    Sound monitor.service.requiredConfirmations registrations (fun _ => Holding.initial)
      (World.start db environment) where
  read _ _ h := nomatch h
  saved _ _ h := nomatch h
  seen := List.nil_subset _
  fresh k _ := hfresh.new k

variable [DecidableEq κ]

/-- A run lets the records evolve, keeps them consistent and leaves the participants regular. -/
theorem Regular.exec (hinjective : Function.Injective fun k => (registrations k).recordId)
    {c d : Config (Option κ) Call Call.Ans BlockchainError Unit World}
    (hc : Regular monitor registrations c) {sched : List (Option κ)}
    (h : c.exec act sched = some d) :
    Regular monitor registrations d ∧ c.world.db.Evolves d.world.db ∧
      (c.world.db.Consistent → d.world.db.Consistent) := by
  obtain ⟨st, hconforms, hsound⟩ := hc
  have hrun := Config.exec_conforms
    (fun st w _ => Sound monitor.service.requiredConfirmations registrations st w ∧
      c.world.db.Evolves w.db ∧ (c.world.db.Consistent → w.db.Consistent))
    ?_ st hconforms ⟨hsound, .refl _, id⟩ h
  · obtain ⟨st', hconforms', hsound', hevolves, hconsistent⟩ := hrun
    exact ⟨⟨st', hconforms', hsound'⟩, hevolves, hconsistent⟩
  · rintro st w tr i op ⟨hsound, hevolves, hconsistent⟩ hmay
    have hchanges := hsound.changes hmay
    refine ⟨?_, hsound.step hinjective hmay, hevolves.trans hchanges.evolves,
      fun hdb => hchanges.consistent (hconsistent hdb)⟩
    cases i <;> exact expectedRows_act op w

/-- Between any two states of a run, the records evolve, and they are consistent in both. -/
theorem records_evolve (monitor : ConfirmationMonitor) (passes : List Pass)
    (registrations : κ → Registration) {db : RecordDb} (environment : Environment)
    (hfresh : FreshIds registrations db) (hdb : db.Consistent) (past later : List (Option κ))
    {c d : Config (Option κ) Call Call.Ans BlockchainError Unit World}
    (hc : (monitored monitor passes registrations db environment).exec act past = some c)
    (hd : c.exec act later = some d) :
    c.world.db.Consistent ∧ d.world.db.Consistent ∧ c.world.db.Evolves d.world.db := by
  have hstart : Regular monitor registrations
      (monitored monitor passes registrations db environment) :=
    ⟨_, conforms_monitored passes db environment, sound_start hfresh environment⟩
  obtain ⟨hregular, _, hconsistent⟩ := hstart.exec hfresh.injective hc
  obtain ⟨_, hevolves, hconsistent'⟩ := hregular.exec hfresh.injective hd
  have hmiddle := hconsistent hdb
  exact ⟨hmiddle, hconsistent' hmiddle, hevolves⟩

end Runs

/-- A gateway whose transactions are all verified, and a database and a queue that never raise. -/
def verifyingGateway : Environment where
  sendTransaction n := .ok ("0xa" ++ toString n)
  getReceipt _ := .ok (some {
    status := some "success"
    confirmations := some 9
    blockNumber := some 120
    gasUsed := some 21000
    timestamp := some "2024-05-01T10:00:00" })
  raises _ := none

/-- A monitor that needs six confirmations. -/
def sampleMonitor : ConfirmationMonitor where
  service := { fromisoformat := fun _ => .ok 1714557600000000 }

/-- One event to register. -/
def sampleRegistration : Unit → Registration := fun _ => ⟨⟨80⟩, .obj [], ⟨81⟩, 0⟩

/-- One pass over one record. -/
def samplePasses : List Pass := [⟨[0, 0, 0], fun _ => ⟨0, ⟨82⟩, 0⟩⟩]

/-- A registration and then a pass of the monitor: the record is pending, and then confirmed. -/
theorem records_evolve_sample :
    ∃ c d, (monitored sampleMonitor samplePasses sampleRegistration .empty verifyingGateway).exec
        act [some (), some ()] = some c ∧
      c.exec act [none, none, none, none] = some d ∧
      (c.world.db.records.find? ⟨81⟩).map RecordRow.status = some .pending ∧
      (d.world.db.records.find? ⟨81⟩).map RecordRow.status = some .confirmed ∧
      c.world.db.Consistent ∧ d.world.db.Consistent ∧ c.world.db.Evolves d.world.db := by
  refine ⟨_, _, rfl, rfl, rfl, rfl, ?_⟩
  exact records_evolve sampleMonitor samplePasses sampleRegistration verifyingGateway
    ⟨fun _ _ _ => rfl, fun _ => rfl⟩ (fun _ hrow => absurd hrow List.not_mem_nil)
    [some (), some ()] [none, none, none, none] rfl rfl

end SupplyChainTracker.Blockchain
