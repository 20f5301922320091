import SupplyChainTracker.Blockchain.Evolution
import SupplyChainTracker.Core.Async.Lift
import SupplyChainTracker.Core.Sweep

/-!
# Starvation of pending records

The monitor alone, with receipts that stay as they are and calls that do not fail. A pass looks at
the oldest pending records only, and a record without a decisive receipt keeps its place among them:
a younger one is reached when there is room beside those before it, and never where they fill the
batch.
-/

namespace SupplyChainTracker.Blockchain

/-- The receipt of a transaction that has failed, or that has enough confirmations. -/
def Receipt.Decisive (required : Int) (receipt : Receipt) : Prop :=
  receipt.status = some "failed" ∨ receipt.Final required

instance (required : Int) (receipt : Receipt) : Decidable (receipt.Decisive required) :=
  inferInstanceAs (Decidable (_ ∨ _))

/-- The transaction of a row has a decisive receipt. -/
def RecordRow.Decided (required : Int) (receipts : String → Option Receipt) (row : RecordRow) :
    Prop :=
  ∃ receipt ∈ receipts row.txHash, receipt.Decisive required

instance (required : Int) (receipts : String → Option Receipt) :
    DecidablePred (RecordRow.Decided required receipts) :=
  fun row => inferInstanceAs (Decidable (∃ receipt ∈ receipts row.txHash, _))

/-- `_confirm_transaction` finds in a receipt what it reads, as the gateway writes it. -/
def BlockchainService.Readable (service : BlockchainService) (receipt : Receipt) : Prop :=
  ∃ blockNumber gasUsed text timestamp, receipt.blockNumber = some blockNumber ∧
    receipt.gasUsed = some gasUsed ∧ receipt.timestamp = some text ∧
    service.fromisoformat text = .ok timestamp

/-- `_confirm_transaction` finds what it reads wherever it is called. -/
def BlockchainService.Reads (service : BlockchainService) (receipts : String → Option Receipt) :
    Prop :=
  ∀ txHash receipt, receipts txHash = some receipt → receipt.Final service.requiredConfirmations →
    service.Readable receipt

/-- A call that does not fail, with the receipts of a fixed assignment. -/
def Steady (receipts : String → Option Receipt) : (op : Call) → Except BlockchainError op.Ans → Prop
  | .getReceipt txHash, r => r = .ok (receipts txHash)
  | _, r => ∃ a, r = .ok a

/-- The pending rows, oldest first. -/
def RecordDb.queue (db : RecordDb) : List RecordRow :=
  (db.records.rows.filter fun r => r.status = .pending).insertionSort
    fun r s => r.createdAt ≤ s.createdAt

theorem RecordDb.pendingRecords_eq (db : RecordDb) (limit : Nat) :
    db.pendingRecords limit = db.queue.take limit := rfl

theorem RecordDb.mem_queue {db : RecordDb} {row : RecordRow} :
    row ∈ db.queue ↔ row ∈ db.records.rows ∧ row.status = .pending := by
  rw [queue, List.mem_insertionSort, List.mem_filter, decide_eq_true_eq]

/-- The record of a row is pending. -/
def RecordDb.stillPending (db : RecordDb) (row : RecordRow) : Bool :=
  ∃ new ∈ db.records.find? row.recordId, new.status = .pending

/-- A row of a batch may have been decided; any other row stays. -/
def Kept (batch : List RecordRow) (old new : RecordRow) : Prop :=
  new = old ∨ (old.recordId ∈ batch.map RecordRow.recordId ∧ new.recordId = old.recordId ∧
    new.status ≠ .pending)

theorem Kept.recordId {batch : List RecordRow} {old new : RecordRow} (h : Kept batch old new) :
    new.recordId = old.recordId := by
  rcases h with rfl | ⟨-, hid, -⟩
  · rfl
  · exact hid

/-- Answers on which a task relies. -/
def ExpectedAnswers (receipts : String → Option Receipt) :
    (op : Call) → Except BlockchainError op.Ans → Prop
  | .getReceipt txHash, r => r = .ok (receipts txHash)
  | .save record, r => ∃ row, r = .ok row ∧ row.status = record.status.value
  | _, r => ∃ a, r = .ok a

/-- What gathered tasks make of the table. -/
def gathered (receipts : String → Option Receipt) :
    Protocol Call Call.Ans BlockchainError RecordDb where
  may db
    | .getReceipt _ => True
    | .save record => (db.records.find? record.recordId).isSome
    | .publishEvent _ _ => True
    | _ => False
  expects := ExpectedAnswers receipts
  next db
    | .save record, _ => (db.save record).2
    | _, _ => db

/-- What the task of a pending row may call; its state says whether the row has been decided. -/
def deciding (receipts : String → Option Receipt) (row : RecordRow) :
    Protocol Call Call.Ans BlockchainError Bool where
  may decided
    | .getReceipt _ => True
    | .save record => decided = false ∧ record.recordId = row.recordId ∧ record.status ≠ .pending
    | .publishEvent _ _ => True
    | _ => False
  expects := ExpectedAnswers receipts
  next decided
    | .save _, _ => true
    | _, _ => decided

section Task

variable {receipts : String → Option Receipt} {row : RecordRow}

/-- A task that saves its record goes on with what has been stored. -/
theorem deciding_save {α : Type} {record : BlockchainRecord} {k : BlockchainRecord → Program α}
    {post : Except BlockchainError α → Bool → Prop} (hid : record.recordId = row.recordId)
    (hstatus : record.status ≠ .pending)
    (hk : ∀ saved, (k saved).Keeps (deciding receipts row) post true) :
    ((BlockchainRepository.save record).bind k).Keeps (deciding receipts row) post false := by
  refine ⟨⟨rfl, hid, hstatus⟩, fun r hr => ?_⟩
  obtain ⟨stored, rfl, hstored⟩ : ∃ row, r = .ok row ∧ row.status = record.status.value := hr
  obtain ⟨saved, hsaved⟩ := rowToEntity_of_value hstored
  simp only [Coroutine.ofExcept_ok, Coroutine.ret_bind, hsaved]
  exact hk saved

theorem deciding_confirmTransaction {service : BlockchainService} {receipt : Receipt}
    (hreads : service.Readable receipt) (draws : EventDraws) :
    (service.confirmTransaction row.toPending receipt draws).Keeps (deciding receipts row)
      (fun _ decided => decided = true) false := by
  obtain ⟨blockNumber, gasUsed, text, timestamp, hblock, hgas, htext, htime⟩ := hreads
  simp only [BlockchainService.confirmTransaction, hblock, hgas, htext, htime, Receipt.item,
    Coroutine.ofExcept_ok, Coroutine.bind_eq, Coroutine.ret_bind]
  refine deciding_save rfl (fun h => nomatch h) fun saved => ?_
  exact Coroutine.keeps_perform.mpr ⟨trivial, fun _ _ => rfl⟩

theorem deciding_failTransaction (reason : String) :
    (BlockchainService.failTransaction row.toPending reason).Keeps (deciding receipts row)
      (fun _ decided => decided = true) false :=
  deciding_save rfl (fun h => nomatch h) fun saved => by simp

/-- A task decides its record exactly when the receipt is decisive. -/
theorem deciding_updateConfirmation (service : BlockchainService)
    (hreads : service.Reads receipts)
    (row : RecordRow) (draws : EventDraws) :
    (service.updateConfirmation row.toPending draws).Keeps (deciding receipts row)
      (fun _ decided => decided = true ↔ row.Decided service.requiredConfirmations receipts)
      false := by
  have hexamine : (service.examine row.toPending draws).Keeps (deciding receipts row)
      (fun _ decided => decided = true ↔ row.Decided service.requiredConfirmations receipts)
      false := by
    refine ⟨trivial, fun r hr => ?_⟩
    obtain rfl : r = .ok (receipts row.txHash) := hr
    cases hreceipt : receipts row.txHash with
    | none => simp [deciding, RecordRow.Decided, hreceipt]
    | some receipt =>
      have hdecided : row.Decided service.requiredConfirmations receipts ↔
          receipt.Decisive service.requiredConfirmations := by
        simp [RecordRow.Decided, hreceipt]
      simp only [hdecided]
      change Coroutine.Keeps _ _ (if _ then _ else if receipt.Final _ then _ else _) false
      split_ifs with hfailed hfinal
      · exact Coroutine.Keeps.mono (fun _ _ h => iff_of_true h (.inl hfailed))
          (deciding_failTransaction _)
      · exact Coroutine.Keeps.mono (fun _ _ h => iff_of_true h (.inr hfinal))
          (deciding_confirmTransaction (hreads _ _ hreceipt hfinal) draws)
      · refine (Coroutine.keeps_ret ..).mpr (iff_of_false (fun h => nomatch h) ?_)
        exact fun h => h.elim hfailed hfinal
  refine Coroutine.Keeps.tryCatch (Coroutine.Keeps.mono ?_ hexamine)
  rintro (e | a) decided h <;> exact h

end Task

/-- What the task of a row of a batch relies on. -/
def Relying (batch : List RecordRow) (row : RecordRow) (decided : Bool) (db : RecordDb) : Prop :=
  row ∈ batch ∧
    if decided then ∃ new, db.records.find? row.recordId = some new ∧ new.status ≠ .pending
    else db.records.find? row.recordId = some row

section Gathered

variable {receipts : String → Option Receipt} {batch : List RecordRow} {row row' : RecordRow}
  {db : RecordDb} {record : BlockchainRecord} {decided decided' : Bool} {op : Call}
  {r : Except BlockchainError op.Ans}

theorem Relying.isSome (h : Relying batch row decided db) :
    (db.records.find? row.recordId).isSome := by
  obtain ⟨-, h⟩ := h
  cases decided with
  | true =>
    obtain ⟨new, hnew, -⟩ := h
    rw [hnew]
    rfl
  | false => rw [show db.records.find? row.recordId = some row from h, Option.isSome_some]

theorem status_updated (old : RecordRow) (h : record.status ≠ .pending) :
    (old.updated record).status ≠ .pending := by
  change record.status.value ≠ .pending
  cases hstatus : record.status with
  | pending => exact absurd hstatus h
  | confirmed => exact fun h => nomatch h
  | failed => exact fun h => nomatch h

/-- What a task saves decides its record. -/
theorem Relying.save (h : Relying batch row decided db) (hid : record.recordId = row.recordId)
    (hstatus : record.status ≠ .pending) : Relying batch row true (db.save record).2 := by
  obtain ⟨old, hold⟩ := Option.isSome_iff_exists.mp h.isSome
  rw [← hid] at hold
  have hsame : (old.updated record).recordId = row.recordId := (Table.key_of_find? hold).trans hid
  refine ⟨h.1, old.updated record, ?_, status_updated old hstatus⟩
  rw [(RecordDb.save_of_find? hold).2, ← hsame]
  exact Table.find?_put_self _ _

/-- A call of a task leaves the table, or saves the record of its row as decided. -/
theorem deciding_cases (hmay : (deciding receipts row).may decided op)
    (r : Except BlockchainError op.Ans) :
    ((deciding receipts row).next decided op r = decided ∧
        ∀ db, (gathered receipts).next db op r = db) ∨
      ∃ record : BlockchainRecord, record.recordId = row.recordId ∧ record.status ≠ .pending ∧
        (deciding receipts row).next decided op r = true ∧
        ∀ db, (gathered receipts).next db op r = (db.save record).2 := by
  cases op with
  | sendTransaction payload => exact hmay.elim
  | getPendingRecords limit => exact hmay.elim
  | getReceipt txHash => exact .inl ⟨rfl, fun _ => rfl⟩
  | publishEvent event topics => exact .inl ⟨rfl, fun _ => rfl⟩
  | save record => exact .inr ⟨record, hmay.2.1, hmay.2.2, rfl, fun _ => rfl⟩

/-- The tasks of different records get along. -/
theorem shares_gathered (receipts : String → Option Receipt) (batch : List RecordRow) :
    Coroutine.Shares (gathered receipts) (deciding receipts)
      (fun row decided db => Relying batch row decided db) RecordRow.recordId where
  may {row decided db op} h hmay := by
    cases op with
    | save record =>
      have hid : record.recordId = row.recordId := hmay.2.1
      change (db.records.find? record.recordId).isSome
      rw [hid]
      exact h.isSome
    | _ => exact hmay
  own {row decided db op r} h hmay hr := by
    refine ⟨hr, ?_⟩
    obtain ⟨hnext, hdb⟩ | ⟨record, hid, hstatus, hnext, hdb⟩ := deciding_cases hmay r
    · rw [hnext, hdb]
      exact h
    · rw [hnext, hdb]
      exact h.save hid hstatus
  others {row row' decided decided' db op r} hne h hmay _ h' := by
    obtain ⟨_, hdb⟩ | ⟨record, hid, _, _, hdb⟩ := deciding_cases hmay r
    · rw [hdb]
      exact h'
    · have hfind : (db.save record).2.records.find? row'.recordId =
          db.records.find? row'.recordId := RecordDb.find?_save_of_ne (hid.trans_ne hne)
      unfold Relying at h' ⊢
      rw [hdb, hfind]
      exact h'

/-- No task touches a row of another batch. -/
theorem kept_next {olds : List RecordRow} (h : Relying batch row decided db)
    (hmay : (deciding receipts row).may decided op)
    (hkept : List.Forall₂ (Kept batch) olds db.records.rows) :
    List.Forall₂ (Kept batch) olds ((gathered receipts).next db op r).records.rows := by
  obtain ⟨_, hdb⟩ | ⟨record, hid, hstatus, _, hdb⟩ := deciding_cases hmay r
  · rw [hdb]
    exact hkept
  · obtain ⟨old, hold⟩ := Option.isSome_iff_exists.mp h.isSome
    rw [← hid] at hold
    have hrecord : old.recordId = record.recordId := Table.key_of_find? hold
    have hsame : old.recordId = (old.updated record).recordId := rfl
    rw [hdb, (RecordDb.save_of_find? hold).2,
      Table.rows_put_of_mem _ (Table.mem_of_find? hold) hsame, List.forall₂_map_right_iff]
    refine hkept.imp fun before now hbefore => ?_
    split_ifs with hnow
    · have hrow : before.recordId = row.recordId := by
        rw [← hbefore.recordId, hnow]
        exact hrecord.trans hid
      refine .inr ⟨hrow ▸ List.mem_map_of_mem h.1, ?_, status_updated old hstatus⟩
      rw [← hnow, hbefore.recordId]
    · exact hbefore

/-- What the gathered tasks of a batch make of a row of it. -/
def Ended (required : Int) (receipts : String → Option Receipt) (db : RecordDb) (row : RecordRow) :
    Prop :=
  if row.Decided required receipts then
    ∃ new, db.records.find? row.recordId = some new ∧ new.status ≠ .pending
  else db.records.find? row.recordId = some row

/-- The tasks of a batch decide the rows with decisive receipts, and leave every other row. -/
theorem gathered_gather (service : BlockchainService)
    (hreads : service.Reads receipts)
    (p : Pass) (hnodup : (batch.map RecordRow.recordId).Nodup)
    (hstored : ∀ row ∈ batch, db.records.find? row.recordId = some row) :
    (Coroutine.gather p.picks ((batch.map RecordRow.toPending).map fun record =>
      service.updateConfirmation record (p.draws record.recordId))).Keeps (gathered receipts)
      (fun _ db' => List.Forall₂ (Kept batch) db.records.rows db'.records.rows ∧
        ∀ row ∈ batch, Ended service.requiredConfirmations receipts db' row) db := by
  have hkept : List.Forall₂ (Kept batch) db.records.rows db.records.rows :=
    List.forall₂_same.mpr fun _ _ => .inl rfl
  refine Coroutine.Keeps.mono ?_ (Coroutine.Keeps.gather (shares_gathered receipts batch)
    (Q := fun row decided => decided = true ↔ row.Decided service.requiredConfirmations receipts)
    (fun db' => List.Forall₂ (Kept batch) db.records.rows db'.records.rows)
    (fun h hmay _ hkept => kept_next h hmay hkept) hnodup p.picks hkept ?_)
  · rintro _ db' ⟨hkept', hended⟩
    refine ⟨hkept', fun row hrow => ?_⟩
    obtain ⟨decided, ⟨-, hrelying⟩, hdecided⟩ := hended row hrow
    unfold Ended
    cases decided with
    | true =>
      rw [if_pos (hdecided.mp rfl)]
      exact hrelying
    | false =>
      rw [if_neg fun h => nomatch hdecided.mpr h]
      exact hrelying
  · rw [List.map_map, List.forall₂_map_right_iff, List.forall₂_same]
    intro row hrow
    exact ⟨false, ⟨hrow, hstored row hrow⟩,
      deciding_updateConfirmation service hreads row (p.draws row.recordId)⟩

end Gathered

section Pass

variable {required : Int} {receipts : String → Option Receipt} {db db' : RecordDb}
  {batch : List RecordRow}

/-- The rows that are still pending are those that have been so and still are. -/
theorem filter_kept {p : RecordRow → Bool} {olds news : List RecordRow}
    (hkept : List.Forall₂ (Kept batch) olds news)
    (hp : ∀ old new, Kept batch old new → new ∈ news → (p old ↔ new.status = .pending)) :
    (news.filter fun r => r.status = .pending) =
      (olds.filter fun r => r.status = .pending).filter p := by
  induction hkept with
  | nil => rfl
  | @cons old new olds news hone hkept ih =>
    have hrest := ih fun old new h hmem => hp old new h (List.mem_cons_of_mem _ hmem)
    have hfirst := hp old new hone (List.mem_cons_self ..)
    rw [List.filter_filter] at hrest ⊢
    rcases hone with rfl | ⟨-, -, hnew⟩
    · by_cases hpending : new.status = .pending
      · rw [List.filter_cons_of_pos (by simpa using hpending), List.filter_cons_of_pos, hrest]
        simp [hfirst.mpr hpending, hpending]
      · rw [List.filter_cons_of_neg (by simpa using hpending), List.filter_cons_of_neg, hrest]
        simp [hpending]
    · rw [List.filter_cons_of_neg (by simpa using hnew), List.filter_cons_of_neg, hrest]
      have hnot : ¬ p old := fun h => hnew (hfirst.mp h)
      simp [hnot]

/-- Every row stays, as it is or decided. -/
theorem exists_kept {olds news : List RecordRow} (hkept : List.Forall₂ (Kept batch) olds news)
    {old : RecordRow} (hold : old ∈ olds) : ∃ new ∈ news, Kept batch old new := by
  obtain ⟨n, hn, rfl⟩ := List.mem_iff_getElem.mp hold
  have hn' : n < news.length := hkept.length_eq ▸ hn
  exact ⟨news[n], List.getElem_mem hn', hkept.get hn hn'⟩

/-- A younger row than those of a batch has another id. -/
theorem recordId_not_mem_front {limit : Nat} {row : RecordRow} (hrow : row ∈ db.queue.drop limit) :
    row.recordId ∉ (db.queue.take limit).map RecordRow.recordId := by
  have hnodup : (db.queue.map RecordRow.recordId).Nodup := by
    have hall := db.nodup_pendingRecords db.queue.length
    rwa [RecordDb.pendingRecords_eq, List.take_length] at hall
  intro hmem
  rw [List.map_take] at hmem
  refine List.disjoint_take_drop hnodup (Nat.le_refl limit) hmem ?_
  rw [← List.map_drop]
  exact List.mem_map_of_mem hrow

/-- What the tasks of the oldest pending rows leave pending is what a sweep leaves. -/
theorem queue_eq_sweep {limit : Nat}
    (hkept : List.Forall₂ (Kept (db.queue.take limit)) db.records.rows db'.records.rows)
    (hended : ∀ row ∈ db.queue.take limit, Ended required receipts db' row) :
    db'.queue = Sweep.sweep limit (RecordRow.Decided required receipts) db.queue := by
  have hp : ∀ old new, Kept (db.queue.take limit) old new → new ∈ db'.records.rows →
      (db'.stillPending old ↔ new.status = .pending) := by
    intro old new h hmem
    have hfound : db'.records.find? old.recordId = some new :=
      (Table.find?_eq_some_iff _ _ _).mpr ⟨hmem, h.recordId⟩
    simp [RecordDb.stillPending, hfound]
  have htotal : Std.Total fun r s : RecordRow => r.createdAt ≤ s.createdAt :=
    ⟨fun r s => le_total r.createdAt s.createdAt⟩
  have htrans : IsTrans RecordRow fun r s => r.createdAt ≤ s.createdAt :=
    ⟨fun _ _ _ h h' => le_trans h h'⟩
  have hfront : ∀ row ∈ db.queue.take limit,
      db'.stillPending row = ¬ RecordRow.Decided required receipts row := by
    intro row hrow
    have hpending := (RecordDb.mem_queue.mp (List.mem_of_mem_take hrow)).2
    have hrowEnded := hended row hrow
    unfold Ended at hrowEnded
    split_ifs at hrowEnded with hdecided
    · obtain ⟨new, hnew, hstatus⟩ := hrowEnded
      simp [RecordDb.stillPending, hnew, hstatus, hdecided]
    · simp [RecordDb.stillPending, hrowEnded, hpending, hdecided]
  have hrest : ∀ row ∈ db.queue.drop limit, db'.stillPending row := by
    intro row hrow
    obtain ⟨hstored, hpending⟩ := RecordDb.mem_queue.mp (List.mem_of_mem_drop hrow)
    obtain ⟨new, hnew, hone⟩ := exists_kept hkept hstored
    refine (hp row new hone hnew).mpr ?_
    rcases hone with rfl | ⟨hid, -⟩
    · exact hpending
    · exact absurd hid (recordId_not_mem_front hrow)
  rw [Sweep.sweep_eq_filter hfront hrest, RecordDb.queue, filter_kept hkept hp,
    Sweep.insertionSort_filter]
  rfl

end Pass

section Runs

variable {monitor : ConfirmationMonitor} {receipts : String → Option Receipt} {w : World}

/-- Where no call fails, the table is what gathered tasks make of it. -/
theorem gathered_act (receipts : String → Option Receipt) (op : Call) (db : RecordDb) (w : World)
    (hdb : w.db = db) (hmay : (gathered receipts).may db op)
    (hsteady : Steady receipts op (act op w).1) :
    (gathered receipts).expects op (act op w).1 ∧
      (act op w).2.db = (gathered receipts).next db op (act op w).1 := by
  subst hdb
  cases op with
  | sendTransaction payload => exact hmay.elim
  | getPendingRecords limit => exact hmay.elim
  | getReceipt txHash =>
    refine ⟨hsteady, ?_⟩
    change _ = w.db
    simp only [act]
    split <;> rfl
  | publishEvent event topics =>
    refine ⟨hsteady, ?_⟩
    change _ = w.db
    simp only [act]
    split <;> rfl
  | save record =>
    obtain ⟨old, hold⟩ := Option.isSome_iff_exists.mp hmay
    obtain ⟨hanswer, -⟩ := RecordDb.save_of_find? hold
    obtain ⟨row, hrow⟩ : ∃ row, (act (.save record) w).1 = .ok row := hsteady
    simp only [act] at hrow ⊢
    cases hraises : w.raises with
    | some e =>
      rw [hraises] at hrow
      cases hrow
    | none => exact ⟨⟨_, hanswer, rfl⟩, rfl⟩

theorem raises_of_steady {limit : Nat}
    (hsteady : Steady receipts (.getPendingRecords limit) (act (.getPendingRecords limit) w).1) :
    w.raises = none := by
  obtain ⟨rows, hrows⟩ : ∃ rows, (act (.getPendingRecords limit) w).1 = .ok rows := hsteady
  simp only [act] at hrows
  cases hraises : w.raises with
  | some e =>
    rw [hraises] at hrows
    cases hrows
  | none => rfl

/-- The records of a pass are the oldest ones of the queue. -/
theorem run_getPendingRecords {limit : Nat} (hraises : w.raises = none) :
    (BlockchainRepository.getPendingRecords limit).run act w =
      (.ok ((w.db.pendingRecords limit).map RecordRow.toPending), w.called) := by
  have hrows := mapM_rowToEntity fun row (hrow : row ∈ w.db.pendingRecords limit) =>
    (RecordDb.mem_pendingRecords hrow).2
  simp only [BlockchainRepository.getPendingRecords, Coroutine.bind_eq, Coroutine.run_bind,
    Coroutine.run_perform, act, hraises, hrows, Coroutine.ofExcept_ok, Coroutine.run_ret]

/-- A pass without failing calls is a sweep of the queue. -/
theorem queue_pass
    (hreads : monitor.service.Reads receipts)
    (p : Pass)
    (hsteady : ∀ c ∈ (monitor.pass p).history act Coroutine.noFaults w,
      Steady receipts c.op c.answer) :
    ((monitor.pass p).run act w).1 = .ok () ∧
      ((monitor.pass p).run act w).2.db.queue =
        Sweep.sweep monitor.batchSize
          (RecordRow.Decided monitor.service.requiredConfirmations receipts) w.db.queue := by
  rw [ConfirmationMonitor.pass, Coroutine.history_tryCatch, Coroutine.history_bind] at hsteady
  have hread := fun c hc => hsteady c (List.mem_append_left _ (List.mem_append_left _ hc))
  have hraises : w.raises = none :=
    @raises_of_steady receipts w monitor.batchSize (hread _ (List.mem_cons_self ..))
  have hrecords : (BlockchainRepository.getPendingRecords monitor.batchSize).run act w =
      (.ok ((w.db.pendingRecords monitor.batchSize).map RecordRow.toPending), w.called) :=
    run_getPendingRecords hraises
  rw [hrecords] at hsteady
  have hgather := gathered_gather monitor.service hreads p
    (w.db.nodup_pendingRecords monitor.batchSize) fun row hrow =>
      Table.find?_of_mem (RecordDb.mem_pendingRecords hrow).1
  obtain ⟨db', ⟨hkept, hended⟩, hdb⟩ := Coroutine.Keeps.run (R := fun db w => w.db = db)
    (gathered_act receipts) hgather (w := w.called) rfl fun c hc =>
      hsteady c (List.mem_append_left _ (List.mem_append_right _ hc))
  have hqueue := queue_eq_sweep hkept hended
  rw [← hdb] at hqueue
  rw [ConfirmationMonitor.pass, Coroutine.run_tryCatch, Coroutine.run_bind, hrecords]
  dsimp only
  split
  · exact ⟨rfl, hqueue⟩
  · exact ⟨rfl, hqueue⟩

/-- Passes without failing calls sweep the queue one after the other. -/
theorem queue_run
    (hreads : monitor.service.Reads receipts)
    (passes : List Pass) {w : World}
    (hsteady : ∀ c ∈ (monitor.run passes).history act Coroutine.noFaults w,
      Steady receipts c.op c.answer) :
    ((monitor.run passes).run act w).2.db.queue =
      (Sweep.sweep monitor.batchSize
        (RecordRow.Decided monitor.service.requiredConfirmations receipts))^[passes.length]
        w.db.queue := by
  induction passes generalizing w with
  | nil => rfl
  | cons p passes ih =>
    rw [ConfirmationMonitor.run, Coroutine.history_bind] at hsteady
    have hpass := queue_pass hreads p fun c hc => hsteady c (List.mem_append_left _ hc)
    rw [hpass.1] at hsteady
    have hrest := ih fun c hc => hsteady c (List.mem_append_right _ hc)
    rw [ConfirmationMonitor.run, Coroutine.run_bind, hpass.1, hrest, hpass.2, List.length_cons,
      Function.iterate_succ_apply]

/-- No call removes a row. -/
theorem keeps_run {α : Type} (p : Program α) (w : World) :
    w.db.records.Keeps (p.run act w).2.db.records := by
  refine Coroutine.Calls.run (R := fun w w' => w.db.records.Keeps w'.db.records)
    (fun w => Table.Keeps.refl _) (fun _ _ _ h h' => h.trans h') (fun op _ w => ?_)
    (Coroutine.calls_of_forall (fun _ => trivial) p) w
  cases op with
  | save record =>
    rcases act_save_cases record w with ⟨e, -, hdb⟩ | ⟨-, -, hput⟩
    · rw [hdb]
      exact Table.Keeps.refl _
    · rw [hput]
      exact Table.keeps_put _ _
  | _ =>
    simp only [act]
    split <;> exact Table.Keeps.refl _

/-- What is left of the queue is as it was stored. -/
theorem queue_run_subset
    (hreads : monitor.service.Reads receipts)
    (passes : List Pass)
    (hsteady : ∀ c ∈ (monitor.run passes).history act Coroutine.noFaults w,
      Steady receipts c.op c.answer) :
    ((monitor.run passes).run act w).2.db.queue ⊆ w.db.queue := by
  rw [queue_run hreads passes hsteady]
  refine Function.Iterate.rec (· ⊆ w.db.queue) (List.Subset.refl _) (fun l hl => ?_) passes.length
  exact List.Subset.trans (Sweep.sweep_subset l) hl

/-- Every record with a decisive receipt is decided after some passes exactly when the pending
records, oldest first, can be cut into as many groups and a rest without decisive receipts, so that
the batch has room for each group beside the undecided records of the groups before it. -/
theorem decided_iff_covers
    (hreads : monitor.service.Reads receipts)
    (passes : List Pass)
    (hsteady : ∀ c ∈ (monitor.run passes).history act Coroutine.noFaults w,
      Steady receipts c.op c.answer) :
    (∀ row ∈ w.db.records.rows, row.status = .pending →
        row.Decided monitor.service.requiredConfirmations receipts →
        ∃ new, ((monitor.run passes).run act w).2.db.records.find? row.recordId = some new ∧
          new.status ≠ .pending) ↔
      Sweep.Covers monitor.batchSize
        (RecordRow.Decided monitor.service.requiredConfirmations receipts) passes.length 0
        w.db.queue := by
  have hsweep := @Sweep.iterate_sweep_iff RecordRow monitor.batchSize
    (RecordRow.Decided monitor.service.requiredConfirmations receipts) _ passes.length []
    (fun _ h => nomatch h) w.db.queue
  rw [List.nil_append, ← queue_run hreads passes hsteady] at hsweep
  rw [show 0 = ([] : List RecordRow).length from rfl, ← hsweep]
  constructor
  · intro hall row hrow hdecided
    obtain ⟨hstored, hpending⟩ := RecordDb.mem_queue.mp hrow
    obtain ⟨hbefore, -⟩ := RecordDb.mem_queue.mp (queue_run_subset hreads passes hsteady hrow)
    obtain ⟨new, hnew, hstatus⟩ := hall row hbefore hpending hdecided
    rw [Table.find?_of_mem hstored, Option.some.injEq] at hnew
    exact hstatus (hnew ▸ hpending)
  · intro hnone row hrow hpending hdecided
    have hfound := Table.find?_of_mem hrow
    obtain ⟨new, hnew⟩ := Option.isSome_iff_exists.mp
      (keeps_run (monitor.run passes) w row.recordId (hfound ▸ rfl))
    refine ⟨new, hnew, fun hstill => ?_⟩
    -- A row that is still pending is the one that was stored at first.
    have hqueue := RecordDb.mem_queue.mpr ⟨Table.mem_of_find? hnew, hstill⟩
    have hbefore := (RecordDb.mem_queue.mp (queue_run_subset hreads passes hsteady hqueue)).1
    have hsame := w.db.records.eq_of_key_eq hbefore hrow (Table.key_of_find? hnew)
    exact hnone new hqueue (hsame ▸ hdecided)

/-- A record behind a batch of older ones without decisive receipts stays as it is, however many
passes there are. -/
theorem starved
    (hreads : monitor.service.Reads receipts)
    (passes : List Pass)
    (hsteady : ∀ c ∈ (monitor.run passes).history act Coroutine.noFaults w,
      Steady receipts c.op c.answer) {row : RecordRow}
    (hblocked : Sweep.Blocked monitor.batchSize
      (RecordRow.Decided monitor.service.requiredConfirmations receipts) row w.db.queue) :
    ((monitor.run passes).run act w).2.db.records.find? row.recordId = some row := by
  have hqueue := hblocked.mem_iterate passes.length
  rw [← queue_run hreads passes hsteady] at hqueue
  exact Table.find?_of_mem (RecordDb.mem_queue.mp hqueue).1

end Runs

/-- As many passes as it takes to look at all pending records once leave no record with a decisive
receipt pending exactly when those receipts come early enough in the queue, where the records of one
`created_at` stand in the order of the table. -/
theorem none_starved_iff_covers (monitor : ConfirmationMonitor)
    (receipts : String → Option Receipt) (db : RecordDb) (environment : Environment)
    (passes : List Pass)
    (hpasses : passes.length =
      (db.queue.length + monitor.batchSize - 1) / monitor.batchSize)
    (hreads : monitor.service.Reads receipts)
    (hsteady : ∀ c ∈ (monitor.run passes).history act Coroutine.noFaults
      (World.start db environment), Steady receipts c.op c.answer) :
    (∀ row ∈ db.records.rows, row.status = .pending →
        row.Decided monitor.service.requiredConfirmations receipts →
        ∃ new, ((monitor.run passes).run act (World.start db environment)).2.db.records.find?
            row.recordId = some new ∧ new.status ≠ .pending) ↔
      Sweep.Covers monitor.batchSize
        (RecordRow.Decided monitor.service.requiredConfirmations receipts)
        ((db.queue.length + monitor.batchSize - 1) / monitor.batchSize) 0 db.queue := by
  rw [← hpasses]
  exact decided_iff_covers hreads passes hsteady

/-- Two pending records. -/
def waitingRecords : RecordDb :=
  let record (recordId : UUID) (txHash : String) (createdAt : DateTime) : BlockchainRecord := {
    shipmentId := ⟨94⟩
    txHash := txHash
    payload := .obj []
    recordId := recordId
    createdAt := createdAt }
  ((RecordDb.empty.save (record ⟨95⟩ "0xc1" 0)).2.save (record ⟨96⟩ "0xc2" 1)).2

/-- Only the transaction of the younger one has a receipt. -/
def revertedReceipts (txHash : String) : Option Receipt :=
  if txHash = "0xc2" then some { status := some "failed" } else none

/-- A gateway that is asked for the younger one by its third call. -/
def revertingGateway : Environment where
  sendTransaction _ := .ok "0xc3"
  getReceipt n := .ok (if n = 2 then revertedReceipts "0xc2" else none)
  raises _ := none

/-- A monitor of a batch size. -/
def monitorOf (batchSize : Nat) : ConfirmationMonitor where
  service := { fromisoformat := fun _ => .ok 0 }
  batchSize := batchSize

/-- Tasks that end one after the other. -/
def idlePass : Pass := ⟨[], fun _ => ⟨0, ⟨97⟩, 0⟩⟩

theorem reads_revertedReceipts (service : BlockchainService) :
    service.Reads revertedReceipts := by
  intro txHash receipt h hfinal
  unfold revertedReceipts at h
  split_ifs at h
  cases h
  exact absurd hfinal.1 (by decide)

/-- In a batch of two the younger record is decided by the first pass. -/
theorem none_starved_iff_covers_sample :
    waitingRecords.queue.length = 2 ∧
      ∀ row ∈ waitingRecords.records.rows, row.status = .pending →
        row.Decided 6 revertedReceipts →
        ∃ new, (((monitorOf 2).run [idlePass]).run act
            (World.start waitingRecords revertingGateway)).2.db.records.find? row.recordId =
              some new ∧ new.status ≠ .pending := by
  refine ⟨rfl, ?_⟩
  refine (none_starved_iff_covers (monitorOf 2) revertedReceipts waitingRecords revertingGateway
    [idlePass] rfl (reads_revertedReceipts _) ?_).mpr
      ⟨waitingRecords.queue, [], (List.append_nil _).symm, by decide, fun _ h => nomatch h⟩
  refine List.forall_mem_cons.mpr ⟨⟨_, rfl⟩, List.forall_mem_cons.mpr ⟨rfl, ?_⟩⟩
  refine List.forall_mem_cons.mpr ⟨rfl, List.forall_mem_cons.mpr ⟨⟨_, rfl⟩, ?_⟩⟩
  exact fun c hc => nomatch hc

/-- In batches of one the younger record is still pending after two passes over two records. -/
theorem younger_record_starved :
    waitingRecords.queue.length = 2 ∧
      (∀ c ∈ ((monitorOf 1).run [idlePass, idlePass]).history act Coroutine.noFaults
        (World.start waitingRecords revertingGateway), Steady revertedReceipts c.op c.answer) ∧
      ∃ row ∈ waitingRecords.records.rows, row.status = .pending ∧
        row.Decided 6 revertedReceipts ∧
        (((monitorOf 1).run [idlePass, idlePass]).run act
          (World.start waitingRecords revertingGateway)).2.db.records.find? row.recordId =
            some row := by
  refine ⟨rfl, ?_, _, .tail _ (.head _), rfl, by decide, rfl⟩
  refine List.forall_mem_cons.mpr ⟨⟨_, rfl⟩, List.forall_mem_cons.mpr ⟨rfl, ?_⟩⟩
  refine List.forall_mem_cons.mpr ⟨⟨_, rfl⟩, List.forall_mem_cons.mpr ⟨rfl, ?_⟩⟩
  exact fun c hc => nomatch hc

end SupplyChainTracker.Blockchain
