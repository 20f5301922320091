import Mathlib.Data.List.Sort
import SupplyChainTracker.Core.Table
import SupplyChainTracker.Libs.Messaging

/-!
# Blockchain records

The transactions that the blockchain service has sent, and their table. An upsert replaces
the status of a record and what belongs to it; the other columns stay as they were inserted.
-/

namespace SupplyChainTracker.Blockchain

/-- The exceptions inside the blockchain service. -/
inductive BlockchainError : Type
  | keyError (key : String)
  | valueError (message : String)
  | attributeError (message : String)
  /-- A statement that PostgreSQL refuses, by the violated constraint. -/
  | database (violated : String)
  /-- Any other exception, of a driver, the node or the queue. -/
  | external (message : String)
  deriving DecidableEq, Repr

/-- The labels of the type `blockchain_tx_status`. -/
inductive BlockchainTxStatus : Type
  | pending
  | confirmed
  | failed
  | dropped
  deriving DecidableEq, Repr

/-- The text of a label. -/
def BlockchainTxStatus.label : BlockchainTxStatus → String
  | pending => "PENDING"
  | confirmed => "CONFIRMED"
  | failed => "FAILED"
  | dropped => "DROPPED"

/-- `TransactionStatus`. -/
inductive TransactionStatus : Type
  | pending
  | confirmed
  | failed
  deriving DecidableEq, Repr

namespace TransactionStatus

/-- The label that is the value of a status. -/
def value : TransactionStatus → BlockchainTxStatus
  | pending => .pending
  | confirmed => .confirmed
  | failed => .failed

/-- `TransactionStatus(label)`. -/
def ofValue : BlockchainTxStatus → Except BlockchainError TransactionStatus
  | .pending => .ok pending
  | .confirmed => .ok confirmed
  | .failed => .ok failed
  | .dropped => .error (.valueError
      ("'" ++ BlockchainTxStatus.dropped.label ++ "' is not a valid TransactionStatus"))

@[simp] theorem ofValue_value (status : TransactionStatus) : ofValue status.value = .ok status := by
  cases status <;> rfl

end TransactionStatus

/-- `BlockchainRecord`. -/
structure BlockchainRecord where
  txHash : String
  shipmentId : UUID
  payload : Json
  recordId : UUID
  status : TransactionStatus := .pending
  createdAt : DateTime
  confirmedAt : Option DateTime := none
  blockNumber : Option Int := none
  errorMessage : Option String := none
  gasUsed : Option Int := none

namespace BlockchainRecord

/-- `confirm`. -/
def confirm (record : BlockchainRecord) (blockNumber gasUsed : Int) (timestamp : DateTime) :
    BlockchainRecord :=
  { record with
    status := .confirmed
    blockNumber := some blockNumber
    gasUsed := some gasUsed
    confirmedAt := some timestamp }

/-- `fail`. -/
def fail (record : BlockchainRecord) (error : String) : BlockchainRecord :=
  { record with
    status := .failed
    errorMessage := some error }

end BlockchainRecord

/-- A row of `blockchain_records`, as far as a statement writes it. -/
structure RecordRow where
  recordId : UUID
  shipmentId : UUID
  txHash : String
  status : BlockchainTxStatus
  payload : Json
  createdAt : DateTime
  confirmedAt : Option DateTime
  blockNumber : Option Int
  errorMessage : Option String
  gasUsed : Option Int

/-- The `VALUES` list of a record. -/
def BlockchainRecord.toRow (record : BlockchainRecord) : RecordRow where
  recordId := record.recordId
  shipmentId := record.shipmentId
  txHash := record.txHash
  status := record.status.value
  payload := record.payload
  createdAt := record.createdAt
  confirmedAt := record.confirmedAt
  blockNumber := record.blockNumber
  errorMessage := record.errorMessage
  gasUsed := record.gasUsed

/-- What `DO UPDATE SET` makes of the row that a record conflicts with. -/
def RecordRow.updated (old : RecordRow) (record : BlockchainRecord) : RecordRow :=
  { old with
    status := record.status.value
    confirmedAt := record.confirmedAt
    blockNumber := record.blockNumber
    errorMessage := record.errorMessage
    gasUsed := record.gasUsed }

/-- `_row_to_entity`; the payload of a row is what its text decodes to. -/
def rowToEntity (row : RecordRow) : Except BlockchainError BlockchainRecord := do
  let status ← TransactionStatus.ofValue row.status
  return {
    recordId := row.recordId
    shipmentId := row.shipmentId
    txHash := row.txHash
    status := status
    payload := row.payload
    createdAt := row.createdAt
    confirmedAt := row.confirmedAt
    blockNumber := row.blockNumber
    errorMessage := row.errorMessage
    gasUsed := row.gasUsed }

/-- A pending row as an entity. -/
def RecordRow.toPending (row : RecordRow) : BlockchainRecord where
  recordId := row.recordId
  shipmentId := row.shipmentId
  txHash := row.txHash
  status := .pending
  payload := row.payload
  createdAt := row.createdAt
  confirmedAt := row.confirmedAt
  blockNumber := row.blockNumber
  errorMessage := row.errorMessage
  gasUsed := row.gasUsed

/-- A row with a label of the enumeration is an entity. -/
theorem rowToEntity_of_value {row : RecordRow} {status : TransactionStatus}
    (h : row.status = status.value) : ∃ record, rowToEntity row = .ok record := by
  simp only [rowToEntity, h, TransactionStatus.ofValue_value]
  exact ⟨_, rfl⟩

theorem rowToEntity_pending {row : RecordRow} (h : row.status = .pending) :
    rowToEntity row = .ok row.toPending := by
  simp only [rowToEntity, h, RecordRow.toPending]
  rfl

/-- The table of the blockchain service. -/
structure RecordDb where
  records : Table UUID RecordRow RecordRow.recordId
  /-- The `UNIQUE` of `tx_hash`. -/
  txHashUnique : ∀ r ∈ records.rows, ∀ s ∈ records.rows, r.txHash = s.txHash →
    r.recordId = s.recordId

namespace RecordDb

/-- The table after its creation. -/
def empty : RecordDb where
  records := Table.empty
  txHashUnique := fun _ hr => nomatch hr

/-- The row that the upsert of a record leaves. -/
def target (db : RecordDb) (record : BlockchainRecord) : RecordRow :=
  match db.records.find? record.recordId with
  | none => record.toRow
  | some old => old.updated record

@[simp] theorem recordId_target (db : RecordDb) (record : BlockchainRecord) :
    (db.target record).recordId = record.recordId := by
  unfold target
  split
  · rfl
  · rename_i old h
    have hold : old.recordId = record.recordId := Table.key_of_find? h
    exact hold

/-- No other row has the transaction hash of the row that an upsert leaves. -/
def Accepts (db : RecordDb) (record : BlockchainRecord) : Prop :=
  ∀ row ∈ db.records.rows, row.txHash = (db.target record).txHash →
    row.recordId = record.recordId

instance (db : RecordDb) (record : BlockchainRecord) : Decidable (db.Accepts record) :=
  inferInstanceAs (Decidable (∀ row ∈ db.records.rows, _ → _))

/-- The statement of `save`. -/
def save (record : BlockchainRecord) (db : RecordDb) :
    Except BlockchainError RecordRow × RecordDb :=
  if h : db.Accepts record then
    (.ok (db.target record), {
      records := db.records.put (db.target record)
      txHashUnique := fun r hr s hs heq => by
        rcases (db.records.mem_put _ r).mp hr with rfl | ⟨hr, _⟩ <;>
          rcases (db.records.mem_put _ s).mp hs with rfl | ⟨hs, _⟩
        · rfl
        · exact (recordId_target db record).trans (h s hs heq.symm).symm
        · exact (h r hr heq).trans (recordId_target db record).symm
        · exact db.txHashUnique r hr s hs heq })
  else (.error (.database "blockchain_records_tx_hash_key"), db)

/-- The statement of `get_pending_records`, which takes rows of one `created_at` in the order of the
table. -/
def pendingRecords (limit : Nat) (db : RecordDb) : List RecordRow :=
  ((db.records.rows.filter fun r => r.status = .pending).insertionSort
    fun r s => r.createdAt ≤ s.createdAt).take limit

variable {db : RecordDb} {record : BlockchainRecord}

/-- A statement stores the row of an accepted record and refuses any other without effect. -/
theorem save_cases (db : RecordDb) (record : BlockchainRecord) :
    (db.Accepts record ∧ ∃ db', db.save record = (.ok (db.target record), db') ∧
      db'.records = db.records.put (db.target record)) ∨
    (¬ db.Accepts record ∧ ∃ e, db.save record = (.error e, db)) := by
  unfold save
  split_ifs with h
  · exact .inl ⟨h, _, rfl, rfl⟩
  · exact .inr ⟨h, _, rfl⟩

theorem target_of_find? {old : RecordRow} (h : db.records.find? record.recordId = some old) :
    db.target record = old.updated record := by
  rw [target, h]

theorem target_of_find?_none (h : db.records.find? record.recordId = none) :
    db.target record = record.toRow := by
  rw [target, h]

/-- A record that is stored already is accepted. -/
theorem save_of_find? {old : RecordRow} (h : db.records.find? record.recordId = some old) :
    (db.save record).1 = .ok (old.updated record) ∧
      (db.save record).2.records = db.records.put (old.updated record) := by
  have hid : old.recordId = record.recordId := Table.key_of_find? h
  rcases db.save_cases record with ⟨-, db', hsave, hput⟩ | ⟨hrefused, -⟩
  · rw [target_of_find? h] at hsave hput
    rw [hsave]
    exact ⟨rfl, hput⟩
  · refine absurd (fun row hrow htx => ?_) hrefused
    rw [target_of_find? h] at htx
    exact (db.txHashUnique row hrow old (Table.mem_of_find? h) htx).trans hid

/-- A statement leaves the rows of other records. -/
theorem find?_save_of_ne {id : UUID} (h : record.recordId ≠ id) :
    (db.save record).2.records.find? id = db.records.find? id := by
  rcases db.save_cases record with ⟨-, db', hsave, hput⟩ | ⟨-, e, hsave⟩
  · rw [hsave, hput, Table.find?_put_of_ne _ _ ((recordId_target db record).trans_ne h)]
  · rw [hsave]

/-- A new record is accepted when its transaction hash is new. -/
theorem accepts_iff_of_find?_none (h : db.records.find? record.recordId = none) :
    db.Accepts record ↔ ∀ row ∈ db.records.rows, row.txHash ≠ record.txHash := by
  rw [Accepts, target_of_find?_none h]
  refine forall₂_congr fun row hrow => ?_
  have hne : row.recordId ≠ record.recordId := fun heq =>
    (db.records.find?_eq_none_iff _).mp h row hrow heq
  exact ⟨fun himp heq => hne (himp heq), fun hnew heq => absurd heq hnew⟩

theorem mem_pendingRecords {limit : Nat} {row : RecordRow} (h : row ∈ db.pendingRecords limit) :
    row ∈ db.records.rows ∧ row.status = .pending := by
  have hsorted := List.mem_of_mem_take h
  rw [List.mem_insertionSort, List.mem_filter] at hsorted
  exact ⟨hsorted.1, of_decide_eq_true hsorted.2⟩

/-- No record is read twice. -/
theorem nodup_pendingRecords (db : RecordDb) (limit : Nat) :
    ((db.pendingRecords limit).map RecordRow.recordId).Nodup := by
  have hperm := List.perm_insertionSort (fun r s : RecordRow => r.createdAt ≤ s.createdAt)
    (db.records.rows.filter fun r => r.status = .pending)
  have hfilter : ((db.records.rows.filter fun r => r.status = .pending).map
      RecordRow.recordId).Nodup := db.records.nodup.sublist (List.filter_sublist.map _)
  exact ((hperm.map RecordRow.recordId).nodup_iff.mpr hfilter).sublist
    ((List.take_sublist _ _).map _)

end RecordDb

end SupplyChainTracker.Blockchain
