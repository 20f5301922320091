import SupplyChainTracker.Blockchain.Evolution
import SupplyChainTracker.Core.Sql

/-!
# Statistics of transactions

The views over `blockchain_records`: two materialized ones with the statistics of all transactions
and of each day, which hold what the last refresh has found, and the lists of those that are stuck
and of those that are confirmed. What a refresh finds in the states of a run, and what the lists
show of them, while the monitor and registrations interleave.
-/

namespace SupplyChainTracker.Blockchain

/-- The `DEFAULT` of the column `network`, which no statement writes. -/
def RecordRow.network (_ : RecordRow) : String := "ethereum"

/-- `EXTRACT(EPOCH FROM (confirmed_at - created_at))`, with six digits after the point. -/
def RecordRow.confirmationTimeSeconds (row : RecordRow) : Option Rat :=
  row.confirmedAt.map fun confirmedAt => ((confirmedAt - row.createdAt : Int) : Rat) / 1000000

/-- `gas_used` as the `NUMERIC` that an average is. -/
def RecordRow.gasUsedNumeric (row : RecordRow) : Option Rat :=
  row.gasUsed.map Int.cast

/-- The order by `confirmed_at DESC`, in which `NULL` comes first. -/
def RecordRow.notBefore (r s : RecordRow) : Bool :=
  match r.confirmedAt, s.confirmedAt with
  | none, _ => true
  | some _, none => false
  | some a, some b => b ≤ a

-- How many digits after the point PostgreSQL gives to the quotient of a sum with so many digits and
-- a count.
variable (scale : Nat → Rat → Nat → Nat)

/-- A row of `blockchain_statistics`. -/
structure BlockchainStatistics where
  network : String
  totalTransactions : Nat
  confirmed : Nat
  pending : Nat
  failed : Nat
  dropped : Nat
  avgConfirmationTimeSeconds : Option Rat
  totalGasUsed : Option Int
  avgGasUsed : Option Rat
  firstTransactionAt : Option DateTime
  lastTransactionAt : Option DateTime

/-- The columns that `blockchain_statistics` selects from a group. -/
def BlockchainStatistics.ofGroup (group : String × List RecordRow) : BlockchainStatistics where
  network := group.1
  totalTransactions := group.2.length
  confirmed := group.2.countP fun r => r.status = .confirmed
  pending := group.2.countP fun r => r.status = .pending
  failed := group.2.countP fun r => r.status = .failed
  dropped := group.2.countP fun r => r.status = .dropped
  avgConfirmationTimeSeconds := Sql.avg (scale 6)
    ((group.2.filter fun r => r.confirmedAt.isSome).map RecordRow.confirmationTimeSeconds)
  totalGasUsed := Sql.sum ((group.2.filter fun r => r.gasUsed.isSome).map RecordRow.gasUsed)
  avgGasUsed :=
    Sql.avg (scale 0) ((group.2.filter fun r => r.gasUsed.isSome).map RecordRow.gasUsedNumeric)
  firstTransactionAt := (group.2.map RecordRow.createdAt).min?
  lastTransactionAt := (group.2.map RecordRow.createdAt).max?

/-- A row of `daily_blockchain_statistics`. -/
structure DailyBlockchainStatistics (Date : Type) where
  transactionDate : Date
  network : String
  totalTransactions : Nat
  confirmed : Nat
  failed : Nat
  totalGasUsed : Option Int
  avgConfirmationTimeSeconds : Option Rat

/-- The columns that `daily_blockchain_statistics` selects from a group. -/
def DailyBlockchainStatistics.ofGroup {Date : Type} (group : (Date × String) × List RecordRow) :
    DailyBlockchainStatistics Date where
  transactionDate := group.1.1
  network := group.1.2
  totalTransactions := group.2.length
  confirmed := group.2.countP fun r => r.status = .confirmed
  failed := group.2.countP fun r => r.status = .failed
  totalGasUsed := Sql.sum ((group.2.filter fun r => r.gasUsed.isSome).map RecordRow.gasUsed)
  avgConfirmationTimeSeconds := Sql.avg (scale 6)
    ((group.2.filter fun r => r.confirmedAt.isSome).map RecordRow.confirmationTimeSeconds)

/-- A row of `stuck_transactions`. -/
structure StuckTransaction where
  recordId : UUID
  shipmentId : UUID
  txHash : String
  status : BlockchainTxStatus
  createdAt : DateTime
  pendingDurationSeconds : Rat
  network : String
  errorMessage : Option String

/-- The columns that `stuck_transactions` selects of a row at some time. -/
def StuckTransaction.ofRow (now : DateTime) (row : RecordRow) : StuckTransaction where
  recordId := row.recordId
  shipmentId := row.shipmentId
  txHash := row.txHash
  status := row.status
  createdAt := row.createdAt
  pendingDurationSeconds := ((now - row.createdAt : Int) : Rat) / 1000000
  network := row.network
  errorMessage := row.errorMessage

/-- A row of `confirmed_transactions_summary`. -/
structure ConfirmedTransaction where
  recordId : UUID
  shipmentId : UUID
  txHash : String
  blockNumber : Option Int
  confirmedAt : Option DateTime
  gasUsed : Option Int
  network : String
  confirmationTimeSeconds : Option Rat

/-- The columns that `confirmed_transactions_summary` selects of a row. -/
def ConfirmedTransaction.ofRow (row : RecordRow) : ConfirmedTransaction where
  recordId := row.recordId
  shipmentId := row.shipmentId
  txHash := row.txHash
  blockNumber := row.blockNumber
  confirmedAt := row.confirmedAt
  gasUsed := row.gasUsed
  network := row.network
  confirmationTimeSeconds := row.confirmationTimeSeconds

/-- `INTERVAL '30 minutes'`. -/
def thirtyMinutes : Int := 30 * 60 * 1000000

namespace RecordDb

/-- The query of `blockchain_statistics`. -/
def blockchainStatistics (db : RecordDb) : List BlockchainStatistics :=
  (Sql.groupBy RecordRow.network db.records.rows).map (.ofGroup scale)

/-- The query of `daily_blockchain_statistics`, with the `DATE` of the time zone of the session. -/
def dailyBlockchainStatistics {Date : Type} [DecidableEq Date] (date : DateTime → Date)
    (db : RecordDb) : List (DailyBlockchainStatistics Date) :=
  (Sql.groupBy (fun r => (date r.createdAt, r.network)) db.records.rows).map (.ofGroup scale)

/-- The query of `stuck_transactions`, oldest first. -/
def stuckTransactions (now : DateTime) (db : RecordDb) : List StuckTransaction :=
  ((db.records.rows.filter fun r => r.status = .pending ∧ r.createdAt < now - thirtyMinutes
    ).insertionSort fun r s => r.createdAt ≤ s.createdAt).map (.ofRow now)

/-- The query of `confirmed_transactions_summary`, latest first. -/
def confirmedTransactionsSummary (db : RecordDb) : List ConfirmedTransaction :=
  ((db.records.rows.filter fun r => r.status = .confirmed).insertionSort
    fun r s => r.notBefore s).map .ofRow

end RecordDb

/-- What the materialized views hold. -/
structure MaterializedViews (Date : Type) where
  blockchainStatistics : List BlockchainStatistics
  dailyBlockchainStatistics : List (DailyBlockchainStatistics Date)

/-- `refresh_blockchain_statistics`, with no statement of the service between the two refreshes. -/
def RecordDb.refreshBlockchainStatistics {Date : Type} [DecidableEq Date] (date : DateTime → Date)
    (db : RecordDb) : MaterializedViews Date :=
  ⟨db.blockchainStatistics scale, db.dailyBlockchainStatistics scale date⟩

/-- The statistics add up: to a total, to the averages as far as they are exact, and over the
days. -/
structure MaterializedViews.AddUp {Date : Type} (views : MaterializedViews Date)
    (s : BlockchainStatistics) : Prop where
  total : s.totalTransactions = s.confirmed + s.pending + s.failed + s.dropped
  averaged : s.avgConfirmationTimeSeconds.isSome ↔ 0 < s.confirmed
  gas : |s.avgGasUsed.getD 0 * s.confirmed - ((s.totalGasUsed.getD 0 : Int) : Rat)| ≤
    s.confirmed / 2 / 10 ^ scale 0 ((s.totalGasUsed.getD 0 : Int) : Rat) s.confirmed
  dailyTotal : (views.dailyBlockchainStatistics.map
    DailyBlockchainStatistics.totalTransactions).sum = s.totalTransactions
  dailyConfirmed : (views.dailyBlockchainStatistics.map
    DailyBlockchainStatistics.confirmed).sum = s.confirmed
  dailyFailed : (views.dailyBlockchainStatistics.map
    DailyBlockchainStatistics.failed).sum = s.failed
  dailyGas : (views.dailyBlockchainStatistics.map fun daily => daily.totalGasUsed.getD 0).sum =
    s.totalGasUsed.getD 0

/-- Later statistics count at least as many transactions of every kind but the pending ones, and
none more as dropped. -/
structure BlockchainStatistics.Grows (s s' : BlockchainStatistics) : Prop where
  network : s'.network = s.network
  total : s.totalTransactions ≤ s'.totalTransactions
  confirmed : s.confirmed ≤ s'.confirmed
  failed : s.failed ≤ s'.failed
  dropped : s'.dropped = s.dropped

namespace RecordDb

variable {scale} {db : RecordDb}

/-- There is one row for all transactions, if there are any. -/
theorem mem_blockchainStatistics {s : BlockchainStatistics} :
    s ∈ db.blockchainStatistics scale ↔
      db.records.rows ≠ [] ∧ s = .ofGroup scale ("ethereum", db.records.rows) := by
  have hgroup : Sql.groupBy RecordRow.network db.records.rows =
      if db.records.rows = [] then [] else [("ethereum", db.records.rows)] :=
    Sql.groupBy_const "ethereum" db.records.rows
  rw [blockchainStatistics, hgroup]
  split_ifs with hrows
  · simp [hrows]
  · simp [hrows]

/-- Every row has one of the four statuses. -/
theorem length_eq_countP (rows : List RecordRow) :
    rows.length = rows.countP (fun r => r.status = .confirmed) +
      rows.countP (fun r => r.status = .pending) + rows.countP (fun r => r.status = .failed) +
      rows.countP fun r => r.status = .dropped := by
  induction rows with
  | nil => rfl
  | cons r rows ih =>
    simp only [List.length_cons, List.countP_cons, ih]
    cases r.status <;> simp <;> omega

/-- Where exactly the confirmed rows have a value in a column, its values are as many as they. -/
theorem count_confirmed {γ : Type} (column : RecordRow → Option γ) {filtered : RecordRow → Bool}
    (hfiltered : ∀ row, filtered row = (column row).isSome)
    (hconfirmed : ∀ row ∈ db.records.rows, filtered row ↔ row.status = .confirmed) :
    Sql.count ((db.records.rows.filter filtered).map column) =
      db.records.rows.countP fun r => r.status = .confirmed := by
  rw [Sql.count, Sql.reduceOption_filter hfiltered, Sql.length_reduceOption]
  refine List.countP_congr fun row hrow => ?_
  rw [← hfiltered, decide_eq_true_iff]
  exact hconfirmed row hrow

/-- The sum of `gas_used`, as a `NUMERIC`. -/
theorem sum_gasUsedNumeric (rows : List RecordRow) :
    (Sql.sum (rows.map RecordRow.gasUsedNumeric)).getD 0 =
      (((Sql.sum (rows.map RecordRow.gasUsed)).getD 0 : Int) : Rat) := by
  rw [Sql.getD_sum, Sql.getD_sum]
  induction rows with
  | nil => rfl
  | cons r rows ih =>
    cases hgas : r.gasUsed <;> simp_all [RecordRow.gasUsedNumeric]

/-- The statistics of consistent rows add up. -/
theorem Consistent.addUp (hdb : db.Consistent) {Date : Type} [DecidableEq Date]
    (date : DateTime → Date) {s : BlockchainStatistics} (hs : s ∈ db.blockchainStatistics scale) :
    (db.refreshBlockchainStatistics scale date).AddUp scale s := by
  obtain ⟨_, rfl⟩ := mem_blockchainStatistics.mp hs
  have hgas : ∀ row : RecordRow, row.gasUsed.isSome = row.gasUsedNumeric.isSome := fun row =>
    (Option.isSome_map ..).symm
  have htime : ∀ row : RecordRow, row.confirmedAt.isSome = row.confirmationTimeSeconds.isSome :=
    fun row => (Option.isSome_map ..).symm
  have hdaily : ∀ p : RecordRow → Bool,
      ((Sql.groupBy (fun r : RecordRow => (date r.createdAt, r.network)) db.records.rows).map
        fun group => group.2.countP p).sum = db.records.rows.countP p :=
    fun p => Sql.sum_groupBy_countP p
  refine ⟨length_eq_countP _, ?_, ?_, ?_, ?_, ?_, ?_⟩
  · have hcount := count_confirmed RecordRow.confirmationTimeSeconds htime fun row hrow =>
      (hdb row hrow).confirmedAt
    exact (Sql.isSome_avg (scale 6) _).trans (by rw [hcount]; rfl)
  · have hcount := count_confirmed RecordRow.gasUsedNumeric hgas fun row hrow =>
      (hdb row hrow).gasUsed
    have htotal : Sql.sum ((db.records.rows.filter fun r => r.gasUsed.isSome).map
        RecordRow.gasUsed) = Sql.sum (db.records.rows.map RecordRow.gasUsed) := by
      rw [Sql.sum, Sql.sum, Sql.reduceOption_filter fun _ => rfl]
    have havg := Sql.abs_avg_mul_count_sub_le (scale 0)
      ((db.records.rows.filter fun r => r.gasUsed.isSome).map RecordRow.gasUsedNumeric)
    rw [hcount, Sql.getD_sum, Sql.reduceOption_filter hgas, ← Sql.getD_sum,
      sum_gasUsedNumeric, ← htotal] at havg
    exact havg
  · rw [refreshBlockchainStatistics, dailyBlockchainStatistics, List.map_map]
    refine Eq.trans (congrArg List.sum (List.map_congr_left fun group _ => ?_))
      ((hdaily fun _ => true).trans (by simp [BlockchainStatistics.ofGroup]))
    simp [DailyBlockchainStatistics.ofGroup]
  · rw [refreshBlockchainStatistics, dailyBlockchainStatistics, List.map_map]
    exact hdaily fun r => r.status = .confirmed
  · rw [refreshBlockchainStatistics, dailyBlockchainStatistics, List.map_map]
    exact hdaily fun r => r.status = .failed
  · have hsum : ∀ rows : List RecordRow,
        (Sql.sum ((rows.filter fun r => r.gasUsed.isSome).map RecordRow.gasUsed)).getD 0 =
          (Sql.sum (rows.map RecordRow.gasUsed)).getD 0 := fun rows => by
      rw [Sql.getD_sum, Sql.getD_sum, Sql.reduceOption_filter fun _ => rfl]
    rw [refreshBlockchainStatistics, dailyBlockchainStatistics, List.map_map]
    refine Eq.trans (congrArg List.sum (List.map_congr_left fun group _ => hsum group.2))
      ((Sql.sum_groupBy_sum RecordRow.gasUsed).trans (hsum _).symm)

end RecordDb

theorem RecordRow.Settles.status {old new : RecordRow} (h : old.Settles new) :
    new.status = .confirmed ∨ new.status = .failed := by
  cases h with
  | confirm => exact .inl rfl
  | fail => exact .inr rfl

namespace RecordDb

/-- What calls leave of the rows and of their numbers: a settled row stays as it is, and a pending
one stays or is settled. -/
structure Accounted (db db' : RecordDb) : Prop where
  total : db.records.rows.length ≤ db'.records.rows.length
  confirmed : (db.records.rows.countP fun r => r.status = .confirmed) ≤
    db'.records.rows.countP fun r => r.status = .confirmed
  failed : (db.records.rows.countP fun r => r.status = .failed) ≤
    db'.records.rows.countP fun r => r.status = .failed
  dropped : (db'.records.rows.countP fun r => r.status = .dropped) =
    db.records.rows.countP fun r => r.status = .dropped
  settled : ∀ row ∈ db.records.rows, row.status ≠ .pending → row ∈ db'.records.rows
  pending : ∀ row ∈ db.records.rows, row ∈ db'.records.rows ∨
    ∃ new ∈ db'.records.rows, new.recordId = row.recordId ∧
      (new.status = .confirmed ∨ new.status = .failed)

variable {scale} {db db' db'' : RecordDb}

theorem Accounted.refl (db : RecordDb) : db.Accounted db :=
  ⟨le_rfl, le_rfl, le_rfl, rfl, fun _ hrow _ => hrow, fun _ hrow => .inl hrow⟩

theorem Accounted.trans (h : db.Accounted db') (h' : db'.Accounted db'') : db.Accounted db'' where
  total := h.total.trans h'.total
  confirmed := h.confirmed.trans h'.confirmed
  failed := h.failed.trans h'.failed
  dropped := h'.dropped.trans h.dropped
  settled row hrow hstatus := h'.settled row (h.settled row hrow hstatus) hstatus
  pending row hrow := by
    rcases h.pending row hrow with hrow | ⟨new, hnew, hid, hstatus⟩
    · exact h'.pending row hrow
    · refine .inr ⟨new, h'.settled new hnew ?_, hid, hstatus⟩
      rintro hpending
      simp [hpending] at hstatus

/-- A new record is pending. -/
theorem Accounted.insert {row : RecordRow} (hstatus : row.status = .pending)
    (hrows : db'.records.rows = db.records.rows ++ [row]) : db.Accounted db' where
  total := by simp [hrows]
  confirmed := by simp [hrows, hstatus]
  failed := by simp [hrows, hstatus]
  dropped := by simp [hrows, hstatus]
  settled old hold _ := hrows ▸ List.mem_append_left _ hold
  pending old hold := .inl (hrows ▸ List.mem_append_left _ hold)

/-- A pending record is settled in its place. -/
theorem Accounted.settle {old new : RecordRow} (hpending : old.status = .pending)
    (hid : new.recordId = old.recordId) (hstatus : new.status = .confirmed ∨ new.status = .failed)
    {before after : List RecordRow} (hrows : db.records.rows = before ++ old :: after)
    (hrows' : db'.records.rows = before ++ new :: after) : db.Accounted db' where
  total := by simp [hrows, hrows']
  confirmed := by
    rcases hstatus with hstatus | hstatus <;> simp [hrows, hrows', hpending, hstatus]
  failed := by
    rcases hstatus with hstatus | hstatus <;> simp [hrows, hrows', hpending, hstatus]
  dropped := by
    rcases hstatus with hstatus | hstatus <;> simp [hrows, hrows', hpending, hstatus]
  settled row hrow hsettled := by
    rw [hrows, List.mem_append, List.mem_cons] at hrow
    rw [hrows', List.mem_append, List.mem_cons]
    rcases hrow with hrow | rfl | hrow
    · exact .inl hrow
    · exact absurd hpending hsettled
    · exact .inr (.inr hrow)
  pending row hrow := by
    rw [hrows, List.mem_append, List.mem_cons] at hrow
    rw [hrows', List.mem_append, List.mem_cons]
    rcases hrow with hrow | rfl | hrow
    · exact .inl (.inl hrow)
    · exact .inr ⟨new, List.mem_append_right _ (List.mem_cons_self ..), hid, hstatus⟩
    · exact .inl (.inr (.inr hrow))

/-- One call is accounted for. -/
theorem Changes.accounted (h : db.Changes db') : db.Accounted db' := by
  cases h with
  | refl => exact .refl db
  | insert hnew hrow hput =>
    exact .insert hrow.status (hput ▸ Table.rows_put_of_find?_none hnew)
  | settle hold hpending hsettles hput =>
    obtain ⟨before, after, hrows, hrows'⟩ := Table.exists_split_put (hsettles.recordId ▸ hold)
    exact .settle hpending hsettles.recordId hsettles.status hrows (hput ▸ hrows')

/-- The statistics of what is accounted for grow. -/
theorem Accounted.grows (h : db.Accounted db') {s : BlockchainStatistics}
    (hs : s ∈ db.blockchainStatistics scale) :
    ∃ s' ∈ db'.blockchainStatistics scale, s.Grows s' := by
  obtain ⟨hrows, rfl⟩ := mem_blockchainStatistics.mp hs
  refine ⟨_, mem_blockchainStatistics.mpr ⟨?_, rfl⟩, rfl, h.total, h.confirmed, h.failed, h.dropped⟩
  exact List.ne_nil_of_length_pos ((List.length_pos_of_ne_nil hrows).trans_le h.total)

/-- A transaction that is listed as confirmed stays listed as it is. -/
theorem Accounted.confirmedTransactionsSummary (h : db.Accounted db') :
    db.confirmedTransactionsSummary ⊆ db'.confirmedTransactionsSummary := by
  intro t ht
  simp only [RecordDb.confirmedTransactionsSummary, List.mem_map, List.mem_insertionSort,
    List.mem_filter, decide_eq_true_iff] at ht ⊢
  obtain ⟨row, ⟨hrow, hconfirmed⟩, rfl⟩ := ht
  exact ⟨row, ⟨h.settled row hrow (by simp [hconfirmed]), hconfirmed⟩, rfl⟩

/-- A transaction that is listed as stuck stays listed until it is settled. -/
theorem Accounted.stuckTransactions (h : db.Accounted db') {now now' : DateTime} (hle : now ≤ now')
    {t : StuckTransaction} (ht : t ∈ db.stuckTransactions now) :
    (∃ t' ∈ db'.stuckTransactions now', t'.recordId = t.recordId) ∨
      ∃ new ∈ db'.records.rows, new.recordId = t.recordId ∧
        (new.status = .confirmed ∨ new.status = .failed) := by
  simp only [RecordDb.stuckTransactions, List.mem_map, List.mem_insertionSort,
    List.mem_filter, decide_eq_true_iff] at ht ⊢
  obtain ⟨row, ⟨hrow, hpending, hold⟩, rfl⟩ := ht
  rcases h.pending row hrow with hrow | hnew
  · exact .inl ⟨_, ⟨row, ⟨hrow, hpending, hold.trans_le (Int.sub_le_sub_right hle _)⟩, rfl⟩, rfl⟩
  · exact .inr hnew

end RecordDb

section Runs

variable {κ : Type} [DecidableEq κ] {monitor : ConfirmationMonitor}
  {registrations : κ → Registration}

/-- A run is accounted for. -/
theorem Regular.accounted (hinjective : Function.Injective fun k => (registrations k).recordId)
    {c d : Config (Option κ) Call Call.Ans BlockchainError Unit World}
    (hc : Regular monitor registrations c) {sched : List (Option κ)}
    (h : c.exec act sched = some d) : c.world.db.Accounted d.world.db := by
  obtain ⟨st, hconforms, hsound⟩ := hc
  obtain ⟨_, _, _, haccounted⟩ := Config.exec_conforms
    (fun st w _ => Sound monitor.service.requiredConfirmations registrations st w ∧
      c.world.db.Accounted w.db)
    (fun st w tr i op ⟨hsound, haccounted⟩ hmay =>
      ⟨by cases i <;> exact expectedRows_act op w, hsound.step hinjective hmay,
        haccounted.trans (hsound.changes hmay).accounted⟩)
    st hconforms ⟨hsound, .refl _⟩ h
  exact haccounted

/-- Whatever a refresh finds in one state of a run adds up, and a refresh in a later state finds
statistics that have grown; a transaction that is listed as confirmed stays listed as it is, and
one that is listed as stuck stays listed until it is settled. -/
theorem views_evolve (monitor : ConfirmationMonitor) (passes : List Pass)
    (registrations : κ → Registration) {db : RecordDb} (environment : Environment)
    (hfresh : FreshIds registrations db) (hdb : db.Consistent) (past later : List (Option κ))
    {c d : Config (Option κ) Call Call.Ans BlockchainError Unit World}
    (hc : (monitored monitor passes registrations db environment).exec act past = some c)
    (hd : c.exec act later = some d) (scale : Nat → Rat → Nat → Nat) {Date : Type}
    [DecidableEq Date] (date : DateTime → Date) :
    let views := c.world.db.refreshBlockchainStatistics scale date
    let views' := d.world.db.refreshBlockchainStatistics scale date
    (∀ s ∈ views.blockchainStatistics, views.AddUp scale s ∧
      ∃ s' ∈ views'.blockchainStatistics, views'.AddUp scale s' ∧ s.Grows s') ∧
    c.world.db.confirmedTransactionsSummary ⊆ d.world.db.confirmedTransactionsSummary ∧
    ∀ now now' : DateTime, now ≤ now' → ∀ t ∈ c.world.db.stuckTransactions now,
      (∃ t' ∈ d.world.db.stuckTransactions now', t'.recordId = t.recordId) ∨
        ∃ new ∈ d.world.db.records.rows, new.recordId = t.recordId ∧
          (new.status = .confirmed ∨ new.status = .failed) := by
  intro views views'
  have hstart : Regular monitor registrations
      (monitored monitor passes registrations db environment) :=
    ⟨_, conforms_monitored passes db environment, sound_start hfresh environment⟩
  obtain ⟨hregular, _, hconsistent⟩ := hstart.exec hfresh.injective hc
  obtain ⟨_, _, hconsistent'⟩ := hregular.exec hfresh.injective hd
  have haccounted := hregular.accounted hfresh.injective hd
  refine ⟨fun s hs => ⟨(hconsistent hdb).addUp date hs, ?_⟩,
    haccounted.confirmedTransactionsSummary,
    fun _ _ hle _ ht => haccounted.stuckTransactions hle ht⟩
  obtain ⟨s', hs', hgrows⟩ := haccounted.grows hs
  exact ⟨s', hs', (hconsistent' (hconsistent hdb)).addUp date hs', hgrows⟩

end Runs

/-- A registration, whose transaction is stuck after an hour, and then a pass of the monitor, which
confirms it. -/
theorem views_evolve_sample :
    ∃ c d, (monitored sampleMonitor samplePasses sampleRegistration .empty verifyingGateway).exec
        act [some (), some ()] = some c ∧
      c.exec act [none, none, none, none] = some d ∧
      ((c.world.db.blockchainStatistics fun _ _ _ => 16).map BlockchainStatistics.pending = [1]) ∧
      ((d.world.db.blockchainStatistics fun _ _ _ => 16).map BlockchainStatistics.totalGasUsed =
        [some 21000]) ∧
      (d.world.db.stuckTransactions (2 * thirtyMinutes)).length = 0 ∧
      ∀ t ∈ c.world.db.stuckTransactions (2 * thirtyMinutes),
        (∃ t' ∈ d.world.db.stuckTransactions (2 * thirtyMinutes), t'.recordId = t.recordId) ∨
          ∃ new ∈ d.world.db.records.rows, new.recordId = t.recordId ∧
            (new.status = .confirmed ∨ new.status = .failed) := by
  refine ⟨_, _, rfl, rfl, rfl, rfl, rfl, ?_⟩
  exact (views_evolve sampleMonitor samplePasses sampleRegistration verifyingGateway
    ⟨fun _ _ _ => rfl, fun _ => rfl⟩ (fun _ hrow => absurd hrow List.not_mem_nil)
    [some (), some ()] [none, none, none, none] rfl rfl (fun _ _ _ => 16) id).2.2 _ _ le_rfl

end SupplyChainTracker.Blockchain
