import SupplyChainTracker.Blockchain.Monitor
import SupplyChainTracker.Core.Async.Effect
import SupplyChainTracker.Core.Run

/-!
# Transactions and their records

`register_event` sends before it saves. What the gateway has accepted stays without a record when
the `save` after it raises, and nothing sends or saves it again.
-/

namespace SupplyChainTracker.Blockchain

/-- A record with a transaction hash is stored. -/
def Recorded (db : RecordDb) (txHash : String) : Prop :=
  ∃ row ∈ db.records.rows, row.txHash = txHash

instance (db : RecordDb) (txHash : String) : Decidable (Recorded db txHash) :=
  inferInstanceAs (Decidable (∃ row ∈ db.records.rows, _))

section Save

variable {db : RecordDb} {record : BlockchainRecord} {txHash : String}

/-- A row that is replaced keeps its transaction hash. -/
theorem Recorded.save (h : Recorded db txHash) (record : BlockchainRecord) :
    Recorded (db.save record).2 txHash := by
  obtain ⟨row, hrow, htx⟩ := h
  obtain ⟨_, db', hsave, hput⟩ | ⟨_, e, hsave⟩ := db.save_cases record
  · rw [hsave, Recorded, hput]
    by_cases hid : row.recordId = record.recordId
    · have hfind : db.records.find? record.recordId = some row :=
        (Table.find?_eq_some_iff _ _ _).mpr ⟨hrow, hid⟩
      refine ⟨db.target record, (Table.mem_put _ _ _).mpr (.inl rfl), ?_⟩
      rw [RecordDb.target_of_find? hfind]
      exact htx
    · refine ⟨row, (Table.mem_put _ _ _).mpr (.inr ⟨hrow, ?_⟩), htx⟩
      rwa [RecordDb.recordId_target]
  · rw [hsave]
    exact ⟨row, hrow, htx⟩

/-- Afterwards a record has the hash of a record with a new id, but a stored one keeps its own. -/
theorem recorded_save_iff :
    Recorded (db.save record).2 record.txHash ↔
      Recorded db record.txHash ∨ db.records.find? record.recordId = none := by
  constructor
  · intro h
    cases hold : db.records.find? record.recordId with
    | none => exact .inr rfl
    | some old =>
      left
      rw [Recorded, (RecordDb.save_of_find? hold).2] at h
      obtain ⟨row, hrow, htx⟩ := h
      rcases (Table.mem_put _ _ _).mp hrow with rfl | ⟨hmem, _⟩
      · exact ⟨old, Table.mem_of_find? hold, htx⟩
      · exact ⟨row, hmem, htx⟩
  · rintro (h | hnone)
    · exact h.save record
    · obtain ⟨_, db', hsave, hput⟩ | ⟨hrefused, e, hsave⟩ := db.save_cases record
      · rw [hsave, Recorded, hput, RecordDb.target_of_find?_none hnone]
        exact ⟨record.toRow, (Table.mem_put _ _ _).mpr (.inl rfl), rfl⟩
      · rw [RecordDb.accepts_iff_of_find?_none hnone] at hrefused
        simp only [ne_eq, not_forall, not_not, exists_prop] at hrefused
        rw [hsave]
        exact hrefused

end Save

/-- The record of a call of `register_event`. -/
def Registration.record (registration : Registration) (txHash : String) : BlockchainRecord where
  shipmentId := registration.shipmentId
  txHash := txHash
  payload := registration.payload
  status := .pending
  recordId := registration.recordId
  createdAt := registration.createdAt

/-- A call of `register_event`, to its end. -/
def register (registration : Registration) (w : World) : World :=
  (registration.program.run act w).2

/-- Every transaction that the gateway has accepted is recorded. -/
def AllRecorded (w : World) : Prop := ∀ tx ∈ w.sent, Recorded w.db tx.2

/-- If the transaction of a call is accepted, the `save` after it does not raise and the drawn id
is new, unless the hash is recorded already. -/
def Bookkept (w : World) (registration : Registration) : Prop :=
  ∀ txHash, w.environment.sendTransaction w.calls = .ok txHash →
    Recorded w.db txHash ∨ (w.environment.raises (w.calls + 1) = none ∧
      w.db.records.find? registration.recordId = none)

/-- After the statement of a `save` nothing is called. -/
theorem run_save (record : BlockchainRecord) (w : World) :
    ((BlockchainRepository.save record).run act w).2 = (act (.save record) w).2 := by
  rw [BlockchainRepository.save, Coroutine.bind_eq,
    Coroutine.run_bind_of_idle _ fun row => Coroutine.idle_ofExcept (rowToEntity row),
    Coroutine.run_perform]

/-- A call sends, and saves where the gateway accepts. -/
theorem register_of_sent (registration : Registration) {w w' : World} {txHash : String}
    (h : act (.sendTransaction registration.payload) w = (.ok txHash, w')) :
    register registration w = (act (.save (registration.record txHash)) w').2 := by
  rw [register, Registration.program, Coroutine.snd_run_map, BlockchainService.registerEvent,
    Coroutine.bind_eq, Coroutine.run_bind, Coroutine.run_perform, h]
  change (((BlockchainRepository.save (registration.record txHash)).bind
    fun _ => .ret txHash).run act w').2 = _
  rw [Coroutine.snd_run_map, run_save]

theorem register_of_refused (registration : Registration) {w w' : World} {e : BlockchainError}
    (h : act (.sendTransaction registration.payload) w = (.error e, w')) :
    register registration w = w' := by
  simp only [register, Registration.program, BlockchainService.registerEvent, Coroutine.bind_eq,
    Coroutine.run_bind, Coroutine.run_perform, h]

/-- What a call of `register_event` leaves. -/
theorem register_cases (registration : Registration) (w : World) :
    (∃ e, w.environment.sendTransaction w.calls = .error e ∧
      (register registration w).sent = w.sent ∧ (register registration w).db = w.db) ∨
    ∃ txHash, w.environment.sendTransaction w.calls = .ok txHash ∧
      (register registration w).sent = w.sent ++ [(registration.payload, txHash)] ∧
      (register registration w).db =
        if w.environment.raises (w.calls + 1) = none then
          (w.db.save (registration.record txHash)).2
        else w.db := by
  cases hsend : w.environment.sendTransaction w.calls with
  | error e =>
    have hact : act (.sendTransaction registration.payload) w = (.error e, w.called) := by
      simp only [act, hsend]
    rw [register_of_refused registration hact]
    exact .inl ⟨e, rfl, rfl, rfl⟩
  | ok txHash =>
    have hact : act (.sendTransaction registration.payload) w =
        (.ok txHash, { w.called with sent := w.sent ++ [(registration.payload, txHash)] }) := by
      simp only [act, hsend]
    rw [register_of_sent registration hact]
    refine .inr ⟨txHash, rfl, ?_⟩
    simp only [act, World.raises, World.called]
    cases w.environment.raises (w.calls + 1) with
    | some e => exact ⟨rfl, rfl⟩
    | none => exact ⟨rfl, rfl⟩

/-- One call leaves every transaction recorded exactly when its own is. -/
theorem allRecorded_register_iff (registration : Registration) {w : World} (h : AllRecorded w) :
    AllRecorded (register registration w) ↔ Bookkept w registration := by
  obtain ⟨e, hsend, hsent, hdb⟩ | ⟨txHash, hsend, hsent, hdb⟩ := register_cases registration w
  · refine iff_of_true ?_ ?_
    · rw [AllRecorded, hsent, hdb]
      exact h
    · intro txHash htx
      rw [hsend] at htx
      cases htx
  · have hkept : ∀ tx ∈ w.sent, Recorded (register registration w).db tx.2 := by
      intro tx htx
      rw [hdb]
      split_ifs
      · exact (h tx htx).save _
      · exact h tx htx
    have hown : AllRecorded (register registration w) ↔
        Recorded (register registration w).db txHash := by
      rw [AllRecorded, hsent]
      simp only [List.forall_mem_append, List.forall_mem_singleton]
      exact and_iff_right hkept
    have hcondition : Bookkept w registration ↔ Recorded w.db txHash ∨
        (w.environment.raises (w.calls + 1) = none ∧
          w.db.records.find? registration.recordId = none) := by
      simp only [Bookkept, hsend, Except.ok.injEq, forall_eq']
    rw [hown, hcondition, hdb]
    split_ifs with hraises
    · rw [and_iff_right hraises]
      exact @recorded_save_iff w.db (registration.record txHash)
    · simp only [hraises, false_and, or_false]

/-- After every call of a sequence each accepted transaction has a record exactly when no `save`
behind an accepted transaction raises and every drawn id is new. -/
theorem all_recorded_iff (db : RecordDb) (environment : Environment)
    (registrations : List Registration) :
    Throughout register AllRecorded registrations (World.start db environment) ↔
      EachStep register Bookkept registrations (World.start db environment) := by
  have hinv : ∀ (w : World) (registration : Registration), True → True → True :=
    fun _ _ _ _ => trivial
  exact throughout_iff_eachStep hinv
    (fun _ registration _ _ h => allRecorded_register_iff registration h) trivial
    (fun _ htx => absurd htx List.not_mem_nil) fun _ _ => trivial

/-- The gateway accepts every transaction; the database is gone at the second call. -/
def lostDatabase : Environment where
  sendTransaction _ := .ok "0xd1"
  getReceipt _ := .ok none
  raises n := if n = 1 then some (.external "connection lost") else none

/-- The gateway has accepted a transaction that no record is stored for. -/
theorem sent_unrecorded :
    ¬ Throughout register AllRecorded [⟨⟨90⟩, .obj [], ⟨91⟩, 0⟩]
      (World.start .empty lostDatabase) := by
  rintro ⟨_, hafter⟩
  obtain ⟨row, hrow, _⟩ := hafter (.obj [], "0xd1") (List.mem_singleton.mpr rfl)
  cases hrow

end SupplyChainTracker.Blockchain
