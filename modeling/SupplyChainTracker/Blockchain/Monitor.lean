import SupplyChainTracker.Blockchain.Service
import SupplyChainTracker.Core.Async.Gather

/-!
# The confirmation monitor

`ConfirmationMonitor.run` beside calls of `register_event`. The monitor reads a batch of
pending records and gathers one task for each; each task may save the record that it has been
given once, and announce it once it has saved it as confirmed.
-/

namespace SupplyChainTracker.Blockchain

open Coroutine (perform)

/-- What the event loop and the defaults of the events bring to one pass of the monitor. -/
structure Pass where
  /-- The tasks in the order in which they go on to their next calls. -/
  picks : List Nat
  draws : UUID → EventDraws

/-- `ConfirmationMonitor`. -/
structure ConfirmationMonitor where
  service : BlockchainService
  batchSize : Nat := 50

namespace ConfirmationMonitor

variable (monitor : ConfirmationMonitor)

/-- The body of the loop of `run`; the calls of `sleep` are left out. -/
def pass (p : Pass) : Program Unit :=
  ((BlockchainRepository.getPendingRecords monitor.batchSize).bind fun records =>
    Coroutine.gather p.picks
      (records.map fun record =>
        monitor.service.updateConfirmation record (p.draws record.recordId))).tryCatch
    fun _ => .ret ()

/-- `run`, for a number of passes. -/
def run : List Pass → Program Unit
  | [] => .ret ()
  | p :: passes => (monitor.pass p).bind fun _ => run passes

end ConfirmationMonitor

/-- A call of `register_event`. -/
structure Registration where
  shipmentId : UUID
  payload : Json
  recordId : UUID
  createdAt : DateTime

/-- The coroutine of a call of `register_event`. -/
def Registration.program (registration : Registration) : Program Unit :=
  (BlockchainService.registerEvent registration.shipmentId registration.payload
    registration.recordId registration.createdAt).bind fun _ => .ret ()

/-- The drawn ids are new. -/
structure FreshIds {κ : Type} (registrations : κ → Registration) (db : RecordDb) : Prop where
  injective : Function.Injective fun k => (registrations k).recordId
  new : ∀ k, db.records.find? (registrations k).recordId = none

/-- One monitor beside any number of registrations, before anything has happened. -/
def monitored {κ : Type} (monitor : ConfirmationMonitor) (passes : List Pass)
    (registrations : κ → Registration) (db : RecordDb) (environment : Environment) :
    Config (Option κ) Call Call.Ans BlockchainError Unit World where
  threads
    | none => monitor.run passes
    | some k => (registrations k).program
  world := World.start db environment
  trace := []

/-- The last status of a receipt, with enough confirmations. -/
def Receipt.Final (required : Int) (receipt : Receipt) : Prop :=
  receipt.status = some "success" ∧ required ≤ receipt.confirmations.getD 0

instance (required : Int) (receipt : Receipt) : Decidable (receipt.Final required) :=
  inferInstanceAs (Decidable (_ ∧ _))

/-- What a participant holds: the records that its pass has read, with whether they have been
saved as confirmed, the receipts that it has seen, and whether it has inserted its record. -/
structure Holding where
  held : UUID → Option (RecordRow × Bool)
  seen : List (String × Receipt)
  inserted : Bool

namespace Holding

/-- A participant that has done nothing. -/
def initial : Holding := ⟨fun _ => none, [], false⟩

/-- No announcement is due. -/
def Settled (s : Holding) : Prop := ∀ id row, s.held id ≠ some (row, true)

end Holding

/-- The record that a task may save for the pending row that it has been given. -/
def MaySave (required : Int) (seen : List (String × Receipt)) (row : RecordRow)
    (record : BlockchainRecord) : Prop :=
  (∃ reason, record = row.toPending.fail reason) ∨
  ∃ blockNumber gasUsed timestamp receipt,
    record = row.toPending.confirm blockNumber gasUsed timestamp ∧
      (row.txHash, receipt) ∈ seen ∧ receipt.Final required

/-- The rows that a call of the repository returns. -/
def ExpectedRows : (op : Call) → Except BlockchainError op.Ans → Prop
  | .getPendingRecords _, .ok rows =>
      (rows.map RecordRow.recordId).Nodup ∧ ∀ row ∈ rows, row.status = .pending
  | .save record, .ok row => row.status = record.status.value
  | _, _ => True

/-- What is held of the rows that have been read. -/
def heldRows (rows : List RecordRow) (recordId : UUID) : Option (RecordRow × Bool) :=
  (rows.find? fun row => row.recordId = recordId).map fun row => (row, false)

/-- What is held of a record after it has been saved. -/
def heldAfterSave (s : Holding) (record : BlockchainRecord) : Option (RecordRow × Bool) :=
  if record.status = .confirmed then (s.held record.recordId).map fun h => (h.1, true) else none

/-- What the monitor holds after a call. -/
def Holding.answered (s : Holding) : (op : Call) → Except BlockchainError op.Ans → Holding
  | .getPendingRecords _, .ok rows => { s with held := heldRows rows }
  | .getPendingRecords _, .error _ => { s with held := fun _ => none }
  | .getReceipt txHash, .ok (some receipt) => { s with seen := s.seen ++ [(txHash, receipt)] }
  | .save record, .ok _ =>
      { s with held := Function.update s.held record.recordId (heldAfterSave s record) }
  | .save record, .error _ => { s with held := Function.update s.held record.recordId none }
  | .publishEvent event _, _ => { s with held := Function.update s.held event.aggregateId none }
  | _, _ => s

namespace Holding

variable (s : Holding) {id : UUID} {record : BlockchainRecord} {event : Event}

@[simp] theorem held_getReceipt (txHash : String) (r : Except BlockchainError (Option Receipt)) :
    (s.answered (.getReceipt txHash) r).held = s.held := by
  rcases r with e | (_ | receipt) <;> rfl

theorem held_save_ok (record : BlockchainRecord) (row : RecordRow) :
    (s.answered (.save record) (.ok row)).held record.recordId = heldAfterSave s record :=
  Function.update_self ..

theorem held_save_error (record : BlockchainRecord) (e : BlockchainError) :
    (s.answered (.save record) (.error e)).held record.recordId = none :=
  Function.update_self ..

/-- A `save` leaves what is held of other records. -/
theorem held_save_of_ne (h : id ≠ record.recordId) (r : Except BlockchainError RecordRow) :
    (s.answered (.save record) r).held id = s.held id := by
  cases r <;> exact Function.update_of_ne h _ _

@[simp] theorem held_publishEvent (event : Event) (topics : List String)
    (r : Except BlockchainError Unit) :
    (s.answered (.publishEvent event topics) r).held event.aggregateId = none :=
  Function.update_self ..

/-- An announcement leaves what is held of other records. -/
theorem held_publishEvent_of_ne (h : id ≠ event.aggregateId) (topics : List String)
    (r : Except BlockchainError Unit) :
    (s.answered (.publishEvent event topics) r).held id = s.held id :=
  Function.update_of_ne h _ _

/-- A receipt that has been seen stays seen. -/
theorem seen_subset_answered (op : Call) (r : Except BlockchainError op.Ans) :
    s.seen ⊆ (s.answered op r).seen := by
  cases op with
  | getReceipt txHash =>
    rcases r with e | (_ | receipt)
    · exact List.Subset.refl _
    · exact List.Subset.refl _
    · exact List.subset_append_left _ _
  | sendTransaction payload => exact List.Subset.refl _
  | getPendingRecords limit => cases r <;> exact List.Subset.refl _
  | save record => cases r <;> exact List.Subset.refl _
  | publishEvent event topics => exact List.Subset.refl _

end Holding

/-- What the monitor may call. -/
def monitoring (required : Int) : Protocol Call Call.Ans BlockchainError Holding where
  may s
    | .getPendingRecords _ => s.Settled
    | .getReceipt _ => True
    | .save record => ∃ row, s.held record.recordId = some (row, false) ∧
        MaySave required s.seen row record
    | .publishEvent event _ => ∃ row, s.held event.aggregateId = some (row, true)
    | .sendTransaction _ => False
  expects := ExpectedRows
  next := Holding.answered

/-- What a call of `register_event` may call. -/
def registering (registration : Registration) :
    Protocol Call Call.Ans BlockchainError Holding where
  may s
    | .sendTransaction _ => True
    | .save record => s.inserted = false ∧ record.recordId = registration.recordId ∧
        ∃ txHash, record.toRow = {
          recordId := registration.recordId
          shipmentId := registration.shipmentId
          txHash := txHash
          status := .pending
          payload := registration.payload
          createdAt := registration.createdAt
          confirmedAt := none
          blockNumber := none
          errorMessage := none
          gasUsed := none }
    | _ => False
  expects := ExpectedRows
  next s
    | .save _, _ => { s with inserted := true }
    | _, _ => s

/-- How far the task of a record has come. -/
inductive Stage : Type
  | read
  | reverted
  | verified
  | saved
  | finished
  deriving DecidableEq

/-- How far a receipt brings a task. -/
def Stage.ofReceipt (required : Int) (receipt : Receipt) : Stage :=
  if receipt.status = some "failed" then reverted
  else if receipt.Final required then verified
  else finished

/-- What the task of a pending row may call. -/
def checking (required : Int) (row : RecordRow) :
    Protocol Call Call.Ans BlockchainError Stage where
  may t
    | .getReceipt txHash => t = .read ∧ txHash = row.txHash
    | .save record => (t = .reverted ∧ ∃ reason, record = row.toPending.fail reason) ∨
        (t = .verified ∧ ∃ blockNumber gasUsed timestamp,
          record = row.toPending.confirm blockNumber gasUsed timestamp)
    | .publishEvent event _ => t = .saved ∧ event.aggregateId = row.recordId
    | _ => False
  expects := ExpectedRows
  next t
    | .getReceipt _, .ok (some receipt) => .ofReceipt required receipt
    | .getReceipt _, _ => .finished
    | .save record, .ok _ => if record.status = .confirmed then .saved else .finished
    | .save _, .error _ => .finished
    | .publishEvent _ _, _ => .finished
    | _, _ => t

section Task

variable {required : Int} {row : RecordRow}

/-- A task goes on with the record that a `save` has stored, or raises what it raises. -/
theorem checking_save {α : Type} {record : BlockchainRecord} {k : BlockchainRecord → Program α}
    {post : Except BlockchainError α → Stage → Prop} {t : Stage}
    (hmay : (checking required row).may t (.save record)) (herror : ∀ e, post (.error e) .finished)
    (hok : ∀ saved, (k saved).Keeps (checking required row) post
      (if record.status = .confirmed then .saved else .finished)) :
    ((BlockchainRepository.save record).bind k).Keeps (checking required row) post t := by
  refine ⟨hmay, fun r hr => ?_⟩
  cases r with
  | error e => exact herror e
  | ok stored =>
    have hstatus : stored.status = record.status.value := hr
    obtain ⟨saved, hsaved⟩ := rowToEntity_of_value hstatus
    simp only [Coroutine.ofExcept_ok, Coroutine.ret_bind, hsaved]
    exact hok saved

/-- What is evaluated of a receipt raises or has a value. -/
theorem checking_ofExcept_bind {α β : Type} {r : Except BlockchainError α} {k : α → Program β}
    {post : Except BlockchainError β → Stage → Prop} {t : Stage}
    (herror : ∀ e, post (.error e) t)
    (hok : ∀ a, (k a).Keeps (checking required row) post t) :
    ((Coroutine.ofExcept r : Program α).bind k).Keeps (checking required row) post t := by
  cases r with
  | ok a => exact hok a
  | error e => exact herror e

theorem checking_confirmTransaction (service : BlockchainService) (row : RecordRow)
    (receipt : Receipt) (draws : EventDraws) :
    (service.confirmTransaction row.toPending receipt draws).Keeps
      (checking service.requiredConfirmations row) (fun _ t => t ≠ .saved) .verified := by
  refine checking_ofExcept_bind (fun _ => by simp) fun blockNumber => ?_
  refine checking_ofExcept_bind (fun _ => by simp) fun gasUsed => ?_
  refine checking_ofExcept_bind (fun _ => by simp) fun text => ?_
  refine checking_ofExcept_bind (fun _ => by simp) fun timestamp => ?_
  refine checking_save (.inr ⟨rfl, blockNumber, gasUsed, timestamp, rfl⟩) (fun _ => by simp)
    fun saved => ?_
  refine Coroutine.keeps_perform.mpr ⟨⟨rfl, rfl⟩, fun r _ => ?_⟩
  simp [checking]

theorem checking_failTransaction (row : RecordRow) (reason : String) :
    (BlockchainService.failTransaction row.toPending reason).Keeps (checking required row)
      (fun _ t => t ≠ .saved) .reverted :=
  checking_save (.inl ⟨rfl, reason, rfl⟩) (fun _ => by simp) fun saved => by
    simp [BlockchainRecord.fail]

/-- A task keeps to the calls of its record and leaves no announcement due. -/
theorem checking_updateConfirmation (service : BlockchainService) (row : RecordRow)
    (draws : EventDraws) :
    (service.updateConfirmation row.toPending draws).Keeps
      (checking service.requiredConfirmations row) (fun _ t => t ≠ .saved) .read := by
  have hexamine : (service.examine row.toPending draws).Keeps
      (checking service.requiredConfirmations row) (fun _ t => t ≠ .saved) .read := by
    refine ⟨⟨rfl, rfl⟩, fun r _ => ?_⟩
    rcases r with e | (_ | receipt)
    · simp [checking]
    · simp [checking]
    · change Coroutine.Keeps _ _ (if _ then _ else if receipt.Final _ then _ else _)
        (Stage.ofReceipt service.requiredConfirmations receipt)
      unfold Stage.ofReceipt
      split_ifs
      · exact checking_failTransaction row _
      · exact checking_confirmTransaction service row receipt draws
      · simp
  refine Coroutine.Keeps.tryCatch (Coroutine.Keeps.mono ?_ hexamine)
  rintro (e | a) t ht <;> exact ht

end Task

/-- What the task of a row relies on, as far as it has come. -/
def Stage.Relies (required : Int) (row : RecordRow) (s : Holding) : Stage → Prop
  | read => s.held row.recordId = some (row, false)
  | reverted => s.held row.recordId = some (row, false)
  | verified => s.held row.recordId = some (row, false) ∧
      ∃ receipt, (row.txHash, receipt) ∈ s.seen ∧ receipt.Final required
  | saved => s.held row.recordId = some (row, true)
  | finished => ∀ other, s.held row.recordId ≠ some (other, true)

section Gathered

variable {required : Int} {row row' : RecordRow} {s : Holding} {t t' : Stage} {op : Call}
  {r : Except BlockchainError op.Ans}

/-- Only an announcement that is due keeps a holding from being settled. -/
theorem Stage.Relies.settled (h : t.Relies required row s) (ht : t ≠ .saved) (other : RecordRow) :
    s.held row.recordId ≠ some (other, true) := by
  cases t with
  | read => simp [show s.held row.recordId = _ from h]
  | reverted => simp [show s.held row.recordId = _ from h]
  | verified => simp [show s.held row.recordId = _ from h.1]
  | saved => exact absurd rfl ht
  | finished => exact h other

theorem monitoring_may (h : t.Relies required row s) (hmay : (checking required row).may t op) :
    (monitoring required).may s op := by
  cases op with
  | sendTransaction payload => exact hmay
  | getPendingRecords limit => exact hmay.elim
  | getReceipt txHash => trivial
  | save record =>
    rcases hmay with ⟨rfl, reason, rfl⟩ | ⟨rfl, blockNumber, gasUsed, timestamp, rfl⟩
    · exact ⟨row, h, .inl ⟨reason, rfl⟩⟩
    · obtain ⟨hheld, receipt, hseen, hfinal⟩ := h
      exact ⟨row, hheld, .inr ⟨blockNumber, gasUsed, timestamp, receipt, rfl, hseen, hfinal⟩⟩
  | publishEvent event topics =>
    obtain ⟨rfl, hid⟩ := hmay
    exact ⟨row, (congrArg s.held hid).trans h⟩

/-- The answer to a task is what its next stage relies on. -/
theorem relies_own (h : t.Relies required row s) (hmay : (checking required row).may t op) :
    ((checking required row).next t op r).Relies required row (s.answered op r) := by
  cases op with
  | sendTransaction payload => exact hmay.elim
  | getPendingRecords limit => exact hmay.elim
  | getReceipt txHash =>
    obtain ⟨rfl, rfl⟩ := hmay
    have hdue := Stage.Relies.settled h (by simp)
    rcases r with e | (_ | receipt)
    · exact hdue
    · exact hdue
    · change (Stage.ofReceipt required receipt).Relies required row _
      unfold Stage.ofReceipt
      split_ifs with hfailed hfinal
      · exact h
      · exact ⟨h, receipt, List.mem_append_right _ (List.mem_singleton.mpr rfl), hfinal⟩
      · exact hdue
  | save record =>
    rcases hmay with ⟨rfl, reason, rfl⟩ | ⟨rfl, blockNumber, gasUsed, timestamp, rfl⟩
    · have hnone : (s.answered (.save (row.toPending.fail reason)) r).held row.recordId = none := by
        cases r with
        | error e => exact s.held_save_error (row.toPending.fail reason) e
        | ok stored => exact s.held_save_ok (row.toPending.fail reason) stored
      cases r <;> exact fun other hother => by cases hnone.symm.trans hother
    · cases r with
      | error e =>
        have hnone := s.held_save_error (row.toPending.confirm blockNumber gasUsed timestamp) e
        exact fun other hother => by cases hnone.symm.trans hother
      | ok stored =>
        have hheld : s.held row.recordId = some (row, false) := h.1
        simp [checking, Holding.answered, heldAfterSave, BlockchainRecord.confirm,
          RecordRow.toPending, Stage.Relies, hheld]
  | publishEvent event topics =>
    obtain ⟨rfl, hid⟩ := hmay
    intro other
    simp [Holding.answered, hid]

/-- The answer to a task leaves what the tasks of other records rely on. -/
theorem relies_others (hne : row.recordId ≠ row'.recordId)
    (hmay : (checking required row).may t op) (h' : t'.Relies required row' s) :
    t'.Relies required row' (s.answered op r) := by
  have hheld : (s.answered op r).held row'.recordId = s.held row'.recordId := by
    cases op with
    | sendTransaction payload => exact hmay.elim
    | getPendingRecords limit => exact hmay.elim
    | getReceipt txHash => rw [Holding.held_getReceipt]
    | save record =>
      have hid : record.recordId = row.recordId := by
        rcases hmay with ⟨_, _, rfl⟩ | ⟨_, _, _, _, rfl⟩ <;> rfl
      exact s.held_save_of_ne (hid ▸ hne.symm) r
    | publishEvent event topics => exact s.held_publishEvent_of_ne (hmay.2 ▸ hne.symm) topics r
  cases t' with
  | read => exact hheld.trans h'
  | reverted => exact hheld.trans h'
  | verified =>
    obtain ⟨hrow, receipt, hmem, hfinal⟩ := h'
    exact ⟨hheld.trans hrow, receipt, s.seen_subset_answered op r hmem, hfinal⟩
  | saved => exact hheld.trans h'
  | finished => exact fun other heq => h' other (hheld.symm.trans heq)

/-- The tasks of different records get along. -/
theorem shares_monitoring (required : Int) :
    Coroutine.Shares (monitoring required) (checking required)
      (fun row t s => t.Relies required row s) RecordRow.recordId where
  may := monitoring_may
  own h hmay hr := ⟨hr, relies_own h hmay⟩
  others hne _ hmay _ h' := relies_others hne hmay h'

/-- Only records that have been read are held. -/
def Holding.Within (rows : List RecordRow) (s : Holding) : Prop :=
  ∀ id, s.held id ≠ none → id ∈ rows.map RecordRow.recordId

theorem within_answered {rows : List RecordRow} (hmay : (checking required row).may t op)
    (hs : s.Within rows) : (s.answered op r).Within rows := by
  intro id hid
  cases op with
  | sendTransaction payload => exact hmay.elim
  | getPendingRecords limit => exact hmay.elim
  | getReceipt txHash =>
    rw [Holding.held_getReceipt] at hid
    exact hs id hid
  | save record =>
    apply hs
    intro hnone
    apply hid
    by_cases heq : id = record.recordId
    · subst heq
      cases r with
      | error e => exact s.held_save_error record e
      | ok row =>
        refine (s.held_save_ok record row).trans ?_
        simp [heldAfterSave, hnone]
    · rw [s.held_save_of_ne heq, hnone]
  | publishEvent event topics =>
    apply hs
    intro hnone
    apply hid
    by_cases heq : id = event.aggregateId
    · subst heq
      exact s.held_publishEvent event topics r
    · rw [s.held_publishEvent_of_ne heq, hnone]

/-- The tasks of a batch end without an announcement that is due. -/
theorem settled_of_ended {rows : List RecordRow} (hwithin : s.Within rows)
    (hended : ∀ row ∈ rows, Coroutine.Ended (fun row t s => Stage.Relies required row s t)
      (fun _ t => t ≠ .saved) s row) :
    s.Settled := by
  intro id other hheld
  have hid := hwithin id (by simp [hheld])
  obtain ⟨row, hrow, rfl⟩ := List.mem_map.mp hid
  obtain ⟨t, ht, hover⟩ := hended row hrow
  exact ht.settled hover other hheld

theorem heldRows_of_mem {rows : List RecordRow} (h : (rows.map RecordRow.recordId).Nodup)
    (hrow : row ∈ rows) : heldRows rows row.recordId = some (row, false) := by
  have hfind : rows.find? (fun other => other.recordId = row.recordId) = some row := by
    cases hother : rows.find? fun other => other.recordId = row.recordId with
    | none => exact absurd (List.find?_eq_none.mp hother row hrow) (by simp)
    | some other =>
      have hid : other.recordId = row.recordId := by simpa using List.find?_some hother
      rw [List.inj_on_of_nodup_map h (List.mem_of_find?_eq_some hother) hrow hid]
  rw [heldRows, hfind, Option.map_some]

theorem within_heldRows (rows : List RecordRow) :
    (Holding.mk (heldRows rows) s.seen s.inserted).Within rows := by
  intro id hid
  cases hrow : rows.find? fun row => row.recordId = id with
  | none => exact absurd (congrArg (Option.map fun row => (row, false)) hrow) hid
  | some row =>
    have hrowId : row.recordId = id := by simpa using List.find?_some hrow
    exact hrowId ▸ List.mem_map_of_mem (List.mem_of_find?_eq_some hrow)

theorem mapM_rowToEntity {rows : List RecordRow} (h : ∀ row ∈ rows, row.status = .pending) :
    rows.mapM rowToEntity = .ok (rows.map RecordRow.toPending) := by
  induction rows with
  | nil => rfl
  | cons row rows ih =>
    have hrest := ih fun row' hrow' => h row' (List.mem_cons_of_mem _ hrow')
    rw [List.mapM_cons, rowToEntity_pending (h row (List.mem_cons_self ..)), hrest]
    rfl

/-- The tasks of a batch keep to the protocol and end settled. -/
theorem monitoring_gather (service : BlockchainService) (p : Pass) {rows : List RecordRow}
    (hnodup : (rows.map RecordRow.recordId).Nodup) :
    (Coroutine.gather p.picks ((rows.map RecordRow.toPending).map fun record =>
      service.updateConfirmation record (p.draws record.recordId))).Keeps
      (monitoring service.requiredConfirmations) (fun _ s => s.Settled)
      ⟨heldRows rows, s.seen, s.inserted⟩ := by
  refine Coroutine.Keeps.mono (fun _ s' hs' => settled_of_ended hs'.1 hs'.2)
    (Coroutine.Keeps.gather (shares_monitoring _) (Holding.Within rows)
      (fun _ hmay _ => within_answered hmay) hnodup p.picks (within_heldRows rows) ?_)
  rw [List.map_map, List.forall₂_map_right_iff, List.forall₂_same]
  intro row hrow
  exact ⟨.read, heldRows_of_mem hnodup hrow, checking_updateConfirmation service row _⟩

/-- A pass keeps to the protocol and ends settled. -/
theorem monitoring_pass (monitor : ConfirmationMonitor) (p : Pass) (hs : s.Settled) :
    (monitor.pass p).Keeps (monitoring monitor.service.requiredConfirmations)
      (fun _ s => s.Settled) s := by
  have hbody : ((BlockchainRepository.getPendingRecords monitor.batchSize).bind fun records =>
      Coroutine.gather p.picks
        (records.map fun record =>
          monitor.service.updateConfirmation record (p.draws record.recordId))).Keeps
      (monitoring monitor.service.requiredConfirmations) (fun _ s => s.Settled) s := by
    refine ⟨hs, fun r hr => ?_⟩
    cases r with
    | error e => exact fun _ _ h => nomatch h
    | ok rows =>
      obtain ⟨hnodup, hpending⟩ : (rows.map RecordRow.recordId).Nodup ∧
        ∀ row ∈ rows, row.status = .pending := hr
      simp only [Coroutine.ofExcept_ok, Coroutine.ret_bind, mapM_rowToEntity hpending]
      exact monitoring_gather monitor.service p hnodup
  refine Coroutine.Keeps.tryCatch (Coroutine.Keeps.mono (fun r s' hs' => ?_) hbody)
  cases r <;> exact hs'

/-- The monitor keeps to its protocol, and every pass of it ends settled. -/
theorem monitoring_run (monitor : ConfirmationMonitor) (passes : List Pass) (hs : s.Settled) :
    (monitor.run passes).Keeps (monitoring monitor.service.requiredConfirmations)
      (fun _ s => s.Settled) s := by
  induction passes generalizing s with
  | nil => exact hs
  | cons p passes ih =>
    refine Coroutine.Keeps.bind
      (Coroutine.Keeps.mono (fun r s' hs' => ?_) (monitoring_pass monitor p hs))
    cases r with
    | ok _ => exact ih hs'
    | error e => exact hs'

/-- A call of `register_event` keeps to its protocol. -/
theorem registering_program (registration : Registration) (hs : s.inserted = false) :
    registration.program.Grants (registering registration) (fun _ _ => True) s := by
  refine Coroutine.Grants.bind (Q := fun _ _ => True) ?_ fun _ _ _ => by simp
  refine Coroutine.Grants.bind (Q := fun _ s => s.inserted = false)
    (Coroutine.grants_perform.mpr ⟨trivial, fun _ _ _ _ => hs⟩) fun txHash s' hs' => ?_
  refine Coroutine.Grants.bind (Q := fun _ _ => True) ?_ fun _ _ _ => by simp
  refine Coroutine.Grants.bind (Q := fun _ _ => True)
    (Coroutine.grants_perform.mpr ⟨⟨hs', rfl, txHash, rfl⟩, fun _ _ _ _ => trivial⟩) ?_
  exact fun _ _ _ => (Coroutine.grants_ofExcept _ _).mpr fun _ _ => trivial

end Gathered

end SupplyChainTracker.Blockchain
