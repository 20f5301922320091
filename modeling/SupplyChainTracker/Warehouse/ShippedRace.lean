import SupplyChainTracker.Core.Async.Protocol
import SupplyChainTracker.Warehouse.CommandWorker
import SupplyChainTracker.Warehouse.Effects

/-!
# Concurrent changes of a status

`update_status` refuses to leave `SHIPPED` by the record that it has read, and then
stores whatever it was asked for. A shipped record stays shipped exactly as long as no
call stores another status after someone else has shipped the record it has read.
-/

namespace SupplyChainTracker.Warehouse

/-- What uses the repository at the same time. -/
inductive Participant : Type
  /-- A call of `update_status`, as a `PATCH` request makes it. -/
  | update (recordId : UUID) (newStatus : InventoryStatus) (now : Clock)
  /-- The handling of a command, with a call of `update_status` for each record of its shipment. -/
  | release (command : Command) (now : Clock)
  /-- A call of `delete_record`. -/
  | delete (recordId : UUID) (now : Clock)

/-- What a participant does. -/
def Participant.program : Participant → Program Unit
  | update recordId newStatus now => do
      let _ ← InventoryService.updateStatus recordId newStatus now
      return ()
  | release command now => WarehouseCommandWorker.handleCommand command now
  | delete recordId now => InventoryService.deleteRecord recordId now

/-- A `save` keeps the row that the call before it has read, but for the status, and changes the
status only where the row is not shipped. -/
def saveAfterGet : Protocol Call Call.Ans InventoryError (Option InventoryRow) where
  may row? op :=
    match op with
    | .save record => ∃ row, row? = some row ∧ record.recordId = row.recordId ∧
        record.warehouseId = row.warehouseId ∧
        (row.status = InventoryStatus.shipped.value → record.status = .shipped)
    | _ => True
  expects _ _ := True
  next _ op r :=
    match op, r with
    | .get _, .ok row? => row?
    | _, _ => none

section Grants

open Coroutine (Grants)

/-- `get` goes on with the row that it has read. -/
theorem saveAfterGet_get (recordId : UUID) (now : Clock) (row? : Option InventoryRow) :
    (InventoryRepository.get recordId now).Grants saveAfterGet (fun record? row? =>
      ∀ record, record? = some record → ∃ row, row? = some row ∧
        rowToEntity row now = .ok record) row? := by
  refine Grants.bind (Q := fun found row? => row? = found)
    (Coroutine.grants_perform.mpr ⟨trivial, ?_⟩) ?_
  · rintro r - found rfl
    rfl
  · intro found row? hfound
    subst hfound
    cases row? with
    | none => simp
    | some row =>
      refine Coroutine.grants_ofExcept_bind fun record hrecord => (Coroutine.grants_ret _ _).mpr ?_
      intro record' heq
      cases heq
      exact ⟨row, rfl, hrecord⟩

theorem saveAfterGet_updateStatus (recordId : UUID) (newStatus : InventoryStatus) (now : Clock)
    (row? : Option InventoryRow) :
    (InventoryService.updateStatus recordId newStatus now).Grants saveAfterGet
      (fun _ _ => True) row? := by
  refine Grants.bind (saveAfterGet_get recordId now row?) fun record? row? hrecord? => ?_
  cases record? with
  | none => simp
  | some record =>
    obtain ⟨row, rfl, hrow⟩ := hrecord? record rfl
    obtain ⟨hid, hwarehouse, hstatus⟩ := rowToEntity_eq_ok hrow
    dsimp only
    split_ifs with hleave
    · simp
    · refine Grants.bind (Q := fun _ _ => True) (Coroutine.grants_perform.mpr
        ⟨⟨row, rfl, hid, hwarehouse, fun hshipped => ?_⟩, fun _ _ _ _ => trivial⟩) ?_
      · by_contra hne
        exact hleave ⟨InventoryStatus.value_injective (hstatus.symm.trans hshipped), hne⟩
      · exact fun saved _ _ => (Coroutine.grants_ofExcept _ _).mpr fun _ _ => trivial

theorem saveAfterGet_handleCommand (command : Command) (now : Clock)
    (row? : Option InventoryRow) :
    (WarehouseCommandWorker.handleCommand command now).Grants saveAfterGet
      (fun _ _ => True) row? := by
  unfold WarehouseCommandWorker.handleCommand WarehouseCommandWorker.handleReleaseInventory
  split_ifs
  · split
    · simp
    · simp
    · split_ifs
      · simp
      · split
        · simp
        · refine Grants.bind (Q := fun _ _ => True) (Grants.bind (Q := fun _ _ => True)
            (Coroutine.grants_perform.mpr ⟨trivial, fun _ _ _ _ => trivial⟩) ?_) ?_
          · exact fun rows _ _ => (Coroutine.grants_ofExcept _ _).mpr fun _ _ => trivial
          · exact fun records row? _ =>
              Grants.inTurn (fun _ _ => saveAfterGet_updateStatus _ _ _ _) _ _
  · simp

theorem saveAfterGet_program (participant : Participant) (row? : Option InventoryRow) :
    participant.program.Grants saveAfterGet (fun _ _ => True) row? := by
  cases participant with
  | update recordId newStatus now =>
    exact Grants.bind (saveAfterGet_updateStatus recordId newStatus now row?)
      fun _ _ _ => (Coroutine.grants_ret _ _).mpr trivial
  | release command now => exact saveAfterGet_handleCommand command now row?
  | delete recordId now =>
    refine Grants.bind (saveAfterGet_get recordId now row?) fun record? _ _ => ?_
    cases record? with
    | none => simp
    | some record => exact Coroutine.grants_perform.mpr ⟨trivial, fun _ _ _ _ => trivial⟩

end Grants

/-- The stored status of a record is `SHIPPED`. -/
def InventoryDb.Shipped (recordId : UUID) (db : InventoryDb) : Prop :=
  (db.records.find? recordId).map InventoryRow.status = some InventoryStatus.shipped.value

instance (recordId : UUID) (db : InventoryDb) : Decidable (db.Shipped recordId) :=
  inferInstanceAs (Decidable (_ = _))

/-- Whether `SHIPPED` has been committed for a record, which has not been deleted since, after one
more call. -/
def Call.commits (recordId : UUID) (committed : Bool) : Call → Bool
  | .save record =>
      if record.recordId = recordId then committed || decide (record.status = .shipped)
      else committed
  | .delete deleted => if deleted = recordId then false else committed
  | _ => committed

/-- The same after any number of calls. -/
def committedBy (recordId : UUID) (before : Bool) (calls : List Call) : Bool :=
  calls.foldl (Call.commits recordId) before

section Committed

variable {recordId : UUID}

@[simp] theorem committedBy_append_singleton (before : Bool) (calls : List Call) (op : Call) :
    committedBy recordId before (calls ++ [op]) =
      op.commits recordId (committedBy recordId before calls) := by
  simp [committedBy]

theorem commits_mono {before after : Bool} (h : before → after) (op : Call) :
    op.commits recordId before → op.commits recordId after := by
  cases op <;> simp only [Call.commits] <;> grind

theorem committedBy_mono {before after : Bool} (h : before → after) (calls : List Call) :
    committedBy recordId before calls → committedBy recordId after calls := by
  induction calls generalizing before after with
  | nil => exact h
  | cons op calls ih => exact ih (commits_mono h op)

/-- What the last calls have committed, all of them have committed. -/
theorem committedBy_of_suffix {last calls : List Call} (h : last <:+ calls)
    (hlast : committedBy recordId false last) (before : Bool) :
    committedBy recordId before calls := by
  obtain ⟨first, rfl⟩ := h
  rw [committedBy, List.foldl_append]
  exact committedBy_mono (fun hfalse => by cases hfalse) last hlast

/-- What one call makes of the status of a record; a `save` finds the warehouse of its record. -/
theorem shipped_act (recordId : UUID) {db : InventoryDb} {op : Call}
    (hsave : ∀ record, op = .save record → (db.warehouses.find? record.warehouseId).isSome) :
    (act op db).2.warehouses = db.warehouses ∧
      ((act op db).2.Shipped recordId ↔
        match op with
        | .save record =>
            if record.recordId = recordId then record.status = .shipped else db.Shipped recordId
        | .delete deleted => deleted ≠ recordId ∧ db.Shipped recordId
        | _ => db.Shipped recordId) := by
  cases op with
  | get recordId' => exact ⟨rfl, Iff.rfl⟩
  | listByShipment shipmentId => exact ⟨rfl, Iff.rfl⟩
  | delete deleted =>
    refine ⟨rfl, ?_⟩
    simp only [InventoryDb.Shipped, act, InventoryDb.delete, Table.find?_removeWhere_key]
    by_cases hdeleted : recordId = deleted
    · simp [hdeleted]
    · simp [hdeleted, Ne.symm hdeleted]
  | save record =>
    rcases save_cases record db with ⟨_, db', hact, hwarehouses, hrecords⟩ | ⟨hmissing, _⟩
    · obtain ⟨hid, _⟩ := db.target_toRow record
      have hstatus : (db.target record.toRow).status = record.status.value := by
        unfold InventoryDb.target
        split <;> rfl
      simp only [act, hact, InventoryDb.Shipped, hrecords, hwarehouses, true_and]
      split_ifs with heq
      · rw [← heq, ← hid, Table.find?_put_self]
        simp [hstatus]
      · rw [Table.find?_put_of_ne _ _ (by rwa [hid])]
    · exact absurd (hsave record rfl) hmissing

end Committed

section Race

variable {ι : Type} [DecidableEq ι] (participants : ι → Participant) (start : InventoryDb)

/-- The participants before their first call. -/
def racers : Config ι Call Call.Ans InventoryError Unit InventoryDb where
  threads i := (participants i).program
  world := start
  trace := []

/-- A record for which `SHIPPED` has been committed, and which has not been deleted since, is stored
as `SHIPPED`. -/
def ShippedFinal (db : InventoryDb) (tr : List (ι × Call)) : Prop :=
  ∀ recordId, committedBy recordId (decide (start.Shipped recordId)) (tr.map Prod.snd) →
    db.Shipped recordId

/-- A call stores another status than `SHIPPED` only if nobody has committed `SHIPPED` for the
record since the caller has read it. -/
def NotOvertaken (tr : List (ι × Call)) (i : ι) (op : Call) : Prop :=
  match op with
  | .save record => record.status ≠ .shipped →
      ¬ committedBy record.recordId false ((Config.since i tr).map Prod.snd)
  | _ => True

/-- What a participant has read that is not shipped is shipped now only if somebody else has
committed `SHIPPED` since. -/
def ReadsValid (st : ι → Option InventoryRow) (db : InventoryDb) (tr : List (ι × Call)) : Prop :=
  ∀ i row, st i = some row → (db.warehouses.find? row.warehouseId).isSome ∧
    (row.status ≠ InventoryStatus.shipped.value →
      ¬ committedBy row.recordId false ((Config.since i tr).map Prod.snd) →
      ¬ db.Shipped row.recordId)

variable {start} {st : ι → Option InventoryRow} {db : InventoryDb} {tr : List (ι × Call)} {i : ι}
  {op : Call}

omit [DecidableEq ι] in
theorem warehouse_of_may [DecidableEq ι] (h : ReadsValid st db tr)
    (hmay : saveAfterGet.may (st i) op) :
    ∀ record, op = .save record → (db.warehouses.find? record.warehouseId).isSome := by
  rintro record rfl
  obtain ⟨row, hrow, _, hwarehouse, _⟩ := hmay
  rw [hwarehouse]
  exact (h i row hrow).1

theorem ReadsValid.step (h : ReadsValid st db tr) (hmay : saveAfterGet.may (st i) op) :
    ReadsValid (Function.update st i (saveAfterGet.next (st i) op (act op db).1)) (act op db).2
      (tr ++ [(i, op)]) := by
  intro j row hj
  have hact := shipped_act row.recordId (warehouse_of_may h hmay)
  rw [hact.1]
  by_cases hji : j = i
  · subst hji
    rw [Function.update_self] at hj
    cases op with
    | get recordId =>
      have hrow : db.records.find? recordId = some row := hj
      refine ⟨db.warehouseOf row (Table.mem_of_find? hrow), fun hstatus _ => ?_⟩
      have hid : row.recordId = recordId := Table.key_of_find? hrow
      rw [hact.2, InventoryDb.Shipped, hid, hrow]
      simpa using hstatus
    | save record => cases hj
    | listByShipment shipmentId => cases hj
    | delete deleted => cases hj
  · rw [Function.update_of_ne hji] at hj
    obtain ⟨hwarehouse, hread⟩ := h j row hj
    refine ⟨hwarehouse, fun hstatus hcommitted => ?_⟩
    rw [Config.since_append_of_ne (Ne.symm hji), List.map_append, List.map_singleton,
      committedBy_append_singleton] at hcommitted
    rw [hact.2]
    cases op with
    | get recordId => exact hread hstatus hcommitted
    | listByShipment shipmentId => exact hread hstatus hcommitted
    | delete deleted =>
      rintro ⟨hne, hshipped⟩
      rw [Call.commits, if_neg hne] at hcommitted
      exact hread hstatus hcommitted hshipped
    | save record =>
      simp only [Call.commits] at hcommitted
      dsimp only
      split_ifs at hcommitted ⊢ with hid
      · simp only [Bool.or_eq_true, decide_eq_true_eq, not_or] at hcommitted
        exact hcommitted.2
      · exact hread hstatus hcommitted

/-- A step keeps shipped records shipped exactly when it is not overtaken. -/
theorem ShippedFinal.step_iff (h : ReadsValid st db tr) (hmay : saveAfterGet.may (st i) op)
    (hfinal : ShippedFinal start db tr) :
    ShippedFinal start (act op db).2 (tr ++ [(i, op)]) ↔ NotOvertaken tr i op := by
  have hact := fun recordId => (shipped_act recordId (warehouse_of_may h hmay)).2
  simp only [ShippedFinal, hact, List.map_append, List.map_singleton, committedBy_append_singleton]
  cases op with
  | get recordId => exact iff_of_true hfinal trivial
  | listByShipment shipmentId => exact iff_of_true hfinal trivial
  | delete deleted =>
    refine iff_of_true (fun recordId hcommitted => ?_) trivial
    simp only [Call.commits] at hcommitted
    split_ifs at hcommitted with hid
    exact ⟨hid, hfinal recordId hcommitted⟩
  | save record =>
    obtain ⟨row, hrow, hid, _, hkeep⟩ := hmay
    simp only [Call.commits, NotOvertaken]
    constructor
    · intro hall hstatus hcommitted
      have hbefore := committedBy_of_suffix ((Config.since_suffix i tr).map Prod.snd) hcommitted
      have hshipped := hall record.recordId (by simp [hbefore])
      rw [if_pos rfl] at hshipped
      exact hstatus hshipped
    · intro hallowed recordId hcommitted
      split_ifs at hcommitted ⊢ with heq
      · by_contra hstatus
        have hread := (h i row hrow).2 (fun hshipped => hstatus (hkeep hshipped))
        rw [← hid, heq] at hread
        rw [heq] at hallowed
        simp only [hstatus, decide_false, Bool.or_false] at hcommitted
        exact hread (hallowed hstatus) (hfinal recordId hcommitted)
      · exact hfinal recordId hcommitted

/-- In every state that a run reaches, records for which `SHIPPED` has been committed are `SHIPPED`
until they are deleted, exactly when no call of the run is overtaken. -/
theorem shippedFinal_iff_notOvertaken (start : InventoryDb) (sched : List ι)
    {c : Config ι Call Call.Ans InventoryError Unit InventoryDb}
    (h : (racers participants start).exec act sched = some c) :
    (∀ past d, past <+: sched → (racers participants start).exec act past = some d →
      ShippedFinal start d.world d.trace) ↔
    (racers participants start).Guarded act (fun c => NotOvertaken c.trace) sched := by
  refine Config.forall_reached_iff_conforms ReadsValid (ShippedFinal start) (fun _ => NotOvertaken)
    (fun st db tr i op hi _ hmay => ⟨trivial, fun _ => hi.step hmay⟩)
    (fun st db tr i op hi hQ hmay => hQ.step_iff hi hmay) (fun _ => none)
    (fun i => saveAfterGet_program (participants i) none) ?_ ?_ h
  · intro i row hi
    cases hi
  · intro recordId hcommitted
    exact of_decide_eq_true hcommitted

end Race

/-- One stored record. -/
def sampleStored : InventoryDb where
  warehouses := ⟨[⟨⟨40⟩, "North", "", 0, 0⟩], by decide⟩
  records := ⟨[⟨⟨41⟩, ⟨42⟩, ⟨40⟩, "stored", 0, 0⟩], by decide⟩
  warehouseOf := by decide

/-- The compensation of its shipment, and a request that ships it. -/
def sampleParticipants : Bool → Participant
  | false => .release (ReleaseInventoryCommand.create ⟨42⟩ ⟨40⟩ [] ⟨43⟩ .null ⟨44⟩) fun _ => 1
  | true => .update ⟨41⟩ .shipped fun _ => 2

/-- The release after the shipping: the record stays shipped. -/
theorem shippedFinal_iff_notOvertaken_sample :
    ∃ c, (racers sampleParticipants sampleStored).exec act [true, true, false, false] = some c ∧
      ShippedFinal sampleStored c.world c.trace ∧ c.world.Shipped ⟨41⟩ ∧
      c.threads false = .ret () := by
  refine ⟨_, rfl, ?_, rfl, rfl⟩
  have hguarded : (racers sampleParticipants sampleStored).Guarded act
      (fun c => NotOvertaken c.trace) [true, true, false, false] :=
    ⟨trivial, fun hstatus => absurd rfl hstatus, trivial, trivial, trivial⟩
  exact (shippedFinal_iff_notOvertaken sampleParticipants sampleStored
    [true, true, false, false] rfl).mpr hguarded _ _ (List.prefix_refl _) rfl

/-- The release has read the record before it is shipped and takes it back afterwards. -/
theorem shipped_not_final :
    ∃ c d, (racers sampleParticipants sampleStored).exec act [false, false, true, true] = some c ∧
      (racers sampleParticipants sampleStored).exec act [false, false, true, true, false] =
        some d ∧
      c.world.Shipped ⟨41⟩ ∧ (d.world.records.find? ⟨41⟩).map InventoryRow.status =
        some InventoryStatus.received.value ∧ ¬ ShippedFinal sampleStored d.world d.trace := by
  refine ⟨_, _, rfl, rfl, rfl, rfl, fun hfinal => ?_⟩
  have hshipped : some InventoryStatus.received.value = some InventoryStatus.shipped.value :=
    hfinal ⟨41⟩ rfl
  exact absurd hshipped (by decide)

end SupplyChainTracker.Warehouse
