import SupplyChainTracker.Core.Run
import SupplyChainTracker.Saga.Handling

/-!
# One active saga per shipment

The partial index of migration 001 selects statuses that the program never writes,
so it refuses nothing. What keeps the active sagas of a shipment apart is then only
the choice of the shipments for which sagas are created.
-/

namespace SupplyChainTracker.Saga

/-- A call of a service method, with the values it draws from the clock. -/
inductive ServiceOperation : Type
  | create (saga : SagaInstance)
  | updateContext (sagaId : UUID) (warehouseId deliveryId : Option UUID)
  | completeSaga (sagaId : UUID) (now : DateTime)
  | triggerCompensation (sagaId : UUID) (failedStep : String) (now : DateTime)
  | failSaga (sagaId : UUID) (step errorMessage : String) (now : DateTime)

namespace ServiceOperation

/-- The operation as a coroutine. -/
def program : ServiceOperation → Program SagaInstance
  | create saga => SagaService.create saga
  | updateContext sagaId warehouseId deliveryId =>
      SagaService.updateContext sagaId warehouseId deliveryId
  | completeSaga sagaId now => SagaService.completeSaga sagaId now
  | triggerCompensation sagaId failedStep now =>
      SagaService.triggerCompensation sagaId failedStep now
  | failSaga sagaId step errorMessage now => SagaService.failSaga sagaId step errorMessage now

/-- The world after an operation under the enforced constraints. -/
def apply (c : Constraints) (o : ServiceOperation) (w : World) : World :=
  (o.program.run (act c) w).2

end ServiceOperation

/-- The rows the program writes: a known status, and nothing in the columns it never sets. -/
structure SagaRow.Plain (r : SagaRow) : Prop where
  status : ∃ status : SagaStatus, r.status = status.value
  completedAt : r.completedAt = none
  retryCount : r.retryCount = 0

/-- The index predicate selects no status of the program. -/
theorem SagaRow.Plain.indexedActive {r : SagaRow} (h : r.Plain) : r.indexedActive = false := by
  obtain ⟨status, hst⟩ := h.status
  rw [SagaRow.indexedActive, hst]
  cases status <;> decide

/-- `ck_saga_status` admits no status of the program. -/
theorem SagaRow.Plain.not_mem_ckSagaStatuses {r : SagaRow} (h : r.Plain) :
    r.status ∉ ckSagaStatuses := by
  obtain ⟨status, hst⟩ := h.status
  rw [hst]
  cases status <;> decide

/-- The completion trigger reacts to no status of the program. -/
theorem SagaRow.Plain.setSagaCompletedAt {r : SagaRow} (h : r.Plain) (now : DateTime)
    (old : SagaRow) : setSagaCompletedAt now old r = r := by
  obtain ⟨status, hst⟩ := h.status
  have hopen : r.status ∉ ["COMPLETED", "FAILED", "CANCELLED"] := by
    rw [hst]
    cases status <;> decide
  exact if_neg fun h => hopen h.1

/-- A row of the program violates the status check, if that is enforced, and no other. -/
theorem SagaRow.Plain.violated {r : SagaRow} (h : r.Plain) (c : Constraints) :
    c.violated r = if c.ckSagaStatus then some "ck_saga_status" else none := by
  simp [Constraints.violated, h.completedAt, h.retryCount, h.not_mem_ckSagaStatuses]

/-- All stored rows are as the program writes them. -/
def SagaDb.Plain (db : SagaDb) : Prop := ∀ r ∈ db.sagas.rows, r.Plain

/-- The row `save` proposes is one the program writes. -/
theorem Constraints.plain_proposed {c : Constraints} {s : SagaInstance} {p : SagaRow}
    (h : c.proposed s = .ok p) : p.Plain := by
  obtain ⟨sagaType, failedStep, rfl⟩ := Constraints.proposed_eq_ok h
  exact ⟨⟨s.status, rfl⟩, rfl, rfl⟩

namespace SagaDb

variable {db : SagaDb} {p : SagaRow}

/-- An upsert of a row of the program leaves one. -/
theorem Plain.target (hdb : db.Plain) (hp : p.Plain) : (db.target p).Plain := by
  cases hf : db.sagas.find? p.sagaId with
  | none =>
    rw [target_of_none hf]
    exact hp
  | some old =>
    have hold := hdb old (Table.mem_of_find? hf)
    have hup : (doUpdate old p).Plain := ⟨hp.status, hold.completedAt, hold.retryCount⟩
    simp only [SagaDb.target, hf, hup.setSagaCompletedAt]
    exact ⟨hup.status, hup.completedAt, hup.retryCount⟩

/-- The index holds no row that the program writes. -/
theorem Plain.duplicatesActive {r : SagaRow} (hr : r.Plain) : db.duplicatesActive r = false := by
  simp [SagaDb.duplicatesActive, hr.indexedActive]

/-- Among rows of the program only the status check refuses an upsert. -/
theorem Plain.refusal (hdb : db.Plain) (hp : p.Plain) (c : Constraints) :
    db.refusal c p = if c.ckSagaStatus then some "ck_saga_status" else none := by
  have htarget := hdb.target hp
  unfold SagaDb.refusal
  rw [hp.violated, htarget.violated, Plain.duplicatesActive htarget]
  cases c.ckSagaStatus <;> simp

/-- An upsert keeps all rows as the program writes them. -/
theorem Plain.write (hdb : db.Plain) (hp : p.Plain) : (db.write p).Plain := by
  intro r hr
  rcases (db.sagas.mem_put _ r).mp hr with rfl | ⟨hr, _⟩
  · exact hdb.target hp
  · exact hdb r hr

/-- With the status check left aside, a save is refused for its texts or accepted. -/
theorem Plain.save_cases (hdb : db.Plain) {c : Constraints} (hc : c.ckSagaStatus = false)
    (s : SagaInstance) :
    (∃ e, c.proposed s = .error e ∧ db.save c s = (.error e, db)) ∨
    ∃ p, c.proposed s = .ok p ∧ db.save c s = (rowToEntity (db.target p), db.write p) := by
  unfold SagaDb.save
  cases h : c.proposed s with
  | error e => exact .inl ⟨e, rfl, rfl⟩
  | ok p =>
    refine .inr ⟨p, rfl, ?_⟩
    simp [hdb.refusal (Constraints.plain_proposed h), hc]

end SagaDb

/-- The index keeps its own promise: no two rows that it selects share a shipment. -/
theorem SagaDb.uniqueWhere_indexedActive_save {c : Constraints} {db : SagaDb}
    (hc : c.idxSagaShipmentActive = true)
    (h : db.sagas.UniqueWhere SagaRow.indexedActive SagaRow.shipmentId) (s : SagaInstance) :
    (db.save c s).2.sagas.UniqueWhere SagaRow.indexedActive SagaRow.shipmentId := by
  unfold SagaDb.save
  split
  · exact h
  · rename_i p _
    split
    · exact h
    · rename_i haccepted
      refine h.put_iff.mpr fun hactive r hr hne hrp hship => ?_
      have hdup : db.duplicatesActive (db.target p) = true := by
        simp only [SagaDb.duplicatesActive, hactive, Bool.true_and, List.any_eq_true,
          decide_eq_true_eq]
        exact ⟨r, hr, hne, hrp, hship⟩
      unfold SagaDb.refusal at haccepted
      split at haccepted
      · cases haccepted
      · split at haccepted
        · cases haccepted
        · simp [hc, hdup] at haccepted

/-- A row is active exactly when its status is. -/
theorem SagaRow.active_of_status {r : SagaRow} {status : SagaStatus} (h : r.status = status.value) :
    r.active = status.isActive := by
  simp [SagaRow.active, SagaStatus.isActive, h]

/-- No two active sagas share a shipment. -/
def AtMostOneActive (w : World) : Prop :=
  w.db.sagas.UniqueWhere SagaRow.active SagaRow.shipmentId

/-- The shipment a save of `saga` leaves in its row. -/
def shipmentOf (w : World) (saga : SagaInstance) : UUID :=
  ((w.row? saga.sagaId).map SagaRow.shipmentId).getD saga.shipmentId

/-- An active saga whose texts fit their columns is created only where no other saga of the
shipment is active. -/
def NoneActive (c : Constraints) (w : World) : ServiceOperation → Prop
  | .create saga => saga.status.isActive → (∃ p, c.proposed saga = .ok p) →
      ∀ r ∈ w.db.sagas.rows, r.sagaId ≠ saga.sagaId → r.active →
        r.shipmentId ≠ shipmentOf w saga
  | _ => True

/-- All rows of a world are as the program writes them. -/
def World.Plain (w : World) : Prop := w.db.Plain

section Steps

variable {c : Constraints} {w : World}

/-- With the status check left aside, a save does nothing or stores the upserted row. -/
theorem act_save_plain (hw : w.Plain) (hc : c.ckSagaStatus = false) (t : SagaInstance) :
    ((∃ e, c.proposed t = .error e) ∧ (act c (Call.save t) w).2 = w) ∨
    ∃ p new, c.proposed t = .ok p ∧ Upserted (w.row? t.sagaId) t new ∧
      (act c (Call.save t) w).2.Plain ∧
      (act c (Call.save t) w).2.db.sagas = w.db.sagas.put new := by
  rcases SagaDb.Plain.save_cases hw hc t with ⟨e, hp, hsave⟩ | ⟨p, hp, hsave⟩
  · exact .inl ⟨⟨e, hp⟩, by simp only [act, hsave]⟩
  · refine .inr ⟨p, w.db.target p, hp, SagaDb.upserted_target hp, ?_, ?_⟩
    · simp only [act, hsave]
      exact SagaDb.Plain.write hw (Constraints.plain_proposed hp)
    · simp only [act, hsave]
      rfl

/-- What an operation other than a creation may save: a copy of a stored saga that is active
only where the stored one is. -/
structure StoredCopy (w : World) (t : SagaInstance) (row : SagaRow) (status : SagaStatus) :
    Prop where
  stored : w.row? t.sagaId = some row
  known : row.status = status.value
  active : t.status.isActive → status.isActive

/-- A method that loads a saga and then saves an edited copy of it, or nothing. -/
private theorem run_loadAndEdit {sagaId : UUID} {f : SagaInstance → Program SagaInstance}
    (hf : ∀ s : SagaInstance, ((f s).run (act c) w).2 = w ∨
      ∃ t : SagaInstance, t.sagaId = s.sagaId ∧ (t.status.isActive → s.status.isActive) ∧
        ((f s).run (act c) w).2 = (act c (Call.save t) w).2) :
    (((SagaService.load sagaId).bind f).run (act c) w).2 = w ∨
    ∃ t row status, StoredCopy w t row status ∧
      (((SagaService.load sagaId).bind f).run (act c) w).2 = (act c (Call.save t) w).2 := by
  rw [SagaService.load_bind]
  rcases hget : w.db.get sagaId with e | _ | s
  · exact .inl (by simp [act, hget])
  · exact .inl (by simp [act, hget])
  · obtain ⟨row, hrow, hs⟩ := SagaDb.get_eq_some_iff.mp hget
    have hst := (rowToEntity_eq_ok_iff.mp hs).1
    simp only [Coroutine.run_await, act, hget]
    refine (hf s).imp id ?_
    rintro ⟨t, hid, hactive, ht⟩
    have hkey : t.sagaId = sagaId := hid.trans (SagaDb.sagaId_of_get hget)
    exact ⟨t, row, s.status, ⟨hkey ▸ hrow, hst, hactive⟩, ht⟩

/-- Every operation but a creation saves a copy of a stored saga, or nothing. -/
theorem ServiceOperation.apply_cases {o : ServiceOperation} (hnew : ∀ saga, o ≠ .create saga) :
    o.apply c w = w ∨
    ∃ t row status, StoredCopy w t row status ∧ o.apply c w = (act c (Call.save t) w).2 := by
  cases o with
  | create saga => exact absurd rfl (hnew saga)
  | updateContext sagaId warehouseId deliveryId =>
    refine run_loadAndEdit fun s => ?_
    split
    · exact .inr ⟨SagaService.withContext s warehouseId deliveryId, rfl, id, by simp⟩
    · exact .inl rfl
  | completeSaga sagaId now =>
    refine run_loadAndEdit fun s => ?_
    split
    · exact .inl rfl
    · exact .inr ⟨s.markCompleted now, rfl, nofun, by simp⟩
  | triggerCompensation sagaId failedStep now =>
    refine run_loadAndEdit fun s => ?_
    split
    · exact .inl rfl
    · rename_i hopen
      refine .inr ⟨s.markCompensating failedStep now, rfl, fun _ => ?_, by simp⟩
      cases hst : s.status <;> simp_all [SagaStatus.isActive]
  | failSaga sagaId step errorMessage now =>
    exact run_loadAndEdit fun s => .inr ⟨s.markFailed step errorMessage now, rfl, nofun, by simp⟩

/-- A creation saves the given saga. -/
theorem ServiceOperation.apply_create (saga : SagaInstance) :
    (ServiceOperation.create saga).apply c w = (act c (Call.save saga) w).2 :=
  congrArg Prod.snd (Coroutine.run_perform (act c) (Call.save saga) w)

/-- Every operation keeps the rows as the program writes them. -/
theorem plain_apply (hw : w.Plain) (hc : c.ckSagaStatus = false) (o : ServiceOperation) :
    (o.apply c w).Plain := by
  have hsave : ∀ t, (act c (Call.save t) w).2.Plain := by
    intro t
    rcases act_save_plain hw hc t with ⟨_, h⟩ | ⟨_, _, _, _, h, _⟩
    · exact h.symm ▸ hw
    · exact h
  by_cases hcreate : ∃ saga, o = .create saga
  · obtain ⟨saga, rfl⟩ := hcreate
    rw [ServiceOperation.apply_create]
    exact hsave saga
  · rcases ServiceOperation.apply_cases (c := c) (w := w) (not_exists.mp hcreate) with
      h | ⟨t, _, _, _, h⟩
    · exact h.symm ▸ hw
    · exact h.symm ▸ hsave t

/-- A creation keeps active sagas apart exactly when it finds no other one of the shipment. -/
private theorem atMostOneActive_create_iff (hw : w.Plain) (hc : c.ckSagaStatus = false)
    (h : AtMostOneActive w) (saga : SagaInstance) :
    AtMostOneActive ((ServiceOperation.create saga).apply c w) ↔
      NoneActive c w (.create saga) := by
  rw [ServiceOperation.apply_create]
  rcases act_save_plain hw hc saga with ⟨⟨e, he⟩, hact⟩ | ⟨p, new, hp, hup, _, hput⟩
  · rw [hact]
    refine iff_of_true h fun _ ⟨p, hp⟩ => ?_
    simp [he] at hp
  · have hship : new.shipmentId = shipmentOf w saga := hup.shipmentId
    rw [AtMostOneActive, hput, Table.UniqueWhere.put_iff h, SagaRow.active_of_status hup.status,
      hup.sagaId, hship]
    exact ⟨fun hfree hactive _ => hfree hactive, fun hfree hactive => hfree hactive ⟨p, hp⟩⟩

/-- A copy of a stored saga brings no active sagas together. -/
private theorem atMostOneActive_of_stored (hw : w.Plain) (hc : c.ckSagaStatus = false)
    (h : AtMostOneActive w) {t : SagaInstance} {row : SagaRow} {status : SagaStatus}
    (ht : StoredCopy w t row status) : AtMostOneActive (act c (Call.save t) w).2 := by
  rcases act_save_plain hw hc t with ⟨_, hact⟩ | ⟨_, new, _, hup, _, hput⟩
  · exact hact.symm ▸ h
  · rw [AtMostOneActive, hput]
    refine h.replace (hup.sagaId ▸ ht.stored) ?_ ?_
    · rw [SagaRow.active_of_status hup.status, SagaRow.active_of_status ht.known]
      exact ht.active
    · rw [hup.shipmentId, ht.stored]
      rfl

/-- An operation keeps active sagas apart exactly when it is no creation that finds another
active saga of the shipment. -/
theorem atMostOneActive_apply_iff (hw : w.Plain) (hc : c.ckSagaStatus = false)
    (h : AtMostOneActive w) (o : ServiceOperation) :
    AtMostOneActive (o.apply c w) ↔ NoneActive c w o := by
  by_cases hcreate : ∃ saga, o = .create saga
  · obtain ⟨saga, rfl⟩ := hcreate
    exact atMostOneActive_create_iff hw hc h saga
  · have hnew := not_exists.mp hcreate
    refine iff_of_true ?_ ?_
    · rcases ServiceOperation.apply_cases (c := c) (w := w) hnew with happly | ⟨t, _, _, ht, happly⟩
      · exact happly.symm ▸ h
      · exact happly.symm ▸ atMostOneActive_of_stored hw hc h ht
    · cases o with
      | create saga => exact absurd rfl (hnew saga)
      | _ => trivial

end Steps

/-- Constraints that enforce the partial index but not the status check. -/
def Constraints.indexOnly (c : Constraints) : Constraints :=
  { c with ckSagaStatus := false, idxSagaShipmentActive := true }

/-- In a run of service operations on fresh tables no two active sagas ever share a shipment if
and only if no active saga is created for a shipment that has another active one. -/
theorem atMostOneActive_throughout_iff (c : Constraints) (clock : Nat → DateTime)
    (operations : List ServiceOperation) :
    Throughout (ServiceOperation.apply c.indexOnly) AtMostOneActive operations
        (World.initial (.created clock)) ↔
      EachStep (ServiceOperation.apply c.indexOnly) (NoneActive c.indexOnly) operations
        (World.initial (.created clock)) := by
  have hinv : ∀ (w : World) (o : ServiceOperation), w.Plain → True →
      (o.apply c.indexOnly w).Plain := fun w o hw _ => plain_apply hw rfl o
  have hstep : ∀ (w : World) (o : ServiceOperation), w.Plain → True → AtMostOneActive w →
      (AtMostOneActive (o.apply c.indexOnly w) ↔ NoneActive c.indexOnly w o) :=
    fun w o hw _ h => atMostOneActive_apply_iff hw rfl h o
  have hplain : (World.initial (.created clock)).Plain := by
    intro row hrow
    cases hrow
  exact throughout_iff_eachStep hinv hstep hplain (Table.uniqueWhere_empty _ _)
    fun _ _ => trivial

/-- Two sagas of one shipment, both created under the index, are both active. -/
theorem second_active_saga_accepted :
    ¬ Throughout (ServiceOperation.apply Constraints.migration001.indexOnly) AtMostOneActive
      [.create sampleSaga, .create { sampleSaga with sagaId := ⟨6⟩ }]
      (World.initial (.created fun n => n)) := by
  intro h
  have hkeys := h.2.2 sampleSaga.toRow (by decide) { sampleSaga.toRow with sagaId := ⟨6⟩ }
    (by decide) rfl rfl rfl
  exact absurd (congrArg SagaRow.sagaId hkeys) (by decide)

end SupplyChainTracker.Saga
