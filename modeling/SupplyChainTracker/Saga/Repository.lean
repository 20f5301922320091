import Mathlib.Data.List.Sort
import SupplyChainTracker.Saga.Schema

/-!
# `AsyncPostgresSagaRepository`

The upsert as PostgreSQL executes it: the checks on the proposed row come before
the conflict, the `BEFORE UPDATE` triggers before the checks on the new row, the
unique index after both and the event trigger last. A refused statement changes
nothing.
-/

namespace SupplyChainTracker.Saga

/-- `_row_to_entity`. -/
def rowToEntity (r : SagaRow) : Except SagaError SagaInstance :=
  match SagaStatus.ofValue? r.status with
  | some status => .ok {
      sagaId := r.sagaId
      sagaType := r.sagaType
      shipmentId := r.shipmentId
      warehouseId := r.warehouseId
      deliveryId := r.deliveryId
      status := status
      startedAt := r.startedAt
      updatedAt := r.updatedAt
      failedStep := r.failedStep
      errorMessage := r.errorMessage }
  | none => .error (.valueError ("'" ++ r.status ++ "' is not a valid SagaStatus"))

/-- The row a query returns, as an entity. -/
def rowToEntity? : Option SagaRow → Except SagaError (Option SagaInstance)
  | none => .ok none
  | some r => (rowToEntity r).map some

/-- The `VALUES` list of `save`, with the column defaults. -/
def SagaInstance.toRow (s : SagaInstance) : SagaRow where
  sagaId := s.sagaId
  sagaType := s.sagaType
  shipmentId := s.shipmentId
  warehouseId := s.warehouseId
  deliveryId := s.deliveryId
  status := s.status.value
  startedAt := s.startedAt
  updatedAt := s.updatedAt
  completedAt := none
  failedStep := s.failedStep
  errorMessage := s.errorMessage
  retryCount := 0

/-- The row that `save` proposes, once its texts are assigned to their columns. -/
def Constraints.proposed (c : Constraints) (s : SagaInstance) : Except SagaError SagaRow :=
  match varchar c.columnWidths 100 s.toRow.sagaType, varchar c.columnWidths 50 s.toRow.status,
      varchar? c.columnWidths 100 s.toRow.failedStep with
  | .ok sagaType, .ok status, .ok failedStep =>
      .ok { s.toRow with sagaType := sagaType, status := status, failedStep := failedStep }
  | .error e, _, _ => .error e
  | _, .error e, _ => .error e
  | _, _, .error e => .error e

/-- The filter of `list_active`. -/
def SagaRow.active (r : SagaRow) : Bool :=
  r.status = SagaStatus.started.value ∨ r.status = SagaStatus.compensating.value

/-- `DO UPDATE SET`: the columns the upsert takes over from the proposed row. -/
def doUpdate (old proposed : SagaRow) : SagaRow :=
  { old with
    warehouseId := proposed.warehouseId
    deliveryId := proposed.deliveryId
    status := proposed.status
    updatedAt := proposed.updatedAt
    failedStep := proposed.failedStep
    errorMessage := proposed.errorMessage }

namespace SagaDb

/-- The row the upsert is about to leave. -/
def target (db : SagaDb) (proposed : SagaRow) : SagaRow :=
  match db.sagas.find? proposed.sagaId with
  | none => proposed
  | some old =>
      updateUpdatedAtColumn db.now (setSagaCompletedAt db.now old (doUpdate old proposed))

/-- The first constraint that makes PostgreSQL refuse the upsert. -/
def refusal (c : Constraints) (db : SagaDb) (proposed : SagaRow) : Option String :=
  match c.violated proposed with
  | some name => some name
  | none =>
      match c.violated (db.target proposed) with
      | some name => some name
      | none =>
          if c.idxSagaShipmentActive ∧ db.duplicatesActive (db.target proposed) then
            some "idx_saga_shipment_active"
          else none

/-- The tables after an accepted upsert. -/
def write (db : SagaDb) (proposed : SagaRow) : SagaDb :=
  { db with
    sagas := db.sagas.put (db.target proposed)
    events := db.events ++
      logSagaEvent db.now (db.sagas.find? proposed.sagaId) (db.target proposed)
    transactions := db.transactions + 1 }

/-- `save`. -/
def save (c : Constraints) (s : SagaInstance) (db : SagaDb) :
    Except SagaError SagaInstance × SagaDb :=
  match c.proposed s with
  | .error e => (.error e, db)
  | .ok proposed =>
      match db.refusal c proposed with
      | some violated => (.error (.database violated), db)
      | none => (rowToEntity (db.target proposed), db.write proposed)

/-- `get`. -/
def get (sagaId : UUID) (db : SagaDb) : Except SagaError (Option SagaInstance) :=
  rowToEntity? (db.sagas.find? sagaId)

/-- `get_by_shipment`: the saga of the shipment that started last. -/
def getByShipment (shipmentId : UUID) (db : SagaDb) : Except SagaError (Option SagaInstance) :=
  rowToEntity? ((db.sagas.rows.filter fun r => r.shipmentId = shipmentId).insertionSort
    (fun r s => s.startedAt ≤ r.startedAt)).head?

/-- `list_active`: the unfinished sagas, least recently updated first. -/
def listActive (db : SagaDb) : Except SagaError (List SagaInstance) :=
  ((db.sagas.rows.filter SagaRow.active).insertionSort
    (fun r s => r.updatedAt ≤ s.updatedAt)).mapM rowToEntity

end SagaDb

/-- A row is read as the entity of its own columns, provided its status is known. -/
theorem rowToEntity_eq_ok_iff {r : SagaRow} {s : SagaInstance} :
    rowToEntity r = .ok s ↔ r.status = s.status.value ∧
      s = ⟨r.sagaId, r.sagaType, r.shipmentId, r.warehouseId, r.deliveryId, s.status,
        r.startedAt, r.updatedAt, r.failedStep, r.errorMessage⟩ := by
  unfold rowToEntity
  constructor
  · intro h
    split at h
    · rename_i status hs
      cases h
      exact ⟨SagaStatus.ofValue?_eq_some_iff.mp hs, rfl⟩
    · cases h
  · rintro ⟨hs, he⟩
    rw [SagaStatus.ofValue?_eq_some_iff.mpr hs]
    exact congrArg Except.ok he.symm

/-- A row whose status is known can be read. -/
theorem rowToEntity_of_status {r : SagaRow} {status : SagaStatus} (h : r.status = status.value) :
    rowToEntity r = .ok ⟨r.sagaId, r.sagaType, r.shipmentId, r.warehouseId, r.deliveryId, status,
      r.startedAt, r.updatedAt, r.failedStep, r.errorMessage⟩ :=
  rowToEntity_eq_ok_iff.mpr ⟨h, rfl⟩

namespace SagaDb

/-- A query for an id finds the entity of the stored row. -/
theorem get_eq_some_iff {db : SagaDb} {sagaId : UUID} {s : SagaInstance} :
    db.get sagaId = .ok (some s) ↔
      ∃ r, db.sagas.find? sagaId = some r ∧ rowToEntity r = .ok s := by
  unfold get rowToEntity?
  cases db.sagas.find? sagaId with
  | none => simp
  | some r => cases h : rowToEntity r <;> simp [Except.map, h]

/-- The found entity carries the id it was found under. -/
theorem sagaId_of_get {db : SagaDb} {sagaId : UUID} {s : SagaInstance}
    (h : db.get sagaId = .ok (some s)) : s.sagaId = sagaId := by
  obtain ⟨r, hr, hs⟩ := get_eq_some_iff.mp h
  rw [(rowToEntity_eq_ok_iff.mp hs).2]
  exact Table.key_of_find? (r := r) hr

end SagaDb

/-- What an accepted upsert of `s` makes of the row that was stored under its id. -/
structure Upserted (old? : Option SagaRow) (s : SagaInstance) (new : SagaRow) : Prop where
  sagaId : new.sagaId = s.sagaId
  shipmentId : new.shipmentId = (old?.map SagaRow.shipmentId).getD s.shipmentId
  startedAt : new.startedAt = (old?.map SagaRow.startedAt).getD s.startedAt
  sagaType : ∀ old ∈ old?, new.sagaType = old.sagaType
  warehouseId : new.warehouseId = s.warehouseId
  deliveryId : new.deliveryId = s.deliveryId
  status : new.status = s.status.value

/-- Two texts aside, the proposed row has the columns of the entity. -/
theorem Constraints.proposed_eq_ok {c : Constraints} {s : SagaInstance} {p : SagaRow}
    (h : c.proposed s = .ok p) :
    ∃ sagaType failedStep, p = { s.toRow with sagaType := sagaType, failedStep := failedStep } := by
  have hst : varchar c.columnWidths 50 s.toRow.status = .ok s.toRow.status := varchar_status _ _
  unfold Constraints.proposed at h
  rw [hst] at h
  split at h <;> simp only [Except.ok.injEq, reduceCtorEq] at h
  rename_i sagaType status failedStep _ hs _
  subst h
  cases hs
  exact ⟨sagaType, failedStep, rfl⟩

/-- The completion trigger touches `completed_at` only. -/
theorem setSagaCompletedAt_eq (now : DateTime) (old new : SagaRow) :
    ∃ t, setSagaCompletedAt now old new = { new with completedAt := t } := by
  unfold setSagaCompletedAt
  split
  · exact ⟨_, rfl⟩
  · exact ⟨new.completedAt, rfl⟩

namespace SagaDb

/-- A row of a new id is inserted as proposed. -/
theorem target_of_none {db : SagaDb} {p : SagaRow} (h : db.sagas.find? p.sagaId = none) :
    db.target p = p := by
  simp [target, h]

/-- A stored row takes over the listed columns; the triggers set the two times. -/
theorem target_of_some {db : SagaDb} {p old : SagaRow} (h : db.sagas.find? p.sagaId = some old) :
    ∃ t, db.target p = ⟨old.sagaId, old.sagaType, old.shipmentId, p.warehouseId, p.deliveryId,
      p.status, old.startedAt, db.now, t, p.failedStep, p.errorMessage, old.retryCount⟩ := by
  obtain ⟨t, ht⟩ := setSagaCompletedAt_eq db.now old (doUpdate old p)
  refine ⟨t, ?_⟩
  simp only [target, h, ht]
  rfl

/-- The row an upsert is about to leave, by the row it found. -/
theorem upserted_target {c : Constraints} {db : SagaDb} {s : SagaInstance} {p : SagaRow}
    (h : c.proposed s = .ok p) : Upserted (db.sagas.find? s.sagaId) s (db.target p) := by
  obtain ⟨sagaType, failedStep, hp⟩ := Constraints.proposed_eq_ok h
  have hid : p.sagaId = s.sagaId := by rw [hp]; rfl
  rw [← hid]
  cases hf : db.sagas.find? p.sagaId with
  | none =>
    rw [target_of_none hf, hp]
    exact ⟨rfl, rfl, rfl, by simp, rfl, rfl, rfl⟩
  | some old =>
    have hold : old.sagaId = s.sagaId := (Table.key_of_find? hf).trans hid
    obtain ⟨t, ht⟩ := target_of_some hf
    rw [ht, hp]
    exact ⟨hold, rfl, rfl, by simp, rfl, rfl, rfl⟩

/-- A save is refused without effect, or leaves the upserted row and returns its entity. -/
theorem save_cases (c : Constraints) (s : SagaInstance) (db : SagaDb) :
    (∃ e, db.save c s = (.error e, db)) ∨
    ∃ new db', db.save c s = (rowToEntity new, db') ∧ db'.sagas = db.sagas.put new ∧
      Upserted (db.sagas.find? s.sagaId) s new := by
  unfold save
  split
  · exact .inl ⟨_, rfl⟩
  · rename_i p hp
    split
    · exact .inl ⟨_, rfl⟩
    · exact .inr ⟨db.target p, db.write p, rfl, rfl, upserted_target hp⟩

end SagaDb

/-- What an upsert makes of the texts of `s` when no column width is enforced. -/
structure KeepsTexts (old? : Option SagaRow) (s : SagaInstance) (new : SagaRow) : Prop where
  sagaType : old? = none → new.sagaType = s.sagaType
  failedStep : new.failedStep = s.failedStep
  errorMessage : new.errorMessage = s.errorMessage

/-- With the constraints left aside the proposed row has exactly the entity's columns. -/
theorem Constraints.proposed_leftAside (s : SagaInstance) :
    Constraints.leftAside.proposed s = .ok s.toRow := by
  simp [Constraints.proposed, Constraints.leftAside]

namespace SagaDb

theorem refusal_leftAside (db : SagaDb) (p : SagaRow) : db.refusal .leftAside p = none := by
  simp [refusal, Constraints.violated, Constraints.leftAside]

/-- With the constraints left aside no save is refused. -/
theorem save_leftAside (s : SagaInstance) (db : SagaDb) :
    ∃ new db', db.save .leftAside s = (rowToEntity new, db') ∧ db'.sagas = db.sagas.put new ∧
      Upserted (db.sagas.find? s.sagaId) s new ∧ KeepsTexts (db.sagas.find? s.sagaId) s new := by
  have hp := Constraints.proposed_leftAside s
  refine ⟨db.target s.toRow, db.write s.toRow, ?_, rfl, upserted_target hp, ?_⟩
  · simp only [save, hp, refusal_leftAside]
  · have hid : s.toRow.sagaId = s.sagaId := rfl
    rw [← hid]
    cases hf : db.sagas.find? s.toRow.sagaId with
    | none =>
      rw [target_of_none hf]
      exact ⟨fun _ => rfl, rfl, rfl⟩
    | some old =>
      obtain ⟨t, ht⟩ := target_of_some hf
      rw [ht]
      exact ⟨nofun, rfl, rfl⟩

end SagaDb

end SupplyChainTracker.Saga
