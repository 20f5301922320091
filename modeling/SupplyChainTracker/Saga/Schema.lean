import SupplyChainTracker.Core.Table
import SupplyChainTracker.Saga.Entity

/-!
# The saga schema

The tables of migrations 001 and 003 with their column widths, check constraints,
partial unique index and triggers. Which constraints are enforced is a parameter,
so that results about the program can leave them aside.
-/

namespace SupplyChainTracker.Saga

/-- A row of `saga_instances`. -/
structure SagaRow where
  sagaId : UUID
  sagaType : String
  shipmentId : UUID
  warehouseId : Option UUID
  deliveryId : Option UUID
  status : String
  startedAt : DateTime
  updatedAt : DateTime
  completedAt : Option DateTime
  failedStep : Option String
  errorMessage : Option String
  retryCount : Int
  deriving DecidableEq, Repr

/-- A row of `saga_events`; its random `event_id` is left out. -/
structure SagaEvent where
  sagaId : UUID
  eventType : String
  eventData : Json
  occurredAt : DateTime
  deriving Repr

/-- The saga tables with the clock that `NOW()` reads, one reading a transaction. -/
structure SagaDb where
  sagas : Table UUID SagaRow SagaRow.sagaId
  events : List SagaEvent
  clock : Nat → DateTime
  transactions : Nat

/-- The tables as the migrations create them. -/
def SagaDb.created (clock : Nat → DateTime) : SagaDb := ⟨Table.empty, [], clock, 0⟩

/-- `NOW()` in the coming transaction. -/
def SagaDb.now (db : SagaDb) : DateTime := db.clock db.transactions

/-- Which constraints of migration 001 the database enforces besides the primary key. -/
structure Constraints where
  columnWidths : Bool
  ckCompletedAt : Bool
  ckRetryCount : Bool
  ckSagaStatus : Bool
  idxSagaShipmentActive : Bool

namespace Constraints

/-- All constraints left aside. -/
def leftAside : Constraints := ⟨false, false, false, false, false⟩

/-- All constraints as the migration creates them. -/
def migration001 : Constraints := ⟨true, true, true, true, true⟩

end Constraints

/-- Assign a text to a `VARCHAR(limit)` column: excess blanks are cut off, other
excess characters are refused. -/
def varchar (enforced : Bool) (limit : Nat) (text : String) : Except SagaError String :=
  if enforced ∧ limit < text.length then
    if (text.toList.drop limit).all fun c => c = ' ' then
      .ok (String.ofList (text.toList.take limit))
    else .error (.database ("character varying(" ++ toString limit ++ ")"))
  else .ok text

@[simp] theorem varchar_false (limit : Nat) (text : String) :
    varchar false limit text = .ok text := by
  simp [varchar]

/-- Every status fits its column. -/
@[simp] theorem varchar_status (enforced : Bool) (s : SagaStatus) :
    varchar enforced 50 s.value = .ok s.value := by
  have hlen : ¬ 50 < s.value.length := by cases s <;> decide
  simp [varchar, hlen]

/-- Assign a nullable text to a `VARCHAR(limit)` column. -/
def varchar? (enforced : Bool) (limit : Nat) : Option String → Except SagaError (Option String)
  | none => .ok none
  | some text => (varchar enforced limit text).map some

@[simp] theorem varchar?_false (limit : Nat) (text : Option String) :
    varchar? false limit text = .ok text := by
  cases text <;> simp [varchar?, Except.map]

/-- The statuses that `ck_saga_status` admits. -/
def ckSagaStatuses : List String := ["STARTED", "COMPENSATING", "COMPLETED", "FAILED", "CANCELLED"]

/-- The first check constraint that a row violates, in the order PostgreSQL tests them. -/
def Constraints.violated (c : Constraints) (r : SagaRow) : Option String :=
  if c.ckCompletedAt ∧ ¬ (r.completedAt.all fun t => r.startedAt ≤ t) then some "ck_completed_at"
  else if c.ckRetryCount ∧ r.retryCount < 0 then some "ck_retry_count"
  else if c.ckSagaStatus ∧ r.status ∉ ckSagaStatuses then some "ck_saga_status"
  else none

/-- The predicate of `idx_saga_shipment_active`. -/
def SagaRow.indexedActive (r : SagaRow) : Bool := r.status ∈ ["STARTED", "COMPENSATING"]

/-- Whether `idx_saga_shipment_active` holds another row of the same shipment. -/
def SagaDb.duplicatesActive (db : SagaDb) (r : SagaRow) : Bool :=
  r.indexedActive && db.sagas.rows.any fun s =>
    s.sagaId ≠ r.sagaId ∧ s.indexedActive ∧ s.shipmentId = r.shipmentId

/-- The trigger function `set_saga_completed_at`. -/
def setSagaCompletedAt (now : DateTime) (old new : SagaRow) : SagaRow :=
  if new.status ∈ ["COMPLETED", "FAILED", "CANCELLED"] ∧
      old.status ∉ ["COMPLETED", "FAILED", "CANCELLED"] then
    { new with completedAt := some now }
  else new

/-- The trigger function `update_updated_at_column`. -/
def updateUpdatedAtColumn (now : DateTime) (new : SagaRow) : SagaRow :=
  { new with updatedAt := now }

/-- A nullable text in `jsonb_build_object`. -/
def jsonText : Option String → Json
  | none => .null
  | some text => .str text

/-- The trigger function `log_saga_event`; an insert has no old row. -/
def logSagaEvent (now : DateTime) : Option SagaRow → SagaRow → List SagaEvent
  | none, new => [{
      sagaId := new.sagaId
      eventType := "SAGA_STARTED"
      eventData := .obj [
        ("saga_type", .str new.sagaType),
        ("shipment_id", .str new.shipmentId.str),
        ("status", .str new.status)]
      occurredAt := now }]
  | some old, new =>
      if old.status ≠ new.status then [{
        sagaId := new.sagaId
        eventType :=
          if new.status = "COMPLETED" then "SAGA_COMPLETED"
          else if new.status = "FAILED" then "SAGA_FAILED"
          else if new.status = "COMPENSATING" then "COMPENSATION_STARTED"
          else "SAGA_STARTED"
        eventData := .obj [
          ("old_status", .str old.status),
          ("new_status", .str new.status),
          ("failed_step", jsonText new.failedStep),
          ("error_message", jsonText new.errorMessage)]
        occurredAt := now }]
      else []

/-- What the trigger writes down for a status of the program is a start. -/
theorem eventType_of_mem_logSagaEvent {now : DateTime} {old? : Option SagaRow} {new : SagaRow}
    {status : SagaStatus} (hst : new.status = status.value) {e : SagaEvent}
    (h : e ∈ logSagaEvent now old? new) : e.eventType = "SAGA_STARTED" := by
  cases old? with
  | none => exact congrArg SagaEvent.eventType (List.mem_singleton.mp h)
  | some old =>
    simp only [logSagaEvent, hst] at h
    split at h
    · rw [List.mem_singleton.mp h]
      cases status <;> rfl
    · cases h

end SupplyChainTracker.Saga
