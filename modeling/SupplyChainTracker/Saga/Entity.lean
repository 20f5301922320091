import SupplyChainTracker.Libs.Messaging

/-!
# Saga instances

The entity of the saga coordinator with the transitions it offers, and the
exceptions its operations can raise.
-/

namespace SupplyChainTracker.Saga

/-- `SagaStatus`. -/
inductive SagaStatus : Type
  | started
  | completed
  | failed
  | compensating
  deriving DecidableEq, Repr

namespace SagaStatus

/-- The string value of a status, which is what the repository stores. -/
def value : SagaStatus → String
  | started => "started"
  | completed => "completed"
  | failed => "failed"
  | compensating => "compensating"

/-- The text of a status inside an f-string. -/
def format : SagaStatus → String
  | started => "SagaStatus.STARTED"
  | completed => "SagaStatus.COMPLETED"
  | failed => "SagaStatus.FAILED"
  | compensating => "SagaStatus.COMPENSATING"

/-- `SagaStatus(value)`, `none` standing for its `ValueError`. -/
def ofValue? (text : String) : Option SagaStatus :=
  if text = "started" then some started
  else if text = "completed" then some completed
  else if text = "failed" then some failed
  else if text = "compensating" then some compensating
  else none

/-- The statuses `is_saga_active` and `list_active` select. -/
def isActive (s : SagaStatus) : Bool := s = started ∨ s = compensating

@[simp] theorem ofValue?_value (s : SagaStatus) : ofValue? s.value = some s := by
  cases s <;> decide

/-- Only the value of a status is read as that status. -/
theorem ofValue?_eq_some_iff {text : String} {s : SagaStatus} :
    ofValue? text = some s ↔ text = s.value := by
  constructor
  · intro h
    unfold ofValue? at h
    split_ifs at h <;> (cases h; assumption)
  · rintro rfl
    exact ofValue?_value s

theorem value_injective : Function.Injective value := by
  intro s t h
  simpa [← ofValue?_eq_some_iff] using h

@[simp] theorem value_inj {s t : SagaStatus} : s.value = t.value ↔ s = t :=
  value_injective.eq_iff

end SagaStatus

/-- `SagaInstance`. -/
structure SagaInstance where
  sagaId : UUID
  sagaType : String
  shipmentId : UUID
  warehouseId : Option UUID := none
  deliveryId : Option UUID := none
  status : SagaStatus := .started
  startedAt : DateTime
  updatedAt : DateTime
  failedStep : Option String := none
  errorMessage : Option String := none
  deriving DecidableEq, Repr

namespace SagaInstance

/-- `mark_completed`. -/
def markCompleted (s : SagaInstance) (now : DateTime) : SagaInstance :=
  { s with status := .completed, updatedAt := now }

/-- `mark_failed`. -/
def markFailed (s : SagaInstance) (step error : String) (now : DateTime) : SagaInstance :=
  { s with status := .failed, failedStep := some step, errorMessage := some error, updatedAt := now }

/-- `mark_compensating`. -/
def markCompensating (s : SagaInstance) (step : String) (now : DateTime) : SagaInstance :=
  { s with status := .compensating, failedStep := some step, updatedAt := now }

end SagaInstance

/-- The exceptions that can reach a caller of the saga coordinator. -/
inductive SagaError : Type
  | valueError (message : String)
  | attributeError (message : String)
  /-- FastAPI's `HTTPException`. -/
  | httpException (statusCode : Nat) (detail : String)
  /-- A statement that PostgreSQL refuses, by the violated constraint or column. -/
  | database (violated : String)
  /-- Any other exception of a driver or broker. -/
  | external (message : String)
  deriving DecidableEq, Repr

/-- Whether `except ValueError` catches the exception. -/
def SagaError.isValueError : SagaError → Bool
  | valueError _ => true
  | _ => false

end SupplyChainTracker.Saga
