import SupplyChainTracker.Core.Async.Coroutine
import SupplyChainTracker.Saga.Repository

/-!
# `SagaService`

The calls the saga coordinator awaits, the state they act on, and the service
methods as coroutines over these calls. A queue is modelled by the commands
published to it, in order.
-/

namespace SupplyChainTracker.Saga

open Coroutine (perform)

/-- A call on the saga repository or on the event queue. -/
inductive Call : Type
  | get (sagaId : UUID)
  | save (saga : SagaInstance)
  | getByShipment (shipmentId : UUID)
  | listActive
  | publishCommand (command : Command) (topic : String)

/-- What a call answers. -/
abbrev Call.Ans : Call → Type
  | get _ => Option SagaInstance
  | save _ => SagaInstance
  | getByShipment _ => Option SagaInstance
  | listActive => List SagaInstance
  | publishCommand _ _ => Unit

/-- A coroutine of the saga coordinator. -/
abbrev Program : Type → Type := Coroutine Call Call.Ans SagaError

/-- The saga tables and every command published so far with its topic. -/
structure World where
  db : SagaDb
  published : List (Command × String)

/-- The effect of a call under the enforced constraints. -/
def act (c : Constraints) : (op : Call) → World → Except SagaError op.Ans × World
  | .get sagaId, w => (w.db.get sagaId, w)
  | .save saga, w => ((w.db.save c saga).1, { w with db := (w.db.save c saga).2 })
  | .getByShipment shipmentId, w => (w.db.getByShipment shipmentId, w)
  | .listActive, w => (w.db.listActive, w)
  | .publishCommand command topic, w =>
      (.ok (), { w with published := w.published ++ [(command, topic)] })

/-- The `ValueError` of an id without a saga. -/
def notFound (sagaId : UUID) : SagaError :=
  .valueError ("Saga " ++ sagaId.str ++ " not found")

namespace SagaService

/-- `create`. -/
def create (saga : SagaInstance) : Program SagaInstance := perform (Call.save saga)

/-- `get`. -/
def get (sagaId : UUID) : Program (Option SagaInstance) := perform (Call.get sagaId)

/-- `get_by_shipment`. -/
def getByShipment (shipmentId : UUID) : Program (Option SagaInstance) :=
  perform (Call.getByShipment shipmentId)

/-- `list_active_sagas`. -/
def listActiveSagas : Program (List SagaInstance) := perform Call.listActive

/-- The first lines of every other method: read the saga or raise. -/
def load (sagaId : UUID) : Program SagaInstance := do
  let saga ← get sagaId
  match saga with
  | none => .raise (notFound sagaId)
  | some saga => return saga

/-- Going on after a load takes one query, whose failures are raised. -/
theorem load_bind {α : Type} (sagaId : UUID) (f : SagaInstance → Program α) :
    (load sagaId).bind f = .await (Call.get sagaId) fun
      | .error e => .raise e
      | .ok none => .raise (notFound sagaId)
      | .ok (some saga) => f saga := by
  refine congrArg (Coroutine.await _) (funext fun a => ?_)
  rcases a with e | _ | saga <;> rfl

/-- The entity `update_context` saves; an id that is not given is left alone. -/
def withContext (saga : SagaInstance) (warehouseId deliveryId : Option UUID) : SagaInstance :=
  { saga with
    warehouseId := warehouseId.or saga.warehouseId
    deliveryId := deliveryId.or saga.deliveryId }

/-- `update_context`; nothing is saved when no id is given. -/
def updateContext (sagaId : UUID) (warehouseId deliveryId : Option UUID) :
    Program SagaInstance := do
  let saga ← load sagaId
  if warehouseId.isSome ∨ deliveryId.isSome then
    perform (Call.save (withContext saga warehouseId deliveryId))
  else return saga

/-- `complete_saga`. -/
def completeSaga (sagaId : UUID) (now : DateTime) : Program SagaInstance := do
  let saga ← load sagaId
  if saga.status ≠ .started then return saga
  else perform (Call.save (saga.markCompleted now))

/-- `fail_saga`. -/
def failSaga (sagaId : UUID) (step errorMessage : String) (now : DateTime) :
    Program SagaInstance := do
  let saga ← load sagaId
  perform (Call.save (saga.markFailed step errorMessage now))

/-- The `ValueError` of a saga that has ended. -/
def cannotCompensate (sagaId : UUID) (status : SagaStatus) : SagaError :=
  .valueError ("Cannot compensate saga " ++ sagaId.str ++ " in status " ++ status.format)

/-- `trigger_compensation`. -/
def triggerCompensation (sagaId : UUID) (failedStep : String) (now : DateTime) :
    Program SagaInstance := do
  let saga ← load sagaId
  if saga.status = .completed ∨ saga.status = .failed then
    .raise (cannotCompensate sagaId saga.status)
  else perform (Call.save (saga.markCompensating failedStep now))

/-- `is_saga_active`. -/
def isSagaActive (sagaId : UUID) : Program Bool := do
  let saga ← get sagaId
  match saga with
  | none => return false
  | some saga => return saga.status.isActive

end SagaService

end SupplyChainTracker.Saga
