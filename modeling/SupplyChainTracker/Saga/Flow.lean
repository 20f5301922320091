import SupplyChainTracker.Core.Async.Interleaving
import SupplyChainTracker.Saga.Api
import SupplyChainTracker.Saga.Worker

/-!
# Flowcharts of the saga coordinator

The points at which the failure handler and the context update can be suspended,
and the proof that the coroutines follow them. Everything proved about these
coroutines, alone or interleaved, is proved point by point.
-/

namespace SupplyChainTracker.Saga

open Coroutine (perform)

namespace SagaCompensationWorker

/-- The command of `_compensate_inventory`, if there is a warehouse. -/
def releaseInventory (saga : SagaInstance) (reason : Json) (commandId : UUID) :
    List (Command × String) :=
  saga.warehouseId.toList.map fun warehouseId =>
    (ReleaseInventoryCommand.create saga.shipmentId warehouseId [] saga.sagaId reason commandId,
      "inventory.commands")

/-- The command of `_compensate_shipment`. -/
def cancelShipment (saga : SagaInstance) (reason : Json) (commandId : UUID) :
    List (Command × String) :=
  [(CancelShipmentCommand.create saga.shipmentId reason saga.sagaId commandId,
    "shipment.commands")]

/-- The command of `_compensate_delivery`, if there is a delivery. -/
def unassignCourier (saga : SagaInstance) (reason : Json) (commandId : UUID) :
    List (Command × String) :=
  saga.deliveryId.toList.map fun deliveryId =>
    (UnassignCourierCommand.create deliveryId saga.sagaId reason commandId, "delivery.commands")

/-- The commands an event asks for; a payload without `get` asks for none. -/
def strategy (saga : SagaInstance) (r : Received) : List (Command × String) :=
  match failureReason r.event with
  | .error _ => []
  | .ok reason =>
      if r.event.eventType = "delivery.failed" then
        unassignCourier saga reason (r.uuid4 0) ++
          releaseInventory saga (.str "Delivery failed rollback") (r.uuid4 1) ++
          cancelShipment saga (.str "Delivery failed rollback") (r.uuid4 2)
      else if r.event.eventType = "courier.unassigned" then
        releaseInventory saga (.str "Courier unassigned rollback") (r.uuid4 1) ++
          cancelShipment saga (.str "Courier unassigned rollback") (r.uuid4 2)
      else if r.event.eventType = "inventory.insufficient" then
        cancelShipment saga (.str "Inventory insufficient") (r.uuid4 2)
      else []

/-- Publish commands one after the other. -/
def publishAll : List (Command × String) → Program Unit
  | [] => .ret ()
  | p :: ps => .await (Call.publishCommand p.1 p.2) fun
      | .ok _ => publishAll ps
      | .error e => .raise e

theorem publishAll_append (ps qs : List (Command × String)) :
    publishAll (ps ++ qs) = (publishAll ps).bind fun _ => publishAll qs := by
  induction ps with
  | nil => rfl
  | cons p ps ih =>
    simp only [List.cons_append, publishAll, Coroutine.await_bind]
    congr 1
    funext a
    cases a with
    | ok _ => exact ih
    | error e => rfl

theorem compensateInventory_eq (saga : SagaInstance) (reason : Json) (commandId : UUID) :
    compensateInventory saga reason commandId =
      publishAll (releaseInventory saga reason commandId) := by
  unfold compensateInventory releaseInventory
  cases saga.warehouseId with
  | none => rfl
  | some warehouseId =>
    refine congrArg (Coroutine.await _) (funext fun a => ?_)
    cases a <;> rfl

theorem compensateShipment_eq (saga : SagaInstance) (reason : Json) (commandId : UUID) :
    compensateShipment saga reason commandId =
      publishAll (cancelShipment saga reason commandId) := by
  refine congrArg (Coroutine.await _) (funext fun a => ?_)
  cases a <;> rfl

theorem compensateDelivery_eq (saga : SagaInstance) (reason : Json) (commandId : UUID) :
    compensateDelivery saga reason commandId =
      publishAll (unassignCourier saga reason commandId) := by
  unfold compensateDelivery unassignCourier
  cases saga.deliveryId with
  | none => rfl
  | some deliveryId =>
    refine congrArg (Coroutine.await _) (funext fun a => ?_)
    cases a <;> rfl

/-- Executing the strategy publishes its list, after the payload has been read. -/
theorem executeCompensationStrategy_eq (saga : SagaInstance) (r : Received) :
    executeCompensationStrategy saga r =
      match failureReason r.event with
      | .error e => .raise e
      | .ok _ => publishAll (strategy saga r) := by
  unfold executeCompensationStrategy strategy
  cases failureReason r.event with
  | error e => rfl
  | ok reason =>
    simp only [Coroutine.ofExcept_ok, Coroutine.bind_eq, Coroutine.ret_bind,
      compensateDelivery_eq, compensateInventory_eq, compensateShipment_eq, ← publishAll_append,
      List.append_assoc]
    split_ifs <;> rfl

/-- The points at which the failure handler can be suspended. -/
inductive Stage : Type
  /-- About to read the saga for the first time. -/
  | guard
  /-- About to read it again inside `trigger_compensation`. -/
  | reread (sagaId : UUID)
  /-- About to save the second copy as compensating. -/
  | claim (saga : SagaInstance)
  /-- Commands left to publish; when none is left, about to read for `fail_saga`. -/
  | publish (saga : SagaInstance) (todo : List (Command × String))
  /-- About to save the third copy as failed. -/
  | close (saga : SagaInstance)
  /-- Ended. -/
  | halt (result : Except SagaError Unit)

/-- How an exception inside `trigger_compensation` ends the handling. -/
def caught (e : SagaError) : Except SagaError Unit := if e.isValueError then .ok () else .error e

/-- The error message `fail_saga` is called with. -/
def failureMessage (r : Received) : String := "Compensation triggered by " ++ r.event.eventType

/-- Where the first look at the saga leads. -/
def guardNext : Except SagaError (Option SagaInstance) → Stage
  | .error e => .halt (.error e)
  | .ok none => .halt (.ok ())
  | .ok (some saga) => if saga.status = .started then .reread saga.sagaId else .halt (.ok ())

/-- The flowchart of `_handle_failure_event`. -/
def chart (r : Received) : Stage → Node Call Call.Ans SagaError Unit Stage
  | .guard =>
      match r.event.correlationId with
      | none => .halt (.ok ())
      | some sagaId => .call (Call.get sagaId) guardNext
  | .reread sagaId => .call (Call.get sagaId) fun
      | .error e => .halt (caught e)
      | .ok none => .halt (.ok ())
      | .ok (some saga) =>
          if saga.status = .completed ∨ saga.status = .failed then .halt (.ok ()) else .claim saga
  | .claim saga => .call (Call.save (saga.markCompensating r.event.eventType (r.now 0))) fun
      | .error e => .halt (caught e)
      | .ok saved =>
          match failureReason r.event with
          | .error e => .halt (.error e)
          | .ok _ => .publish saved (strategy saved r)
  | .publish saga (p :: todo) => .call (Call.publishCommand p.1 p.2) fun
      | .error e => .halt (.error e)
      | .ok _ => .publish saga todo
  | .publish saga [] => .call (Call.get saga.sagaId) fun
      | .error e => .halt (.error e)
      | .ok none => .halt (.error (notFound saga.sagaId))
      | .ok (some saga) => .close saga
  | .close saga =>
      .call (Call.save (saga.markFailed r.event.eventType (failureMessage r) (r.now 1))) fun
      | .error e => .halt (.error e)
      | .ok _ => .halt (.ok ())
  | .halt result => .halt result

theorem chart_guard {r : Received} {sagaId : UUID} (h : r.event.correlationId = some sagaId) :
    chart r .guard = .call (Call.get sagaId) guardNext := by
  simp only [chart, h]

/-- The end of the handler: publish what is left and fail the saga. -/
def compensate (r : Received) (saga : SagaInstance) (todo : List (Command × String)) :
    Program Unit :=
  (publishAll todo).bind fun _ =>
    (SagaService.failSaga saga.sagaId r.event.eventType (failureMessage r) (r.now 1)).bind
      fun _ => .ret ()

/-- The end of the handler, from the attempt to claim the saga on. -/
def attempt (r : Received) (trigger : Program SagaInstance) : Program Unit :=
  ((trigger.bind fun saga => .ret (some saga)).tryCatch fun e =>
    if e.isValueError then .ret none else .raise e).bind fun triggered =>
      match triggered with
      | none => .ret ()
      | some saga => (executeCompensationStrategy saga r).bind fun _ =>
          (SagaService.failSaga saga.sagaId r.event.eventType (failureMessage r) (r.now 1)).bind
            fun _ => .ret ()

/-- What the handler still has to do at a point of the flowchart. -/
def prog (r : Received) : Stage → Program Unit
  | .guard => handleFailureEvent r
  | .reread sagaId =>
      attempt r (SagaService.triggerCompensation sagaId r.event.eventType (r.now 0))
  | .claim saga =>
      attempt r (perform (Call.save (saga.markCompensating r.event.eventType (r.now 0))))
  | .publish saga todo => compensate r saga todo
  | .close saga =>
      (perform (Call.save (saga.markFailed r.event.eventType (failureMessage r) (r.now 1)))
        : Program SagaInstance).bind fun _ => .ret ()
  | .halt result => .ofExcept result

theorem attempt_raise (r : Received) (e : SagaError) :
    attempt r (.raise e) = .ofExcept (caught e) := by
  unfold attempt caught
  cases h : e.isValueError <;> simp [h]

theorem attempt_await (r : Received) (op : Call)
    (k : Except SagaError op.Ans → Program SagaInstance) :
    attempt r (.await op k) = .await op fun a => attempt r (k a) := rfl

theorem attempt_ret (r : Received) (saga : SagaInstance) :
    attempt r (.ret saga) =
      match failureReason r.event with
      | .error e => .raise e
      | .ok _ => compensate r saga (strategy saga r) := by
  simp only [attempt, Coroutine.ret_bind, Coroutine.ret_tryCatch, executeCompensationStrategy_eq]
  cases failureReason r.event <;> rfl

/-- The handler follows its flowchart. -/
theorem follows (r : Received) : Follows (chart r) (prog r) := by
  intro s
  cases s with
  | guard =>
    simp only [prog, chart, handleFailureEvent]
    cases r.event.correlationId with
    | none => rfl
    | some sagaId =>
      refine congrArg (Coroutine.await _) (funext fun a => ?_)
      rcases a with e | _ | saga
      · rfl
      · rfl
      · cases hst : saga.status <;> simp [guardNext, hst, SagaStatus.value] <;> rfl
  | reread sagaId =>
    simp only [prog, SagaService.triggerCompensation, Coroutine.bind_eq, SagaService.load_bind,
      attempt_await]
    refine congrArg (Coroutine.await _) (funext fun a => ?_)
    rcases a with e | _ | saga
    · exact attempt_raise r e
    · exact attempt_raise r _
    · dsimp only
      split
      · exact attempt_raise r _
      · rfl
  | claim saga =>
    refine congrArg (Coroutine.await _) (funext fun a => ?_)
    rcases a with e | saved
    · exact attempt_raise r e
    · refine (attempt_ret r saved).trans ?_
      cases failureReason r.event <;> rfl
  | publish saga todo =>
    cases todo with
    | cons p todo =>
      refine congrArg (Coroutine.await _) (funext fun a => ?_)
      cases a <;> rfl
    | nil =>
      refine congrArg (Coroutine.await _) (funext fun a => ?_)
      rcases a with e | _ | saga <;> rfl
  | close saga =>
    refine congrArg (Coroutine.await _) (funext fun a => ?_)
    cases a <;> rfl
  | halt result => rfl

end SagaCompensationWorker

namespace SagaRouter

/-- The points at which a `PATCH` can be suspended. -/
inductive PatchStage : Type
  /-- About to read the saga for the mapper. -/
  | first (sagaId : UUID)
  /-- About to read it again inside `update_context`, with the ids to set. -/
  | second (sagaId : UUID) (warehouseId deliveryId : Option UUID)
  /-- About to save the second copy with the ids set. -/
  | store (saga : SagaInstance)
  /-- Ended. -/
  | halt (result : Except SagaError Unit)

/-- Where the first read leads: the ids of the edited copy are passed on. -/
def firstNext (dto : SagaUpdateDTO) (sagaId : UUID) :
    Except SagaError (Option SagaInstance) → PatchStage
  | .error e => .halt (.error e)
  | .ok none => .halt (.error (.httpException 404 ("Saga " ++ sagaId.str ++ " not found")))
  | .ok (some saga) =>
      .second saga.sagaId (dto.warehouseId.or saga.warehouseId) (dto.deliveryId.or saga.deliveryId)

/-- Where the second read leads: without ids to set nothing is saved. -/
def secondNext (sagaId : UUID) (warehouseId deliveryId : Option UUID) :
    Except SagaError (Option SagaInstance) → PatchStage
  | .error e => .halt (.error e)
  | .ok none => .halt (.error (notFound sagaId))
  | .ok (some saga) =>
      if warehouseId.isSome ∨ deliveryId.isSome then
        .store (SagaService.withContext saga warehouseId deliveryId)
      else .halt (.ok ())

/-- The flowchart of `update_saga_context`. -/
def patchChart (dto : SagaUpdateDTO) : PatchStage → Node Call Call.Ans SagaError Unit PatchStage
  | .first sagaId => .call (Call.get sagaId) (firstNext dto sagaId)
  | .second sagaId warehouseId deliveryId =>
      .call (Call.get sagaId) (secondNext sagaId warehouseId deliveryId)
  | .store saga => .call (Call.save saga) fun
      | .error e => .halt (.error e)
      | .ok _ => .halt (.ok ())
  | .halt result => .halt result

/-- What a `PATCH` still has to do; its response is dropped. -/
def patchProg (dto : SagaUpdateDTO) (now : DateTime) : PatchStage → Program Unit
  | .first sagaId => (updateSagaContext sagaId dto now).bind fun _ => .ret ()
  | .second sagaId warehouseId deliveryId =>
      (SagaService.updateContext sagaId warehouseId deliveryId).bind fun _ => .ret ()
  | .store saga => (perform (Call.save saga) : Program SagaInstance).bind fun _ => .ret ()
  | .halt result => .ofExcept result

/-- A `PATCH` follows its flowchart. -/
theorem follows_patch (dto : SagaUpdateDTO) (now : DateTime) :
    Follows (patchChart dto) (patchProg dto now) := by
  intro s
  cases s with
  | first sagaId =>
    refine congrArg (Coroutine.await _) (funext fun a => ?_)
    rcases a with e | _ | saga
    · rfl
    · rfl
    · change ((SagaService.updateContext saga.sagaId (dto.warehouseId.or saga.warehouseId)
        (dto.deliveryId.or saga.deliveryId)).bind fun saved =>
          .ret (SagaMapper.entityToDto saved)).bind (fun _ => .ret ()) = _
      simp only [patchProg, SagaService.updateContext, Coroutine.bind_eq, SagaService.load_bind,
        Coroutine.await_bind]
      refine congrArg (Coroutine.await _) (funext fun a => ?_)
      rcases a with e | _ | saga'
      · rfl
      · rfl
      · dsimp only [secondNext]
        split
        · refine congrArg (Coroutine.await _) (funext fun a => ?_)
          cases a <;> rfl
        · rfl
  | second sagaId warehouseId deliveryId =>
    simp only [patchProg, SagaService.updateContext, Coroutine.bind_eq, SagaService.load_bind,
      Coroutine.await_bind]
    refine congrArg (Coroutine.await _) (funext fun a => ?_)
    rcases a with e | _ | saga
    · rfl
    · rfl
    · dsimp only [secondNext]
      split <;> rfl
  | store saga =>
    refine congrArg (Coroutine.await _) (funext fun a => ?_)
    cases a <;> rfl
  | halt result => rfl

end SagaRouter

end SupplyChainTracker.Saga
