import SupplyChainTracker.Core.Run
import SupplyChainTracker.Saga.Lifecycle

/-!
# Participants registered after a failure

The commands of a compensation are computed from one copy of the saga, but
`update_context` may still change the participants of a failed saga. The invariant
keeps the copy that was compensated next to the stored row.
-/

namespace SupplyChainTracker.Saga

open SagaCompensationWorker

/-- A release command has been sent to a warehouse. -/
def Released (w : World) (sagaId warehouseId : UUID) : Prop :=
  ∃ p ∈ w.commandsFor sagaId, p.1.commandType = ReleaseInventoryCommand.commandType ∧
    p.1.aggregateId = warehouseId

/-- An unassign command has been sent for a delivery. -/
def Unassigned (w : World) (sagaId deliveryId : UUID) : Prop :=
  ∃ p ∈ w.commandsFor sagaId, p.1.commandType = UnassignCourierCommand.commandType ∧
    p.1.aggregateId = deliveryId

/-- The stored saga has failed after a `delivery.failed` event. -/
def DeliveryFailed (row : SagaRow) : Prop :=
  row.status = SagaStatus.failed.value ∧ row.failedStep = some "delivery.failed"

/-- A saga that has failed after `delivery.failed` has had its stored participants compensated. -/
def Compensated (sagaId : UUID) (w : World) : Prop :=
  ∀ row, w.row? sagaId = some row → DeliveryFailed row →
    (∀ warehouseId, row.warehouseId = some warehouseId → Released w sagaId warehouseId) ∧
    (∀ deliveryId, row.deliveryId = some deliveryId → Unassigned w sagaId deliveryId)

/-- An operation that only looks after one saga: context updates and trigger events. -/
def OnSaga (sagaId : UUID) : Operation → Prop
  | .updateContext id _ _ => id = sagaId
  | .failureEvent r => r.event.correlationId = some sagaId ∧ r.event.eventType ∈ triggerTypes ∧
      ∃ items, r.event.payload = .obj items
  | _ => False

/-- An update of a saga that has failed after `delivery.failed` supplies no id but the
stored ones. -/
def Settled (sagaId : UUID) (w : World) : Operation → Prop
  | .updateContext _ warehouseId deliveryId =>
      ∀ row, w.row? sagaId = some row → DeliveryFailed row →
        (∀ x ∈ warehouseId, row.warehouseId = some x) ∧ (∀ x ∈ deliveryId, row.deliveryId = some x)
  | _ => True

/-- Nothing has been sent for a started saga, and a failed one has been sent the strategy
of one copy, whose participants the row still has or has replaced. -/
inductive Accounted (sagaId : UUID) (w : World) (row : SagaRow) : Prop
  | started (h : row.status = SagaStatus.started.value) (sent : w.commandsFor sagaId = [])
  | failed (copy : SagaInstance) (r : Received) (reason : Json)
      (h : row.status = SagaStatus.failed.value) (step : row.failedStep = some r.event.eventType)
      (payload : failureReason r.event = .ok reason)
      (sent : w.commandsFor sagaId = strategy copy r)
      (warehouse : copy.warehouseId.isSome → row.warehouseId.isSome)
      (delivery : copy.deliveryId.isSome → row.deliveryId.isSome)

section Strategy

variable {r : Received} {reason : Json} {copy : SagaInstance}

/-- The strategy for `delivery.failed` releases exactly the warehouse of the copy. -/
private theorem released_iff (htype : r.event.eventType = "delivery.failed")
    (hreason : failureReason r.event = .ok reason) (x : UUID) :
    (∃ p ∈ strategy copy r, p.1.commandType = ReleaseInventoryCommand.commandType ∧
      p.1.aggregateId = x) ↔ copy.warehouseId = some x := by
  simp only [strategy, hreason, htype, if_true]
  cases hwh : copy.warehouseId <;> cases hdl : copy.deliveryId <;>
    simp [unassignCourier, releaseInventory, cancelShipment, UnassignCourierCommand.create,
      ReleaseInventoryCommand.create, CancelShipmentCommand.create, hwh, hdl,
      UnassignCourierCommand.commandType, ReleaseInventoryCommand.commandType,
      CancelShipmentCommand.commandType]

/-- The strategy for `delivery.failed` unassigns exactly the delivery of the copy. -/
private theorem unassigned_iff (htype : r.event.eventType = "delivery.failed")
    (hreason : failureReason r.event = .ok reason) (x : UUID) :
    (∃ p ∈ strategy copy r, p.1.commandType = UnassignCourierCommand.commandType ∧
      p.1.aggregateId = x) ↔ copy.deliveryId = some x := by
  simp only [strategy, hreason, htype, if_true]
  cases hwh : copy.warehouseId <;> cases hdl : copy.deliveryId <;>
    simp [unassignCourier, releaseInventory, cancelShipment, UnassignCourierCommand.create,
      ReleaseInventoryCommand.create, CancelShipmentCommand.create, hwh, hdl,
      UnassignCourierCommand.commandType, ReleaseInventoryCommand.commandType,
      CancelShipmentCommand.commandType]

end Strategy

/-- A set column agrees with a copy as soon as all it holds is what the copy holds. -/
private theorem eq_of_forall_some {new old : Option UUID} (hset : old.isSome → new.isSome)
    (h : ∀ x, new = some x → old = some x) : new = old := by
  cases new with
  | none =>
    cases old with
    | none => rfl
    | some y => exact absurd (hset rfl) nofun
  | some x => exact (h x rfl).symm

variable {sagaId : UUID} {w : World} {row : SagaRow}

/-- A saga failed after `delivery.failed` is compensated exactly when the row still has the
participants of the copy. -/
private theorem compensated_iff {copy : SagaInstance} {r : Received} {reason : Json}
    (hrow : w.row? sagaId = some row) (hfailed : DeliveryFailed row)
    (hstep : row.failedStep = some r.event.eventType)
    (hreason : failureReason r.event = .ok reason)
    (hsent : w.commandsFor sagaId = strategy copy r)
    (hwh : copy.warehouseId.isSome → row.warehouseId.isSome)
    (hdl : copy.deliveryId.isSome → row.deliveryId.isSome) :
    Compensated sagaId w ↔
      row.warehouseId = copy.warehouseId ∧ row.deliveryId = copy.deliveryId := by
  have htype : r.event.eventType = "delivery.failed" :=
    Option.some.inj (hstep.symm.trans hfailed.2)
  have hreleased : ∀ x, Released w sagaId x ↔ copy.warehouseId = some x := fun x => by
    rw [Released, hsent]
    exact released_iff htype hreason x
  have hunassigned : ∀ x, Unassigned w sagaId x ↔ copy.deliveryId = some x := fun x => by
    rw [Unassigned, hsent]
    exact unassigned_iff htype hreason x
  constructor
  · intro h
    obtain ⟨hr, hu⟩ := h row hrow hfailed
    exact ⟨eq_of_forall_some hwh fun x hx => (hreleased x).mp (hr x hx),
      eq_of_forall_some hdl fun x hx => (hunassigned x).mp (hu x hx)⟩
  · rintro ⟨hw, hd⟩ row' hrow' _
    cases hrow.symm.trans hrow'
    exact ⟨fun x hx => (hreleased x).mpr (hw ▸ hx), fun x hx => (hunassigned x).mpr (hd ▸ hx)⟩

/-- A started saga has not failed. -/
private theorem not_deliveryFailed_of_started (h : row.status = SagaStatus.started.value) :
    ¬ DeliveryFailed row := by
  intro hfailed
  exact absurd (h.symm.trans hfailed.1) (by decide)

/-- Whether a saga has failed after `delivery.failed` is read off two columns. -/
private theorem deliveryFailed_congr {new : SagaRow} (hst : new.status = row.status)
    (hstep : new.failedStep = row.failedStep) : DeliveryFailed new ↔ DeliveryFailed row := by
  rw [DeliveryFailed, DeliveryFailed, hst, hstep]

/-- A saga that is not failed after `delivery.failed` owes nothing. -/
private theorem compensated_of_not (hrow : w.row? sagaId = some row)
    (h : ¬ DeliveryFailed row) : Compensated sagaId w := by
  intro row' hrow' hfailed
  cases hrow.symm.trans hrow'
  exact absurd hfailed h

/-- A context update of a stored saga sets the given ids and nothing else. -/
theorem apply_updateContext {status : SagaStatus} (hrow : w.row? sagaId = some row)
    (hst : row.status = status.value) (warehouseId deliveryId : Option UUID) :
    ∃ new w', (Operation.updateContext sagaId warehouseId deliveryId).apply w = w' ∧
      w'.row? sagaId = some new ∧ w'.commandsFor sagaId = w.commandsFor sagaId ∧
      new.status = row.status ∧ new.failedStep = row.failedStep ∧
      new.warehouseId = warehouseId.or row.warehouseId ∧
      new.deliveryId = deliveryId.or row.deliveryId := by
  have hid : row.sagaId = sagaId := Table.key_of_find? hrow
  simp only [Operation.apply, Operation.program, SagaService.updateContext, Coroutine.bind_eq,
    SagaService.load_bind, Coroutine.await_bind, Coroutine.run_await, act, get_of_row? hrow hst]
  split
  · obtain ⟨new, w', hsave, hpub, hnew, _, hnst, hstep, _, _, hup⟩ := act_save_edited hrow
      (t := SagaService.withContext (row.entity status) warehouseId deliveryId) hid
    refine ⟨new, w', ?_, hnew, congrArg (List.filter _) hpub, hnst.trans hst.symm, hstep,
      hup.warehouseId, hup.deliveryId⟩
    simp only [Coroutine.perform, Coroutine.await_bind, Coroutine.run_await]
    rw [hsave]
    rfl
  · rename_i hnone
    simp only [not_or, Option.not_isSome_iff_eq_none] at hnone
    obtain ⟨rfl, rfl⟩ := hnone
    exact ⟨row, w, rfl, hrow, rfl, rfl, rfl, rfl, rfl⟩

/-- An update keeps a column exactly when it supplies nothing else than the column holds. -/
private theorem or_eq_right_iff (given stored : Option UUID) :
    given.or stored = stored ↔ ∀ x ∈ given, stored = some x := by
  cases given with
  | none => simp
  | some x => simp [eq_comm]

/-- The stored row decides whether an update is settled. -/
private theorem settled_updateContext_iff (hrow : w.row? sagaId = some row) (id : UUID)
    (warehouseId deliveryId : Option UUID) :
    Settled sagaId w (.updateContext id warehouseId deliveryId) ↔ (DeliveryFailed row →
      (∀ x ∈ warehouseId, row.warehouseId = some x) ∧
        ∀ x ∈ deliveryId, row.deliveryId = some x) := by
  constructor
  · exact fun h => h row hrow
  · intro h row' hrow'
    cases hrow.symm.trans hrow'
    exact h

/-- What an operation leaves of the account, and when it leaves the saga compensated. -/
private def Preserved (sagaId : UUID) (w : World) (o : Operation) (w' : World) : Prop :=
  ∃ row', w'.row? sagaId = some row' ∧ Accounted sagaId w' row' ∧
    (Compensated sagaId w → (Compensated sagaId w' ↔ Settled sagaId w o))

private theorem preserved_update (hrow : w.row? sagaId = some row)
    (hacc : Accounted sagaId w row) (warehouseId deliveryId : Option UUID) :
    Preserved sagaId w (.updateContext sagaId warehouseId deliveryId)
      ((Operation.updateContext sagaId warehouseId deliveryId).apply w) := by
  cases hacc with
  | started hst hsent =>
    obtain ⟨new, w', hw, hnew, hsent', hnst, _, _, _⟩ :=
      apply_updateContext hrow hst warehouseId deliveryId
    rw [hw]
    refine ⟨new, hnew, .started (hnst.trans hst) (hsent'.trans hsent), fun _ => iff_of_true ?_ ?_⟩
    · exact compensated_of_not hnew (not_deliveryFailed_of_started (hnst.trans hst))
    · rw [settled_updateContext_iff hrow]
      exact fun hfailed => absurd hfailed (not_deliveryFailed_of_started hst)
  | failed copy r reason hst hstep hreason hsent hwh hdl =>
    obtain ⟨new, w', hw, hnew, hsent', hnst, hnstep, hnwh, hndl⟩ :=
      apply_updateContext hrow hst warehouseId deliveryId
    rw [hw]
    have hset : ∀ given stored : Option UUID, stored.isSome → (given.or stored).isSome := by
      intro given stored h
      cases given <;> simp [h]
    have hnwh' : copy.warehouseId.isSome → new.warehouseId.isSome := fun h =>
      hnwh ▸ hset _ _ (hwh h)
    have hndl' : copy.deliveryId.isSome → new.deliveryId.isSome := fun h =>
      hndl ▸ hset _ _ (hdl h)
    refine ⟨new, hnew, .failed copy r reason (hnst.trans hst) (hnstep.trans hstep) hreason
      (hsent'.trans hsent) hnwh' hndl', fun hcomp => ?_⟩
    have hiff : DeliveryFailed new ↔ DeliveryFailed row := deliveryFailed_congr hnst hnstep
    rw [settled_updateContext_iff hrow]
    by_cases hfailed : DeliveryFailed row
    · obtain ⟨heqwh, heqdl⟩ :=
        (compensated_iff hrow hfailed hstep hreason hsent hwh hdl).mp hcomp
      rw [compensated_iff hnew (hiff.mpr hfailed) (hnstep.trans hstep) hreason
        (hsent'.trans hsent) hnwh' hndl', hnwh, hndl, ← heqwh, ← heqdl, or_eq_right_iff,
        or_eq_right_iff]
      exact ⟨fun h _ => h, fun h => h hfailed⟩
    · exact iff_of_true (compensated_of_not hnew (mt hiff.mp hfailed))
        fun h => absurd h hfailed

private theorem preserved_event (hrow : w.row? sagaId = some row) (hacc : Accounted sagaId w row)
    {r : Received} (hcorr : r.event.correlationId = some sagaId)
    {items : List (String × Json)} (hdict : r.event.payload = .obj items) :
    Preserved sagaId w (.failureEvent r) ((Operation.failureEvent r).apply w) := by
  simp only [Operation.apply, Operation.program]
  cases hacc with
  | started hst hsent =>
    obtain ⟨reason, hreason⟩ := failureReason_of_dict hdict
    obtain ⟨new, w', hrun, hpub, hnew, _, hnst, hnstep, hsame⟩ :=
      run_handleFailureEvent hcorr hrow hst hreason
    have hid : row.sagaId = sagaId := Table.key_of_find? hrow
    have hsent' : w'.commandsFor sagaId = strategy (row.entity .started) r := by
      have hall : (strategy (row.entity .started) r).filter
          (fun p => p.1.correlationId = some sagaId) = strategy (row.entity .started) r :=
        List.filter_eq_self.mpr fun p hp => by
          simpa [hid, SagaRow.entity] using correlationId_of_mem_strategy hp
      have hsplit : w'.commandsFor sagaId = w.commandsFor sagaId ++
          (strategy (row.entity .started) r).filter
            (fun p => p.1.correlationId = some sagaId) := by
        rw [World.commandsFor, hpub, List.filter_append]
        rfl
      rw [hsplit, hsent, hall, List.nil_append]
    have hwh : (row.entity .started).warehouseId.isSome → new.warehouseId.isSome := fun h =>
      hsame.warehouseId ▸ h
    have hdl : (row.entity .started).deliveryId.isSome → new.deliveryId.isSome := fun h =>
      hsame.deliveryId ▸ h
    rw [hrun]
    refine ⟨new, hnew, .failed _ r reason hnst hnstep hreason hsent' hwh hdl,
      fun _ => iff_of_true ?_ trivial⟩
    by_cases hfailed : DeliveryFailed new
    · exact (compensated_iff hnew hfailed hnstep hreason hsent' hwh hdl).mpr
        ⟨hsame.warehouseId, hsame.deliveryId⟩
    · exact compensated_of_not hnew hfailed
  | failed copy r' reason hst hstep hreason hsent hwh hdl =>
    rw [run_handleFailureEvent_of_ne hcorr hrow hst (by decide) .leftAside]
    exact ⟨row, hrow, .failed copy r' reason hst hstep hreason hsent hwh hdl,
      fun hcomp => iff_of_true hcomp trivial⟩

/-- Every operation on the saga keeps the account. -/
private theorem preserved_operation (hrow : w.row? sagaId = some row)
    (hacc : Accounted sagaId w row) {o : Operation} (ho : OnSaga sagaId o) :
    Preserved sagaId w o (o.apply w) := by
  cases o with
  | updateContext id warehouseId deliveryId =>
    obtain rfl : id = sagaId := ho
    exact preserved_update hrow hacc warehouseId deliveryId
  | failureEvent r =>
    obtain ⟨hcorr, _, items, hdict⟩ := ho
    exact preserved_event hrow hacc hcorr hdict
  | create _ _ _ => exact ho.elim
  | completeSaga _ _ => exact ho.elim

/-- In a sequential run of context updates and failure events on a started saga, the saga is
compensated in every state if and only if no update of the saga, once it has failed after
`delivery.failed`, supplies another participant than the stored one. -/
theorem compensated_throughout_iff (db : SagaDb) (s : SagaInstance)
    (hget : db.get s.sagaId = .ok (some s)) (hst : s.status = .started)
    (operations : List Operation) (hon : ∀ o ∈ operations, OnSaga s.sagaId o) :
    Throughout Operation.apply (Compensated s.sagaId) operations (World.initial db) ↔
      EachStep Operation.apply (Settled s.sagaId) operations (World.initial db) := by
  obtain ⟨row, hrow, hrst, _, _⟩ := row?_of_get (w := World.initial db) hget
  rw [hst] at hrst
  have hopen : ¬ DeliveryFailed row := not_deliveryFailed_of_started hrst
  let Inv (w : World) : Prop := ∃ row, w.row? s.sagaId = some row ∧ Accounted s.sagaId w row
  have hinv : ∀ w o, Inv w → OnSaga s.sagaId o → Inv (o.apply w) := by
    rintro w o ⟨row, hrow, hacc⟩ ho
    obtain ⟨row', hrow', hacc', _⟩ := preserved_operation hrow hacc ho
    exact ⟨row', hrow', hacc'⟩
  have hstep : ∀ w o, Inv w → OnSaga s.sagaId o → Compensated s.sagaId w →
      (Compensated s.sagaId (o.apply w) ↔ Settled s.sagaId w o) := by
    rintro w o ⟨row, hrow, hacc⟩ ho
    obtain ⟨_, _, _, hiff⟩ := preserved_operation hrow hacc ho
    exact hiff
  exact throughout_iff_eachStep hinv hstep
    ⟨row, hrow, .started hrst (commandsFor_initial db s.sagaId)⟩ (compensated_of_not hrow hopen) hon

/-- A warehouse is registered after the delivery has failed. -/
def lateRegistration : List Operation :=
  [.failureEvent (sampleEvent "delivery.failed"), .updateContext ⟨1⟩ (some ⟨9⟩) none]

theorem compensated_throughout_iff_sample :
    Throughout Operation.apply (Compensated sampleSaga.sagaId) lateRegistration
        (World.initial sampleDb) ↔
      EachStep Operation.apply (Settled sampleSaga.sagaId) lateRegistration
        (World.initial sampleDb) :=
  compensated_throughout_iff sampleDb sampleSaga rfl rfl lateRegistration fun o ho => by
    rcases List.mem_cons.mp ho with rfl | ho
    · exact ⟨rfl, by decide, _, rfl⟩
    · obtain rfl := List.mem_singleton.mp ho
      rfl

/-- The saga has failed after `delivery.failed` and stores a warehouse to which no release
command was ever sent. -/
theorem late_warehouse_not_released :
    sampleDb.get sampleSaga.sagaId = .ok (some sampleSaga) ∧ sampleSaga.status = .started ∧
    ∃ row, (lateRegistration.foldl (fun w o => o.apply w)
        (World.initial sampleDb)).row? sampleSaga.sagaId = some row ∧
      DeliveryFailed row ∧ row.warehouseId = some ⟨9⟩ ∧
      ¬ Released (lateRegistration.foldl (fun w o => o.apply w) (World.initial sampleDb))
        sampleSaga.sagaId ⟨9⟩ := by
  have hsent : ∀ p ∈ (lateRegistration.foldl (fun w o => o.apply w)
      (World.initial sampleDb)).commandsFor sampleSaga.sagaId, p.1.aggregateId ≠ ⟨9⟩ := by
    decide
  exact ⟨rfl, rfl, _, rfl, ⟨by decide, by decide⟩, by decide, fun ⟨p, hp, _, hid⟩ => hsent p hp hid⟩

end SupplyChainTracker.Saga
