import SupplyChainTracker.Saga.Calls

/-!
# Undisturbed handling of a failure event

With every call succeeding, the handler of a started saga publishes the whole
strategy and leaves the saga failed; in any other status it only looks.
-/

namespace SupplyChainTracker.Saga

open SagaCompensationWorker

/-- Two rows of one saga that differ in its progress only. -/
structure SameSaga (old new : SagaRow) : Prop where
  sagaType : new.sagaType = old.sagaType
  shipmentId : new.shipmentId = old.shipmentId
  warehouseId : new.warehouseId = old.warehouseId
  deliveryId : new.deliveryId = old.deliveryId
  startedAt : new.startedAt = old.startedAt

theorem SameSaga.trans {r s t : SagaRow} (h : SameSaga r s) (h' : SameSaga s t) : SameSaga r t :=
  ⟨h'.sagaType.trans h.sagaType, h'.shipmentId.trans h.shipmentId,
    h'.warehouseId.trans h.warehouseId, h'.deliveryId.trans h.deliveryId,
    h'.startedAt.trans h.startedAt⟩

/-- The entity a row of known status is read as. -/
def SagaRow.entity (r : SagaRow) (status : SagaStatus) : SagaInstance :=
  ⟨r.sagaId, r.sagaType, r.shipmentId, r.warehouseId, r.deliveryId, status, r.startedAt,
    r.updatedAt, r.failedStep, r.errorMessage⟩

/-- Reading a row of known status. -/
theorem get_of_row? {w : World} {sagaId : UUID} {row : SagaRow} {status : SagaStatus}
    (h : w.row? sagaId = some row) (hst : row.status = status.value) :
    w.db.get sagaId = .ok (some (row.entity status)) :=
  SagaDb.get_eq_some_iff.mpr ⟨row, h, rowToEntity_of_status hst⟩

/-- Saving an edited copy of a stored row changes what was edited, `updated_at` aside. -/
theorem act_save_edited {w : World} {row : SagaRow} {sagaId : UUID}
    (h : w.row? sagaId = some row) {t : SagaInstance} (hid : t.sagaId = sagaId) :
    ∃ new w', act .leftAside (Call.save t) w = (.ok (new.entity t.status), w') ∧
      w'.published = w.published ∧ w'.row? sagaId = some new ∧
      (∀ other, sagaId ≠ other → w'.row? other = w.row? other) ∧
      new.status = t.status.value ∧ new.failedStep = t.failedStep ∧
      new.errorMessage = t.errorMessage ∧
      (t.warehouseId = row.warehouseId → t.deliveryId = row.deliveryId → SameSaga row new) ∧
      Upserted (some row) t new := by
  subst hid
  obtain ⟨new, w', hsave, hpub, hnew, hother, hup, htexts⟩ := act_save_leftAside t w
  rw [h] at hup
  refine ⟨new, w', hsave.trans (congrArg (·, w') (rowToEntity_of_status hup.status)), hpub, hnew,
    hother, hup.status, htexts.failedStep, htexts.errorMessage, fun hwh hdl => ?_, hup⟩
  exact ⟨hup.sagaType row rfl, hup.shipmentId, hup.warehouseId.trans hwh,
    hup.deliveryId.trans hdl, hup.startedAt⟩

variable {r : Received} {w : World}

/-- Publishing what is left appends it. -/
theorem run_publish (t : SagaInstance) (todo : List (Command × String)) :
    (prog r (.publish t todo)).run (act .leftAside) w =
      (prog r (.publish t [])).run (act .leftAside) { w with published := w.published ++ todo } := by
  induction todo generalizing w with
  | nil => rw [List.append_nil]
  | cons p todo ih =>
    rw [(follows r).run_call (s := .publish t (p :: todo)) rfl, List.append_cons]
    exact ih

/-- The end of the handler marks the saga failed. -/
theorem run_close {t : SagaInstance} {sagaId : UUID} {row : SagaRow} {status : SagaStatus}
    (htid : t.sagaId = sagaId) (h : w.row? sagaId = some row) (hst : row.status = status.value) :
    ∃ new w', (prog r (.publish t [])).run (act .leftAside) w = (.ok (), w') ∧
      w'.published = w.published ∧ w'.row? sagaId = some new ∧
      (∀ other, sagaId ≠ other → w'.row? other = w.row? other) ∧
      new.status = SagaStatus.failed.value ∧ new.failedStep = some r.event.eventType ∧
      SameSaga row new := by
  have hid : row.sagaId = sagaId := Table.key_of_find? h
  obtain ⟨new, w', hsave, hpub, hnew, hother, hnst, hstep, _, hsame, _⟩ :=
    act_save_edited h (t := (row.entity status).markFailed r.event.eventType (failureMessage r)
      (r.now 1)) hid
  refine ⟨new, w', ?_, hpub, hnew, hother, hnst, hstep, hsame rfl rfl⟩
  rw [(follows r).run_call (s := .publish t []) rfl, htid]
  simp only [act, get_of_row? h hst]
  rw [(follows r).run_call (s := .close (row.entity status)) rfl, hsave]
  rfl

/-- Handling an event of a started saga first stores it as compensating and only then looks at the
payload. -/
theorem run_claimed {sagaId : UUID} {row : SagaRow} (hcorr : r.event.correlationId = some sagaId)
    (h : w.row? sagaId = some row) (hst : row.status = SagaStatus.started.value) :
    ∃ claimed w₁, w₁.published = w.published ∧ w₁.row? sagaId = some claimed ∧
      (∀ other, sagaId ≠ other → w₁.row? other = w.row? other) ∧
      claimed.status = SagaStatus.compensating.value ∧ claimed.sagaId = sagaId ∧
      SameSaga row claimed ∧
      (∀ e, failureReason r.event = .error e →
        (handleFailureEvent r).run (act .leftAside) w = (.error e, w₁)) ∧
      (∀ reason, failureReason r.event = .ok reason →
        (handleFailureEvent r).run (act .leftAside) w =
          (prog r (.publish (claimed.entity .compensating)
            (strategy (claimed.entity .compensating) r))).run (act .leftAside) w₁) := by
  have hid : row.sagaId = sagaId := Table.key_of_find? h
  have hget := get_of_row? h hst
  obtain ⟨claimed, w₁, hsave, hpub, hclaimed, hother, hcst, _, _, hsame, hup⟩ :=
    act_save_edited h (t := (row.entity .started).markCompensating r.event.eventType (r.now 0)) hid
  have hrun : (handleFailureEvent r).run (act .leftAside) w =
      (prog r (.claim (row.entity .started))).run (act .leftAside) w := by
    change (prog r .guard).run (act .leftAside) w = _
    rw [(follows r).run_call (chart_guard hcorr)]
    simp only [act, hget, guardNext, SagaRow.entity, if_true]
    rw [(follows r).run_call (s := .reread row.sagaId) rfl, hid]
    simp only [act, hget, SagaRow.entity, reduceCtorEq, or_self, if_false]
    rw [hid]
  have hcid : claimed.sagaId = sagaId := hup.sagaId.trans hid
  refine ⟨claimed, w₁, hpub, hclaimed, hother, hcst, hcid, hsame rfl rfl, ?_, ?_⟩
  · intro e hreason
    rw [hrun, (follows r).run_call (s := .claim (row.entity .started)) rfl, hsave]
    simp only [hreason]
    rfl
  · intro reason hreason
    rw [hrun, (follows r).run_call (s := .claim (row.entity .started)) rfl, hsave]
    simp only [hreason]
    rfl

/-- Handling an event of a started saga publishes its strategy and leaves the saga failed. -/
theorem run_handleFailureEvent {sagaId : UUID} {row : SagaRow} {reason : Json}
    (hcorr : r.event.correlationId = some sagaId) (h : w.row? sagaId = some row)
    (hst : row.status = SagaStatus.started.value) (hreason : failureReason r.event = .ok reason) :
    ∃ new w', (handleFailureEvent r).run (act .leftAside) w = (.ok (), w') ∧
      w'.published = w.published ++ strategy (row.entity .started) r ∧
      w'.row? sagaId = some new ∧ (∀ other, sagaId ≠ other → w'.row? other = w.row? other) ∧
      new.status = SagaStatus.failed.value ∧ new.failedStep = some r.event.eventType ∧
      SameSaga row new := by
  have hid : row.sagaId = sagaId := Table.key_of_find? h
  obtain ⟨claimed, w₁, hpub, hclaimed, hother, hcst, hcid, hsame, _, hrun⟩ :=
    run_claimed (r := r) hcorr h hst
  have hstrategy : strategy (claimed.entity .compensating) r = strategy (row.entity .started) r :=
    strategy_congr ⟨hcid.trans hid.symm, hsame.shipmentId, hsame.warehouseId, hsame.deliveryId⟩ r
  obtain ⟨new, w₂, hclose, hpub₂, hnew, hother₂, hnst, hstep, hsame₂⟩ :=
    run_close (r := r) (t := claimed.entity .compensating)
      (w := { w₁ with published := w₁.published ++ strategy (row.entity .started) r })
      hcid hclaimed hcst
  refine ⟨new, w₂, ?_, hpub₂.trans (congrArg (· ++ _) hpub), hnew,
    fun other hne => (hother₂ other hne).trans (hother other hne), hnst, hstep,
    hsame.trans hsame₂⟩
  rw [hrun reason hreason, hstrategy, run_publish]
  exact hclose

/-- In any other status the handler only looks at the saga. -/
theorem run_handleFailureEvent_of_ne {sagaId : UUID} {row : SagaRow} {status : SagaStatus}
    (hcorr : r.event.correlationId = some sagaId) (h : w.row? sagaId = some row)
    (hst : row.status = status.value) (hne : status ≠ .started) (c : Constraints) :
    (handleFailureEvent r).run (act c) w = (.ok (), w) := by
  change (prog r .guard).run (act c) w = _
  rw [(follows r).run_call (chart_guard hcorr)]
  simp only [act, get_of_row? h hst, guardNext, SagaRow.entity, hne, if_false]
  rfl

end SupplyChainTracker.Saga
