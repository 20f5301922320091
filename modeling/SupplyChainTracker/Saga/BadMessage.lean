import SupplyChainTracker.Saga.Handling

/-!
# Messages that leave a saga hanging

`Event.from_dict` takes any payload and any event type, and the handler looks at both only after the
saga has been stored as compensating. A payload that is no `dict` leaves it there, and an event of
another type has it failed without cancelling its shipment.
-/

namespace SupplyChainTracker.Saga

open SagaCompensationWorker

/-- A command that cancels a shipment has been published. -/
def World.CancelPublished (w : World) (shipmentId : UUID) : Prop :=
  ∃ reason sagaId commandId,
    (CancelShipmentCommand.create shipmentId reason sagaId commandId, "shipment.commands") ∈
      w.published

/-- A saga is not left hanging: it has not been touched, or it is failed and its shipment has been
cancelled. -/
def NotLeftHanging (s : SagaInstance) (w : World) : Prop :=
  w.status? s.sagaId = some SagaStatus.started.value ∨
    w.status? s.sagaId = some SagaStatus.failed.value ∧ w.CancelPublished s.shipmentId

/-- Only a `dict` has a reason. -/
theorem isDict_of_failureReason {event : Event} {reason : Json}
    (h : failureReason event = .ok reason) : ∃ items, event.payload = .obj items := by
  unfold failureReason at h
  cases hpayload : event.payload with
  | obj items => exact ⟨items, rfl⟩
  | null | bool | int | float | str | arr =>
    rw [hpayload] at h
    cases h

/-- An event of another type asks for no command. -/
theorem strategy_eq_nil (s : SagaInstance) {r : Received}
    (h : r.event.eventType ∉ triggerTypes) : strategy s r = [] := by
  simp only [triggerTypes, List.mem_cons, List.not_mem_nil, or_false, not_or] at h
  obtain ⟨hinsufficient, hfailed, hunassigned⟩ := h
  unfold strategy
  cases failureReason r.event with
  | error e => rfl
  | ok reason => simp only [hinsufficient, hfailed, hunassigned, if_false]

/-- An event of one of the three types has the shipment cancelled. -/
theorem cancel_mem_strategy (s : SagaInstance) {r : Received} {reason : Json}
    (hreason : failureReason r.event = .ok reason) (h : r.event.eventType ∈ triggerTypes) :
    ∃ reason commandId,
      (CancelShipmentCommand.create s.shipmentId reason s.sagaId commandId, "shipment.commands") ∈
        strategy s r := by
  have hcancel : ∀ (reason : Json) (commandId : UUID) (before : List (Command × String)),
      (CancelShipmentCommand.create s.shipmentId reason s.sagaId commandId, "shipment.commands") ∈
        before ++ cancelShipment s reason commandId := by
    intro reason commandId before
    exact List.mem_append_right _ (List.mem_singleton_self _)
  simp only [triggerTypes, List.mem_cons, List.not_mem_nil, or_false] at h
  unfold strategy
  rw [hreason]
  rcases h with h | h | h
  · simp only [h]
    exact ⟨_, _, hcancel _ _ []⟩
  · simp only [h, if_true]
    exact ⟨_, _, hcancel _ _ _⟩
  · simp only [h]
    exact ⟨_, _, hcancel _ _ _⟩

section Handling

variable {s : SagaInstance} {r : Received} {w : World}

/-- A payload that is no `dict` leaves the saga compensating for good. -/
theorem compensating_of_error {e : SagaError} (hstarted : w.Holds s .started)
    (hcorr : r.event.correlationId = some s.sagaId) (hreason : failureReason r.event = .error e) :
    (handleFailureEvent r).run (act .leftAside) w =
        (.error e, ((handleFailureEvent r).run (act .leftAside) w).2) ∧
      ((handleFailureEvent r).run (act .leftAside) w).2.status? s.sagaId =
        some SagaStatus.compensating.value := by
  obtain ⟨row, hrow, _, _, _, hst⟩ := hstarted
  obtain ⟨claimed, w₁, _, hclaimed, _, hcst, _, _, herror, _⟩ :=
    run_claimed (r := r) hcorr hrow hst
  rw [herror e hreason]
  refine ⟨rfl, ?_⟩
  rw [World.status?, hclaimed, Option.map_some, hcst]

/-- A `dict` leaves the saga failed, with the commands of its strategy published. -/
theorem failed_of_ok {reason : Json} (hstarted : w.Holds s .started)
    (hcorr : r.event.correlationId = some s.sagaId) (hreason : failureReason r.event = .ok reason) :
    ((handleFailureEvent r).run (act .leftAside) w).2.status? s.sagaId =
        some SagaStatus.failed.value ∧
      ((handleFailureEvent r).run (act .leftAside) w).2.published =
        w.published ++ strategy s r := by
  obtain ⟨row, hrow, hship, hwh, hdl, hst⟩ := hstarted
  have hid : row.sagaId = s.sagaId := Table.key_of_find? hrow
  obtain ⟨new, w', hrun, hpub, hnew, _, hnst, _⟩ := run_handleFailureEvent hcorr hrow hst hreason
  have hsame : strategy (row.entity .started) r = strategy s r :=
    strategy_congr ⟨hid, hship, hwh, hdl⟩ r
  rw [hrun]
  constructor
  · rw [World.status?, hnew, Option.map_some, hnst]
  · exact hpub.trans (congrArg (w.published ++ ·) hsame)

/-- A cancel command is there in the end if the event asks for one or it was there before. -/
theorem cancelPublished_iff {w' : World} {reason : Json}
    (hreason : failureReason r.event = .ok reason)
    (hpub : w'.published = w.published ++ strategy s r) :
    w'.CancelPublished s.shipmentId ↔
      r.event.eventType ∈ triggerTypes ∨ w.CancelPublished s.shipmentId := by
  unfold World.CancelPublished
  rw [hpub]
  constructor
  · rintro ⟨sent, sagaId, commandId, hmem⟩
    by_cases htype : r.event.eventType ∈ triggerTypes
    · exact .inl htype
    · rw [strategy_eq_nil s htype, List.append_nil] at hmem
      exact .inr ⟨sent, sagaId, commandId, hmem⟩
  · rintro (htype | ⟨sent, sagaId, commandId, hmem⟩)
    · obtain ⟨sent, commandId, hmem⟩ := cancel_mem_strategy s hreason htype
      exact ⟨sent, s.sagaId, commandId, List.mem_append_right _ hmem⟩
    · exact ⟨sent, sagaId, commandId, List.mem_append_left _ hmem⟩

/-- With every call succeeding, an event does not leave a started saga hanging exactly when its
payload is a `dict` and its type is one of the three that the worker compensates, a cancel command
that was published earlier aside. -/
theorem notLeftHanging_iff (hget : w.db.get s.sagaId = .ok (some s))
    (hstarted : s.status = .started) (hcorr : r.event.correlationId = some s.sagaId) :
    NotLeftHanging s ((handleFailureEvent r).run (act .leftAside) w).2 ↔
      (∃ items, r.event.payload = .obj items) ∧
        (r.event.eventType ∈ triggerTypes ∨ w.CancelPublished s.shipmentId) := by
  have hholds : w.Holds s .started := hstarted ▸ World.holds_of_get hget
  have hne : ∀ {status status' : SagaStatus}, status ≠ status' →
      some status.value ≠ some status'.value := by
    intro status status' hne h
    exact hne (SagaStatus.value_injective (Option.some.inj h))
  cases hreason : failureReason r.event with
  | error e =>
    obtain ⟨_, hstatus⟩ := compensating_of_error hholds hcorr hreason
    refine iff_of_false ?_ ?_
    · rintro (hstill | ⟨hfailed, _⟩)
      · exact hne (by decide) (hstatus.symm.trans hstill)
      · exact hne (by decide) (hstatus.symm.trans hfailed)
    · rintro ⟨⟨items, hdict⟩, _⟩
      obtain ⟨reason, hok⟩ := failureReason_of_dict hdict
      cases hreason.symm.trans hok
  | ok reason =>
    obtain ⟨hstatus, hpub⟩ := failed_of_ok hholds hcorr hreason
    have hsent := cancelPublished_iff hreason hpub
    have hdict := isDict_of_failureReason hreason
    constructor
    · rintro (hstill | ⟨_, hcancel⟩)
      · exact absurd (hstatus.symm.trans hstill) (hne (by decide))
      · exact ⟨hdict, hsent.mp hcancel⟩
    · rintro ⟨_, hcancel⟩
      exact .inr ⟨hstatus, hsent.mpr hcancel⟩

end Handling

/-- An event that names the sample saga. -/
def strayEvent (eventType : String) (payload : Json) : Received where
  event := {
    eventType := eventType
    aggregateId := ⟨501⟩
    aggregateType := "delivery"
    payload := payload
    eventId := ⟨502⟩
    timestamp := 1735733700000000
    correlationId := some ⟨1⟩ }
  now := fun n => n + 7
  uuid4 := fun _ => ⟨503⟩

theorem notLeftHanging_iff_sample :
    NotLeftHanging sampleSaga
      ((handleFailureEvent (strayEvent "courier.unassigned" (.obj []))).run (act .leftAside)
        (World.initial sampleDb)).2 :=
  (notLeftHanging_iff (by rfl : sampleDb.get _ = .ok (some sampleSaga)) rfl rfl).mpr
    ⟨⟨_, rfl⟩, .inl (by decide)⟩

/-- A payload that is `null` leaves the saga compensating, and an unknown type leaves it failed
without a cancel command. -/
theorem strayEvent_leaves_hanging :
    sampleDb.get sampleSaga.sagaId = .ok (some sampleSaga) ∧ sampleSaga.status = .started ∧
    ¬ NotLeftHanging sampleSaga
      ((handleFailureEvent (strayEvent "delivery.failed" .null)).run (act .leftAside)
        (World.initial sampleDb)).2 ∧
    ¬ NotLeftHanging sampleSaga
      ((handleFailureEvent (strayEvent "delivery.delayed" (.obj []))).run (act .leftAside)
        (World.initial sampleDb)).2 := by
  have hholds : (World.initial sampleDb).Holds sampleSaga .started :=
    World.holds_of_get (by rfl : sampleDb.get _ = .ok (some sampleSaga))
  refine ⟨rfl, rfl, ?_, ?_⟩
  · obtain ⟨_, hstatus⟩ := compensating_of_error (r := strayEvent "delivery.failed" .null)
      hholds rfl rfl
    rintro (hstill | ⟨hfailed, _⟩)
    · exact absurd (hstatus.symm.trans hstill) (by decide)
    · exact absurd (hstatus.symm.trans hfailed) (by decide)
  · obtain ⟨hstatus, hpub⟩ := failed_of_ok (r := strayEvent "delivery.delayed" (.obj []))
      hholds rfl rfl
    rintro (hstill | ⟨_, reason, sagaId, commandId, hmem⟩)
    · exact absurd (hstatus.symm.trans hstill) (by decide)
    · rw [hpub, strategy_eq_nil sampleSaga (by decide)] at hmem
      cases hmem

end SupplyChainTracker.Saga
