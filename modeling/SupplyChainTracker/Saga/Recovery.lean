import SupplyChainTracker.Saga.Handling

/-!
# Recovery from interrupted handlings

An event is delivered again after handlings that one failing call each cut short.
The status that stops duplicates also stops the redelivered event, so the saga
recovers only from interruptions that come before it is claimed.
-/

namespace SupplyChainTracker.Saga

open SagaCompensationWorker
open Coroutine (faultAt)

/-- Whether a call is a `save` or a `publish_command`. -/
def Call.isWrite : Call → Bool
  | save _ => true
  | publishCommand _ _ => true
  | _ => false

/-- A delivery of an event in whose handling the call at one position raises. -/
structure Interruption where
  received : Received
  position : Nat
  error : SagaError

namespace Interruption

/-- The world after the interrupted handling. -/
def apply (i : Interruption) (w : World) : World :=
  ((handleFailureEvent i.received).runWith (act .leftAside) (faultAt i.position i.error) w).2

/-- The failing call is reached and is a `save` or a `publish_command`. -/
def Hits (i : Interruption) (w : World) : Prop :=
  ∃ p, ((handleFailureEvent i.received).history (act .leftAside) (faultAt i.position i.error)
    w)[i.position]? = some p ∧ p.op.isWrite

/-- The world after one interrupted handling after the other. -/
def applyAll : List Interruption → World → World
  | [], w => w
  | i :: is, w => applyAll is (i.apply w)

/-- Every handling in turn is interrupted at a `save` or a `publish_command`. -/
def AllHit : List Interruption → World → Prop
  | [], _ => True
  | i :: is, w => i.Hits w ∧ AllHit is (i.apply w)

end Interruption

/-- The same command to the same topic, whatever id was drawn for it. -/
def SameCommand (p q : Command × String) : Prop :=
  { p.1 with commandId := q.1.commandId } = q.1 ∧ p.2 = q.2

/-- The saga is failed and every command of its strategy for the event has been sent, by
this handling or an earlier one. -/
def Recovered (s : SagaInstance) (r : Received) (w : World) : Prop :=
  w.status? s.sagaId = some SagaStatus.failed.value ∧
    ∀ p ∈ strategy s r, ∃ q ∈ w.commandsFor s.sagaId, SameCommand q p

section Positions

variable {s : SagaInstance} {r : Received} {w : World} {e : SagaError}

/-- The failing call of the rest of a handling is reached and is a write. -/
private def HitsFrom (r : Received) (st : Stage) (position : Nat) (e : SagaError) (w : World) :
    Prop :=
  ∃ p, ((prog r st).history (act .leftAside) (faultAt position e) w)[position]? = some p ∧
    p.op.isWrite

/-- The world after the rest of an interrupted handling. -/
private def afterFrom (r : Received) (st : Stage) (position : Nat) (e : SagaError) (w : World) :
    World :=
  ((prog r st).runWith (act .leftAside) (faultAt position e) w).2

private theorem hitsFrom_zero (st : Stage) {op : Call} {next : Except SagaError op.Ans → Stage}
    (h : chart r st = .call op next) : HitsFrom r st 0 e w ↔ op.isWrite := by
  simp [HitsFrom, (follows r).history_call h]

private theorem hitsFrom_succ (st : Stage) {op : Call} {next : Except SagaError op.Ans → Stage}
    (h : chart r st = .call op next) (position : Nat) :
    HitsFrom r st (position + 1) e w ↔
      HitsFrom r (next (act .leftAside op w).1) position e (act .leftAside op w).2 := by
  simp only [HitsFrom, (follows r).history_call h, Coroutine.faultAt_succ_zero,
    Coroutine.answer_none, Coroutine.faultAt_succ, List.getElem?_cons_succ]

private theorem not_hitsFrom_halt (st : Stage) {result : Except SagaError Unit}
    (h : chart r st = .halt result) (position : Nat) : ¬ HitsFrom r st position e w := by
  unfold HitsFrom
  rw [(follows r).eq_of_halt h]
  cases result <;> simp [Coroutine.ofExcept, Coroutine.history]

private theorem afterFrom_zero (st : Stage) {op : Call} {next : Except SagaError op.Ans → Stage}
    (h : chart r st = .call op next) {result : Except SagaError Unit}
    (hover : next (.error e) = .halt result) : afterFrom r st 0 e w = w := by
  unfold afterFrom
  rw [(follows r).runWith_call h, Coroutine.faultAt_zero_zero, Coroutine.answer_some, hover]
  cases result <;> rfl

private theorem afterFrom_succ (st : Stage) {op : Call} {next : Except SagaError op.Ans → Stage}
    (h : chart r st = .call op next) (position : Nat) :
    afterFrom r st (position + 1) e w =
      afterFrom r (next (act .leftAside op w).1) position e (act .leftAside op w).2 := by
  simp only [afterFrom, (follows r).runWith_call h, Coroutine.faultAt_succ_zero,
    Coroutine.answer_none, Coroutine.faultAt_succ]

/-- An interruption while commands are sent or the saga is closed leaves it compensating. -/
private theorem holds_afterFrom_publish {t : SagaInstance} {todo : List (Command × String)}
    (ht : SameParticipants s t) (hst : w.Holds s .compensating) (position : Nat)
    (hhit : HitsFrom r (.publish t todo) position e w) :
    (afterFrom r (.publish t todo) position e w).Holds s .compensating := by
  induction todo generalizing w position with
  | cons p todo ih =>
    cases position with
    | zero => exact (afterFrom_zero (.publish t (p :: todo)) rfl rfl) ▸ hst
    | succ position =>
      rw [afterFrom_succ (.publish t (p :: todo)) rfl]
      rw [hitsFrom_succ (.publish t (p :: todo)) rfl] at hhit
      exact ih (w := (act .leftAside (Call.publishCommand p.1 p.2) w).2) hst position hhit
  | nil =>
    obtain ⟨t', hget, hsame, _⟩ := hst.get
    rcases position with _ | _ | position
    · exact absurd ((hitsFrom_zero (.publish t []) rfl).mp hhit) Bool.false_ne_true
    · rw [afterFrom_succ (.publish t []) rfl, ht.sagaId]
      simp only [act, hget]
      exact (afterFrom_zero (.close t') rfl rfl) ▸ hst
    · rw [hitsFrom_succ (.publish t []) rfl, ht.sagaId] at hhit
      simp only [act, hget] at hhit
      rw [hitsFrom_succ (.close t') rfl] at hhit
      have hmark := hsame.markFailed r.event.eventType (failureMessage r) (r.now 1)
      obtain ⟨t'', w', hsave, _⟩ := hst.save_leftAside hmark
      rw [hsave] at hhit
      exact absurd hhit (not_hitsFrom_halt (.halt (.ok ())) rfl position)

/-- An interrupted handling of a started saga either never claims it, or leaves it
compensating. -/
theorem Interruption.apply_of_started {i : Interruption} {reason : Json}
    (hcorr : i.received.event.correlationId = some s.sagaId)
    (hreason : failureReason i.received.event = .ok reason) (hst : w.Holds s .started)
    (hhit : i.Hits w) :
    (i.position < 3 ∧ i.apply w = w) ∨ (3 ≤ i.position ∧ (i.apply w).Holds s .compensating) := by
  obtain ⟨r, position, e⟩ := i
  change HitsFrom r .guard position e w at hhit
  change (position < 3 ∧ afterFrom r .guard position e w = w) ∨
    (3 ≤ position ∧ (afterFrom r .guard position e w).Holds s .compensating)
  obtain ⟨t, hget, hsame, ht⟩ := hst.get
  have hguard := chart_guard hcorr
  rcases position with _ | _ | _ | position
  · exact absurd ((hitsFrom_zero .guard hguard).mp hhit) Bool.false_ne_true
  · rw [hitsFrom_succ .guard hguard] at hhit
    simp only [act, hget, guardNext, ht, if_true] at hhit
    exact absurd ((hitsFrom_zero (.reread t.sagaId) rfl).mp hhit) Bool.false_ne_true
  · refine .inl ⟨by omega, ?_⟩
    rw [afterFrom_succ .guard hguard]
    simp only [act, hget, guardNext, ht, if_true]
    rw [afterFrom_succ (.reread t.sagaId) rfl, hsame.sagaId]
    simp only [act, hget, ht, reduceCtorEq, or_self, if_false]
    exact afterFrom_zero (.claim t) rfl rfl
  · refine .inr ⟨by omega, ?_⟩
    have hmark := hsame.markCompensating r.event.eventType (r.now 0)
    obtain ⟨t', w', hsave, hsame', hst', _⟩ := hst.save_leftAside hmark
    rw [hitsFrom_succ .guard hguard] at hhit
    simp only [act, hget, guardNext, ht, if_true] at hhit
    rw [hitsFrom_succ (.reread t.sagaId) rfl, hsame.sagaId] at hhit
    simp only [act, hget, ht, reduceCtorEq, or_self, if_false] at hhit
    rw [hitsFrom_succ (.claim t) rfl, hsave] at hhit
    rw [afterFrom_succ .guard hguard]
    simp only [act, hget, guardNext, ht, if_true]
    rw [afterFrom_succ (.reread t.sagaId) rfl, hsame.sagaId]
    simp only [act, hget, ht, reduceCtorEq, or_self, if_false]
    rw [afterFrom_succ (.claim t) rfl, hsave]
    simp only [hreason] at hhit ⊢
    exact holds_afterFrom_publish hsame' hst' position hhit

/-- A handling that finds the saga compensating makes no call that could interrupt it. -/
theorem Interruption.not_hits_of_compensating {i : Interruption}
    (hcorr : i.received.event.correlationId = some s.sagaId) (hst : w.Holds s .compensating) :
    ¬ i.Hits w := by
  obtain ⟨r, position, e⟩ := i
  change ¬ HitsFrom r .guard position e w
  obtain ⟨t, hget, _, ht⟩ := hst.get
  have hguard := chart_guard hcorr
  cases position with
  | zero => exact fun hhit => absurd ((hitsFrom_zero .guard hguard).mp hhit) Bool.false_ne_true
  | succ position =>
    rw [hitsFrom_succ .guard hguard]
    simp only [act, hget, guardNext, ht, reduceCtorEq, if_false]
    exact not_hitsFrom_halt (.halt (.ok ())) rfl position

end Positions

section Redelivery

variable {s : SagaInstance} {event : Event} {w : World}

/-- The redelivered event completes the compensation of a started saga. -/
theorem recovered_of_started {r : Received} {reason : Json}
    (hcorr : r.event.correlationId = some s.sagaId) (hreason : failureReason r.event = .ok reason)
    (hst : w.Holds s .started) :
    Recovered s r ((handleFailureEvent r).run (act .leftAside) w).2 := by
  obtain ⟨row, hrow, hship, hwh, hdl, hst⟩ := hst
  have hid : row.sagaId = s.sagaId := Table.key_of_find? hrow
  obtain ⟨new, w', hrun, hpub, hnew, _, hnst, _⟩ := run_handleFailureEvent hcorr hrow hst hreason
  rw [hrun]
  refine ⟨by rw [World.status?, hnew, Option.map_some, hnst], fun p hp => ?_⟩
  have hsame : strategy (row.entity .started) r = strategy s r :=
    strategy_congr ⟨hid, hship, hwh, hdl⟩ r
  refine ⟨p, List.mem_filter.mpr ⟨?_, by simpa using correlationId_of_mem_strategy hp⟩, rfl, rfl⟩
  rw [hpub, hsame]
  exact List.mem_append_right _ hp

/-- The redelivered event does nothing for a compensating saga. -/
theorem not_recovered_of_compensating {r : Received}
    (hcorr : r.event.correlationId = some s.sagaId) (hst : w.Holds s .compensating) :
    ¬ Recovered s r ((handleFailureEvent r).run (act .leftAside) w).2 := by
  obtain ⟨row, hrow, _, _, _, hrst⟩ := hst
  rw [run_handleFailureEvent_of_ne hcorr hrow hrst (by decide) .leftAside]
  rintro ⟨hfailed, _⟩
  rw [World.status?, hrow, Option.map_some, hrst] at hfailed
  exact absurd (Option.some.inj hfailed) (by decide)

/-- After interrupted handlings of one event, its redelivery recovers a saga that was
started if and only if no interruption came after the saga was saved as compensating:
the claim is the third call of a handling, behind two reads. -/
theorem recovered_iff (hstarted : w.Holds s .started)
    (hcorr : event.correlationId = some s.sagaId) {items : List (String × Json)}
    (hdict : event.payload = .obj items) (interruptions : List Interruption)
    (hevent : ∀ i ∈ interruptions, i.received.event = event)
    (hhit : Interruption.AllHit interruptions w) (r : Received) (hr : r.event = event) :
    Recovered s r ((handleFailureEvent r).run (act .leftAside)
        (Interruption.applyAll interruptions w)).2 ↔
      ∀ i ∈ interruptions, i.position < 3 := by
  subst hr
  obtain ⟨reason, hreason⟩ := failureReason_of_dict hdict
  induction interruptions with
  | nil => simpa [Interruption.applyAll] using recovered_of_started hcorr hreason hstarted
  | cons i is ih =>
    have hi : i.received.event = r.event := hevent i (List.mem_cons_self ..)
    have his : ∀ j ∈ is, j.received.event = r.event :=
      fun j hj => hevent j (List.mem_cons_of_mem _ hj)
    rcases Interruption.apply_of_started (hi ▸ hcorr) (hi ▸ hreason) hstarted hhit.1 with
      ⟨hlt, hsame⟩ | ⟨hge, hcomp⟩
    · simp only [Interruption.applyAll, hsame, List.forall_mem_cons, hlt, true_and]
      exact ih (hsame ▸ hhit.2) his
    · have hlast : is = [] := by
        cases is with
        | nil => rfl
        | cons j js =>
          have hj : j.received.event = r.event := his j (List.mem_cons_self ..)
          exact absurd hhit.2.1 (Interruption.not_hits_of_compensating (hj ▸ hcorr) hcomp)
      subst hlast
      refine iff_of_false ?_ fun hall => absurd (hall i (List.mem_cons_self ..)) (by omega)
      exact not_recovered_of_compensating hcorr hcomp

end Redelivery

/-- The first `publish_command` of the sample saga's compensation fails. -/
def sampleInterruption : Interruption where
  received := sampleEvent "delivery.failed"
  position := 3
  error := .external "broker down"

theorem recovered_iff_sample :
    Recovered sampleSaga (sampleEvent "delivery.failed")
        ((handleFailureEvent (sampleEvent "delivery.failed")).run (act .leftAside)
          (Interruption.applyAll [sampleInterruption] (World.initial sampleDb))).2 ↔
      ∀ i ∈ [sampleInterruption], i.position < 3 :=
  recovered_iff (World.holds_of_get (by rfl : sampleDb.get _ = .ok (some sampleSaga)))
    (by decide) (by rfl : (sampleEvent "delivery.failed").event.payload = .obj _)
    [sampleInterruption] (by simp [sampleInterruption]) ⟨⟨_, rfl, rfl⟩, trivial⟩
    (sampleEvent "delivery.failed") rfl

/-- One failing `publish_command` leaves a started saga compensating for good: the
redelivered event, handled without any failure, neither fails it nor sends a command. -/
theorem redelivery_does_not_recover :
    sampleDb.get sampleSaga.sagaId = .ok (some sampleSaga) ∧ sampleSaga.status = .started ∧
    sampleInterruption.Hits (World.initial sampleDb) ∧
    ¬ Recovered sampleSaga (sampleEvent "delivery.failed")
      ((handleFailureEvent (sampleEvent "delivery.failed")).run (act .leftAside)
        (sampleInterruption.apply (World.initial sampleDb))).2 := by
  refine ⟨rfl, rfl, ⟨_, rfl, rfl⟩, fun h => ?_⟩
  have hstuck : (((handleFailureEvent (sampleEvent "delivery.failed")).run (act .leftAside)
      (sampleInterruption.apply (World.initial sampleDb))).2).status? sampleSaga.sagaId =
        some "compensating" := by decide
  exact absurd (hstuck.symm.trans h.1) (by decide)

end SupplyChainTracker.Saga
