import SupplyChainTracker.Core.Async.Journal
import SupplyChainTracker.Saga.Calls

/-!
# Everything the coordinator does at once

Failure events are handled and requests are served concurrently, and any call may raise. What a
task may do next depends on what it has read, stored and published; what the tasks have done
together explains every command and every status.
-/

namespace SupplyChainTracker.Saga

open Coroutine (Performed)
open SagaCompensationWorker

/-- Handling one failure event or serving one request. -/
inductive Task : Type
  | handle (r : Received)
  | create (dto : SagaCreateDTO) (startedAt updatedAt : DateTime)
  | get (sagaId : UUID)
  | getByShipment (shipmentId : UUID)
  | listActive
  | update (sagaId : UUID) (dto : SagaUpdateDTO) (now : DateTime)

/-- What a task does; the response of a request is dropped. -/
def Task.program : Task → Program Unit
  | .handle r => handleFailureEvent r
  | .create dto startedAt updatedAt =>
      (SagaRouter.createSaga dto startedAt updatedAt).bind fun _ => .ret ()
  | .get sagaId => (SagaRouter.getSaga sagaId).bind fun _ => .ret ()
  | .getByShipment shipmentId => (SagaRouter.getSagaByShipment shipmentId).bind fun _ => .ret ()
  | .listActive => SagaRouter.listActiveSagas.bind fun _ => .ret ()
  | .update sagaId dto now => (SagaRouter.updateSagaContext sagaId dto now).bind fun _ => .ret ()

/-- The copies a task has read, the one it has stored last and the commands it has sent. -/
structure Progress where
  copies : List SagaInstance := []
  stored : Option SagaInstance := none
  sent : List (Command × String) := []

/-- The status under which a task stores a copy is new, was read, or comes from its event. -/
inductive Task.MayStore (task : Task) (p : Progress) (t : SagaInstance) : Prop
  | new (h : t.status = .started)
  | read (u : SagaInstance) (hu : u ∈ p.copies) (id : u.sagaId = t.sagaId)
      (status : u.status = t.status)
  | claim (r : Received) (handled : task = .handle r)
      (correlated : r.event.correlationId = some t.sagaId) (h : t.status = .compensating)
      (u : SagaInstance) (hu : u ∈ p.copies) (id : u.sagaId = t.sagaId)
      (started : u.status = .started)
  | close (r : Received) (reason : Json) (handled : task = .handle r)
      (correlated : r.event.correlationId = some t.sagaId) (h : t.status = .failed)
      (u : SagaInstance) (hu : u ∈ p.copies) (id : u.sagaId = t.sagaId)
      (started : u.status = .started) (s : SagaInstance) (stored : p.stored = some s)
      (same : s.sagaId = t.sagaId) (compensating : s.status = .compensating)
      (payload : failureReason r.event = .ok reason) (sent : ∀ q ∈ strategy s r, q ∈ p.sent)

/-- A handler sends only commands of the saga it has stored as compensating. -/
def Task.MaySend (task : Task) (p : Progress) (q : Command × String) : Prop :=
  ∃ r s, task = .handle r ∧ p.stored = some s ∧ s.status = .compensating ∧
    r.event.correlationId = some s.sagaId ∧ q ∈ strategy s r ∧
    ∃ u ∈ p.copies, u.sagaId = s.sagaId ∧ u.status = .started

/-- How a task uses the repository and the queue. -/
def Task.protocol (task : Task) : Protocol Call Call.Ans SagaError Progress where
  may
    | p, .save t => task.MayStore p t
    | p, .publishCommand command topic => task.MaySend p (command, topic)
    | _, _ => True
  expects
    | .get sagaId, r => ∀ u, r = .ok (some u) → u.sagaId = sagaId
    | .save t, r => ∀ u, r = .ok u → u.sagaId = t.sagaId ∧ u.status = t.status
    | _, _ => True
  next
    | p, .get _, .ok (some u) => { p with copies := u :: p.copies }
    | p, .save _, .ok u => { p with stored := some u }
    | p, .publishCommand command topic, .ok _ => { p with sent := (command, topic) :: p.sent }
    | p, _, _ => p

section Protocol

open Coroutine (Grants)

/-- What a handler knows at each of its points. -/
def HandlerKnows (r : Received) : Stage → Progress → Prop
  | .guard, _ => True
  | .reread sagaId, p => r.event.correlationId = some sagaId ∧
      ∃ u ∈ p.copies, u.sagaId = sagaId ∧ u.status = .started
  | .claim v, p => r.event.correlationId = some v.sagaId ∧
      ∃ u ∈ p.copies, u.sagaId = v.sagaId ∧ u.status = .started
  | .publish s todo, p => r.event.correlationId = some s.sagaId ∧
      (∃ u ∈ p.copies, u.sagaId = s.sagaId ∧ u.status = .started) ∧ p.stored = some s ∧
      s.status = .compensating ∧ (∃ reason, failureReason r.event = .ok reason) ∧
      (∀ q ∈ todo, q ∈ strategy s r) ∧ ∀ q ∈ strategy s r, q ∈ todo ∨ q ∈ p.sent
  | .close x, p => ∃ s reason, s.sagaId = x.sagaId ∧ r.event.correlationId = some x.sagaId ∧
      (∃ u ∈ p.copies, u.sagaId = x.sagaId ∧ u.status = .started) ∧ p.stored = some s ∧
      s.status = .compensating ∧ failureReason r.event = .ok reason ∧
      ∀ q ∈ strategy s r, q ∈ p.sent
  | .halt _, _ => True

/-- Every call of a handler keeps what it knows. -/
theorem handlerKnows_call (r : Received) (st : Stage) (p : Progress) (op : Call)
    (next : Except SagaError op.Ans → Stage) (hknows : HandlerKnows r st p)
    (hchart : chart r st = .call op next) :
    (Task.handle r).protocol.may p op ∧ ∀ a, (Task.handle r).protocol.expects op a →
      HandlerKnows r (next a) ((Task.handle r).protocol.next p op a) := by
  cases st with
  | guard =>
    cases hcorr : r.event.correlationId with
    | none => simp [chart, hcorr] at hchart
    | some sagaId =>
      rw [chart_guard hcorr] at hchart
      cases hchart
      refine ⟨trivial, fun a ha => ?_⟩
      rcases a with e | _ | u
      · trivial
      · trivial
      · obtain rfl := ha u rfl
        by_cases hst : u.status = .started
        · rw [show guardNext (.ok (some u)) = .reread u.sagaId from if_pos hst]
          exact ⟨hcorr, u, List.mem_cons_self .., rfl, hst⟩
        · rw [show guardNext (.ok (some u)) = .halt (.ok ()) from if_neg hst]
          trivial
  | reread sagaId =>
    cases hchart
    refine ⟨trivial, fun a ha => ?_⟩
    obtain ⟨hcorr, u, hu, hid, hst⟩ := hknows
    rcases a with e | _ | v
    · trivial
    · trivial
    · obtain rfl := ha v rfl
      dsimp only
      split
      · trivial
      · exact ⟨hcorr, u, List.mem_cons_of_mem _ hu, hid, hst⟩
  | claim v =>
    cases hchart
    obtain ⟨hcorr, u, hu, hid, hst⟩ := hknows
    refine ⟨.claim r rfl hcorr rfl u hu hid hst, fun a ha => ?_⟩
    rcases a with e | s
    · trivial
    · obtain ⟨hsid, hsst⟩ := ha s rfl
      dsimp only
      split
      · trivial
      · rename_i reason hreason
        have hsid' : s.sagaId = v.sagaId := hsid
        exact ⟨hcorr.trans (congrArg some hsid'.symm), ⟨u, hu, hid.trans hsid'.symm, hst⟩, rfl,
          hsst, ⟨reason, hreason⟩, fun q hq => hq, fun q hq => .inl hq⟩
  | publish s todo =>
    obtain ⟨hcorr, hu, hstored, hst, hreason, htodo, hall⟩ := hknows
    cases todo with
    | cons q todo =>
      cases hchart
      obtain ⟨u, hu⟩ := hu
      refine ⟨⟨r, s, rfl, hstored, hst, hcorr, htodo q (List.mem_cons_self ..), u, hu⟩,
        fun a _ => ?_⟩
      rcases a with e | _
      · trivial
      · refine ⟨hcorr, ⟨u, hu⟩, hstored, hst, hreason,
          fun q' hq' => htodo q' (List.mem_cons_of_mem _ hq'), fun q' hq' => ?_⟩
        rcases hall q' hq' with h | h
        · rcases List.mem_cons.mp h with rfl | h
          · exact .inr (List.mem_cons_self ..)
          · exact .inl h
        · exact .inr (List.mem_cons_of_mem _ h)
    | nil =>
      cases hchart
      refine ⟨trivial, fun a ha => ?_⟩
      rcases a with e | _ | x
      · trivial
      · trivial
      · have hid := ha x rfl
        obtain ⟨u, hu, hus, hust⟩ := hu
        obtain ⟨reason, hreason⟩ := hreason
        exact ⟨s, reason, hid.symm, hcorr.trans (congrArg some hid.symm),
          ⟨u, List.mem_cons_of_mem _ hu, hus.trans hid.symm, hust⟩, hstored, hst, hreason,
          fun q hq => (hall q hq).resolve_left (List.not_mem_nil)⟩
  | close x =>
    cases hchart
    obtain ⟨s, reason, hid, hcorr, ⟨u, hu, hus, hust⟩, hstored, hst, hreason, hsent⟩ := hknows
    refine ⟨.close r reason rfl hcorr rfl u hu hus hust s hstored hid hst hreason hsent,
      fun a _ => ?_⟩
    rcases a with e | _ <;> trivial
  | halt result => cases hchart

/-- What a context update knows at each of its points. -/
def PatchKnows : SagaRouter.PatchStage → Progress → Prop
  | .store t, p => ∃ u ∈ p.copies, u.sagaId = t.sagaId ∧ u.status = t.status
  | _, _ => True

/-- Every call of a context update keeps what it knows. -/
theorem patchKnows_call (task : Task) (dto : SagaUpdateDTO) (st : SagaRouter.PatchStage)
    (p : Progress) (op : Call) (next : Except SagaError op.Ans → SagaRouter.PatchStage)
    (hknows : PatchKnows st p) (hchart : SagaRouter.patchChart dto st = .call op next) :
    task.protocol.may p op ∧ ∀ a, task.protocol.expects op a →
      PatchKnows (next a) (task.protocol.next p op a) := by
  cases st with
  | first sagaId =>
    cases hchart
    refine ⟨trivial, fun a _ => ?_⟩
    rcases a with e | _ | u <;> trivial
  | second sagaId warehouseId deliveryId =>
    cases hchart
    refine ⟨trivial, fun a _ => ?_⟩
    rcases a with e | _ | u
    · trivial
    · trivial
    · dsimp only [SagaRouter.secondNext]
      split
      · exact ⟨u, List.mem_cons_self .., rfl, rfl⟩
      · trivial
  | store t =>
    cases hchart
    obtain ⟨u, hu, hid, hst⟩ := hknows
    refine ⟨.read u hu hid hst, fun a _ => ?_⟩
    rcases a with e | _ <;> trivial
  | halt result => cases hchart

/-- Every task keeps its protocol. -/
theorem Task.grants (task : Task) (p : Progress) :
    task.program.Grants task.protocol (fun _ _ => True) p := by
  cases task with
  | handle r =>
    exact Follows.keeps (follows r) (HandlerKnows r) (handlerKnows_call r)
      (fun _ _ _ _ _ _ _ => trivial) (t := .guard) trivial
  | create dto startedAt updatedAt =>
    refine Grants.bind (Q := fun _ _ => True) (Grants.bind (Q := fun _ _ => True)
      (Coroutine.grants_perform.mpr ⟨.new rfl, fun _ _ _ _ => trivial⟩) fun _ _ _ => ?_)
      fun _ _ _ => ?_
    · exact (Coroutine.grants_ret _ _).mpr trivial
    · exact (Coroutine.grants_ret _ _).mpr trivial
  | get sagaId =>
    refine Grants.bind (Q := fun _ _ => True) (Grants.bind (Q := fun _ _ => True)
      (Coroutine.grants_perform.mpr ⟨trivial, fun _ _ _ _ => trivial⟩) fun saga _ _ => ?_)
      fun _ _ _ => (Coroutine.grants_ret _ _).mpr trivial
    cases saga with
    | none => exact Coroutine.grants_raise _ _
    | some saga => exact (Coroutine.grants_ret _ _).mpr trivial
  | getByShipment shipmentId =>
    refine Grants.bind (Q := fun _ _ => True) (Grants.bind (Q := fun _ _ => True)
      (Coroutine.grants_perform.mpr ⟨trivial, fun _ _ _ _ => trivial⟩) fun saga _ _ => ?_)
      fun _ _ _ => (Coroutine.grants_ret _ _).mpr trivial
    cases saga with
    | none => exact Coroutine.grants_raise _ _
    | some saga => exact (Coroutine.grants_ret _ _).mpr trivial
  | listActive =>
    refine Grants.bind (Q := fun _ _ => True) (Grants.bind (Q := fun _ _ => True)
      (Coroutine.grants_perform.mpr ⟨trivial, fun _ _ _ _ => trivial⟩) fun _ _ _ => ?_)
      fun _ _ _ => (Coroutine.grants_ret _ _).mpr trivial
    exact (Coroutine.grants_ret _ _).mpr trivial
  | update sagaId dto now =>
    exact Follows.keeps (SagaRouter.follows_patch dto now) PatchKnows
      (patchKnows_call _ dto) (fun _ _ _ _ _ _ _ => trivial) (t := .first sagaId) trivial

end Protocol

end SupplyChainTracker.Saga
