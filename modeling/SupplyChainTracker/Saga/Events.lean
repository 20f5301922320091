import SupplyChainTracker.Core.Audit
import SupplyChainTracker.Saga.Causes

/-!
# The event log of the sagas

The trigger on `saga_instances` writes a row of `saga_events` for every insert and for every change
of a status. Whatever the tasks of the coordinator do, the rows of a saga record a history of its
status, so that the table can be read off the log. The type of a row does not tell changes apart:
the trigger looks for statuses in capitals.
-/

namespace SupplyChainTracker.Saga

open Coroutine (Performed)

/-- A text under a key of `event_data`. -/
def SagaEvent.text? (e : SagaEvent) (key : String) : Option String :=
  match e.eventData.get? key with
  | some (some (.str text)) => some text
  | _ => none

/-- The change of a status that a row of `saga_events` records. -/
def SagaEvent.change? (e : SagaEvent) : Option (Audit.Change String) :=
  match e.text? "new_status" with
  | some new => some ⟨e.text? "old_status", new⟩
  | none => (e.text? "status").map fun new => ⟨none, new⟩

/-- The recorded changes of the status of a saga. -/
def SagaDb.history (db : SagaDb) (sagaId : UUID) : List (Audit.Change String) :=
  Audit.changesOf SagaEvent.sagaId SagaEvent.change? sagaId db.events

/-- The trigger writes down the change of the status. -/
theorem change?_logSagaEvent (now : DateTime) (old? : Option SagaRow) (new : SagaRow) :
    (logSagaEvent now old? new).filterMap SagaEvent.change? =
      Audit.written (old?.map SagaRow.status) new.status := by
  cases old? with
  | none => rfl
  | some old =>
    simp only [logSagaEvent, Audit.written, Option.map_some, Option.some.injEq]
    by_cases h : old.status = new.status
    · simp [h]
    · simp only [ne_eq, h, not_false_eq_true, if_true, if_false]
      rfl

/-- What the trigger writes down is about the saga. -/
theorem sagaId_of_mem_logSagaEvent {now : DateTime} {old? : Option SagaRow} {new : SagaRow}
    {e : SagaEvent} (h : e ∈ logSagaEvent now old? new) : e.sagaId = new.sagaId := by
  cases old? with
  | none => exact congrArg SagaEvent.sagaId (List.mem_singleton.mp h)
  | some old =>
    simp only [logSagaEvent] at h
    split at h
    · exact congrArg SagaEvent.sagaId (List.mem_singleton.mp h)
    · cases h

/-- The log records a history of every saga, and every row of it says that a saga has started. -/
structure SagaDb.Logged (db : SagaDb) : Prop where
  sound : Audit.Records SagaEvent.sagaId SagaEvent.change? db.events fun sagaId =>
    (db.sagas.find? sagaId).map SagaRow.status
  started : ∀ e ∈ db.events, e.eventType = "SAGA_STARTED"

/-- The tables as the migrations create them have nothing to record. -/
theorem SagaDb.logged_created (clock : Nat → DateTime) : (SagaDb.created clock).Logged where
  sound _ := rfl
  started := nofun

namespace SagaDb

variable {db : SagaDb} {p : SagaRow}

/-- The upsert leaves the row in the proposed status. -/
theorem status_target (db : SagaDb) (p : SagaRow) : (db.target p).status = p.status := by
  cases hfind : db.sagas.find? p.sagaId with
  | none => rw [target_of_none hfind]
  | some old =>
    obtain ⟨t, ht⟩ := target_of_some hfind
    rw [ht]

theorem sagaId_target (db : SagaDb) (p : SagaRow) : (db.target p).sagaId = p.sagaId := by
  cases hfind : db.sagas.find? p.sagaId with
  | none => rw [target_of_none hfind]
  | some old =>
    obtain ⟨t, ht⟩ := target_of_some hfind
    rw [ht]
    exact Table.key_of_find? (r := old) hfind

/-- An upsert that stores a status of the program keeps the log. -/
theorem Logged.write (h : db.Logged) {status : SagaStatus} (hst : p.status = status.value) :
    (db.write p).Logged where
  sound := by
    have hid := db.sagaId_target p
    refine h.sound.append (k := p.sagaId)
      (fun e he => (sagaId_of_mem_logSagaEvent he).trans hid) ?_ fun sagaId hne => ?_
    · have hrow : (db.write p).sagas.find? p.sagaId = some (db.target p) := by
        rw [← hid]
        exact Table.find?_put_self _ _
      rw [change?_logSagaEvent, hrow]
      exact Audit.leads_written _ _
    · exact congrArg (Option.map SagaRow.status)
        (Table.find?_put_of_ne _ _ fun h => hne (h.symm.trans hid))
  started e he := by
    rcases List.mem_append.mp he with he | he
    · exact h.started e he
    · exact eventType_of_mem_logSagaEvent ((db.status_target p).trans hst) he

/-- A save keeps the log. -/
theorem Logged.save (h : db.Logged) (c : Constraints) (s : SagaInstance) :
    (db.save c s).2.Logged := by
  unfold SagaDb.save
  split
  · exact h
  · rename_i p hp
    split
    · exact h
    · obtain ⟨_, _, rfl⟩ := Constraints.proposed_eq_ok hp
      exact h.write rfl

end SagaDb

/-- However the tasks interleave and whichever calls raise, the log records a history of every
saga: each change starts from the status that the one before it has left, and the last one leaves
the stored status. And every row of the log, whatever it records, says that a saga has started. -/
theorem events_record_statuses {ι : Type} [DecidableEq ι] (c : Constraints) (tasks : ι → Task)
    (db : SagaDb) (hdb : db.Logged) (faults : Nat → Option SagaError) {sched : List ι}
    {d : Config ι Call Call.Ans SagaError Unit (Journal Call Call.Ans SagaError World)}
    (h : (coordinator tasks db faults).exec (Journal.perform (act c)) sched = some d) :
    (∀ sagaId, Audit.Sound (d.world.world.db.history sagaId) (d.world.world.status? sagaId) ∧
      d.world.world.status? sagaId =
        (d.world.world.db.history sagaId).getLast?.map Audit.Change.after) ∧
    ∀ e ∈ d.world.world.db.events, e.eventType = "SAGA_STARTED" := by
  have hlogged : d.world.world.db.Logged := by
    refine Journal.exec_of_act (fun w _ => w.db.Logged) (fun _ _ _ _ hw => hw) ?_ hdb h
    intro op w _ hw
    cases op with
    | save s => exact hw.save c s
    | get | getByShipment | listActive | publishCommand => exact hw
  exact ⟨fun sagaId => ⟨hlogged.sound sagaId, (hlogged.sound sagaId).now_eq⟩, hlogged.started⟩

/-- A saga is created and then fails. -/
def sampleLife : Bool → Task
  | true => .create ⟨⟨1⟩, "CREATE_SHIPMENT", ⟨2⟩, some ⟨3⟩, some ⟨4⟩⟩ 0 0
  | false => .handle (sampleEvent "delivery.failed")

theorem events_record_statuses_sample : ∃ d,
    (coordinator sampleLife (SagaDb.created fun n => n) Coroutine.noFaults).exec
      (Journal.perform (act .leftAside)) (true :: List.replicate 8 false) = some d ∧
    d.world.world.db.events.length = 3 ∧
    ∀ e ∈ d.world.world.db.events, e.eventType = "SAGA_STARTED" := by
  have hrun : ∃ d, (coordinator sampleLife (SagaDb.created fun n => n) Coroutine.noFaults).exec
      (Journal.perform (act .leftAside)) (true :: List.replicate 8 false) = some d ∧
        d.world.world.db.events.length = 3 := ⟨_, rfl, rfl⟩
  obtain ⟨d, hd, hlength⟩ := hrun
  exact ⟨d, hd, hlength,
    (events_record_statuses .leftAside sampleLife _ (SagaDb.logged_created _) _ hd).2⟩

end SupplyChainTracker.Saga
