import SupplyChainTracker.Saga.ActiveIndex

/-!
# The saga schema against the saga program

The migrations spell the statuses in capitals and the program stores them in small
letters. The status check therefore refuses every save of the program, and with the
check left aside neither the completion trigger nor the event log recognises a status.
-/

namespace SupplyChainTracker.Saga

/-- Service operations one after the other; an exception ends only its own operation. -/
def ServiceOperation.runAll : List ServiceOperation → Program Unit := Coroutine.inTurn program

/-- The types of the events logged for a saga, in order. -/
def World.eventTypes (w : World) (sagaId : UUID) : List String :=
  (w.db.events.filter fun e => e.sagaId = sagaId).map SagaEvent.eventType

/-- The event type of a saga that has come to a status. -/
def SagaStatus.eventType : SagaStatus → String
  | started => "SAGA_STARTED"
  | compensating => "COMPENSATION_STARTED"
  | completed => "SAGA_COMPLETED"
  | failed => "SAGA_FAILED"

/-- What the log should gain when a call turns one row of a saga into another: one event for
an insert and one for a change of status. -/
def ExpectedEvents (old? new? : Option SagaRow) (logged : List String) : Prop :=
  match old?, new? with
  | none, none => logged = []
  | none, some _ => logged = ["SAGA_STARTED"]
  | some old, some new =>
      if old.status = new.status then logged = []
      else ∃ status : SagaStatus, new.status = status.value ∧ logged = [status.eventType]
  | some _, none => False

/-- The schema accepts a run: no call is refused, completion times are those of the ended sagas
and the log follows the changes of status. -/
structure SchemaAccepts (c : Constraints) (db : SagaDb) (operations : List ServiceOperation) :
    Prop where
  accepted : ∀ p ∈ (ServiceOperation.runAll operations).history (act c) Coroutine.noFaults
    (World.initial db), ∀ violated, p.answer ≠ .error (.database violated)
  completedAt : ∀ w ∈ (ServiceOperation.runAll operations).reached (act c) Coroutine.noFaults
    (World.initial db), ∀ row ∈ w.db.sagas.rows, row.completedAt.isSome ↔
      row.status = SagaStatus.completed.value ∨ row.status = SagaStatus.failed.value
  events : ((ServiceOperation.runAll operations).reached (act c) Coroutine.noFaults
    (World.initial db)).IsChain fun w w' => ∀ sagaId, ∃ logged,
      w'.eventTypes sagaId = w.eventTypes sagaId ++ logged ∧
        ExpectedEvents (w.row? sagaId) (w'.row? sagaId) logged

/-- Texts that do not fit are refused by the database. -/
theorem Constraints.proposed_eq_error {c : Constraints} {s : SagaInstance} {e : SagaError}
    (h : c.proposed s = .error e) : ∃ violated, e = .database violated := by
  have hvarchar : ∀ enforced limit text e', varchar enforced limit text = .error e' →
      ∃ violated, e' = .database violated := by
    intro enforced limit text e' h
    unfold varchar at h
    split_ifs at h
    cases h
    exact ⟨_, rfl⟩
  have hvarchar? : ∀ enforced limit text e', varchar? enforced limit text = .error e' →
      ∃ violated, e' = .database violated := by
    intro enforced limit text e' h
    cases text with
    | none => cases h
    | some text =>
      cases hv : varchar enforced limit text with
      | ok t => simp [varchar?, hv, Except.map] at h
      | error e'' =>
        obtain ⟨violated, rfl⟩ := hvarchar _ _ _ _ hv
        simp only [varchar?, hv, Except.map, Except.error.injEq] at h
        exact ⟨violated, h.symm⟩
  unfold Constraints.proposed at h
  split at h <;> cases h
  · exact hvarchar _ _ _ _ ‹_›
  · exact hvarchar _ _ _ _ ‹_›
  · exact hvarchar? _ _ _ _ ‹_›

/-- With the status check enforced no save of the program is accepted. -/
theorem SagaDb.Plain.save_refused {db : SagaDb} (hdb : db.Plain) {c : Constraints}
    (hc : c.ckSagaStatus = true) (s : SagaInstance) :
    ∃ violated, db.save c s = (.error (.database violated), db) := by
  unfold SagaDb.save
  cases h : c.proposed s with
  | error e =>
    obtain ⟨violated, rfl⟩ := Constraints.proposed_eq_error h
    exact ⟨violated, rfl⟩
  | ok p =>
    refine ⟨"ck_saga_status", ?_⟩
    simp [hdb.refusal (Constraints.plain_proposed h), hc]

/-- A call that leaves the world alone, refused if it is a save. -/
def Refused (w : World) (p : Coroutine.Performed Call Call.Ans SagaError World) : Prop :=
  p.after.db = w.db ∧ ∀ saga, p.op = .save saga → ∃ violated, p.answer = .error (.database violated)

/-- In a run on fresh tables every save is refused, and the tables stay as they were created. -/
theorem migration001_refuses (clock : Nat → DateTime) (operations : List ServiceOperation) :
    (ServiceOperation.runAll operations).Always (act .migration001) False Refused
      (fun _ w => w.db = .created clock) (World.initial (.created clock)) := by
  refine Coroutine.always_of_act (fun op w hw => ?_) _ rfl
  cases op with
  | save saga =>
    have hplain : w.db.Plain := by
      intro row hrow
      rw [hw] at hrow
      cases hrow
    obtain ⟨violated, hsave⟩ := hplain.save_refused (c := .migration001) rfl saga
    simp only [Refused, act, hsave]
    exact ⟨⟨trivial, fun _ _ => ⟨violated, rfl⟩⟩, hw⟩
  | get | getByShipment | listActive | publishCommand =>
    refine ⟨⟨rfl, ?_⟩, hw⟩
    intro t ht
    cases ht

/-- The schema accepts no run that starts with the creation of a saga. -/
theorem not_schemaAccepts (clock : Nat → DateTime) (saga : SagaInstance)
    (operations : List ServiceOperation) :
    ¬ SchemaAccepts .migration001 (.created clock) (.create saga :: operations) := by
  intro h
  have hrefused := (migration001_refuses clock (.create saga :: operations)).1.1.2 saga rfl
  obtain ⟨violated, hanswer⟩ := hrefused
  exact h.accepted _ (List.mem_cons_self ..) violated hanswer

/-- A saga is created, and already the first save is refused. -/
theorem first_create_refused :
    ¬ SchemaAccepts .migration001 (.created fun n => n) [.create sampleSaga] := by
  intro h
  have hrefused : (act .migration001 (Call.save sampleSaga)
      (World.initial (.created fun n => n))).1 = .error (.database "ck_saga_status") := by
    rfl
  exact h.accepted _ (List.mem_cons_self ..) _ hrefused

/-- A world whose rows the program wrote and whose log knows only of starts. -/
def World.OnlyStarts (w : World) : Prop :=
  w.Plain ∧ ∀ e ∈ w.db.events, e.eventType = "SAGA_STARTED"

/-- With the status check left aside, a run on fresh tables never sets a completion time and
logs nothing but starts, whatever the statuses become. -/
theorem onlyStarts_reached {c : Constraints} (hc : c.ckSagaStatus = false)
    (clock : Nat → DateTime) (operations : List ServiceOperation) :
    ∀ w ∈ (ServiceOperation.runAll operations).reached (act c) Coroutine.noFaults
      (World.initial (.created clock)), w.OnlyStarts := by
  have hact : ∀ op (w : World), w.OnlyStarts → (act c op w).2.OnlyStarts := by
    intro op w hw
    cases op with
    | save saga =>
      rcases hw.1.save_cases hc saga with ⟨e, _, hsave⟩ | ⟨p, hp, hsave⟩
      · simp only [act, hsave]
        exact hw
      · have hplain := Constraints.plain_proposed hp
        simp only [act, hsave]
        refine ⟨hw.1.write hplain, fun e he => ?_⟩
        rcases List.mem_append.mp he with he | he
        · exact hw.2 e he
        · obtain ⟨status, hst⟩ := (hw.1.target hplain).status
          exact eventType_of_mem_logSagaEvent hst he
    | get | getByShipment | listActive | publishCommand => exact hw
  have hinit : (World.initial (.created clock)).OnlyStarts := by
    constructor <;> intro _ hmem <;> cases hmem
  exact (Coroutine.always_of_act (fun op w hw => ⟨hact op w hw, hact op w hw⟩) _ hinit
    ).forall_reached hinit Coroutine.noFaults fun _ h => h rfl

end SupplyChainTracker.Saga
