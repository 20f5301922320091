import SupplyChainTracker.Saga.Tasks

/-!
# What commands and statuses come from

However the tasks of the coordinator interleave and whichever calls raise: every command was sent
by the handler of a failure event that had read the saga as started and stored it as compensating,
and a saga that has failed in the meantime has had all its commands sent.
-/

namespace SupplyChainTracker.Saga

open Coroutine (Performed)
open SagaCompensationWorker

variable {ι : Type}

/-- The calls that the tasks have performed. -/
abbrev Past : Type := List (Performed Call Call.Ans SagaError World)

/-- A read has returned the copy. -/
def Past.Read (past : Past) (u : SagaInstance) : Prop :=
  ∃ w, ⟨Call.get u.sagaId, .ok (some u), w⟩ ∈ past

/-- A save has returned the copy, which could be read back just after it. -/
def Past.Stored (past : Past) (u : SagaInstance) : Prop :=
  ∃ t w, ⟨Call.save t, .ok u, w⟩ ∈ past ∧ w.db.get u.sagaId = .ok (some u)

/-- A command has been published. -/
def Past.Sent (past : Past) (q : Command × String) : Prop :=
  ∃ w, ⟨Call.publishCommand q.1 q.2, .ok (), w⟩ ∈ past

/-- A task handles a failure event of a saga. It has read the saga as started and stored it as
compensating. -/
structure Claimed (tasks : ι → Task) (past : Past) (r : Received) (s : SagaInstance) : Prop where
  handled : ∃ i, tasks i = .handle r
  correlated : r.event.correlationId = some s.sagaId
  started : ∃ u, past.Read u ∧ u.sagaId = s.sagaId ∧ u.status = .started
  stored : past.Stored s
  compensating : s.status = .compensating

/-- Where the status of a saga comes from: it was there from the start, or a handler has given
it. -/
def Justified (tasks : ι → Task) (db : SagaDb) (past : Past) (sagaId : UUID) : SagaStatus → Prop
  | .started => True
  | .completed => (World.initial db).status? sagaId = some SagaStatus.completed.value
  | .compensating =>
      (World.initial db).status? sagaId = some SagaStatus.compensating.value ∨
        ∃ r s, Claimed tasks past r s ∧ s.sagaId = sagaId
  | .failed =>
      (World.initial db).status? sagaId = some SagaStatus.failed.value ∨
        ∃ r s reason, Claimed tasks past r s ∧ s.sagaId = sagaId ∧
          failureReason r.event = .ok reason ∧ ∀ q ∈ strategy s r, past.Sent q

section Monotone

variable {tasks : ι → Task} {db : SagaDb} {past : Past}
  {entry : Performed Call Call.Ans SagaError World}

theorem Past.Read.append {u : SagaInstance} (h : past.Read u) : Past.Read (past ++ [entry]) u :=
  h.imp fun _ hw => List.mem_append_left _ hw

theorem Past.Stored.append {u : SagaInstance} (h : past.Stored u) :
    Past.Stored (past ++ [entry]) u := by
  obtain ⟨t, w, hmem, hget⟩ := h
  exact ⟨t, w, List.mem_append_left _ hmem, hget⟩

theorem Past.Sent.append {q : Command × String} (h : past.Sent q) :
    Past.Sent (past ++ [entry]) q :=
  h.imp fun _ hw => List.mem_append_left _ hw

theorem Claimed.append {r : Received} {s : SagaInstance} (h : Claimed tasks past r s) :
    Claimed tasks (past ++ [entry]) r s where
  handled := h.handled
  correlated := h.correlated
  started := h.started.imp fun _ hu => ⟨hu.1.append, hu.2⟩
  stored := h.stored.append
  compensating := h.compensating

theorem Justified.append {sagaId : UUID} {status : SagaStatus}
    (h : Justified tasks db past sagaId status) :
    Justified tasks db (past ++ [entry]) sagaId status := by
  cases status with
  | started => trivial
  | completed => exact h
  | compensating =>
    exact h.imp_right fun ⟨r, s, hclaimed, hid⟩ => ⟨r, s, hclaimed.append, hid⟩
  | failed =>
    exact h.imp_right fun ⟨r, s, reason, hclaimed, hid, hreason, hsent⟩ =>
      ⟨r, s, reason, hclaimed.append, hid, hreason, fun q hq => (hsent q hq).append⟩

end Monotone

/-- A save is refused without effect, or the copy it returns is what can be read afterwards. -/
theorem act_save_stored (c : Constraints) (t : SagaInstance) (w : World) :
    (∃ e, act c (Call.save t) w = (.error e, w)) ∨
    ∃ u w', act c (Call.save t) w = (.ok u, w') ∧ u.sagaId = t.sagaId ∧ u.status = t.status ∧
      w'.published = w.published ∧ w'.db.get u.sagaId = .ok (some u) ∧
      w'.status? t.sagaId = some t.status.value ∧
      ∀ sagaId, t.sagaId ≠ sagaId → w'.status? sagaId = w.status? sagaId := by
  rcases act_save_cases c t w with he | ⟨new, w', hw, hpub, hnew, hother, hup⟩
  · exact .inl he
  · have hentity := rowToEntity_of_status hup.status
    refine .inr ⟨_, w', hw.trans (congrArg (·, w') hentity), hup.sagaId, rfl, hpub, ?_, ?_, ?_⟩
    · exact SagaDb.get_eq_some_iff.mpr ⟨new, hup.sagaId ▸ hnew, hentity⟩
    · rw [World.status?, hnew, Option.map_some, hup.status]
    · intro sagaId hne
      rw [World.status?, hother sagaId hne, World.status?]

/-- What is known of a task: where the copies it has read come from, the copy it has stored and
the commands it has sent. -/
structure Knows (tasks : ι → Task) (db : SagaDb) (p : Progress) (past : Past) : Prop where
  read : ∀ u ∈ p.copies, past.Read u ∧ Justified tasks db past u.sagaId u.status
  stored : ∀ s, p.stored = some s → past.Stored s
  sent : ∀ q ∈ p.sent, past.Sent q

theorem Knows.append {tasks : ι → Task} {db : SagaDb} {p : Progress} {past : Past}
    (h : Knows tasks db p past) (entry : Performed Call Call.Ans SagaError World) :
    Knows tasks db p (past ++ [entry]) where
  read u hu := ⟨(h.read u hu).1.append, (h.read u hu).2.append⟩
  stored s hs := (h.stored s hs).append
  sent q hq := (h.sent q hq).append

/-- What is known of the saga tables and the queue. -/
structure Accounts (tasks : ι → Task) (db : SagaDb) (w : World) (past : Past) : Prop where
  published : ∀ q ∈ w.published, ∃ r s, Claimed tasks past r s ∧ q ∈ strategy s r
  sent : ∀ q, past.Sent q → q ∈ w.published
  status : ∀ sagaId status, w.status? sagaId = some (SagaStatus.value status) →
    Justified tasks db past sagaId status

variable {tasks : ι → Task} {db : SagaDb} {past : Past} {w : World} {p : Progress}

/-- A call that leaves the tables and the queue alone and publishes nothing keeps the accounts. -/
theorem Accounts.append (h : Accounts tasks db w past)
    {entry : Performed Call Call.Ans SagaError World}
    (hquiet : ∀ q, ¬ Past.Sent [entry] q) :
    Accounts tasks db w (past ++ [entry]) where
  published q hq := by
    obtain ⟨r, s, hclaimed, hmem⟩ := h.published q hq
    exact ⟨r, s, hclaimed.append, hmem⟩
  sent q hq := by
    obtain ⟨w', hw'⟩ := hq
    rcases List.mem_append.mp hw' with hw' | hw'
    · exact h.sent q ⟨w', hw'⟩
    · exact absurd ⟨w', hw'⟩ (hquiet q)
  status sagaId status hst := (h.status sagaId status hst).append

/-- A call that raises publishes nothing. -/
theorem not_sent_of_error (op : Call) (e : SagaError) (w : World) (q : Command × String) :
    ¬ Past.Sent [⟨op, .error e, w⟩] q := by
  rintro ⟨w', hw'⟩
  have h := congrArg (fun entry => (⟨entry.op, entry.answer.toBool⟩ : Call × Bool))
    (List.mem_singleton.mp hw')
  simp [Except.toBool] at h

/-- A call that is not a publication publishes nothing. -/
theorem not_sent_of_ne (op : Call) (hop : ∀ command topic, op ≠ .publishCommand command topic)
    (a : Except SagaError op.Ans) (w : World) (q : Command × String) :
    ¬ Past.Sent [⟨op, a, w⟩] q := by
  rintro ⟨w', hw'⟩
  exact hop q.1 q.2 (congrArg Performed.op (List.mem_singleton.mp hw')).symm

/-- A call that raises teaches a task nothing. -/
theorem protocol_error (task : Task) (p : Progress) (op : Call) (e : SagaError) :
    task.protocol.expects op (.error e) ∧ task.protocol.next p op (.error e) = p := by
  cases op with
  | get sagaId => exact ⟨nofun, rfl⟩
  | save t => exact ⟨nofun, rfl⟩
  | getByShipment shipmentId => exact ⟨trivial, rfl⟩
  | listActive => exact ⟨trivial, rfl⟩
  | publishCommand command topic => exact ⟨trivial, rfl⟩

/-- What a read returns is explained by the row it has read. -/
theorem Accounts.get (h : Accounts tasks db w past) {sagaId : UUID} {u : SagaInstance}
    (hget : w.db.get sagaId = .ok (some u)) :
    u.sagaId = sagaId ∧ Justified tasks db past u.sagaId u.status := by
  have hid := SagaDb.sagaId_of_get hget
  refine ⟨hid, h.status _ _ ?_⟩
  rw [← hid] at hget
  exact (World.holds_of_get hget).status?

/-- What a task stores is explained by what it has read, stored and sent before, once the save has
been written down. -/
theorem explained_of_mayStore {task : Task} {i : ι} (hi : tasks i = task) {t u : SagaInstance}
    (hmay : task.MayStore p t) (hknows : Knows tasks db p past) (hid : u.sagaId = t.sagaId)
    (hst : u.status = t.status) {entry : Performed Call Call.Ans SagaError World}
    (hstored : Past.Stored (past ++ [entry]) u) :
    Justified tasks db (past ++ [entry]) t.sagaId t.status := by
  cases hmay with
  | new h =>
    rw [h]
    trivial
  | read v hv hvid hvst =>
    rw [← hvid, ← hvst]
    exact (hknows.read v hv).2.append
  | claim r handled correlated h v hv hvid started =>
    rw [h]
    refine .inr ⟨r, u, ⟨⟨i, hi.trans handled⟩, correlated.trans (congrArg some hid.symm),
      ⟨v, (hknows.read v hv).1.append, hvid.trans hid.symm, started⟩, hstored, hst.trans h⟩, hid⟩
  | close r reason handled correlated h v hv hvid started s stored same compensating payload sent =>
    rw [h]
    refine .inr ⟨r, s, reason, ⟨⟨i, hi.trans handled⟩, correlated.trans (congrArg some same.symm),
      ⟨v, (hknows.read v hv).1.append, hvid.trans same.symm, started⟩,
      (hknows.stored s stored).append, compensating⟩, same, payload, fun q hq => ?_⟩
    exact (hknows.sent q (sent q hq)).append

/-- An answered call teaches the task that performs it what it may know, and keeps the accounts. -/
theorem accounts_act (c : Constraints) {i : ι} {op : Call} (hknows : Knows tasks db p past)
    (hacc : Accounts tasks db w past) (hmay : (tasks i).protocol.may p op) :
    (tasks i).protocol.expects op (act c op w).1 ∧
      Knows tasks db ((tasks i).protocol.next p op (act c op w).1)
        (past ++ [⟨op, (act c op w).1, (act c op w).2⟩]) ∧
      Accounts tasks db (act c op w).2 (past ++ [⟨op, (act c op w).1, (act c op w).2⟩]) := by
  cases op with
  | get sagaId =>
    have hacc' := hacc.append (not_sent_of_ne (.get sagaId) (by simp) (w.db.get sagaId) w)
    cases hget : w.db.get sagaId with
    | error e =>
      simp only [act, hget] at hacc' ⊢
      exact ⟨(protocol_error _ p (.get sagaId) e).1, hknows.append _, hacc'⟩
    | ok found =>
      simp only [act, hget] at hacc' ⊢
      cases found with
      | none => exact ⟨fun _ hv => (by cases hv), hknows.append _, hacc'⟩
      | some u =>
        obtain ⟨hid, hexplained⟩ := hacc.get hget
        refine ⟨fun v hv => ?_, ⟨?_, ?_, ?_⟩, hacc'⟩
        · cases hv
          exact hid
        · rintro v (_ | ⟨_, hv⟩)
          · exact ⟨⟨w, by rw [hid]; exact List.mem_append_right _ (List.mem_singleton.mpr rfl)⟩,
              hexplained.append⟩
          · exact (hknows.append _).read v hv
        · exact (hknows.append _).stored
        · exact (hknows.append _).sent
  | save t =>
    rcases act_save_stored c t w with ⟨e, he⟩ | ⟨u, w', hw, hid, hst, hpub, hget, hnew, hother⟩
    · rw [he]
      exact ⟨(protocol_error _ p (.save t) e).1, hknows.append _,
        hacc.append (not_sent_of_error _ e w)⟩
    · rw [hw]
      have hquiet := not_sent_of_ne (.save t) (by simp) (.ok u) w'
      have hstored : Past.Stored (past ++ [⟨Call.save t, .ok u, w'⟩]) u :=
        ⟨t, w', List.mem_append_right _ (List.mem_singleton.mpr rfl), hget⟩
      refine ⟨fun v hv => ?_, ⟨(hknows.append _).read, fun s hs => ?_, (hknows.append _).sent⟩,
        ?_, ?_, ?_⟩
      · cases hv
        exact ⟨hid, hst⟩
      · cases hs
        exact hstored
      · rw [hpub]
        exact (hacc.append hquiet).published
      · rw [hpub]
        exact (hacc.append hquiet).sent
      · intro sagaId status hrow
        by_cases hne : t.sagaId = sagaId
        · rw [← hne, hnew] at hrow
          rw [← hne, ← SagaStatus.value_injective (Option.some.inj hrow)]
          exact explained_of_mayStore rfl hmay hknows hid hst hstored
        · rw [hother sagaId hne] at hrow
          exact (hacc.status sagaId status hrow).append
  | getByShipment shipmentId =>
    exact ⟨trivial, hknows.append _, hacc.append (not_sent_of_ne (.getByShipment _) (by simp) _ _)⟩
  | listActive =>
    exact ⟨trivial, hknows.append _, hacc.append (not_sent_of_ne .listActive (by simp) _ _)⟩
  | publishCommand command topic =>
    obtain ⟨r, s, handled, stored, hst, hcorr, hmem, u, hu, huid, hust⟩ := hmay
    have hclaimed : Claimed tasks past r s := ⟨⟨i, handled⟩, hcorr,
      ⟨u, (hknows.read u hu).1, huid, hust⟩, hknows.stored s stored, hst⟩
    have hsent : Past.Sent (past ++ [⟨Call.publishCommand command topic, .ok (),
        { w with published := w.published ++ [(command, topic)] }⟩]) (command, topic) :=
      ⟨_, List.mem_append_right _ (List.mem_singleton.mpr rfl)⟩
    refine ⟨trivial, ⟨(hknows.append _).read, (hknows.append _).stored, ?_⟩, ?_, ?_, ?_⟩
    · rintro q (_ | ⟨_, hq⟩)
      · exact hsent
      · exact (hknows.sent q hq).append
    · intro q hq
      rcases List.mem_append.mp hq with hq | hq
      · obtain ⟨r', s', hclaimed', hmem'⟩ := hacc.published q hq
        exact ⟨r', s', hclaimed'.append, hmem'⟩
      · obtain rfl := List.mem_singleton.mp hq
        exact ⟨r, s, hclaimed.append, hmem⟩
    · rintro q ⟨w', hw'⟩
      rcases List.mem_append.mp hw' with hw' | hw'
      · exact List.mem_append_left _ (hacc.sent q ⟨w', hw'⟩)
      · have hop := congrArg Performed.op (List.mem_singleton.mp hw')
        simp only [Call.publishCommand.injEq] at hop
        exact List.mem_append_right _ (List.mem_singleton.mpr (Prod.ext hop.1 hop.2))
    · exact fun sagaId status hst => (hacc.status sagaId status hst).append

/-- A call that raises teaches a task nothing and keeps the accounts, as does one that is
answered. -/
theorem accounts_perform (c : Constraints) (i : ι) (p : Progress) (op : Call)
    (j : Journal Call Call.Ans SagaError World) (hknows : Knows tasks db p j.entries)
    (hacc : Accounts tasks db j.world j.entries) (hmay : (tasks i).protocol.may p op) :
    (tasks i).protocol.expects op (j.perform (act c) op).1 ∧
      Knows tasks db ((tasks i).protocol.next p op (j.perform (act c) op).1)
        (j.perform (act c) op).2.entries ∧
      Accounts tasks db (j.perform (act c) op).2.world (j.perform (act c) op).2.entries := by
  rcases j.perform_cases (act c) op with ⟨e, hans, hworld, hentries⟩ | ⟨hans, hworld, hentries⟩
  · obtain ⟨hexp, hnext⟩ := protocol_error (tasks i) p op e
    rw [hans, hworld, hentries, hnext]
    exact ⟨hexp, hknows.append _, hacc.append (not_sent_of_error op e j.world)⟩
  · rw [hans, hworld, hentries]
    exact accounts_act c hknows hacc hmay

/-- A call only adds to what has been published. -/
theorem published_prefix (c : Constraints) (op : Call) (w : World) :
    w.published <+: (act c op w).2.published := by
  cases op with
  | publishCommand command topic => exact List.prefix_append _ _
  | get | save | getByShipment | listActive => exact List.prefix_refl _

/-- The coordinator before any of its tasks has made a call. -/
def coordinator (tasks : ι → Task) (db : SagaDb) (faults : Nat → Option SagaError) :
    Config ι Call Call.Ans SagaError Unit (Journal Call Call.Ans SagaError World) where
  threads i := (tasks i).program
  world := Journal.start (World.initial db) faults
  trace := []

/-- Before any call everything is as it was. -/
theorem accounts_initial (tasks : ι → Task) (db : SagaDb) :
    Accounts tasks db (World.initial db) [] where
  published := nofun
  sent q hq := by
    obtain ⟨w, hw⟩ := hq
    cases hw
  status sagaId status hst := by
    cases status with
    | started => trivial
    | completed => exact hst
    | compensating => exact .inl hst
    | failed => exact .inl hst

/-- However the tasks interleave and whichever calls raise, the accounts are kept. -/
theorem exec_accounts [DecidableEq ι] (c : Constraints) (tasks : ι → Task) (db : SagaDb)
    (faults : Nat → Option SagaError) {sched : List ι}
    {d : Config ι Call Call.Ans SagaError Unit (Journal Call Call.Ans SagaError World)}
    (h : (coordinator tasks db faults).exec (Journal.perform (act c)) sched = some d) :
    Accounts tasks db d.world.world d.world.entries := by
  obtain ⟨_, _, _, hacc⟩ := Journal.exec_conforms (P := fun i => (tasks i).protocol)
    (Q := fun _ _ _ => True) (fun _ => Knows tasks db)
    (fun j => Accounts tasks db j.world j.entries) (fun _ _ _ entry hk => hk.append entry)
    (accounts_perform c) (fun _ => {}) (fun i => (tasks i).grants {})
    (fun _ => ⟨nofun, nofun, nofun⟩) (accounts_initial tasks db) h
  exact hacc

/-- However the tasks interleave and whichever calls raise: every published command is one that the
handler of a failure event owes for a saga it has claimed; no saga gets completed; a saga gets to
be compensating by being claimed, and to have failed by being claimed and having had the whole
strategy published. -/
theorem commands_and_statuses_explained [DecidableEq ι] (c : Constraints) (tasks : ι → Task)
    (db : SagaDb) (faults : Nat → Option SagaError) {sched : List ι}
    {d : Config ι Call Call.Ans SagaError Unit (Journal Call Call.Ans SagaError World)}
    (h : (coordinator tasks db faults).exec (Journal.perform (act c)) sched = some d) :
    (∀ q ∈ d.world.world.published, ∃ r s, Claimed tasks d.world.entries r s ∧ q ∈ strategy s r) ∧
    ∀ sagaId,
      (d.world.world.status? sagaId = some SagaStatus.completed.value →
        (World.initial db).status? sagaId = some SagaStatus.completed.value) ∧
      (d.world.world.status? sagaId = some SagaStatus.compensating.value →
        (World.initial db).status? sagaId = some SagaStatus.compensating.value ∨
          ∃ r s, Claimed tasks d.world.entries r s ∧ s.sagaId = sagaId) ∧
      (d.world.world.status? sagaId = some SagaStatus.failed.value →
        (World.initial db).status? sagaId = some SagaStatus.failed.value ∨
          ∃ r s, Claimed tasks d.world.entries r s ∧ s.sagaId = sagaId ∧
            ∀ q ∈ strategy s r, q ∈ d.world.world.published) := by
  have hacc := exec_accounts c tasks db faults h
  refine ⟨hacc.published, fun sagaId => ⟨hacc.status sagaId .completed,
    hacc.status sagaId .compensating, fun hfailed => ?_⟩⟩
  refine (hacc.status sagaId .failed hfailed).imp_right ?_
  rintro ⟨r, s, reason, hclaimed, hid, _, hsent⟩
  exact ⟨r, s, hclaimed, hid, fun q hq => hacc.sent q (hsent q hq)⟩

/-- The handler of a failure event whose second publication raises, and an update of the saga. -/
def sampleTasks : Bool → Task
  | true => .handle (sampleEvent "delivery.failed")
  | false => .update sampleSaga.sagaId { warehouseId := some ⟨9⟩ } 7

theorem commands_and_statuses_explained_sample : ∃ d,
    (coordinator sampleTasks sampleDb (Coroutine.faultAt 6 (.external "broker"))).exec
      (Journal.perform (act .leftAside)) [true, false, true, true, true, false, true] = some d ∧
    (∀ q ∈ d.world.world.published,
      ∃ r s, Claimed sampleTasks d.world.entries r s ∧ q ∈ strategy s r) ∧
    (d.world.world.status? sampleSaga.sagaId = some SagaStatus.completed.value →
      (World.initial sampleDb).status? sampleSaga.sagaId = some SagaStatus.completed.value) := by
  have hrun : ∃ d,
      (coordinator sampleTasks sampleDb (Coroutine.faultAt 6 (.external "broker"))).exec
        (Journal.perform (act .leftAside)) [true, false, true, true, true, false, true] = some d :=
    ⟨_, rfl⟩
  obtain ⟨d, hd⟩ := hrun
  have h := commands_and_statuses_explained .leftAside sampleTasks sampleDb _ hd
  exact ⟨d, hd, h.1, (h.2 _).1⟩

end SupplyChainTracker.Saga
