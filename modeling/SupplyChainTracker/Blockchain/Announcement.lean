import SupplyChainTracker.Blockchain.Evolution

/-!
# Announcements of verified records

The monitor alone over any table: what it announces it has stored before, and no record is
announced twice. A record whose announcement raises is not announced later either.
-/

namespace SupplyChainTracker.Blockchain

/-- The monitor without registrations. -/
def monitorAlone (monitor : ConfirmationMonitor) (passes : List Pass) (db : RecordDb)
    (environment : Environment) :
    Config (Option Empty) Call Call.Ans BlockchainError Unit World :=
  monitored monitor passes (fun k : Empty => k.elim) db environment

section Announced

/-- `publish_event` has been called for a record. -/
def Announced {κ : Type} (recordId : UUID) (tr : List (κ × Call)) : Prop :=
  ∃ i event topics, (i, Call.publishEvent event topics) ∈ tr ∧ event.aggregateId = recordId

/-- An announcement is the first one of its record, which is stored as confirmed because a receipt
says so. -/
def FirstAndVerified {κ : Type} (required : Int) (w : World) (tr : List (κ × Call)) : Call → Prop
  | .publishEvent event _ =>
      ¬ Announced event.aggregateId tr ∧ w.Verified required event.aggregateId
  | _ => True

/-- A record is stored as confirmed that was not so at first. -/
def ConfirmedSince (db : RecordDb) (w : World) (recordId : UUID) : Prop :=
  (∃ row, w.db.records.find? recordId = some row ∧ row.status = .confirmed) ∧
    ∀ old, db.records.find? recordId = some old → old.status ≠ .confirmed

/-- The event of a record is among some events. -/
def About (recordId : UUID) (events : List Event) : Prop :=
  ∃ event ∈ events, event.aggregateId = recordId

variable {κ : Type} {recordId : UUID} {tr : List (κ × Call)} {i : κ}

@[simp] theorem announced_append_publish (event : Event) (topics : List String) :
    Announced recordId (tr ++ [(i, .publishEvent event topics)]) ↔
      Announced recordId tr ∨ event.aggregateId = recordId := by
  simp only [Announced, List.mem_append, List.mem_singleton, Prod.mk.injEq]
  constructor
  · rintro ⟨j, event', topics', hmem | ⟨rfl, heq⟩, hid⟩
    · exact .inl ⟨j, event', topics', hmem, hid⟩
    · cases heq
      exact .inr hid
  · rintro (⟨j, event', topics', hmem, hid⟩ | hid)
    · exact ⟨j, event', topics', .inl hmem, hid⟩
    · exact ⟨i, event, topics, .inr ⟨rfl, rfl⟩, hid⟩

/-- Only an announcement announces. -/
theorem announced_append_of_ne (op : Call) (h : ∀ event topics, op ≠ .publishEvent event topics) :
    Announced recordId (tr ++ [(i, op)]) ↔ Announced recordId tr := by
  simp only [Announced, List.mem_append, List.mem_singleton, Prod.mk.injEq]
  constructor
  · rintro ⟨j, event, topics, hmem | ⟨_, heq⟩, hid⟩
    · exact ⟨j, event, topics, hmem, hid⟩
    · exact absurd heq.symm (h event topics)
  · rintro ⟨j, event, topics, hmem, hid⟩
    exact ⟨j, event, topics, .inl hmem, hid⟩

@[simp] theorem about_append_singleton (events : List Event) (event : Event) :
    About recordId (events ++ [event]) ↔ About recordId events ∨ event.aggregateId = recordId := by
  simp [About, or_and_right, exists_or]

end Announced

/-- What the monitor has announced it has stored, and whatever it stores is announced or is about
to be. -/
structure Announcing (required : Int) (db : RecordDb) (st : Option Empty → Holding) (w : World)
    (tr : List (Option Empty × Call)) : Prop where
  sound : Sound required (fun k : Empty => k.elim) st w
  evolves : db.Evolves w.db
  /-- What is due has not been announced. -/
  due : ∀ id row, (st none).held id = some (row, true) → ¬ Announced id tr
  since : ∀ id, ConfirmedSince db w id ↔
    Announced id tr ∨ ∃ row, (st none).held id = some (row, true)
  verified : ∀ id, Announced id tr → w.Verified required id
  outcome : ∀ id, Announced id tr ↔ About id w.published ∨ About id w.unpublished
  apart : ∀ id, ¬ (About id w.published ∧ About id w.unpublished)

section Steps

variable {required : Int} {db : RecordDb} {st : Option Empty → Holding} {w w' : World}
  {tr : List (Option Empty × Call)} {s' : Holding}

theorem confirmedSince_congr (h : w'.db = w.db) (recordId : UUID) :
    ConfirmedSince db w' recordId ↔ ConfirmedSince db w recordId := by
  rw [ConfirmedSince, ConfirmedSince, h]

/-- A step that neither saves nor announces. -/
theorem Announcing.step_quiet (h : Announcing required db st w tr)
    (hsound : Sound required (fun k : Empty => k.elim) (Function.update st none s') w') {op : Call}
    (hop : ∀ event topics, op ≠ .publishEvent event topics) (hdb : w'.db = w.db)
    (hreceipts : w.receipts ⊆ w'.receipts) (hpublished : w'.published = w.published)
    (hunpublished : w'.unpublished = w.unpublished)
    (hheld : ∀ id row, s'.held id = some (row, true) ↔ (st none).held id = some (row, true)) :
    Announcing required db (Function.update st none s') w' (tr ++ [(none, op)]) where
  sound := hsound
  evolves := hdb ▸ h.evolves
  due id row hrow := by
    rw [Function.update_self, hheld] at hrow
    rw [announced_append_of_ne op hop]
    exact h.due id row hrow
  since id := by
    rw [confirmedSince_congr hdb, announced_append_of_ne op hop, Function.update_self, h.since]
    simp only [hheld]
  verified id hann :=
    (h.verified id ((announced_append_of_ne op hop).mp hann)).mono (hdb ▸ .refl w.db) hreceipts
  outcome id := by
    rw [announced_append_of_ne op hop, hpublished, hunpublished]
    exact h.outcome id
  apart id := by
    rw [hpublished, hunpublished]
    exact h.apart id

/-- Announcements lie before and after a step as they do. -/
theorem unannounced_act (op : Call) (hop : ∀ event topics, op ≠ .publishEvent event topics) :
    (act op w).2.published = w.published ∧ (act op w).2.unpublished = w.unpublished := by
  cases op with
  | publishEvent event topics => exact absurd rfl (hop event topics)
  | sendTransaction payload =>
    simp only [act]
    split <;> exact ⟨rfl, rfl⟩
  | getReceipt txHash =>
    simp only [act]
    split <;> exact ⟨rfl, rfl⟩
  | getPendingRecords limit =>
    simp only [act]
    split <;> exact ⟨rfl, rfl⟩
  | save record =>
    simp only [act]
    split <;> exact ⟨rfl, rfl⟩

/-- A pending record that a run finds has not been confirmed before. -/
theorem not_confirmed_of_evolves {recordId : UUID} {row : RecordRow} (h : db.Evolves w.db)
    (hrow : w.db.records.find? recordId = some row) (hpending : row.status = .pending) :
    ∀ old, db.records.find? recordId = some old → old.status ≠ .confirmed := by
  intro old hold hconfirmed
  obtain ⟨new, hnew, hle⟩ := h recordId old hold
  cases hrow.symm.trans hnew
  rcases hle.status with hsame | ⟨hwas, _⟩
  · rw [hpending, hconfirmed] at hsame
    cases hsame
  · rw [hconfirmed] at hwas
    cases hwas

/-- A pending record has not been announced. -/
theorem Announcing.not_announced (h : Announcing required db st w tr) {recordId : UUID}
    {row : RecordRow} (hrow : w.db.records.find? recordId = some row)
    (hpending : row.status = .pending) : ¬ Announced recordId tr := by
  intro hann
  obtain ⟨_, hstored, hconfirmed, _⟩ := h.verified recordId hann
  cases hrow.symm.trans hstored
  rw [hpending] at hconfirmed
  cases hconfirmed

/-- A pending record that is held and saved has been confirmed since when its announcement is
due. -/
theorem confirmedSince_save {record : BlockchainRecord} {row : RecordRow} {s : Holding}
    (hevolves : db.Evolves w.db) (hheld : s.held record.recordId = some (row, false))
    (hrow : w.db.records.find? record.recordId = some row) (hpending : row.status = .pending) :
    ConfirmedSince db (act (.save record) w).2 record.recordId ↔
      ∃ row', (s.answered (.save record) (act (.save record) w).1).held record.recordId =
        some (row', true) := by
  rcases act_save_cases record w with ⟨e, hanswer, hdb⟩ | ⟨_, hanswer, hput⟩
  · rw [confirmedSince_congr hdb, hanswer]
    refine iff_of_false ?_ (by simp [Holding.answered])
    rintro ⟨⟨row', hrow', hconfirmed⟩, _⟩
    cases hrow.symm.trans hrow'
    rw [hpending] at hconfirmed
    cases hconfirmed
  · rw [RecordDb.target_of_find? hrow] at hput
    have hid : row.recordId = record.recordId := Table.key_of_find? hrow
    have hstored : (act (.save record) w).2.db.records.find? record.recordId =
        some (row.updated record) := by
      rw [hput, ← hid]
      exact Table.find?_put_self _ _
    have hvalue : (row.updated record).status = .confirmed ↔ record.status = .confirmed := by
      change record.status.value = _ ↔ _
      cases record.status <;> simp [TransactionStatus.value]
    have hsince : ConfirmedSince db (act (.save record) w).2 record.recordId ↔
        record.status = .confirmed := by
      rw [ConfirmedSince, hstored, ← hvalue]
      constructor
      · rintro ⟨⟨row', hrow', hconfirmed⟩, _⟩
        exact Option.some.inj hrow' ▸ hconfirmed
      · exact fun hconfirmed =>
          ⟨⟨_, rfl, hconfirmed⟩, not_confirmed_of_evolves hevolves hrow hpending⟩
    rw [hsince, hanswer]
    by_cases hconfirmed : record.status = .confirmed <;>
      simp [Holding.answered, heldAfterSave, hconfirmed, hheld]

/-- A step of the monitor that saves. -/
theorem Announcing.step_save (h : Announcing required db st w tr) {record : BlockchainRecord}
    (hmay : (monitoring required).may (st none) (.save record)) :
    Announcing required db
      (Function.update st none ((st none).answered (.save record) (act (.save record) w).1))
      (act (.save record) w).2 (tr ++ [(none, .save record)]) := by
  have hsound := h.sound.step (i := none) (fun k => k.elim) hmay
  have hevolves := (h.sound.changes (i := none) hmay).evolves
  obtain ⟨row, hheld, hsave⟩ := hmay
  obtain ⟨hrow, hpending⟩ := h.sound.read _ row hheld
  have hop : ∀ event topics, Call.save record ≠ .publishEvent event topics := by
    intro event topics heq
    cases heq
  obtain ⟨hpublished, hunpublished⟩ := unannounced_act (w := w) (.save record) hop
  have hother : ∀ id, id ≠ record.recordId →
      ((st none).answered (.save record) (act (.save record) w).1).held id = (st none).held id :=
    fun _ hid => (st none).held_save_of_ne hid _
  have hnever := h.not_announced hrow hpending
  refine ⟨hsound, h.evolves.trans hevolves, fun id row' hdue => ?_, fun id => ?_, fun id hann => ?_,
    fun id => ?_, fun id => ?_⟩
  · rw [announced_append_of_ne (.save record) hop]
    rw [Function.update_self] at hdue
    by_cases hid : id = record.recordId
    · rw [hid]
      exact hnever
    · exact h.due id row' (hother id hid ▸ hdue)
  · rw [announced_append_of_ne (.save record) hop, Function.update_self]
    by_cases hid : id = record.recordId
    · subst hid
      rw [confirmedSince_save h.evolves hheld hrow hpending, or_iff_right hnever]
    · rw [hother id hid, ← h.since, ConfirmedSince, ConfirmedSince, find?_act_save (Ne.symm hid)]
  · have hbefore := (announced_append_of_ne (.save record) hop).mp hann
    exact (h.verified id hbefore).mono hevolves (receipts_act _ w)
  · rw [announced_append_of_ne (.save record) hop, hpublished, hunpublished]
    exact h.outcome id
  · rw [hpublished, hunpublished]
    exact h.apart id

/-- An announcement is published or raises. -/
theorem act_publish_cases (event : Event) (topics : List String) (w : World) :
    (w.raises = none ∧
      (act (.publishEvent event topics) w).2.published = w.published ++ [event] ∧
      (act (.publishEvent event topics) w).2.unpublished = w.unpublished) ∨
    (w.raises ≠ none ∧ (act (.publishEvent event topics) w).2.published = w.published ∧
      (act (.publishEvent event topics) w).2.unpublished = w.unpublished ++ [event]) := by
  simp only [act]
  cases hraises : w.raises with
  | none => exact .inl ⟨rfl, rfl, rfl⟩
  | some e => exact .inr ⟨Option.some_ne_none e, rfl, rfl⟩

/-- A step of the monitor that announces. -/
theorem Announcing.step_publish (h : Announcing required db st w tr) {event : Event}
    {topics : List String}
    (hmay : (monitoring required).may (st none) (.publishEvent event topics)) :
    Announcing required db
      (Function.update st none
        ((st none).answered (.publishEvent event topics) (act (.publishEvent event topics) w).1))
      (act (.publishEvent event topics) w).2 (tr ++ [(none, .publishEvent event topics)]) := by
  have hsound := h.sound.step (i := none) (fun k => k.elim) hmay
  have hdb := db_publishEvent event topics w
  obtain ⟨row, hheld⟩ := hmay
  have hnever := h.due _ _ hheld
  have hother : ∀ r id, id ≠ event.aggregateId →
      ((st none).answered (.publishEvent event topics) r).held id = (st none).held id :=
    fun r _ hid => (st none).held_publishEvent_of_ne hid topics r
  have hverified : ∀ id, w.Verified required id →
      (act (.publishEvent event topics) w).2.Verified required id := fun id hid =>
    hid.mono (hdb ▸ .refl w.db) (receipts_act _ w)
  refine ⟨hsound, hdb ▸ h.evolves, fun id row' hdue => ?_, fun id => ?_, fun id hann => ?_,
    fun id => ?_, fun id => ?_⟩
  · rw [Function.update_self] at hdue
    have hid : id ≠ event.aggregateId := by
      rintro rfl
      rw [Holding.held_publishEvent] at hdue
      cases hdue
    rw [hother _ id hid] at hdue
    rw [announced_append_publish, not_or]
    exact ⟨h.due id row' hdue, Ne.symm hid⟩
  · rw [confirmedSince_congr hdb, announced_append_publish, Function.update_self, h.since]
    by_cases hid : id = event.aggregateId
    · subst hid
      exact iff_of_true (.inr ⟨row, hheld⟩) (.inl (.inr rfl))
    · simp only [hother _ id hid, Ne.symm hid, or_false]
  · rcases (announced_append_publish event topics).mp hann with hbefore | rfl
    · exact hverified id (h.verified id hbefore)
    · exact hverified _ (h.sound.saved _ row hheld)
  · rw [announced_append_publish, h.outcome]
    obtain ⟨_, hp, hu⟩ | ⟨_, hp, hu⟩ := act_publish_cases event topics w
    · rw [hp, hu, about_append_singleton, or_right_comm]
    · rw [hp, hu, about_append_singleton, or_assoc]
  · have hapart : event.aggregateId = id → ¬ About id w.published ∧ ¬ About id w.unpublished := by
      rintro rfl
      exact not_or.mp ((h.outcome _).not.mp hnever)
    have hbefore := h.apart id
    obtain ⟨_, hp, hu⟩ | ⟨_, hp, hu⟩ := act_publish_cases event topics w
    · rw [hp, hu, about_append_singleton]
      tauto
    · rw [hp, hu, about_append_singleton]
      tauto

/-- Every step of the monitor keeps it so. -/
theorem Announcing.step (h : Announcing required db st w tr) {op : Call}
    (hmay : (monitoring required).may (st none) op) :
    Announcing required db
      (Function.update st none ((st none).answered op (act op w).1)) (act op w).2
      (tr ++ [(none, op)]) := by
  have hsound := h.sound.step (i := none) (fun k => k.elim) hmay
  cases op with
  | sendTransaction payload => exact hmay.elim
  | save record => exact h.step_save hmay
  | publishEvent event topics => exact h.step_publish hmay
  | getReceipt txHash =>
    have hop : ∀ event topics, Call.getReceipt txHash ≠ .publishEvent event topics := by
      intro event topics heq
      cases heq
    obtain ⟨hpublished, hunpublished⟩ := unannounced_act (w := w) (.getReceipt txHash) hop
    refine h.step_quiet hsound hop (db_getReceipt txHash w) (receipts_act _ w) hpublished
      hunpublished fun id row => ?_
    change ((st none).answered (.getReceipt txHash) _).held id = _ ↔ _
    rw [Holding.held_getReceipt]
  | getPendingRecords limit =>
    have hop : ∀ event topics, Call.getPendingRecords limit ≠ .publishEvent event topics := by
      intro event topics heq
      cases heq
    obtain ⟨hpublished, hunpublished⟩ := unannounced_act (w := w) (.getPendingRecords limit) hop
    refine h.step_quiet hsound hop (db_getPendingRecords limit w)
      (receipts_act _ w) hpublished hunpublished fun id row => iff_of_false ?_ (hmay id row)
    cases (act (.getPendingRecords limit) w).1 with
    | error e => exact (Option.some_ne_none (row, true)).symm
    | ok rows =>
      change heldRows rows id ≠ _
      simp [heldRows]

end Steps

section Runs

variable {monitor : ConfirmationMonitor} {passes : List Pass} {db : RecordDb}
  {environment : Environment}

theorem announcing_start :
    Announcing monitor.service.requiredConfirmations db (fun _ => Holding.initial)
      (monitorAlone monitor passes db environment).world [] where
  sound := sound_start ⟨fun k => k.elim, fun k => k.elim⟩ environment
  evolves := .refl db
  due _ _ h := nomatch h
  since id := by
    refine iff_of_false ?_ ?_
    · rintro ⟨⟨row, hrow, hconfirmed⟩, hfirst⟩
      exact hfirst row hrow hconfirmed
    · rintro (⟨_, _, _, hmem, _⟩ | ⟨_, hheld⟩)
      · cases hmem
      · cases hheld
  verified := by
    rintro id ⟨_, _, _, hmem, _⟩
    cases hmem
  outcome id := by simp [Announced, About, monitorAlone, monitored, World.start]
  apart id := by simp [About, monitorAlone, monitored, World.start]

/-- At the end of a run the monitor keeps to its protocol, and what it announces it has stored. -/
theorem announcing_exec
    {c : Config (Option Empty) Call Call.Ans BlockchainError Unit World}
    {sched : List (Option Empty)}
    (h : (monitorAlone monitor passes db environment).exec act sched = some c) :
    ∃ st, c.Conforms
        (protocol monitor.service.requiredConfirmations fun k : Empty => k.elim) Returned st ∧
      Announcing monitor.service.requiredConfirmations db st c.world c.trace := by
  refine Config.exec_conforms
    (fun st w tr => Announcing monitor.service.requiredConfirmations db st w tr) ?_ _
    (conforms_monitored passes db environment) announcing_start h
  rintro st w tr (_ | k) op hi hmay
  · exact ⟨expectedRows_act op w, hi.step hmay⟩
  · exact k.elim

/-- What the monitor may announce has not been announced and is verified. -/
theorem Announcing.firstAndVerified {required : Int} {st : Option Empty → Holding} {w : World}
    {tr : List (Option Empty × Call)} (h : Announcing required db st w tr) {op : Call}
    (hmay : (monitoring required).may (st none) op) : FirstAndVerified required w tr op := by
  cases op with
  | publishEvent event topics =>
    obtain ⟨row, hheld⟩ := hmay
    exact ⟨h.due _ row hheld, h.sound.saved _ row hheld⟩
  | _ => trivial

/-- Whatever raises in a run of the monitor, each record is announced at most once, after it has
been stored as confirmed and on a receipt that says so, and none that is stored as failed. -/
theorem announced_once (monitor : ConfirmationMonitor) (passes : List Pass) (db : RecordDb)
    (environment : Environment) (sched : List (Option Empty))
    {c : Config (Option Empty) Call Call.Ans BlockchainError Unit World}
    (h : (monitorAlone monitor passes db environment).exec act sched = some c) :
    (monitorAlone monitor passes db environment).Guarded act
      (fun c _ op =>
        FirstAndVerified monitor.service.requiredConfirmations c.world c.trace op) sched ∧
    ∀ id row, c.world.db.records.find? id = some row → row.status = .failed →
      ¬ Announced id c.trace := by
  constructor
  · refine (Config.forall_reached_iff_conforms
      (fun st w tr => Announcing monitor.service.requiredConfirmations db st w tr)
      (fun _ _ => True)
      (fun w tr _ op => FirstAndVerified monitor.service.requiredConfirmations w tr op) ?_ ?_ _
      (conforms_monitored passes db environment) announcing_start trivial h).mp
        fun _ _ _ _ => trivial
    · rintro st w tr (_ | k) op hi _ hmay
      · exact ⟨expectedRows_act op w, fun _ => hi.step hmay⟩
      · exact k.elim
    · rintro st w tr (_ | k) op hi _ hmay
      · exact iff_of_true trivial (hi.firstAndVerified hmay)
      · exact k.elim
  · obtain ⟨st, _, hannouncing⟩ := announcing_exec h
    intro id row hrow hfailed hann
    obtain ⟨_, hstored, hconfirmed, _⟩ := hannouncing.verified id hann
    cases hrow.symm.trans hstored
    rw [hfailed] at hconfirmed
    cases hconfirmed

/-- An announcement does not raise. -/
def Delivers (w : World) : Call → Prop
  | .publishEvent _ _ => w.raises = none
  | _ => True

/-- What has not been published stays so. -/
theorem unpublished_grows (op : Call) (w : World) :
    w.unpublished <+: (act op w).2.unpublished := by
  by_cases hop : ∃ event topics, op = .publishEvent event topics
  · obtain ⟨event, topics, rfl⟩ := hop
    obtain ⟨_, _, hu⟩ | ⟨_, _, hu⟩ := act_publish_cases event topics w
    · exact hu ▸ List.prefix_refl _
    · exact hu ▸ List.prefix_append _ _
  · have hu := (unannounced_act (w := w) op fun event topics heq => hop ⟨event, topics, heq⟩).2
    exact hu ▸ List.prefix_refl _

/-- One call leaves nothing unpublished exactly when it is not an announcement that raises. -/
theorem unpublished_act_iff {w : World} (h : w.unpublished = []) (op : Call) :
    (act op w).2.unpublished = [] ↔ Delivers w op := by
  by_cases hop : ∃ event topics, op = .publishEvent event topics
  · obtain ⟨event, topics, rfl⟩ := hop
    obtain ⟨hraises, _, hu⟩ | ⟨hraises, _, hu⟩ := act_publish_cases event topics w
    · exact iff_of_true (hu.trans h) hraises
    · exact iff_of_false (by simp [hu]) hraises
  · have hnot : ∀ event topics, op ≠ .publishEvent event topics :=
      fun event topics heq => hop ⟨event, topics, heq⟩
    rw [(unannounced_act op hnot).2]
    refine iff_of_true h ?_
    cases op with
    | publishEvent event topics => exact absurd rfl (hnot event topics)
    | _ => trivial

/-- Nothing is left unpublished by a run exactly when none of its announcements raises. -/
theorem unpublished_eq_nil_iff {κ : Type} [DecidableEq κ]
    {c d : Config κ Call Call.Ans BlockchainError Unit World} {sched : List κ}
    (hc : c.world.unpublished = []) (h : c.exec act sched = some d) :
    d.world.unpublished = [] ↔ c.Guarded act (fun c _ op => Delivers c.world op) sched := by
  have hgrow : ∀ past d', past <+: sched → c.exec act past = some d' →
      d'.world.unpublished <+: d.world.unpublished := by
    rintro past d' ⟨later, rfl⟩ hpast
    rw [Config.exec_append, hpast, Option.bind_some] at h
    refine Config.exec_of_step
      (fun c' => d'.world.unpublished <+: c'.world.unpublished) ?_ (List.prefix_refl _)
      (Config.along_true later d').guarded h
    exact fun c' i op k hi _ _ => hi.trans (unpublished_grows op c'.world)
  rw [← Config.forall_reached_iff_of_step (fun _ => True)
    (P := fun c => c.world.unpublished = []) (fun _ _ _ _ _ _ _ _ => trivial)
    (fun c i op k _ hP _ => unpublished_act_iff hP op) trivial hc h]
  constructor
  · intro hd past d' hprefix hpast
    exact List.prefix_nil.mp (hd ▸ hgrow past d' hprefix hpast)
  · exact fun hall => hall sched d (List.prefix_refl _) h

/-- After its last pass, every record that has been stored as confirmed during the run has had its
event published exactly when no announcement has raised. -/
theorem all_announced_iff (monitor : ConfirmationMonitor) (passes : List Pass) (db : RecordDb)
    (environment : Environment) (sched : List (Option Empty))
    {c : Config (Option Empty) Call Call.Ans BlockchainError Unit World}
    (h : (monitorAlone monitor passes db environment).exec act sched = some c)
    (hreturned : c.threads none = .ret ()) :
    (∀ id, ConfirmedSince db c.world id → About id c.world.published) ↔
      (monitorAlone monitor passes db environment).Guarded act
        (fun c _ op => Delivers c.world op) sched := by
  obtain ⟨st, hconforms, hannouncing⟩ := announcing_exec h
  have hsettled : (st none).Settled := by
    have hend := hconforms none
    rw [hreturned] at hend
    exact (Coroutine.grants_ret () (st none)).mp hend
  have hsince : ∀ id, ConfirmedSince db c.world id ↔
      About id c.world.published ∨ About id c.world.unpublished := by
    intro id
    rw [hannouncing.since, ← hannouncing.outcome]
    exact or_iff_left fun ⟨row, hheld⟩ => hsettled id row hheld
  rw [← unpublished_eq_nil_iff rfl h]
  constructor
  · intro hall
    refine List.eq_nil_iff_forall_not_mem.mpr fun event hevent => ?_
    have hlost : About event.aggregateId c.world.unpublished := ⟨event, hevent, rfl⟩
    exact hannouncing.apart _ ⟨hall _ ((hsince _).mpr (.inr hlost)), hlost⟩
  · intro hnil id hid
    rcases (hsince id).mp hid with hpublished | ⟨event, hevent, _⟩
    · exact hpublished
    · rw [hnil] at hevent
      cases hevent

end Runs

/-- One record that waits for its confirmations. -/
def pendingRecord : RecordDb := (RecordDb.empty.save {
  shipmentId := ⟨84⟩
  txHash := "0xb7"
  payload := .obj []
  status := .pending
  recordId := ⟨85⟩
  createdAt := 0 }).2

/-- Two passes over one record. -/
def twoPasses : List Pass := [⟨[0, 0, 0], fun _ => ⟨0, ⟨86⟩, 0⟩⟩, ⟨[], fun _ => ⟨0, ⟨87⟩, 0⟩⟩]

/-- The queue does not answer the fourth call; every other call succeeds. -/
def failingQueue : Environment :=
  { verifyingGateway with raises := fun n => if n = 3 then some (.external "no broker") else none }

/-- The first pass announces the record, the second finds none that is pending. -/
theorem announced_once_sample :
    ∃ c, (monitorAlone sampleMonitor twoPasses pendingRecord verifyingGateway).exec act
        [none, none, none, none, none] = some c ∧
      Announced ⟨85⟩ c.trace ∧
      (monitorAlone sampleMonitor twoPasses pendingRecord verifyingGateway).Guarded act
        (fun c _ op =>
          FirstAndVerified sampleMonitor.service.requiredConfirmations c.world c.trace op)
        [none, none, none, none, none] ∧
      ∀ id row, c.world.db.records.find? id = some row → row.status = .failed →
        ¬ Announced id c.trace := by
  refine ⟨_, rfl, ⟨none, _, _, .tail _ (.tail _ (.tail _ (.head _))), rfl⟩, ?_⟩
  exact announced_once sampleMonitor twoPasses pendingRecord verifyingGateway
    [none, none, none, none, none] rfl

/-- An announcement that raises is not made again, although all calls of the next pass succeed. -/
theorem confirmed_unannounced :
    ∃ c, (monitorAlone sampleMonitor twoPasses pendingRecord failingQueue).exec act
        [none, none, none, none, none] = some c ∧
      c.threads none = .ret () ∧ (∀ n, 3 < n → failingQueue.raises n = none) ∧
      ¬ ∀ id, ConfirmedSince pendingRecord c.world id → About id c.world.published := by
  refine ⟨_, rfl, rfl, fun n hn => if_neg (by omega), fun hall => ?_⟩
  have hpublished := hall ⟨85⟩ ⟨⟨_, rfl, rfl⟩, fun old hold => ?_⟩
  · obtain ⟨event, hevent, _⟩ := hpublished
    cases hevent
  · cases hold
    decide

/-- Where no announcement raises, the event of the record has been published. -/
theorem all_announced_sample :
    ∃ c, (monitorAlone sampleMonitor twoPasses pendingRecord verifyingGateway).exec act
        [none, none, none, none, none] = some c ∧
      c.threads none = .ret () ∧
      ((∀ id, ConfirmedSince pendingRecord c.world id → About id c.world.published) ↔
        (monitorAlone sampleMonitor twoPasses pendingRecord verifyingGateway).Guarded act
          (fun c _ op => Delivers c.world op) [none, none, none, none, none]) := by
  refine ⟨_, rfl, rfl, ?_⟩
  exact all_announced_iff sampleMonitor twoPasses pendingRecord verifyingGateway
    [none, none, none, none, none] rfl rfl

end SupplyChainTracker.Blockchain
