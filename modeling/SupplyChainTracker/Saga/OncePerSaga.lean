import SupplyChainTracker.Saga.Calls

/-!
# One compensation per saga

One worker handles failure events one after the other and any call may raise.
The invariant ties the stored status to the commands already sent: none while
the saga is started, a prefix of one event's strategy while it is compensating
and the whole strategy once it is failed.
-/

namespace SupplyChainTracker.Saga

open SagaCompensationWorker

/-- Commands that a list of events explains: none, or a prefix of the strategy of one
event addressed to the saga. -/
def PrefixOfOne (s : SagaInstance) (events : List Received) (sent : List (Command × String)) :
    Prop :=
  sent = [] ∨ ∃ d ∈ events, d.event.correlationId = some s.sagaId ∧ sent <+: strategy s d

/-- Commands that fulfil the strategy of one event addressed to the saga. -/
def AllOfOne (s : SagaInstance) (events : List Received) (sent : List (Command × String)) : Prop :=
  ∃ d ∈ events, d.event.correlationId = some s.sagaId ∧ sent = strategy s d

/-- Nothing has happened to a started saga. -/
def Untouched (s : SagaInstance) (w : World) : Prop :=
  w.Holds s .started ∧ w.commandsFor s.sagaId = []

/-- The stored status of a saga explains the commands sent for it. -/
inductive Explained (s : SagaInstance) (events : List Received) (w : World) : Prop
  | started (h : Untouched s w)
  | compensating (h : w.Holds s .compensating)
      (sent : PrefixOfOne s events (w.commandsFor s.sagaId))
  | failed (h : w.Holds s .failed) (sent : AllOfOne s events (w.commandsFor s.sagaId))

namespace Explained

variable {s : SagaInstance} {events : List Received} {w : World}

/-- A saga found started has not been touched. -/
theorem untouched (h : Explained s events w) (hst : w.Holds s .started) : Untouched s w := by
  cases h with
  | started h => exact h
  | compensating h _ => cases h.unique hst
  | failed h _ => cases h.unique hst

/-- Some status is stored. -/
theorem holds (h : Explained s events w) : ∃ status, w.Holds s status := by
  cases h with
  | started h => exact ⟨_, h.1⟩
  | compensating h _ => exact ⟨_, h⟩
  | failed h _ => exact ⟨_, h⟩

/-- The commands sent are a prefix of one strategy in every status. -/
theorem prefixOfOne (h : Explained s events w) :
    PrefixOfOne s events (w.commandsFor s.sagaId) := by
  cases h with
  | started h => exact .inl h.2
  | compensating _ sent => exact sent
  | failed _ sent =>
    obtain ⟨d, hd, hcorr, hsent⟩ := sent
    exact .inr ⟨d, hd, hcorr, hsent ▸ List.prefix_refl _⟩

/-- Saving another saga changes nothing. -/
theorem save_of_ne (h : Explained s events w) {t : SagaInstance} (ht : t.sagaId ≠ s.sagaId)
    (c : Constraints) : Explained s events (act c (Call.save t) w).2 := by
  cases h with
  | started h => exact .started ⟨h.1.save_of_ne ht c, h.2⟩
  | compensating h sent => exact .compensating (h.save_of_ne ht c) sent
  | failed h sent => exact .failed (h.save_of_ne ht c) sent

/-- Publishing a command of another saga changes nothing. -/
theorem publish_of_ne (h : Explained s events w) {p : Command × String}
    (hp : p.1.correlationId ≠ some s.sagaId) (c : Constraints) :
    Explained s events (act c (Call.publishCommand p.1 p.2) w).2 := by
  have hsent := commandsFor_publish c w p s.sagaId
  rw [if_neg hp, List.append_nil] at hsent
  cases h with
  | started h => exact .started ⟨h.1, hsent.trans h.2⟩
  | compensating h sent => exact .compensating h (hsent ▸ sent)
  | failed h sent => exact .failed h (hsent ▸ sent)

end Explained

/-- A compensating saga whose remaining commands are `todo`. -/
def Sending (s : SagaInstance) (r : Received) (todo : List (Command × String)) (w : World) : Prop :=
  w.Holds s .compensating ∧ w.commandsFor s.sagaId ++ todo = strategy s r

/-- What is known at each point of the handler of one event. -/
def HandlerInv (s : SagaInstance) (events : List Received) (r : Received) :
    Stage → World → Prop
  | .guard, w => Explained s events w
  | .reread sagaId, w => r.event.correlationId = some sagaId ∧ Explained s events w ∧
      (sagaId = s.sagaId → Untouched s w)
  | .claim t, w => r.event.correlationId = some t.sagaId ∧ Explained s events w ∧
      (t.sagaId = s.sagaId → SameParticipants s t ∧ Untouched s w)
  | .publish t todo, w => r.event.correlationId = some t.sagaId ∧ Explained s events w ∧
      (∀ p ∈ todo, p.1.correlationId = some t.sagaId) ∧ (t.sagaId = s.sagaId → Sending s r todo w)
  | .close t, w => r.event.correlationId = some t.sagaId ∧ Explained s events w ∧
      (t.sagaId = s.sagaId → SameParticipants s t ∧ Sending s r [] w)
  | .halt _, w => Explained s events w

variable {s : SagaInstance} {events : List Received} {r : Received} {w : World}

/-- Every point of the handler keeps the stored status explained. -/
theorem HandlerInv.explained {st : Stage} (h : HandlerInv s events r st w) :
    Explained s events w := by
  cases st with
  | guard => exact h
  | reread _ => exact h.2.1
  | claim _ => exact h.2.1
  | publish _ _ => exact h.2.1
  | close _ => exact h.2.1
  | halt _ => exact h

/-- What reading the saga itself returns once its row is known. -/
private theorem get_eq (hw : Explained s events w) {sagaId : UUID} {t : SagaInstance}
    (hid : sagaId = s.sagaId) (hget : w.db.get sagaId = .ok (some t)) :
    SameParticipants s t ∧ w.Holds s t.status := by
  subst hid
  obtain ⟨status, hst⟩ := hw.holds
  obtain ⟨t', ht', hsame, rfl⟩ := hst.get
  cases hget.symm.trans ht'
  exact ⟨hsame, hst⟩

private theorem guard_next (h : Explained s events w) {sagaId : UUID}
    (hcorr : r.event.correlationId = some sagaId) {t : SagaInstance}
    (hget : w.db.get sagaId = .ok (some t)) (hst : t.status = .started) :
    HandlerInv s events r (.reread t.sagaId) w := by
  have hid := SagaDb.sagaId_of_get hget
  refine ⟨hid ▸ hcorr, h, fun he => h.untouched ?_⟩
  exact hst ▸ (get_eq h (hid.symm.trans he) hget).2

private theorem reread_next {sagaId : UUID} (h : HandlerInv s events r (.reread sagaId) w)
    {t : SagaInstance} (hget : w.db.get sagaId = .ok (some t)) :
    HandlerInv s events r (.claim t) w := by
  have hid := SagaDb.sagaId_of_get hget
  refine ⟨hid ▸ h.1, h.2.1, fun he => ?_⟩
  exact ⟨(get_eq h.2.1 (hid.symm.trans he) hget).1, h.2.2 (hid.symm.trans he)⟩

/-- Claiming the saga starts its strategy from the first command. -/
private theorem claim_next {t : SagaInstance}
    (h : HandlerInv s events r (.claim t) w) (c : Constraints) :
    Explained s events (act c (Call.save (t.markCompensating r.event.eventType (r.now 0))) w).2 ∧
    ∀ saved, (act c (Call.save (t.markCompensating r.event.eventType (r.now 0))) w).1 = .ok saved →
      HandlerInv s events r (.publish saved (strategy saved r))
        (act c (Call.save (t.markCompensating r.event.eventType (r.now 0))) w).2 := by
  obtain ⟨hcorr, hexp, hself⟩ := h
  by_cases hid : t.sagaId = s.sagaId
  · obtain ⟨hsame, hst, hsent⟩ := hself hid
    have hmark := hsame.markCompensating r.event.eventType (r.now 0)
    rcases hst.save hmark c with ⟨e, he⟩ | ⟨t', w', hw, hsame', hst', hpub⟩
    · rw [he]
      exact ⟨hexp, fun _ hs => by cases hs⟩
    · rw [hw]
      have hsent' : w'.commandsFor s.sagaId = [] := by
        rw [← hsent]
        exact congrArg (List.filter _) hpub
      have hexp' : Explained s events w' := .compensating hst' (.inl hsent')
      refine ⟨hexp', fun saved hs => ?_⟩
      cases hs
      refine ⟨hcorr.trans (congrArg some (hid.trans hsame'.sagaId.symm)), hexp',
        fun p hp => correlationId_of_mem_strategy hp, fun _ => ⟨hst', ?_⟩⟩
      rw [hsent', List.nil_append, strategy_congr hsame']
  · have hexp' := hexp.save_of_ne (t := t.markCompensating r.event.eventType (r.now 0)) hid c
    refine ⟨hexp', fun saved hs => ?_⟩
    have hsaved : saved.sagaId = t.sagaId := by
      rcases act_save_cases c (t.markCompensating r.event.eventType (r.now 0)) w with
        ⟨e, he⟩ | ⟨new, w', hw, _, _, _, hup⟩
      · rw [he] at hs
        cases hs
      · rw [hw] at hs
        rw [(rowToEntity_eq_ok_iff.mp hs).2]
        exact hup.sagaId
    exact ⟨hcorr.trans (congrArg some hsaved.symm), hexp',
      fun p hp => correlationId_of_mem_strategy hp, fun he => absurd (hsaved.symm.trans he) hid⟩

/-- Publishing the next command lengthens the prefix. -/
private theorem publish_next (hr : r ∈ events) {t : SagaInstance} {p : Command × String}
    {todo : List (Command × String)} (h : HandlerInv s events r (.publish t (p :: todo)) w)
    (c : Constraints) :
    HandlerInv s events r (.publish t todo) (act c (Call.publishCommand p.1 p.2) w).2 := by
  obtain ⟨hcorr, hexp, htodo, hself⟩ := h
  have hp := htodo p (List.mem_cons_self ..)
  have htodo' : ∀ q ∈ todo, q.1.correlationId = some t.sagaId :=
    fun q hq => htodo q (List.mem_cons_of_mem _ hq)
  have hsent := commandsFor_publish c w p s.sagaId
  by_cases hid : t.sagaId = s.sagaId
  · obtain ⟨hst, hrest⟩ := hself hid
    rw [if_pos (hp.trans (congrArg some hid))] at hsent
    have hrest' : ((act c (Call.publishCommand p.1 p.2) w).2).commandsFor s.sagaId ++ todo =
        strategy s r := by
      rw [hsent, List.append_assoc, List.singleton_append]
      exact hrest
    exact ⟨hcorr, .compensating hst (.inr ⟨r, hr, hcorr.trans (congrArg some hid), todo, hrest'⟩),
      htodo', fun _ => ⟨hst, hrest'⟩⟩
  · have hne : p.1.correlationId ≠ some s.sagaId := fun he =>
      hid (Option.some.inj (hp.symm.trans he))
    exact ⟨hcorr, hexp.publish_of_ne hne c, htodo', fun he => absurd he hid⟩

private theorem publish_done {t t' : SagaInstance} (h : HandlerInv s events r (.publish t []) w)
    (hget : w.db.get t.sagaId = .ok (some t')) : HandlerInv s events r (.close t') w := by
  obtain ⟨hcorr, hexp, _, hself⟩ := h
  have hid := SagaDb.sagaId_of_get hget
  exact ⟨hcorr.trans (congrArg some hid.symm), hexp, fun he =>
    ⟨(get_eq hexp (hid.symm.trans he) hget).1, hself (hid.symm.trans he)⟩⟩

/-- Closing the saga happens after the last command. -/
private theorem close_next (hr : r ∈ events) {t : SagaInstance}
    (h : HandlerInv s events r (.close t) w) (c : Constraints) :
    Explained s events
      (act c (Call.save (t.markFailed r.event.eventType (failureMessage r) (r.now 1))) w).2 := by
  obtain ⟨hcorr, hexp, hself⟩ := h
  by_cases hid : t.sagaId = s.sagaId
  · obtain ⟨hsame, hst, hsent⟩ := hself hid
    have hmark := hsame.markFailed r.event.eventType (failureMessage r) (r.now 1)
    rcases hst.save hmark c with ⟨e, he⟩ | ⟨t', w', hw, _, hst', hpub⟩
    · rw [he]
      exact hexp
    · rw [hw]
      refine .failed hst' ⟨r, hr, hcorr.trans (congrArg some hid), ?_⟩
      rw [← hsent, List.append_nil]
      exact congrArg (List.filter _) hpub
  · exact hexp.save_of_ne (t := t.markFailed r.event.eventType (failureMessage r) (r.now 1)) hid c

/-- Every call of the handler, failing or not, keeps the invariant. -/
theorem HandlerInv.step (hr : r ∈ events) (c : Constraints) (st : Stage)
    (h : HandlerInv s events r st w) :
    (chart r st).Always (act c) True (fun _ p => Explained s events p.after)
      (fun _ w => Explained s events w) (HandlerInv s events r) w := by
  have hexp := h.explained
  cases st with
  | guard =>
    rcases hcorr : r.event.correlationId with _ | sagaId
    · simp only [chart, hcorr]
      exact hexp
    · simp only [chart, hcorr]
      refine ⟨⟨hexp, ?_⟩, fun _ e => ⟨hexp, hexp⟩⟩
      rcases hget : w.db.get sagaId with e | _ | t
      · simp only [act, hget]
        exact hexp
      · simp only [act, hget]
        exact hexp
      · simp only [act, hget, guardNext]
        split
        · rename_i hst
          exact guard_next hexp hcorr hget hst
        · exact hexp
  | reread sagaId =>
    refine ⟨⟨hexp, ?_⟩, fun _ e => ⟨hexp, hexp⟩⟩
    rcases hget : w.db.get sagaId with e | _ | t
    · simp only [act, hget]
      exact hexp
    · simp only [act, hget]
      exact hexp
    · simp only [act, hget]
      split
      · exact hexp
      · exact reread_next h hget
  | claim t =>
    obtain ⟨hafter, hnext⟩ := claim_next h c
    refine ⟨⟨hafter, ?_⟩, fun _ e => ⟨hexp, hexp⟩⟩
    rcases hans : (act c (Call.save (t.markCompensating r.event.eventType (r.now 0))) w).1 with
      e | saved
    · exact hafter
    · dsimp only
      split
      · exact hafter
      · exact hnext saved hans
  | publish t todo =>
    cases todo with
    | cons p todo =>
      have hnext := publish_next hr h c
      exact ⟨⟨hnext.explained, hnext⟩, fun _ e => ⟨hexp, hexp⟩⟩
    | nil =>
      refine ⟨⟨hexp, ?_⟩, fun _ e => ⟨hexp, hexp⟩⟩
      rcases hget : w.db.get t.sagaId with e | _ | t'
      · simp only [act, hget]
        exact hexp
      · simp only [act, hget]
        exact hexp
      · simp only [act, hget]
        exact publish_done h hget
  | close t =>
    have hafter := close_next hr h c
    refine ⟨⟨hafter, ?_⟩, fun _ e => ⟨hexp, hexp⟩⟩
    cases (act c (Call.save (t.markFailed r.event.eventType (failureMessage r) (r.now 1))) w).1 <;>
      exact hafter
  | halt result => exact hexp

/-- Handling one event keeps the stored status explained, whatever calls raise. -/
theorem explained_handleFailureEvent (hr : r ∈ events) (c : Constraints)
    (h : Explained s events w) :
    (handleFailureEvent r).Always (act c) True (fun _ p => Explained s events p.after)
      (fun _ w => Explained s events w) w :=
  (follows r).always (fun st _ hst => HandlerInv.step hr c st hst) (s := .guard) h

/-- So does handling any number of events one after the other. -/
theorem explained_run {received : List Received} (hsub : ∀ r ∈ received, r ∈ events)
    (c : Constraints) (h : Explained s events w) :
    (run received).Always (act c) True (fun _ p => Explained s events p.after)
      (fun _ w => Explained s events w) w := by
  induction received generalizing w with
  | nil => exact h
  | cons r rs ih =>
    have hrs : ∀ r ∈ rs, r ∈ events := fun r' hr' => hsub r' (List.mem_cons_of_mem _ hr')
    refine Coroutine.Always.bind (Coroutine.Always.tryCatch ?_)
    refine Coroutine.Always.mono (fun result w' hw' => ?_)
      (explained_handleFailureEvent (hsub r (List.mem_cons_self ..)) c h)
    cases result <;> exact ih hrs hw'

/-- In every state of a worker's run the commands sent for a saga that was started are a
prefix of the strategy of one received event, none of them twice, and a failed saga has
been sent the whole strategy of one received event. -/
theorem commandsFor_run_prefix (c : Constraints) (db : SagaDb) (s : SagaInstance)
    (hget : db.get s.sagaId = .ok (some s)) (hst : s.status = .started)
    (events : List Received) (faults : Nat → Option SagaError) :
    ∀ w ∈ (run events).reached (act c) faults (World.initial db),
      PrefixOfOne s events (w.commandsFor s.sagaId) ∧
      ((w.commandsFor s.sagaId).map fun p => p.1.commandType).Nodup ∧
      (w.status? s.sagaId = some SagaStatus.failed.value →
        AllOfOne s events (w.commandsFor s.sagaId)) := by
  have hinit : Explained s events (World.initial db) :=
    .started ⟨hst ▸ World.holds_of_get hget, commandsFor_initial db s.sagaId⟩
  have hall := (explained_run (fun _ h => h) c hinit).forall_reached hinit faults
    (fun _ _ => trivial)
  intro w hw
  have hexp := hall w hw
  refine ⟨hexp.prefixOfOne, ?_, ?_⟩
  · rcases hexp.prefixOfOne with hnil | ⟨d, _, _, hpre⟩
    · simp [hnil]
    · exact (nodup_strategy s d).sublist (hpre.sublist.map _)
  · intro hfailed
    have hne : ∀ status, w.Holds s status → status = .failed := fun status hheld =>
      SagaStatus.value_injective (Option.some.inj (hheld.status?.symm.trans hfailed))
    cases hexp with
    | started h => cases hne _ h.1
    | compensating h _ => cases hne _ h
    | failed _ sent => exact sent

/-- The run over one `delivery.failed` event whose second command cannot be sent ends with one
command sent and the saga compensating. -/
theorem commandsFor_run_prefix_sample :
    ∃ w ∈ (run [sampleEvent "delivery.failed"]).reached (act .leftAside)
        (Coroutine.faultAt 4 (.external "broker down")) (World.initial sampleDb),
      (w.commandsFor sampleSaga.sagaId).length = 1 ∧
      w.status? sampleSaga.sagaId = some SagaStatus.compensating.value ∧
      PrefixOfOne sampleSaga [sampleEvent "delivery.failed"] (w.commandsFor sampleSaga.sagaId) ∧
      ((w.commandsFor sampleSaga.sagaId).map fun p => p.1.commandType).Nodup ∧
      (w.status? sampleSaga.sagaId = some SagaStatus.failed.value →
        AllOfOne sampleSaga [sampleEvent "delivery.failed"] (w.commandsFor sampleSaga.sagaId)) :=
  have hlast := List.getLast_mem (by simp [Coroutine.reached] :
    (run [sampleEvent "delivery.failed"]).reached (act .leftAside)
      (Coroutine.faultAt 4 (.external "broker down")) (World.initial sampleDb) ≠ [])
  ⟨_, hlast, by rfl, by rfl, commandsFor_run_prefix .leftAside sampleDb sampleSaga rfl rfl
    [sampleEvent "delivery.failed"] (Coroutine.faultAt 4 (.external "broker down")) _ hlast⟩

end SupplyChainTracker.Saga
