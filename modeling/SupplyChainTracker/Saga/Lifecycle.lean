import SupplyChainTracker.Saga.Handling

/-!
# The lifecycle of a saga

Operations run one after the other, call by call. Every call lets each stored saga
evolve along the lifecycle or leaves it alone, and what one call may not undo no
later call undoes either.
-/

namespace SupplyChainTracker.Saga

open SagaCompensationWorker

/-- An operation on the saga coordinator, with the values it draws from the clock. -/
inductive Operation : Type
  | create (dto : SagaCreateDTO) (startedAt updatedAt : DateTime)
  | updateContext (sagaId : UUID) (warehouseId deliveryId : Option UUID)
  | completeSaga (sagaId : UUID) (now : DateTime)
  | failureEvent (r : Received)

namespace Operation

/-- The operation as a coroutine, its result dropped. -/
def program : Operation → Program Unit
  | create dto startedAt updatedAt =>
      (SagaService.create (SagaMapper.createDtoToEntity dto startedAt updatedAt)).bind
        fun _ => .ret ()
  | updateContext sagaId warehouseId deliveryId =>
      (SagaService.updateContext sagaId warehouseId deliveryId).bind fun _ => .ret ()
  | completeSaga sagaId now => (SagaService.completeSaga sagaId now).bind fun _ => .ret ()
  | failureEvent r => handleFailureEvent r

/-- The id an operation creates. -/
def created? : Operation → Option UUID
  | create dto _ _ => some dto.sagaId
  | _ => none

/-- The world after an operation whose calls succeed. -/
def apply (o : Operation) (w : World) : World := (o.program.run (act .leftAside) w).2

/-- One operation after the other; an exception ends only its own operation. -/
def runAll : List Operation → Program Unit := Coroutine.inTurn program

/-- A run applies its operations in order. -/
theorem run_runAll (operations : List Operation) (w : World) :
    ((runAll operations).run (act .leftAside) w).2 = operations.foldl (fun w o => o.apply w) w :=
  congrArg Prod.snd (Coroutine.run_inTurn (act .leftAside) program operations w)

end Operation

/-- Ids under which nothing is stored. -/
def Absent (ids : List UUID) (w : World) : Prop := ∀ sagaId ∈ ids, w.row? sagaId = none

/-- The edges of the lifecycle. -/
def StatusStep (old new : String) : Prop :=
  (old, new) ∈ [(SagaStatus.started.value, SagaStatus.completed.value),
    (SagaStatus.started.value, SagaStatus.compensating.value),
    (SagaStatus.compensating.value, SagaStatus.failed.value)]

/-- Whether a stored status ends the lifecycle. -/
def Ended (status : String) : Prop :=
  status = SagaStatus.completed.value ∨ status = SagaStatus.failed.value

/-- No edge leaves the end of the lifecycle. -/
theorem StatusStep.not_ended {old new : String} (h : StatusStep old new) : ¬ Ended old := by
  unfold StatusStep at h
  simp only [List.mem_cons, Prod.mk.injEq, List.not_mem_nil, or_false] at h
  rcases h with ⟨rfl, _⟩ | ⟨rfl, _⟩ | ⟨rfl, _⟩ <;> simp [Ended]

/-- What never changes in a row, and what is never unset. -/
structure SameOrigin (old new : SagaRow) : Prop where
  sagaType : new.sagaType = old.sagaType
  shipmentId : new.shipmentId = old.shipmentId
  startedAt : new.startedAt = old.startedAt
  warehouse : old.warehouseId.isSome → new.warehouseId.isSome
  delivery : old.deliveryId.isSome → new.deliveryId.isSome

theorem SameOrigin.refl (r : SagaRow) : SameOrigin r r := ⟨rfl, rfl, rfl, id, id⟩

theorem SameOrigin.trans {r s t : SagaRow} (h : SameOrigin r s) (h' : SameOrigin s t) :
    SameOrigin r t :=
  ⟨h'.sagaType.trans h.sagaType, h'.shipmentId.trans h.shipmentId, h'.startedAt.trans h.startedAt,
    fun hs => h'.warehouse (h.warehouse hs), fun hs => h'.delivery (h.delivery hs)⟩

/-- One call: stored sagas take at most one edge of the lifecycle, new ones are started,
and nothing is sent for a saga that has ended. -/
structure Evolves (w w' : World) : Prop where
  stored : ∀ sagaId row, w.row? sagaId = some row → ∃ row', w'.row? sagaId = some row' ∧
    SameOrigin row row' ∧ (row'.status = row.status ∨ StatusStep row.status row'.status)
  inserted : ∀ sagaId row, w.row? sagaId = none → w'.row? sagaId = some row →
    row.status = SagaStatus.started.value
  sent : ∀ sagaId row, w.row? sagaId = some row → Ended row.status →
    w'.commandsFor sagaId = w.commandsFor sagaId

/-- Any number of calls: origins stay, and a saga that has ended stays as it is. -/
def Later (w w' : World) : Prop :=
  ∀ sagaId row, w.row? sagaId = some row → ∃ row', w'.row? sagaId = some row' ∧
    SameOrigin row row' ∧ (Ended row.status →
      row'.status = row.status ∧ w'.commandsFor sagaId = w.commandsFor sagaId)

theorem Evolves.later {w w' : World} (h : Evolves w w') : Later w w' := by
  intro sagaId row hrow
  obtain ⟨row', hrow', horigin, hst⟩ := h.stored sagaId row hrow
  refine ⟨row', hrow', horigin, fun hended => ⟨?_, h.sent sagaId row hrow hended⟩⟩
  exact hst.resolve_right fun hstep => hstep.not_ended hended

theorem Later.trans {u v w : World} (h : Later u v) (h' : Later v w) : Later u w := by
  intro sagaId row hrow
  obtain ⟨row₁, hrow₁, horigin₁, hend₁⟩ := h sagaId row hrow
  obtain ⟨row₂, hrow₂, horigin₂, hend₂⟩ := h' sagaId row₁ hrow₁
  refine ⟨row₂, hrow₂, horigin₁.trans horigin₂, fun hended => ?_⟩
  obtain ⟨hst₁, hsent₁⟩ := hend₁ hended
  obtain ⟨hst₂, hsent₂⟩ := hend₂ (hst₁ ▸ hended)
  exact ⟨hst₂.trans hst₁, hsent₂.trans hsent₁⟩

instance : Trans Later Later Later := ⟨Later.trans⟩

/-- A call that changes no row and sends nothing. -/
theorem Evolves.refl (w : World) : Evolves w w :=
  ⟨fun _ row hrow => ⟨row, hrow, SameOrigin.refl row, .inl rfl⟩,
    fun _ _ hnone hrow => by simp [hnone] at hrow, fun _ _ _ _ => rfl⟩

/-- A save of an edited copy that takes at most one edge of the lifecycle. -/
theorem Evolves.save {w : World} {t : SagaInstance} {row : SagaRow}
    (hrow : w.row? t.sagaId = some row)
    (hst : t.status.value = row.status ∨ StatusStep row.status t.status.value)
    (hwh : row.warehouseId.isSome → t.warehouseId.isSome)
    (hdl : row.deliveryId.isSome → t.deliveryId.isSome) :
    Evolves w (act .leftAside (Call.save t) w).2 := by
  obtain ⟨new, w', hsave, hpub, hnew, hother, hnst, _, _, _, hup⟩ := act_save_edited hrow rfl
  rw [hsave]
  have horigin : SameOrigin row new :=
    ⟨hup.sagaType row rfl, hup.shipmentId, hup.startedAt, fun h => hup.warehouseId ▸ hwh h,
      fun h => hup.deliveryId ▸ hdl h⟩
  refine ⟨fun sagaId row' hrow' => ?_, fun sagaId row' hnone hrow' => ?_,
    fun sagaId _ _ _ => congrArg (List.filter _) hpub⟩
  · by_cases hid : t.sagaId = sagaId
    · subst hid
      cases hrow.symm.trans hrow'
      exact ⟨new, hnew, horigin, hnst ▸ hst⟩
    · exact ⟨row', (hother _ hid).trans hrow', SameOrigin.refl row', .inl rfl⟩
  · by_cases hid : t.sagaId = sagaId
    · subst hid
      simp [hrow] at hnone
    · exact absurd ((hother _ hid).symm.trans hrow') (by simp [hnone])

/-- A save of a started saga under a new id. -/
theorem Evolves.insert {w : World} {t : SagaInstance} (hnone : w.row? t.sagaId = none)
    (hst : t.status = .started) : Evolves w (act .leftAside (Call.save t) w).2 := by
  obtain ⟨new, w', hsave, hpub, hnew, hother, hup, _⟩ := act_save_leftAside t w
  rw [hsave]
  refine ⟨fun sagaId row hrow => ?_, fun sagaId row hnone' hrow => ?_,
    fun sagaId _ _ _ => congrArg (List.filter _) hpub⟩
  · by_cases hid : t.sagaId = sagaId
    · subst hid
      simp [hnone] at hrow
    · exact ⟨row, (hother _ hid).trans hrow, SameOrigin.refl row, .inl rfl⟩
  · by_cases hid : t.sagaId = sagaId
    · subst hid
      cases hnew.symm.trans hrow
      rw [hup.status, hst]
    · exact absurd ((hother _ hid).symm.trans hrow) (by simp [hnone'])

/-- A command of a saga that has not ended. -/
theorem Evolves.publish {w : World} {p : Command × String} {sagaId : UUID} {row : SagaRow}
    (hp : p.1.correlationId = some sagaId) (hrow : w.row? sagaId = some row)
    (hopen : ¬ Ended row.status) :
    Evolves w (act .leftAside (Call.publishCommand p.1 p.2) w).2 := by
  refine ⟨(Evolves.refl w).stored, (Evolves.refl w).inserted, fun other row' hrow' hended => ?_⟩
  rw [commandsFor_publish, if_neg, List.append_nil]
  intro hcorr
  cases hp.symm.trans hcorr
  cases hrow.symm.trans hrow'
  exact hopen hended

/-- Saving a stored saga inserts nothing. -/
theorem Absent.save {ids : List UUID} {w : World} {t : SagaInstance} {row : SagaRow}
    (h : Absent ids w) (hrow : w.row? t.sagaId = some row) :
    Absent ids (act .leftAside (Call.save t) w).2 := by
  intro sagaId hmem
  have hne : t.sagaId ≠ sagaId := by
    rintro rfl
    simp [h _ hmem] at hrow
  rw [row?_save_of_ne _ _ hne]
  exact h sagaId hmem

/-- What is known at each point of the handler about the row it works on. -/
def RowKnown : Stage → World → Prop
  | .guard, _ => True
  | .reread sagaId, w => ∃ row, w.row? sagaId = some row ∧ row.status = SagaStatus.started.value
  | .claim t, w => ∃ row, w.row? t.sagaId = some row ∧ row.status = SagaStatus.started.value ∧
      t = row.entity .started
  | .publish t todo, w => (∃ row, w.row? t.sagaId = some row ∧
      row.status = SagaStatus.compensating.value) ∧
      ∀ p ∈ todo, p.1.correlationId = some t.sagaId
  | .close t, w => ∃ row, w.row? t.sagaId = some row ∧
      row.status = SagaStatus.compensating.value ∧ t = row.entity .compensating
  | .halt _, _ => True

section Handler

variable {r : Received} {w : World} {ids : List UUID}

/-- A saga that can be read is stored under its id with its status. -/
theorem row?_of_get {sagaId : UUID} {t : SagaInstance} (h : w.db.get sagaId = .ok (some t)) :
    ∃ row, w.row? sagaId = some row ∧ row.status = t.status.value ∧ t = row.entity t.status ∧
      t.sagaId = sagaId := by
  obtain ⟨row, hrow, ht⟩ := SagaDb.get_eq_some_iff.mp h
  obtain ⟨hst, he⟩ := rowToEntity_eq_ok_iff.mp ht
  exact ⟨row, hrow, hst, he, SagaDb.sagaId_of_get h⟩

/-- A row found under an id is found under the id of its entity. -/
private theorem row?_entity {sagaId : UUID} {row : SagaRow} (hrow : w.row? sagaId = some row)
    (status : SagaStatus) : w.row? (row.entity status).sagaId = some row := by
  have hid : row.sagaId = sagaId := Table.key_of_find? hrow
  simpa [SagaRow.entity, hid] using hrow

/-- The first look lets through only a saga that is stored as started. -/
private theorem rowKnown_guardNext (w : World) (sagaId : UUID) :
    RowKnown (guardNext (w.db.get sagaId)) w := by
  rcases hget : w.db.get sagaId with e | _ | t
  · trivial
  · trivial
  · simp only [guardNext]
    split
    · rename_i hst
      obtain ⟨row, hrow, hrst, _, hid⟩ := row?_of_get hget
      exact ⟨row, hid ▸ hrow, hrst.trans (congrArg _ hst)⟩
    · trivial

/-- Saving a copy of a row that differs in its status, its failure and its times. -/
private theorem evolves_edited {t : SagaInstance} {row : SagaRow} {status : SagaStatus}
    (hrow : w.row? t.sagaId = some row) (hst : row.status = status.value)
    (hwh : row.warehouseId = t.warehouseId) (hdl : row.deliveryId = t.deliveryId)
    (hstep : StatusStep status.value t.status.value) (habsent : Absent ids w) :
    Evolves w (act .leftAside (Call.save t) w).2 ∧ Absent ids (act .leftAside (Call.save t) w).2 :=
  ⟨Evolves.save hrow (.inr (hst.symm ▸ hstep)) (fun h => hwh ▸ h) (fun h => hdl ▸ h),
    habsent.save hrow⟩

/-- Every call of the handler evolves the sagas and inserts none. -/
theorem evolves_stage (st : Stage) (hknown : RowKnown st w) (habsent : Absent ids w) :
    (chart r st).Always (act .leftAside) False (fun w p => Evolves w p.after)
      (fun _ w => Absent ids w) (fun st w => RowKnown st w ∧ Absent ids w) w := by
  cases st with
  | guard =>
    rcases hcorr : r.event.correlationId with _ | sagaId
    · simp only [chart, hcorr]
      exact habsent
    · rw [chart_guard hcorr]
      exact ⟨⟨Evolves.refl w, rowKnown_guardNext w sagaId, habsent⟩, False.elim⟩
  | reread sagaId =>
    obtain ⟨row, hrow, hst⟩ := hknown
    refine ⟨⟨Evolves.refl w, ?_, habsent⟩, False.elim⟩
    simp only [act, get_of_row? hrow hst]
    exact ⟨row, row?_entity hrow _, hst, rfl⟩
  | claim t =>
    obtain ⟨row, hrow, hst, rfl⟩ := hknown
    obtain ⟨hevolves, habsent'⟩ := evolves_edited hrow hst
      (t := (row.entity .started).markCompensating r.event.eventType (r.now 0)) rfl rfl
      (by simp [StatusStep, SagaInstance.markCompensating]) habsent
    refine ⟨⟨hevolves, ?_, habsent'⟩, False.elim⟩
    obtain ⟨new, w', hact, _, hnew, _, hnst, _, _, _, hup⟩ := act_save_edited hrow
      (t := (row.entity .started).markCompensating r.event.eventType (r.now 0)) rfl
    simp only [hact]
    split
    · trivial
    · have hid : new.sagaId = row.sagaId := hup.sagaId
      exact ⟨⟨new, (congrArg w'.row? hid).trans hnew, hnst⟩,
        fun p hp => correlationId_of_mem_strategy hp⟩
  | publish t todo =>
    obtain ⟨⟨row, hrow, hst⟩, htodo⟩ := hknown
    cases todo with
    | cons p todo =>
      refine ⟨⟨Evolves.publish (htodo p (List.mem_cons_self ..)) hrow ?_, ⟨⟨row, hrow, hst⟩,
        fun q hq => htodo q (List.mem_cons_of_mem _ hq)⟩, habsent⟩, False.elim⟩
      rw [hst]
      simp [Ended]
    | nil =>
      refine ⟨⟨Evolves.refl w, ?_, habsent⟩, False.elim⟩
      simp only [act, get_of_row? hrow hst]
      exact ⟨row, row?_entity hrow _, hst, rfl⟩
  | close t =>
    obtain ⟨row, hrow, hst, rfl⟩ := hknown
    obtain ⟨hevolves, habsent'⟩ := evolves_edited hrow hst
      (t := (row.entity .compensating).markFailed r.event.eventType (failureMessage r) (r.now 1))
      rfl rfl (by simp [StatusStep, SagaInstance.markFailed]) habsent
    refine ⟨⟨hevolves, ?_, habsent'⟩, False.elim⟩
    cases (act .leftAside (Call.save ((row.entity .compensating).markFailed r.event.eventType
      (failureMessage r) (r.now 1))) w).1 <;> trivial
  | halt result => exact habsent

/-- Handling an event evolves the sagas and inserts none. -/
theorem evolves_handleFailureEvent (habsent : Absent ids w) :
    (handleFailureEvent r).Always (act .leftAside) False (fun w p => Evolves w p.after)
      (fun _ w => Absent ids w) w :=
  (follows r).always (fun st _ h => evolves_stage st h.1 h.2) (s := .guard) ⟨trivial, habsent⟩

end Handler

section Operations

variable {w : World} {ids : List UUID}

/-- A method that loads a saga and saves an edited copy of it, or stops. -/
private theorem evolves_load {sagaId : UUID} {f : SagaInstance → Program SagaInstance}
    (habsent : Absent ids w)
    (hf : ∀ t row, w.row? t.sagaId = some row → row.status = t.status.value →
      t = row.entity t.status →
      (f t).Always (act .leftAside) False (fun w p => Evolves w p.after)
        (fun _ w => Absent ids w) w) :
    (((SagaService.load sagaId).bind f).bind fun _ => .ret ()).Always (act .leftAside) False
      (fun w p => Evolves w p.after) (fun (_ : Except SagaError Unit) w => Absent ids w) w := by
  rw [SagaService.load_bind]
  refine ⟨⟨Evolves.refl w, ?_⟩, False.elim⟩
  rcases hget : w.db.get sagaId with e | _ | t
  · simp only [act, hget]
    exact habsent
  · simp only [act, hget]
    exact habsent
  · simp only [act, hget]
    obtain ⟨row, hrow, hst, he, hid⟩ := row?_of_get hget
    refine Coroutine.Always.bind (Coroutine.Always.mono (fun result w' h => ?_)
      (hf t row (hid.symm ▸ hrow) hst he))
    cases result <;> exact h

/-- A single save whose effect is known. -/
private theorem evolves_single {t : SagaInstance}
    (hsave : Evolves w (act .leftAside (Call.save t) w).2)
    (habsent : Absent ids (act .leftAside (Call.save t) w).2) :
    (Coroutine.perform (Call.save t) : Program SagaInstance).Always (act .leftAside) False
      (fun w p => Evolves w p.after) (fun _ w => Absent ids w) w := by
  refine ⟨⟨hsave, ?_⟩, False.elim⟩
  cases (act .leftAside (Call.save t) w).1 <;> exact habsent

/-- Every operation evolves the sagas and inserts nothing but what it creates. -/
theorem evolves_operation (o : Operation) (hnew : ∀ sagaId ∈ o.created?, w.row? sagaId = none)
    (hids : ∀ sagaId ∈ o.created?, sagaId ∉ ids) (habsent : Absent ids w) :
    o.program.Always (act .leftAside) False (fun w p => Evolves w p.after)
      (fun _ w => Absent ids w) w := by
  cases o with
  | create dto startedAt updatedAt =>
    have hnone : w.row? dto.sagaId = none := hnew dto.sagaId rfl
    have hinsert := Evolves.insert (w := w)
      (t := SagaMapper.createDtoToEntity dto startedAt updatedAt) hnone rfl
    have habsent' : Absent ids (act .leftAside
        (Call.save (SagaMapper.createDtoToEntity dto startedAt updatedAt)) w).2 := by
      intro sagaId hmem
      have hne : dto.sagaId ≠ sagaId := fun he => hids dto.sagaId rfl (he ▸ hmem)
      rw [row?_save_of_ne _ _ hne]
      exact habsent sagaId hmem
    refine Coroutine.Always.bind (Coroutine.Always.mono (fun result w' h => ?_)
      (evolves_single hinsert habsent'))
    cases result <;> exact h
  | updateContext sagaId warehouseId deliveryId =>
    refine evolves_load habsent fun t row hrow hst he => ?_
    split
    · have hwh : row.warehouseId = t.warehouseId := by rw [he]; rfl
      have hdl : row.deliveryId = t.deliveryId := by rw [he]; rfl
      refine evolves_single (Evolves.save hrow (.inl hst.symm) ?_ ?_) (habsent.save hrow)
      · rw [hwh]
        cases warehouseId <;> simp [SagaService.withContext]
      · rw [hdl]
        cases deliveryId <;> simp [SagaService.withContext]
    · exact habsent
  | completeSaga sagaId now =>
    refine evolves_load habsent fun t row hrow hst he => ?_
    split
    · exact habsent
    · rename_i hstarted
      have hstep : StatusStep t.status.value (t.markCompleted now).status.value := by
        rw [not_not.mp hstarted]
        simp [StatusStep, SagaInstance.markCompleted]
      have hwh : row.warehouseId = t.warehouseId := by rw [he]; rfl
      have hdl : row.deliveryId = t.deliveryId := by rw [he]; rfl
      obtain ⟨hevolves, habsent'⟩ := evolves_edited (t := t.markCompleted now) hrow hst hwh hdl
        hstep habsent
      exact evolves_single hevolves habsent'
  | failureEvent r => exact evolves_handleFailureEvent habsent

/-- A run of operations that create each id once, and only ids not stored before. -/
def FreshIds (operations : List Operation) (w : World) : Prop :=
  (operations.filterMap Operation.created?).Nodup ∧
    Absent (operations.filterMap Operation.created?) w

/-- Every call of a run with fresh ids evolves the sagas. -/
theorem evolves_runAll (operations : List Operation) (h : FreshIds operations w) :
    (Operation.runAll operations).Always (act .leftAside) False (fun w p => Evolves w p.after)
      (fun _ w => FreshIds [] w) w := by
  refine Coroutine.Always.inTurn (fun o os w h => ?_) h
  obtain ⟨hnodup, habsent⟩ := h
  have hsplit : (o :: os).filterMap Operation.created? =
      o.created?.toList ++ os.filterMap Operation.created? := by
    cases ho : o.created? <;> simp [ho]
  rw [hsplit] at hnodup habsent
  obtain ⟨_, hnodup', hdisj⟩ := List.nodup_append.mp hnodup
  have hnew : ∀ sagaId ∈ o.created?, w.row? sagaId = none := fun sagaId hmem =>
    habsent sagaId (List.mem_append_left _ (Option.mem_toList.mpr hmem))
  have hids : ∀ sagaId ∈ o.created?, sagaId ∉ os.filterMap Operation.created? :=
    fun sagaId hmem hmem' => hdisj sagaId (Option.mem_toList.mpr hmem) sagaId hmem' rfl
  have habsent' : Absent (os.filterMap Operation.created?) w := fun sagaId hmem =>
    habsent sagaId (List.mem_append_right _ hmem)
  exact Coroutine.Always.mono (fun _ _ h => ⟨hnodup', h⟩)
    (evolves_operation o hnew hids habsent')

end Operations

/-- In a sequential run of operations with fresh ids every call moves each saga along the
lifecycle or not at all, and no later call undoes what an earlier one made final. -/
theorem lifecycle_runAll (db : SagaDb) (operations : List Operation)
    (hfresh : FreshIds operations (World.initial db)) :
    let states := (Operation.runAll operations).reached (act .leftAside) Coroutine.noFaults
      (World.initial db)
    states.IsChain Evolves ∧ states.Pairwise Later := by
  have hchain := (evolves_runAll operations hfresh).isChain_history Coroutine.noFaults
    (fun _ h => h rfl)
  exact ⟨hchain, List.isChain_iff_pairwise.mp (hchain.imp fun _ _ h => h.later)⟩

/-- A saga is created, fails and is then the target of every other operation. -/
def sampleOperations : List Operation :=
  [.create ⟨⟨7⟩, "CREATE_SHIPMENT", ⟨2⟩, none, none⟩ 0 0,
    .failureEvent (sampleEvent "delivery.failed"),
    .updateContext ⟨1⟩ (some ⟨9⟩) none,
    .completeSaga ⟨1⟩ 5]

theorem lifecycle_runAll_sample :
    let states := (Operation.runAll sampleOperations).reached (act .leftAside)
      Coroutine.noFaults (World.initial sampleDb)
    states.IsChain Evolves ∧ states.Pairwise Later :=
  lifecycle_runAll sampleDb sampleOperations
    ⟨by decide, fun sagaId hmem => by
      obtain rfl : sagaId = ⟨7⟩ := by simpa [sampleOperations, Operation.created?] using hmem
      decide⟩

end SupplyChainTracker.Saga
