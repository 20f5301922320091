import SupplyChainTracker.Saga.Calls

/-!
# What a context update stores

The handler merges every field of a request into its copy of the saga and hands on the two ids
only. A status, a step or an error that a request brings is stored only where it has been stored
before.
-/

namespace SupplyChainTracker.Saga

open SagaRouter

/-- The stored texts fit the columns that an upsert rewrites. -/
def SagaDb.Fits (c : Constraints) (db : SagaDb) : Prop :=
  ∀ row ∈ db.sagas.rows, varchar? c.columnWidths 100 row.failedStep = .ok row.failedStep

/-- What has been assigned to a column fits it. -/
theorem varchar_of_eq_ok {enforced : Bool} {limit : Nat} {text assigned : String}
    (h : varchar enforced limit text = .ok assigned) :
    varchar enforced limit assigned = .ok assigned := by
  unfold varchar at h
  split_ifs at h with hlong hblank
  · cases h
    simp [varchar]
  · cases h
    simp [varchar, hlong]

theorem varchar?_of_eq_ok {enforced : Bool} {limit : Nat} {text assigned : Option String}
    (h : varchar? enforced limit text = .ok assigned) :
    varchar? enforced limit assigned = .ok assigned := by
  cases text with
  | none =>
    cases h
    rfl
  | some text =>
    cases htext : varchar enforced limit text with
    | error e => simp [varchar?, htext, Except.map] at h
    | ok fitted =>
      simp only [varchar?, htext, Except.map, Except.ok.injEq] at h
      subst h
      simp [varchar?, varchar_of_eq_ok htext, Except.map]

section Save

variable {c : Constraints} {db : SagaDb} {t : SagaInstance}

/-- The step of a proposed row has been assigned to its column. -/
theorem Constraints.failedStep_of_proposed {p : SagaRow} (h : c.proposed t = .ok p) :
    varchar? c.columnWidths 100 t.failedStep = .ok p.failedStep := by
  have hstep : t.toRow.failedStep = t.failedStep := rfl
  unfold Constraints.proposed at h
  split at h
  · rename_i hfailed
    cases h
    exact hstep ▸ hfailed
  · cases h
  · cases h
  · cases h

/-- A saved row fits its columns. -/
theorem SagaDb.Fits.save (h : db.Fits c) : (db.save c t).2.Fits c := by
  unfold SagaDb.save
  split
  · exact h
  · rename_i p hp
    split
    · exact h
    · intro row hrow
      rcases (db.sagas.mem_put _ row).mp hrow with rfl | ⟨hrow, _⟩
      · have hstep : (db.target p).failedStep = p.failedStep := by
          cases hf : db.sagas.find? p.sagaId with
          | none => rw [SagaDb.target_of_none hf]
          | some old =>
            obtain ⟨_, htarget⟩ := SagaDb.target_of_some hf
            rw [htarget]
        rw [hstep]
        exact varchar?_of_eq_ok (Constraints.failedStep_of_proposed hp)
      · exact h row hrow

/-- Saving a copy of a stored saga is refused, or leaves the saga with what the copy has in the
columns that the upsert takes over. -/
theorem SagaDb.save_stored {row : SagaRow} (hrow : db.sagas.find? t.sagaId = some row)
    (hfits : varchar? c.columnWidths 100 t.failedStep = .ok t.failedStep) :
    (∃ e, db.save c t = (.error e, db)) ∨
    ∃ completedAt, (db.save c t).2.sagas.find? t.sagaId = some ⟨row.sagaId, row.sagaType,
      row.shipmentId, t.warehouseId, t.deliveryId, t.status.value, row.startedAt, db.now,
      completedAt, t.failedStep, t.errorMessage, row.retryCount⟩ := by
  unfold SagaDb.save
  split
  · exact .inl ⟨_, rfl⟩
  · rename_i p hp
    split
    · exact .inl ⟨_, rfl⟩
    · have hstep : p.failedStep = t.failedStep :=
        Except.ok.inj ((Constraints.failedStep_of_proposed hp).symm.trans hfits)
      obtain ⟨sagaType, failedStep, hcolumns⟩ := Constraints.proposed_eq_ok hp
      have hproposed : db.sagas.find? p.sagaId = some row := by
        rw [hcolumns]
        exact hrow
      obtain ⟨completedAt, htarget⟩ := SagaDb.target_of_some hproposed
      have hid : row.sagaId = t.sagaId := Table.key_of_find? hrow
      refine .inr ⟨completedAt, ?_⟩
      dsimp only
      rw [SagaDb.write, htarget, hstep, hcolumns, ← hid]
      exact Table.find?_put_self _ _

end Save

/-- After a request a stored saga has what the request brings, and the rest as before. -/
structure Merges (dto : SagaUpdateDTO) (old new : SagaRow) : Prop where
  warehouseId : new.warehouseId = dto.warehouseId.or old.warehouseId
  deliveryId : new.deliveryId = dto.deliveryId.or old.deliveryId
  status : new.status = (dto.status.map SagaStatus.value).getD old.status
  failedStep : new.failedStep = dto.failedStep.or old.failedStep
  errorMessage : new.errorMessage = dto.errorMessage.or old.errorMessage
  sagaType : new.sagaType = old.sagaType
  shipmentId : new.shipmentId = old.shipmentId
  startedAt : new.startedAt = old.startedAt

/-- What a request brings besides the two ids is stored already. -/
structure BringsIdsOnly (dto : SagaUpdateDTO) (old : SagaRow) : Prop where
  status : ∀ status ∈ dto.status, old.status = status.value
  failedStep : ∀ step ∈ dto.failedStep, old.failedStep = some step
  errorMessage : ∀ message ∈ dto.errorMessage, old.errorMessage = some message

/-- A row in which only the two ids have changed is merged exactly where nothing else is
brought. -/
theorem merges_iff {dto : SagaUpdateDTO} {old new : SagaRow}
    (hwarehouse : new.warehouseId = dto.warehouseId.or old.warehouseId)
    (hdelivery : new.deliveryId = dto.deliveryId.or old.deliveryId)
    (hstatus : new.status = old.status) (hstep : new.failedStep = old.failedStep)
    (herror : new.errorMessage = old.errorMessage) (htype : new.sagaType = old.sagaType)
    (hshipment : new.shipmentId = old.shipmentId) (hstarted : new.startedAt = old.startedAt) :
    Merges dto old new ↔ BringsIdsOnly dto old := by
  have hkept : ∀ {α : Type} (brought stored : Option α),
      stored = brought.or stored ↔ ∀ a ∈ brought, stored = some a := by
    intro α brought stored
    cases brought <;> simp
  have hvalue : old.status = (dto.status.map SagaStatus.value).getD old.status ↔
      ∀ status ∈ dto.status, old.status = status.value := by
    cases dto.status <;> simp
  constructor
  · intro h
    exact ⟨hvalue.mp (hstatus ▸ h.status), (hkept _ _).mp (hstep ▸ h.failedStep),
      (hkept _ _).mp (herror ▸ h.errorMessage)⟩
  · intro h
    exact ⟨hwarehouse, hdelivery, hstatus.trans (hvalue.mpr h.status),
      hstep.trans ((hkept _ _).mpr h.failedStep), herror.trans ((hkept _ _).mpr h.errorMessage),
      htype, hshipment, hstarted⟩

/-- `update_context` of a stored saga saves it where it is given an id. -/
theorem run_updateContext (c : Constraints) {w : World} {s : SagaInstance}
    (hget : w.db.get s.sagaId = .ok (some s)) (warehouseId deliveryId : Option UUID) :
    (SagaService.updateContext s.sagaId warehouseId deliveryId).run (act c) w =
      if warehouseId.isSome ∨ deliveryId.isSome then
        act c (Call.save (SagaService.withContext s warehouseId deliveryId)) w
      else (.ok s, w) := by
  rw [SagaService.updateContext, Coroutine.bind_eq, SagaService.load_bind, Coroutine.run_await]
  simp only [act, hget]
  split_ifs with hids
  · exact Coroutine.run_perform _ _ _
  · rfl

/-- A request for a stored saga hands the two ids of its copy on to `update_context`. -/
theorem run_updateSagaContext (c : Constraints) {w : World} {s : SagaInstance}
    (hget : w.db.get s.sagaId = .ok (some s)) (dto : SagaUpdateDTO) (now : DateTime) :
    (updateSagaContext s.sagaId dto now).run (act c) w =
      ((((SagaService.updateContext s.sagaId (dto.warehouseId.or s.warehouseId)
          (dto.deliveryId.or s.deliveryId)).run (act c) w).1.map SagaMapper.entityToDto),
        ((SagaService.updateContext s.sagaId (dto.warehouseId.or s.warehouseId)
          (dto.deliveryId.or s.deliveryId)).run (act c) w).2) := by
  rw [updateSagaContext, SagaService.get, Coroutine.bind_eq, Coroutine.run_bind,
    Coroutine.run_perform]
  simp only [act, hget]
  rw [Coroutine.bind_eq, Coroutine.run_bind]
  dsimp only [SagaMapper.updateEntityFromDto]
  cases ((SagaService.updateContext s.sagaId (dto.warehouseId.or s.warehouseId)
    (dto.deliveryId.or s.deliveryId)).run (act c) w).1 <;> rfl

/-- A saga that a request for it returns has been read. -/
theorem exists_entity_of_run (c : Constraints) {w w' : World} {sagaId : UUID} {old : SagaRow}
    (hold : w.row? sagaId = some old) {dto : SagaUpdateDTO} {now : DateTime} {returned : SagaDTO}
    (hrun : (updateSagaContext sagaId dto now).run (act c) w = (.ok returned, w')) :
    ∃ s, rowToEntity old = .ok s := by
  cases hentity : rowToEntity old with
  | ok s => exact ⟨s, rfl⟩
  | error e =>
    have hget : w.db.get sagaId = .error e := by
      have hfind : w.db.sagas.find? sagaId = some old := hold
      simp [SagaDb.get, hfind, rowToEntity?, hentity, Except.map]
    rw [updateSagaContext, SagaService.get, Coroutine.bind_eq, Coroutine.run_bind,
      Coroutine.run_perform] at hrun
    simp only [act, hget] at hrun
    cases hrun

/-- After a request that returns, a stored saga has what the request brings and the rest as before
exactly where the request brings nothing new besides the two ids. -/
theorem merges_iff_bringsIdsOnly (c : Constraints) {w w' : World} (hfits : w.db.Fits c)
    {sagaId : UUID} {old : SagaRow} (hold : w.row? sagaId = some old) (dto : SagaUpdateDTO)
    (now : DateTime) {returned : SagaDTO}
    (hrun : (updateSagaContext sagaId dto now).run (act c) w = (.ok returned, w')) :
    (∃ new, w'.row? sagaId = some new ∧ Merges dto old new) ↔ BringsIdsOnly dto old := by
  obtain ⟨s, hs⟩ := exists_entity_of_run c hold hrun
  have hget := SagaDb.get_eq_some_iff.mpr ⟨old, hold, hs⟩
  obtain ⟨hstatus, hcolumns⟩ := rowToEntity_eq_ok_iff.mp hs
  obtain rfl : s.sagaId = sagaId := SagaDb.sagaId_of_get hget
  have hwarehouse : s.warehouseId = old.warehouseId := congrArg SagaInstance.warehouseId hcolumns
  have hdelivery : s.deliveryId = old.deliveryId := congrArg SagaInstance.deliveryId hcolumns
  have hstep : s.failedStep = old.failedStep := congrArg SagaInstance.failedStep hcolumns
  have herror : s.errorMessage = old.errorMessage := congrArg SagaInstance.errorMessage hcolumns
  rw [run_updateSagaContext c hget, run_updateContext c hget] at hrun
  have hnew : ∀ {new}, w'.row? s.sagaId = some new →
      ((∃ new, w'.row? s.sagaId = some new ∧ Merges dto old new) ↔ Merges dto old new) := by
    intro new hnew
    simp only [hnew, Option.some.injEq, exists_eq_left']
  split_ifs at hrun with hids
  · have hfit : varchar? c.columnWidths 100 s.failedStep = .ok s.failedStep := by
      rw [hstep]
      exact hfits old (Table.mem_of_find? hold)
    have hfound : w.db.sagas.find? s.sagaId = some old := hold
    obtain ⟨e, hrefused⟩ | ⟨completedAt, hstored⟩ := SagaDb.save_stored (c := c)
      (t := SagaService.withContext s (dto.warehouseId.or s.warehouseId)
        (dto.deliveryId.or s.deliveryId)) hfound hfit
    · simp only [act, hrefused] at hrun
      cases hrun
    · have hw' := (congrArg Prod.snd hrun).symm
      simp only [act] at hw'
      subst hw'
      rw [hnew hstored]
      -- the service fills in a second copy of the saga, which has the same ids as the first
      have hfilled : ∀ brought stored : Option UUID,
          (brought.or stored).or stored = brought.or stored := by
        intro brought stored
        rw [Option.or_assoc, Option.or_self]
      refine merges_iff ?_ ?_ hstatus.symm hstep herror rfl rfl rfl
      · rw [← hwarehouse]
        exact hfilled dto.warehouseId s.warehouseId
      · rw [← hdelivery]
        exact hfilled dto.deliveryId s.deliveryId
  · cases hrun
    rw [hnew hold]
    simp only [not_or, Option.not_isSome_iff_eq_none, Option.or_eq_none_iff] at hids
    obtain ⟨⟨hnone, _⟩, ⟨hnone', _⟩⟩ := hids
    exact merges_iff (by rw [hnone, Option.none_or]) (by rw [hnone', Option.none_or]) rfl rfl rfl
      rfl rfl rfl

/-- A request that supplies a warehouse and names the status that the saga has. -/
def supplyingUpdate : SagaUpdateDTO := { warehouseId := some ⟨9⟩, status := some .started }

theorem merges_iff_bringsIdsOnly_sample :
    (∃ new, (((updateSagaContext sampleSaga.sagaId supplyingUpdate 0).run (act .leftAside)
        (World.initial sampleDb)).2).row? sampleSaga.sagaId = some new ∧
      Merges supplyingUpdate sampleSaga.toRow new) ↔
    BringsIdsOnly supplyingUpdate sampleSaga.toRow := by
  refine merges_iff_bringsIdsOnly .leftAside ?_ (by rfl) supplyingUpdate 0 (Prod.ext (by rfl) rfl)
  intro row hrow
  cases row.failedStep <;> rfl

/-- A request that reports the saga as failed returns normally and leaves the saga started, without
the step and without the error. -/
theorem failing_update_is_dropped :
    let dto : SagaUpdateDTO :=
      { status := some .failed, failedStep := some "DELIVERY", errorMessage := some "Driver lost" }
    ∃ returned w', (updateSagaContext sampleSaga.sagaId dto 0).run (act .leftAside)
        (World.initial sampleDb) = (.ok returned, w') ∧
      ¬ ∃ new, w'.row? sampleSaga.sagaId = some new ∧ Merges dto sampleSaga.toRow new := by
  refine ⟨_, _, Prod.ext (by rfl) rfl, ?_⟩
  rintro ⟨new, hnew, hmerges⟩
  obtain rfl := Option.some.inj hnew
  exact absurd hmerges.status (by decide)

end SupplyChainTracker.Saga
