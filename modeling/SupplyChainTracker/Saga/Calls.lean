import SupplyChainTracker.Saga.Flow

/-!
# What a call does to one saga

The row of a saga and the commands sent for it are all that the properties of
the coordinator speak about. Each call either leaves them alone or changes them
in one known way.
-/

namespace SupplyChainTracker.Saga

/-- The stored row of a saga. -/
def World.row? (w : World) (sagaId : UUID) : Option SagaRow := w.db.sagas.find? sagaId

/-- The stored status of a saga. -/
def World.status? (w : World) (sagaId : UUID) : Option String :=
  (w.row? sagaId).map SagaRow.status

/-- The commands published for a saga, which carry its id as correlation id. -/
def World.commandsFor (w : World) (sagaId : UUID) : List (Command × String) :=
  w.published.filter fun p => p.1.correlationId = some sagaId

/-- A world before anything was published. -/
def World.initial (db : SagaDb) : World := ⟨db, []⟩

@[simp] theorem commandsFor_initial (db : SagaDb) (sagaId : UUID) :
    (World.initial db).commandsFor sagaId = [] := rfl

/-- The command of the saga is appended; a command of another saga is not counted. -/
theorem commandsFor_publish (c : Constraints) (w : World) (p : Command × String)
    (sagaId : UUID) :
    ((act c (Call.publishCommand p.1 p.2) w).2).commandsFor sagaId =
      w.commandsFor sagaId ++ if p.1.correlationId = some sagaId then [p] else [] := by
  simp only [act, World.commandsFor, List.filter_append, List.filter_cons, List.filter_nil]
  split_ifs <;> simp_all

@[simp] theorem row?_publish (c : Constraints) (w : World) (p : Command × String)
    (sagaId : UUID) : ((act c (Call.publishCommand p.1 p.2) w).2).row? sagaId = w.row? sagaId :=
  rfl

/-- A save is refused without effect, or replaces the row of its saga and nothing else. -/
theorem act_save_cases (c : Constraints) (s : SagaInstance) (w : World) :
    (∃ e, act c (Call.save s) w = (.error e, w)) ∨
    ∃ new w', act c (Call.save s) w = (rowToEntity new, w') ∧ w'.published = w.published ∧
      w'.row? s.sagaId = some new ∧ (∀ sagaId, s.sagaId ≠ sagaId → w'.row? sagaId = w.row? sagaId) ∧
      Upserted (w.row? s.sagaId) s new := by
  rcases w.db.save_cases c s with ⟨e, he⟩ | ⟨new, db', hsave, hput, hup⟩
  · exact .inl ⟨e, by simp [act, he]⟩
  · refine .inr ⟨new, { w with db := db' }, by simp [act, hsave], rfl, ?_, ?_, hup⟩
    · simp only [World.row?, hput, ← hup.sagaId]
      exact Table.find?_put_self _ _
    · intro sagaId hne
      simp only [World.row?, hput]
      exact Table.find?_put_of_ne _ _ (hup.sagaId ▸ hne)

/-- A save never changes what has been published. -/
@[simp] theorem commandsFor_save (c : Constraints) (s : SagaInstance) (w : World) (sagaId : UUID) :
    ((act c (Call.save s) w).2).commandsFor sagaId = w.commandsFor sagaId := rfl

/-- A save leaves the rows of other sagas alone. -/
theorem row?_save_of_ne (c : Constraints) {s : SagaInstance} (w : World) {sagaId : UUID}
    (h : s.sagaId ≠ sagaId) : ((act c (Call.save s) w).2).row? sagaId = w.row? sagaId := by
  rcases act_save_cases c s w with ⟨e, he⟩ | ⟨new, w', hw, _, _, hother, _⟩
  · rw [he]
  · rw [hw]
    exact hother sagaId h

/-- With the constraints left aside a save replaces the row of its saga and nothing else. -/
theorem act_save_leftAside (s : SagaInstance) (w : World) :
    ∃ new w', act .leftAside (Call.save s) w = (rowToEntity new, w') ∧
      w'.published = w.published ∧ w'.row? s.sagaId = some new ∧
      (∀ sagaId, s.sagaId ≠ sagaId → w'.row? sagaId = w.row? sagaId) ∧
      Upserted (w.row? s.sagaId) s new ∧ KeepsTexts (w.row? s.sagaId) s new := by
  obtain ⟨new, db', hsave, hput, hup, htexts⟩ := w.db.save_leftAside s
  refine ⟨new, { w with db := db' }, by simp only [act, hsave], rfl, ?_, ?_, hup, htexts⟩
  · simp only [World.row?, hput, ← hup.sagaId]
    exact Table.find?_put_self _ _
  · intro sagaId hne
    simp only [World.row?, hput]
    exact Table.find?_put_of_ne _ _ (hup.sagaId ▸ hne)

/-- Two copies of one saga that name the same shipment and participants. -/
structure SameParticipants (s t : SagaInstance) : Prop where
  sagaId : t.sagaId = s.sagaId
  shipmentId : t.shipmentId = s.shipmentId
  warehouseId : t.warehouseId = s.warehouseId
  deliveryId : t.deliveryId = s.deliveryId

section Marks

variable {s t : SagaInstance} (h : SameParticipants s t) (step error : String) (now : DateTime)

include h

theorem SameParticipants.markCompensating :
    SameParticipants s (t.markCompensating step now) :=
  ⟨h.sagaId, h.shipmentId, h.warehouseId, h.deliveryId⟩

theorem SameParticipants.markFailed : SameParticipants s (t.markFailed step error now) :=
  ⟨h.sagaId, h.shipmentId, h.warehouseId, h.deliveryId⟩

end Marks

/-- The saga of `s` is stored in some status with the participants of `s`. -/
def World.Holds (w : World) (s : SagaInstance) (status : SagaStatus) : Prop :=
  ∃ row, w.row? s.sagaId = some row ∧ row.shipmentId = s.shipmentId ∧
    row.warehouseId = s.warehouseId ∧ row.deliveryId = s.deliveryId ∧ row.status = status.value

/-- The stored status of a held saga. -/
theorem World.Holds.status? {w : World} {s : SagaInstance} {status : SagaStatus}
    (h : w.Holds s status) : w.status? s.sagaId = some status.value := by
  obtain ⟨row, hr, _, _, _, hst⟩ := h
  rw [World.status?, hr, Option.map_some, hst]

/-- A saga has one status. -/
theorem World.Holds.unique {w : World} {s : SagaInstance} {st st' : SagaStatus}
    (h : w.Holds s st) (h' : w.Holds s st') : st = st' :=
  SagaStatus.value_injective (Option.some.inj (h.status?.symm.trans h'.status?))

/-- A saga that can be read is held in its own status. -/
theorem World.holds_of_get {w : World} {s : SagaInstance}
    (h : w.db.get s.sagaId = .ok (some s)) : w.Holds s s.status := by
  obtain ⟨row, hrow, hs⟩ := SagaDb.get_eq_some_iff.mp h
  obtain ⟨hst, he⟩ := rowToEntity_eq_ok_iff.mp hs
  exact ⟨row, hrow, (congrArg SagaInstance.shipmentId he).symm,
    (congrArg SagaInstance.warehouseId he).symm, (congrArg SagaInstance.deliveryId he).symm, hst⟩

/-- Reading a held saga returns a copy with its participants and status. -/
theorem World.Holds.get {w : World} {s : SagaInstance} {status : SagaStatus}
    (h : w.Holds s status) :
    ∃ t, w.db.get s.sagaId = .ok (some t) ∧ SameParticipants s t ∧ t.status = status := by
  obtain ⟨row, hrow, hship, hwh, hdl, hst⟩ := h
  have hid : row.sagaId = s.sagaId := Table.key_of_find? hrow
  exact ⟨_, SagaDb.get_eq_some_iff.mpr ⟨row, hrow, rowToEntity_of_status hst⟩,
    ⟨hid, hship, hwh, hdl⟩, rfl⟩

/-- Saving a copy of a held saga is refused, or changes the status to that of the copy. -/
theorem World.Holds.save {w : World} {s t : SagaInstance} {status : SagaStatus}
    (h : w.Holds s status) (ht : SameParticipants s t) (c : Constraints) :
    (∃ e, act c (Call.save t) w = (.error e, w)) ∨
    ∃ t' w', act c (Call.save t) w = (.ok t', w') ∧ SameParticipants s t' ∧
      w'.Holds s t.status ∧ w'.published = w.published := by
  obtain ⟨row, hrow, hship, _, _, _⟩ := h
  rcases act_save_cases c t w with ⟨e, he⟩ | ⟨new, w', hw, hpub, hnew, _, hup⟩
  · exact .inl ⟨e, he⟩
  · rw [ht.sagaId] at hnew hup
    have hnship : new.shipmentId = s.shipmentId := by
      rw [hup.shipmentId, hrow]
      exact hship
    have hnwh := hup.warehouseId.trans ht.warehouseId
    have hndl := hup.deliveryId.trans ht.deliveryId
    exact .inr ⟨_, w', hw.trans (congrArg (·, w') (rowToEntity_of_status hup.status)),
      ⟨hup.sagaId.trans ht.sagaId, hnship, hnwh, hndl⟩,
      ⟨new, hnew, hnship, hnwh, hndl, hup.status⟩, hpub⟩

/-- With the constraints left aside the save succeeds. -/
theorem World.Holds.save_leftAside {w : World} {s t : SagaInstance} {status : SagaStatus}
    (h : w.Holds s status) (ht : SameParticipants s t) :
    ∃ t' w', act .leftAside (Call.save t) w = (.ok t', w') ∧ SameParticipants s t' ∧
      w'.Holds s t.status ∧ w'.published = w.published := by
  rcases h.save ht .leftAside with ⟨e, he⟩ | hsaved
  · obtain ⟨new, db', hsave, _, hup, _⟩ := w.db.save_leftAside t
    have hrow := rowToEntity_of_status hup.status
    simp [act, hsave, hrow] at he
  · exact hsaved

/-- Saving another saga keeps a held one. -/
theorem World.Holds.save_of_ne {w : World} {s t : SagaInstance} {status : SagaStatus}
    (h : w.Holds s status) (ht : t.sagaId ≠ s.sagaId) (c : Constraints) :
    ((act c (Call.save t) w).2).Holds s status := by
  obtain ⟨row, hrow, hrest⟩ := h
  exact ⟨row, (row?_save_of_ne c w ht).trans hrow, hrest⟩

namespace SagaCompensationWorker

/-- The strategy depends on the participants only. -/
theorem strategy_congr {s t : SagaInstance} (h : SameParticipants s t) (r : Received) :
    strategy t r = strategy s r := by
  simp only [strategy, unassignCourier, releaseInventory, cancelShipment, h.sagaId, h.shipmentId,
    h.warehouseId, h.deliveryId]

/-- Every command of a strategy carries the saga's id. -/
theorem correlationId_of_mem_strategy {s : SagaInstance} {r : Received} {p : Command × String}
    (h : p ∈ strategy s r) : p.1.correlationId = some s.sagaId := by
  have hu : ∀ reason i, p ∈ unassignCourier s reason i → p.1.correlationId = some s.sagaId := by
    intro reason i hp
    obtain ⟨d, _, rfl⟩ := List.mem_map.mp hp
    rfl
  have hr : ∀ reason i, p ∈ releaseInventory s reason i → p.1.correlationId = some s.sagaId := by
    intro reason i hp
    obtain ⟨d, _, rfl⟩ := List.mem_map.mp hp
    rfl
  have hc : ∀ reason i, p ∈ cancelShipment s reason i → p.1.correlationId = some s.sagaId := by
    intro reason i hp
    obtain rfl := List.mem_singleton.mp hp
    rfl
  unfold strategy at h
  split at h
  · cases h
  · split_ifs at h
    · rcases List.mem_append.mp h with h | h
      · exact (List.mem_append.mp h).elim (hu _ _) (hr _ _)
      · exact hc _ _ h
    · exact (List.mem_append.mp h).elim (hr _ _) (hc _ _)
    · exact hc _ _ h
    · cases h

/-- A strategy sends at most one command of each type. -/
theorem nodup_strategy (s : SagaInstance) (r : Received) :
    ((strategy s r).map fun p => p.1.commandType).Nodup := by
  unfold strategy unassignCourier releaseInventory cancelShipment
  split
  · exact List.nodup_nil
  · split_ifs <;> cases s.warehouseId <;> cases s.deliveryId <;>
      simp [UnassignCourierCommand.create, ReleaseInventoryCommand.create,
        CancelShipmentCommand.create, UnassignCourierCommand.commandType,
        ReleaseInventoryCommand.commandType, CancelShipmentCommand.commandType]

end SagaCompensationWorker

/-- A started saga with a warehouse and a delivery. -/
def sampleSaga : SagaInstance where
  sagaId := ⟨1⟩
  sagaType := "CREATE_SHIPMENT"
  shipmentId := ⟨2⟩
  warehouseId := some ⟨3⟩
  deliveryId := some ⟨4⟩
  startedAt := 0
  updatedAt := 0

/-- The database that stores just that saga. -/
def sampleDb : SagaDb where
  sagas := Table.empty.put sampleSaga.toRow
  events := []
  clock := fun n => n
  transactions := 0

/-- A failure event of the saga. -/
def sampleEvent (eventType : String) : Received where
  event := {
    eventType := eventType
    aggregateId := ⟨4⟩
    aggregateType := "delivery"
    payload := .obj [("reason", .str "Driver lost")]
    eventId := ⟨5⟩
    timestamp := 0
    correlationId := some ⟨1⟩ }
  now := fun n => n
  uuid4 := fun n => ⟨⟨n % 2 ^ 128, Nat.mod_lt _ (by decide)⟩⟩

end SupplyChainTracker.Saga
