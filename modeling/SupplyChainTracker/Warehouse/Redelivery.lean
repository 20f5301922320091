import SupplyChainTracker.Warehouse.CommandWorker
import SupplyChainTracker.Warehouse.Effects

/-!
# A release command that is consumed twice

The worker keeps no record of the commands it has handled, so a command that is delivered once
more releases once more, whatever has happened to the records since. That shows in the end exactly
where nothing writes the status of such a record afterwards.
-/

namespace SupplyChainTracker.Warehouse

/-- A step of a run. -/
inductive Action : Type
  /-- The worker consumes a command. -/
  | consume (command : Command) (now : Clock)
  /-- A `PATCH` request is handled. -/
  | patch (warehouseId recordId : UUID) (dto : InventoryRecordUpdateDTO) (now : Clock)
      (draws : EventDraws)

namespace Action

/-- The service after a step. The worker logs what the handling of a command raises and goes on. -/
def step (backend : Backend) (s : Served World) : Action → Served World
  | consume command now =>
      ((service (inService (WarehouseCommandWorker.handleCommand command now))).run
        (apiAct backend) s).2
  | patch warehouseId recordId dto now draws =>
      ((Request.updateInventoryRecord warehouseId recordId dto now draws).handle backend s).2

/-- The status that a step writes for a record, if it writes one. -/
def written? (r : InventoryRow) : Action → Option InventoryStatus
  | consume command _ =>
      if releasedShipment? command = some r.shipmentId then some .received else none
  | patch warehouseId recordId dto _ _ =>
      if recordId = r.recordId ∧ warehouseId = r.warehouseId then dto.status else none

/-- A row after a step, its times aside. -/
def onRow (r : InventoryRow) (action : Action) : InventoryRow :=
  match action.written? r with
  | some status => r.written status
  | none => r

end Action

/-- The service after a run. -/
def runActions (backend : Backend) (actions : List Action) (s : Served World) : Served World :=
  actions.foldl (Action.step backend) s

/-- The stored status of a record. -/
def InventoryDb.status? (recordId : UUID) (db : InventoryDb) : Option String :=
  (db.records.find? recordId).map InventoryRow.status

section Steps

variable (backend : Backend) {s : Served World}

/-- A consumed command releases the records of its shipment. -/
theorem view_consume (hload : s.world.db.Loadable) (command : Command) (now : Clock) :
    ((Action.consume command now).step backend s).world.db.view =
      s.world.db.view.map fun r => (Action.consume command now).onRow r := by
  have hdb : ((Action.consume command now).step backend s).world.db =
      ((WarehouseCommandWorker.handleCommand command now).run act s.world.db).2 := by
    rw [Action.step, run_service]
    exact (run_inService backend.pg _ s.world).2
  rw [hdb, (releasesWhere_handleCommand now hload command).view, releaseWhere]
  refine List.map_congr_left fun r _ => ?_
  by_cases h : releasedShipment? command = some r.shipmentId
  · simp only [Action.onRow, Action.written?, h, decide_true, if_true,
      InventoryRow.written_received]
  · simp only [Action.onRow, Action.written?, h, decide_false, if_false, Bool.false_eq_true]

/-- A record that is stored with a known status is read. -/
theorem record?_of_loadable {db : InventoryDb} (hload : db.Loadable) {row : InventoryRow}
    (hrow : row ∈ db.records.rows) (now : Clock) :
    ∃ record, db.record? row.recordId now = some record ∧
      record.warehouseId = row.warehouseId := by
  obtain ⟨status, hst⟩ := hload row hrow
  have hfind : db.records.find? row.recordId = some row :=
    Table.find?_of_mem hrow
  refine ⟨⟨row.recordId, row.shipmentId, row.warehouseId, status, now 0, now 1⟩, ?_, rfl⟩
  rw [InventoryDb.record?, hfind, Option.bind_some, rowToEntity_of_status now hst]
  rfl

/-- A `PATCH` request writes the status of its record, if the record is in its warehouse. -/
theorem view_patch (hload : s.world.db.Loadable) (warehouseId recordId : UUID)
    (dto : InventoryRecordUpdateDTO) (now : Clock) (draws : EventDraws) :
    ((Action.patch warehouseId recordId dto now draws).step backend s).world.db.view =
      s.world.db.view.map fun r =>
        (Action.patch warehouseId recordId dto now draws).onRow r := by
  have hsame : (∀ r ∈ s.world.db.records.rows,
      (Action.patch warehouseId recordId dto now draws).written? r.timeless = none) →
      s.world.db.view = s.world.db.view.map fun r =>
        (Action.patch warehouseId recordId dto now draws).onRow r := by
    intro hkept
    refine s.world.db.view_eq_map fun r hr => ?_
    rw [Action.onRow, hkept r hr]
  rw [Action.step, @snd_handle backend s _
    (.updateInventoryRecord warehouseId recordId dto now draws) _ _ rfl]
  simp only [InventoryRouter.updateInventoryRecord, Coroutine.bind_eq]
  rw [Coroutine.run_bind]
  obtain ⟨s', hdb, ⟨record, hrecord, hin, hrun⟩ | ⟨hmissing, e, hrun⟩⟩ :=
    run_recordOf backend s warehouseId recordId now
  · rw [hrun]
    cases hstatus : dto.status with
    | none =>
      have hview : s'.world.db.view = s.world.db.view := congrArg InventoryDb.view hdb
      refine hview.trans (hsame fun r _ => ?_)
      simp only [Action.written?, hstatus, ite_self]
    | some status =>
      dsimp only
      rw [snd_announced _ fun _ => ((refuses_announce _ _).bind _).idle]
      dsimp only
      rw [(run_inService backend.pg _ s'.world).2, hdb,
        (run_updateStatus (now.after 2) hload recordId status).2]
      refine List.map_congr_left fun r hr => ?_
      obtain ⟨stored, hstored, rfl⟩ := List.mem_map.mp hr
      by_cases hid : recordId = stored.timeless.recordId
      · obtain ⟨record', hrecord', hin'⟩ := record?_of_loadable hload hstored now
        have hid' : recordId = stored.recordId := hid
        rw [hid', hrecord'] at hrecord
        have hwarehouse : warehouseId = stored.timeless.warehouseId := by
          rw [← hin, ← Option.some.inj hrecord, hin']
          rfl
        simp only [Action.onRow, Action.written?, hid, hwarehouse, hstatus, and_self, if_true]
      · simp only [Action.onRow, Action.written?, hid, false_and, if_false]
  · rw [hrun]
    have hview : s'.world.db.view = s.world.db.view := congrArg InventoryDb.view hdb
    refine hview.trans (hsame fun r hr => ?_)
    rw [Action.written?]
    refine if_neg ?_
    rintro ⟨hid, hwarehouse⟩
    obtain ⟨record, hrecord, hin⟩ := record?_of_loadable hload hr now
    have hid' : recordId = r.recordId := hid
    refine hmissing ⟨record, hid' ▸ hrecord, hin.trans ?_⟩
    exact hwarehouse.symm

/-- A step leaves each row as it says. -/
theorem view_step (hload : s.world.db.Loadable) (action : Action) :
    (action.step backend s).world.db.view = s.world.db.view.map fun r => action.onRow r := by
  cases action with
  | consume command now => exact view_consume backend hload command now
  | patch warehouseId recordId dto now draws =>
    exact view_patch backend hload warehouseId recordId dto now draws

/-- A row keeps what identifies its record, and its status stays known. -/
theorem Action.onRow_spec (action : Action) (r : InventoryRow) :
    (action.onRow r).recordId = r.recordId ∧
      ((∃ status : InventoryStatus, r.status = status.value) →
        ∃ status : InventoryStatus, (action.onRow r).status = status.value) := by
  unfold onRow
  cases action.written? r with
  | none => exact ⟨rfl, id⟩
  | some new =>
    refine ⟨(r.ids_written new).1, fun hknown => ?_⟩
    dsimp only
    unfold InventoryRow.written
    split
    · exact hknown
    · exact ⟨new, rfl⟩

/-- After a step the stored statuses are still known. -/
theorem loadable_step (hload : s.world.db.Loadable) (action : Action) :
    (action.step backend s).world.db.Loadable := by
  intro r hr
  have hmem : r.timeless ∈ s.world.db.view.map fun r => action.onRow r :=
    view_step backend hload action ▸ List.mem_map_of_mem hr
  obtain ⟨t, ht, heq⟩ := List.mem_map.mp hmem
  obtain ⟨stored, hstored, rfl⟩ := List.mem_map.mp ht
  have hknown := (action.onRow_spec stored.timeless).2 (hload stored hstored)
  rw [heq] at hknown
  exact hknown

/-- After a run the stored statuses are still known. -/
theorem loadable_run (actions : List Action) (hload : s.world.db.Loadable) :
    (runActions backend actions s).world.db.Loadable := by
  induction actions generalizing s with
  | nil => exact hload
  | cons action actions ih => exact ih (loadable_step backend hload action)

/-- A run leaves each row as its steps do, one after the other. -/
theorem view_run (actions : List Action) (hload : s.world.db.Loadable) :
    (runActions backend actions s).world.db.view =
      s.world.db.view.map fun r => actions.foldl Action.onRow r := by
  induction actions generalizing s with
  | nil => exact (List.map_id _).symm
  | cons action actions ih =>
    have hrest := ih (loadable_step backend hload action)
    rw [view_step backend hload, List.map_map] at hrest
    exact hrest

end Steps

/-- A run keeps the id of a row. -/
theorem recordId_foldl_onRow (actions : List Action) (r : InventoryRow) :
    (actions.foldl Action.onRow r).recordId = r.recordId := by
  induction actions generalizing r with
  | nil => rfl
  | cons action actions ih => exact (ih _).trans (action.onRow_spec r).1

section Twice

/-- The statuses after rows have been changed in place. -/
theorem status?_of_view {db db' : InventoryDb} {f : InventoryRow → InventoryRow}
    (hf : ∀ r, (f r).recordId = r.recordId) (h : db'.view = db.view.map f) (recordId : UUID) :
    db'.status? recordId =
      (db.records.find? recordId).map fun r => (f r.timeless).status := by
  have hview : ∀ db : InventoryDb, ∀ g : InventoryRow → InventoryRow,
      (∀ r, (g r).recordId = r.recordId) →
      ((db.view.map g).find? fun r => r.recordId = recordId).map InventoryRow.status =
        (db.records.find? recordId).map fun r => (g r.timeless).status := by
    intro db g hg
    rw [InventoryDb.view, List.map_map, List.find?_map, Option.map_map]
    have hp : ((fun r : InventoryRow => decide (r.recordId = recordId)) ∘
        (g ∘ InventoryRow.timeless)) = fun r => decide (r.recordId = recordId) := by
      funext r
      simp only [Function.comp_apply, hg, InventoryRow.recordId_timeless]
    rw [hp]
    rfl
  have hdb := hview db f hf
  have hdb' := hview db' id fun _ => rfl
  rw [List.map_id, h, hdb] at hdb'
  exact hdb'.symm

/-- Two statuses that may both be left meet at the next status that is written, and not before. -/
theorem status_foldl_eq_iff {r : InventoryRow} {status other : InventoryStatus}
    (hst : r.status = status.value) (hleaves : status ≠ .shipped) (hleaves' : other ≠ .shipped)
    (hne : other ≠ status) (actions : List Action) :
    (actions.foldl Action.onRow { r with status := other.value }).status =
        (actions.foldl Action.onRow r).status ↔
      ∃ action ∈ actions, (action.written? r).isSome := by
  have hsame : ∀ action : Action, action.written? { r with status := other.value } =
      action.written? r := by
    intro action
    cases action <;> rfl
  induction actions with
  | nil =>
    refine iff_of_false ?_ ?_
    · intro h
      exact hne (InventoryStatus.value_injective (h.trans hst))
    · rintro ⟨_, hmem, _⟩
      cases hmem
  | cons action actions ih =>
    rw [List.foldl_cons, List.foldl_cons, List.exists_mem_cons_iff]
    cases hwritten : action.written? r with
    | none =>
      have hfirst : action.onRow r = r := by rw [Action.onRow, hwritten]
      have hsecond : action.onRow { r with status := other.value } =
          { r with status := other.value } := by
        rw [Action.onRow, hsame, hwritten]
      rw [hfirst, hsecond]
      refine ih.trans ?_
      simp only [Option.isSome_none, Bool.false_eq_true, false_or]
    | some new =>
      have hshipped : r.status ≠ InventoryStatus.shipped.value := by
        rw [hst]
        exact fun h => hleaves (InventoryStatus.value_injective h)
      have hshipped' : other.value ≠ InventoryStatus.shipped.value :=
        fun h => hleaves' (InventoryStatus.value_injective h)
      have hfirst : action.onRow r = { r with status := new.value } := by
        simp only [Action.onRow, hwritten, InventoryRow.written, hshipped, if_false]
      have hsecond : action.onRow { r with status := other.value } =
          { r with status := new.value } := by
        simp only [Action.onRow, hsame, hwritten, InventoryRow.written, hshipped', if_false]
      rw [hfirst, hsecond]
      exact iff_of_true rfl (.inl rfl)

/-- Nothing of a release that is repeated is left in the end: each record of the shipment is where
the release would take it, or its status is written later. -/
def Rewritten (command : Command) (actions : List Action) (db : InventoryDb) : Prop :=
  ∀ r ∈ db.records.rows, releasedShipment? command = some r.shipmentId →
    r.status = InventoryStatus.received.value ∨ r.status = InventoryStatus.shipped.value ∨
      ∃ action ∈ actions, (action.written? r).isSome

/-- A release command concerns the records of its shipment. -/
theorem rewritten_create_iff {shipmentId warehouseId sagaId commandId : UUID} {items : List Json}
    {reason : Json} {actions : List Action} {db : InventoryDb} :
    Rewritten (ReleaseInventoryCommand.create shipmentId warehouseId items sagaId reason commandId)
        actions db ↔
      ∀ r ∈ db.records.rows, shipmentId = r.shipmentId →
        r.status = InventoryStatus.received.value ∨ r.status = InventoryStatus.shipped.value ∨
          ∃ action ∈ actions, (action.written? r).isSome := by
  simp only [Rewritten, releasedShipment?_create, Option.some.injEq]

/-- One more release of a record shows in its last status unless it is where the release would take
it or its status is written later. -/
theorem status_consume_eq_iff {r : InventoryRow} {status : InventoryStatus}
    (hst : r.status = status.value) (command : Command) (now : Clock) (actions : List Action) :
    (actions.foldl Action.onRow ((Action.consume command now).onRow r)).status =
        (actions.foldl Action.onRow r).status ↔
      (releasedShipment? command = some r.shipmentId →
        r.status = InventoryStatus.received.value ∨ r.status = InventoryStatus.shipped.value ∨
          ∃ action ∈ actions, (action.written? r).isSome) := by
  by_cases hnames : releasedShipment? command = some r.shipmentId
  · have hrow : (Action.consume command now).onRow r = r.released := by
      simp only [Action.onRow, Action.written?, hnames, if_true, InventoryRow.written_received]
    rw [hrow, InventoryRow.released]
    by_cases hshipped : r.status = InventoryStatus.shipped.value
    · rw [if_pos hshipped]
      exact iff_of_true rfl fun _ => .inr (.inl hshipped)
    · rw [if_neg hshipped]
      by_cases hreceived : r.status = InventoryStatus.received.value
      · rw [← hreceived]
        exact iff_of_true rfl fun _ => .inl rfl
      · have hleaves : status ≠ .shipped := fun h => hshipped (hst.trans (congrArg _ h))
        have hmoves : InventoryStatus.received ≠ status :=
          fun h => hreceived (hst.trans (congrArg _ h.symm))
        rw [status_foldl_eq_iff hst hleaves (by decide) hmoves]
        simp only [hnames, hreceived, hshipped, false_or, true_imp_iff]
  · have hrow : (Action.consume command now).onRow r = r := by
      simp only [Action.onRow, Action.written?, hnames, if_false]
    rw [hrow]
    exact iff_of_true rfl fun h => absurd h hnames

end Twice

/-- A command that is consumed a second time changes no status that a run leaves exactly where
everything that it releases then is written once more later. -/
theorem redelivery_harmless_iff (backend : Backend) {s : Served World}
    (hload : s.world.db.Loadable) (before between actions : List Action) (command : Command)
    (now again : Clock) :
    (∀ recordId,
      (runActions backend (before ++ .consume command now :: between ++
        .consume command again :: actions) s).world.db.status? recordId =
      (runActions backend (before ++ .consume command now :: between ++ actions)
        s).world.db.status? recordId) ↔
    Rewritten command actions
      (runActions backend (before ++ .consume command now :: between) s).world.db := by
  -- Both runs agree up to the second consumption; what follows changes the rows in place.
  have hsplit : ∀ rest : List Action,
      runActions backend (before ++ .consume command now :: between ++ rest) s =
        runActions backend rest
          (runActions backend (before ++ .consume command now :: between) s) :=
    fun rest => List.foldl_append
  have hmid := loadable_run backend (before ++ .consume command now :: between) hload
  rw [hsplit, hsplit]
  generalize runActions backend (before ++ .consume command now :: between) s = mid at hmid
  have hlater := status?_of_view (recordId_foldl_onRow actions) (view_run backend actions hmid)
  have htwice := status?_of_view (recordId_foldl_onRow (.consume command again :: actions))
    (view_run backend (.consume command again :: actions) hmid)
  have hrow : ∀ r ∈ mid.world.db.records.rows,
      ((Action.consume command again :: actions).foldl Action.onRow r.timeless).status =
          (actions.foldl Action.onRow r.timeless).status ↔
        (releasedShipment? command = some r.shipmentId →
          r.status = InventoryStatus.received.value ∨ r.status = InventoryStatus.shipped.value ∨
            ∃ action ∈ actions, (action.written? r.timeless).isSome) := by
    intro r hr
    obtain ⟨status, hst⟩ := hmid r hr
    have hst' : r.timeless.status = status.value := hst
    exact status_consume_eq_iff hst' command again actions
  constructor
  · intro hsame r hr
    have hfind := Table.find?_of_mem hr
    have hid := hsame r.recordId
    rw [hlater, htwice, hfind] at hid
    exact (hrow r hr).mp (Option.some.inj hid)
  · intro hrewritten recordId
    rw [hlater, htwice]
    cases hfind : mid.world.db.records.find? recordId with
    | none => rfl
    | some r =>
      have hr := Table.mem_of_find? hfind
      exact congrArg some ((hrow r hr).mpr (hrewritten r hr))

/-- A record that has been put away. -/
def storedRecord : Served World where
  world := {
    db := {
      warehouses := ⟨[⟨⟨90⟩, "North", "", 0, 0⟩], by decide⟩
      records := ⟨[⟨⟨91⟩, ⟨92⟩, ⟨90⟩, "stored", 0, 0⟩], by decide⟩
      warehouseOf := by decide }
    clock := fun n => n
    statements := 0 }
  queue := ⟨[], 0⟩

/-- A database that refuses nothing but a broken foreign key. -/
def redeliveryBackend : Backend where
  pg := ⟨fun _ => none, fun a b => decide (a ≤ b)⟩
  text := ⟨fun location => location.address, fun _ => .error (.valueError "")⟩
  adapter := .memory

/-- The release of the shipment. -/
def sampleRelease : Command :=
  ReleaseInventoryCommand.create ⟨92⟩ ⟨90⟩ [] ⟨93⟩ .null ⟨94⟩

/-- The record is put away. -/
def sampleStore : Action :=
  .patch ⟨90⟩ ⟨91⟩ { status := some .stored } (fun _ => 2) ⟨2, ⟨95⟩, 2⟩

/-- The record is put away once more after the second release. -/
theorem redelivery_harmless_iff_sample :
    (runActions redeliveryBackend [.consume sampleRelease fun _ => 1, sampleStore,
      .consume sampleRelease fun _ => 3, sampleStore] storedRecord).world.db.status? ⟨91⟩ =
    (runActions redeliveryBackend [.consume sampleRelease fun _ => 1, sampleStore,
      sampleStore] storedRecord).world.db.status? ⟨91⟩ := by
  have hload : storedRecord.world.db.Loadable := by
    intro r hr
    obtain rfl := List.mem_singleton.mp hr
    exact ⟨.stored, rfl⟩
  refine (redelivery_harmless_iff redeliveryBackend hload [] [sampleStore] [sampleStore]
    sampleRelease (fun _ => 1) fun _ => 3).mpr ?_ ⟨91⟩
  refine rewritten_create_iff.mpr fun r hr _ => ?_
  obtain rfl := List.mem_singleton.mp hr
  exact .inr (.inr ⟨sampleStore, List.mem_singleton_self _, rfl⟩)

/-- The record has been put away again when its release is consumed once more. -/
theorem redelivery_takes_back :
    (runActions redeliveryBackend [.consume sampleRelease fun _ => 1, sampleStore,
        .consume sampleRelease fun _ => 3] storedRecord).world.db.status? ⟨91⟩ =
      some "received" ∧
    (runActions redeliveryBackend [.consume sampleRelease fun _ => 1, sampleStore]
        storedRecord).world.db.status? ⟨91⟩ = some "stored" ∧
    ¬ ∀ recordId,
      (runActions redeliveryBackend [.consume sampleRelease fun _ => 1, sampleStore,
        .consume sampleRelease fun _ => 3] storedRecord).world.db.status? recordId =
      (runActions redeliveryBackend [.consume sampleRelease fun _ => 1, sampleStore]
        storedRecord).world.db.status? recordId := by
  refine ⟨rfl, rfl, fun hharmless => ?_⟩
  have hsame : some "received" = some "stored" := hharmless ⟨91⟩
  exact absurd hsame (by decide)

end SupplyChainTracker.Warehouse
