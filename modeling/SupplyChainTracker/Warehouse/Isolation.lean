import SupplyChainTracker.Core.Async.Protocol
import SupplyChainTracker.Warehouse.Effects

/-!
# Isolation of the warehouses

The handlers of the inventory router check the warehouse of a record on one read and
change the record by its id through another. The check stays valid because no call ever
moves an id to another warehouse: every id has one warehouse for good, the stored one
or that of the request which draws it.
-/

namespace SupplyChainTracker.Warehouse

/-- A request to `inventory_router`, without the warehouse it is addressed to. -/
inductive InventoryRequest : Type
  | create (dto : InventoryRecordCreateDTO) (recordId : UUID) (now : Clock) (draws : EventDraws)
  | listForShipment (shipmentId : UUID) (now : Clock)
  | get (recordId : UUID) (now : Clock)
  | update (recordId : UUID) (dto : InventoryRecordUpdateDTO) (now : Clock) (draws : EventDraws)
  | delete (recordId : UUID) (now : Clock) (draws : EventDraws)

namespace InventoryRequest

/-- The request with its warehouse. -/
def addressed (warehouseId : UUID) : InventoryRequest → Request
  | create dto recordId now draws =>
      .createInventoryRecord warehouseId dto recordId now draws
  | listForShipment shipmentId now => .listInventoryRecordsForShipment warehouseId shipmentId now
  | get recordId now => .getInventoryRecord warehouseId recordId now
  | update recordId dto now draws => .updateInventoryRecord warehouseId recordId dto now draws
  | delete recordId now draws => .deleteInventoryRecord warehouseId recordId now draws

/-- The id that `uuid4` draws for a new record. -/
def drawn : InventoryRequest → Option UUID
  | create _ recordId _ _ => some recordId
  | _ => none

end InventoryRequest

/-- The records of a response are in a warehouse. -/
def Response.Within (warehouseId : UUID) : Response → Prop
  | record dto => dto.warehouseId = warehouseId
  | records dtos => ∀ dto ∈ dtos, dto.warehouseId = warehouseId
  | _ => True

/-- A record is stored or deleted only where its id belongs to the warehouse of the request, and
what is read belongs to the warehouse of its id. -/
def confined (own : UUID → UUID) (warehouseId : UUID) :
    Protocol Call Call.Ans InventoryError Unit where
  may _ op :=
    match op with
    | .save record => own record.recordId = warehouseId ∧ record.warehouseId = warehouseId
    | .delete recordId => own recordId = warehouseId
    | _ => True
  expects op r :=
    match op, r with
    | .get recordId, .ok (some row) =>
        row.recordId = recordId ∧ own row.recordId = row.warehouseId
    | .save record, .ok row =>
        row.recordId = record.recordId ∧ own row.recordId = row.warehouseId
    | _, _ => True
  next _ _ _ := ()

/-- The same of the calls of a handler, which leaves the warehouses alone. -/
def confinedHandler (own : UUID → UUID) (warehouseId : UUID) :
    Protocol (HandlerCall Statement) (HandlerCall.Ans Statement.Ans) InventoryError Unit where
  may _ op :=
    match op with
    | .repository (.shared op) => (confined own warehouseId).may () op
    | .repository _ => False
    | .publishEvent _ => True
  expects op r :=
    match op, r with
    | .repository (.shared op), r => (confined own warehouseId).expects op r
    | _, _ => True
  next _ _ _ := ()

section Confined

open Coroutine (Grants)

variable {own : UUID → UUID} {warehouseId : UUID} {α : Type}

theorem confined_get (recordId : UUID) (now : Clock) :
    (InventoryRepository.get recordId now).Grants (confined own warehouseId) (fun record? _ =>
      ∀ record, record? = some record →
        record.recordId = recordId ∧ own recordId = record.warehouseId) () := by
  refine Grants.bind (Q := fun row? _ => ∀ row, row? = some row →
    row.recordId = recordId ∧ own row.recordId = row.warehouseId)
    (Coroutine.grants_perform.mpr ⟨trivial, ?_⟩) fun row? _ hrow? => ?_
  · rintro r hr row? rfl row rfl
    exact hr
  · cases row? with
    | none => simp
    | some row =>
      obtain ⟨hid, hown⟩ := hrow? row rfl
      refine Coroutine.grants_ofExcept_bind fun record hrecord => (Coroutine.grants_ret _ _).mpr ?_
      intro record' heq
      cases heq
      obtain ⟨hid', hwarehouse, _⟩ := rowToEntity_eq_ok hrecord
      rw [hid', hwarehouse, ← hid]
      exact ⟨rfl, hown⟩

theorem confined_save {record : InventoryRecord} (now : Clock)
    (hown : own record.recordId = warehouseId) (hwarehouse : record.warehouseId = warehouseId) :
    (InventoryRepository.save record now).Grants (confined own warehouseId)
      (fun saved _ => saved.warehouseId = warehouseId) () := by
  refine Grants.bind (Q := fun row _ => row.recordId = record.recordId ∧
    own row.recordId = row.warehouseId)
    (Coroutine.grants_perform.mpr ⟨⟨hown, hwarehouse⟩, ?_⟩) fun row _ hrow => ?_
  · rintro r hr row rfl
    exact hr
  · refine (Coroutine.grants_ofExcept _ _).mpr fun saved hsaved => ?_
    rw [(rowToEntity_eq_ok hsaved).2.1, ← hrow.2, hrow.1, hown]

theorem confined_updateStatus {recordId : UUID} (newStatus : InventoryStatus) (now : Clock)
    (hown : own recordId = warehouseId) :
    (InventoryService.updateStatus recordId newStatus now).Grants (confined own warehouseId)
      (fun saved _ => saved.warehouseId = warehouseId) () := by
  refine Grants.bind (confined_get recordId now) fun record? _ hrecord? => ?_
  cases record? with
  | none => simp
  | some record =>
    obtain ⟨hid, hrecord⟩ := hrecord? record rfl
    dsimp only
    split_ifs
    · simp
    · exact confined_save _ ((congrArg own hid).trans hown) (hrecord.symm.trans hown)

theorem confined_deleteRecord {recordId : UUID} (now : Clock) (hown : own recordId = warehouseId) :
    (InventoryService.deleteRecord recordId now).Grants (confined own warehouseId)
      (fun _ _ => True) () := by
  refine Grants.bind (confined_get recordId now) fun record? _ _ => ?_
  cases record? with
  | none => simp
  | some record => exact Coroutine.grants_perform.mpr ⟨hown, fun _ _ _ _ => trivial⟩

theorem confined_service {p : Program α} {Q : α → Unit → Prop}
    (h : p.Grants (confined own warehouseId) Q ()) :
    (service (inService p)).Grants (confinedHandler own warehouseId) Q () := by
  rw [service, inService, Handler.call, Coroutine.lift_lift]
  refine Grants.lift ?_ ?_ ?_ h
  · exact fun _ _ hmay => hmay
  · rintro op (e | a) hr <;> exact hr
  · exact fun _ _ _ => rfl

theorem confined_announce (domainEvent : DomainEvent) (draws : EventDraws) :
    (announce domainEvent draws).Grants (confinedHandler own warehouseId) (fun _ _ => True) () :=
  Coroutine.grants_perform.mpr ⟨trivial, fun _ _ _ _ => trivial⟩

theorem confined_recordOf (recordId : UUID) (now : Clock) :
    (InventoryRouter.recordOf warehouseId recordId now).Grants (confinedHandler own warehouseId)
      (fun record _ => record.warehouseId = warehouseId ∧ own recordId = warehouseId) () := by
  refine Grants.bind (confined_service (confined_get recordId now)) fun record? _ hrecord? => ?_
  cases record? with
  | none => simp
  | some record =>
    dsimp only
    split_ifs with hwarehouse
    · exact (Coroutine.grants_ret _ _).mpr
        ⟨hwarehouse, (hrecord? record rfl).2.trans hwarehouse⟩
    · simp

theorem confined_createInventoryRecord (dto : InventoryRecordCreateDTO) {recordId : UUID}
    (now : Clock) (draws : EventDraws) (hown : own recordId = warehouseId) :
    (InventoryRouter.createInventoryRecord warehouseId dto recordId now draws).Grants
      (confinedHandler own warehouseId) (fun dto _ => dto.warehouseId = warehouseId) () := by
  refine Grants.bind (confined_service (confined_save _ hown rfl)) fun saved _ hsaved => ?_
  exact Grants.bind (confined_announce _ _) fun _ _ _ => (Coroutine.grants_ret _ _).mpr hsaved

theorem confined_listInventoryRecords (shipmentId : UUID) (now : Clock) :
    (InventoryRouter.listInventoryRecordsForShipment warehouseId shipmentId now).Grants
      (confinedHandler own warehouseId)
      (fun dtos _ => ∀ dto ∈ dtos, dto.warehouseId = warehouseId) () := by
  have hlist : (InventoryService.listRecordsByShipment shipmentId now).Grants
      (confined own warehouseId) (fun _ _ => True) () :=
    Grants.bind (Coroutine.grants_perform.mpr ⟨trivial, fun _ _ _ _ => trivial⟩)
      fun _ _ (_ : True) => (Coroutine.grants_ofExcept _ _).mpr fun _ _ => trivial
  refine Grants.bind (confined_service hlist) fun records _ _ => (Coroutine.grants_ret _ _).mpr ?_
  intro dto hdto
  obtain ⟨record, hrecord, rfl⟩ := List.mem_map.mp hdto
  exact of_decide_eq_true (List.mem_filter.mp hrecord).2

theorem confined_getInventoryRecord (recordId : UUID) (now : Clock) :
    (InventoryRouter.getInventoryRecord warehouseId recordId now).Grants
      (confinedHandler own warehouseId) (fun dto _ => dto.warehouseId = warehouseId) () :=
  Grants.bind (confined_recordOf recordId now) fun _ _ hrecord =>
    (Coroutine.grants_ret _ _).mpr hrecord.1

theorem confined_updateInventoryRecord (recordId : UUID) (dto : InventoryRecordUpdateDTO)
    (now : Clock) (draws : EventDraws) :
    (InventoryRouter.updateInventoryRecord warehouseId recordId dto now draws).Grants
      (confinedHandler own warehouseId) (fun dto _ => dto.warehouseId = warehouseId) () := by
  refine Grants.bind (confined_recordOf recordId now) fun _ _ hrecord => ?_
  cases dto.status with
  | none => simp
  | some status =>
    refine Grants.bind (confined_service (confined_updateStatus status _ hrecord.2))
      fun saved _ hsaved => ?_
    exact Grants.bind (confined_announce _ _) fun _ _ _ => (Coroutine.grants_ret _ _).mpr hsaved

theorem confined_deleteInventoryRecord (recordId : UUID) (now : Clock) (draws : EventDraws) :
    (InventoryRouter.deleteInventoryRecord warehouseId recordId now draws).Grants
      (confinedHandler own warehouseId) (fun _ _ => True) () :=
  Grants.bind (confined_recordOf recordId now) fun _ _ hrecord =>
    Grants.bind (confined_service (confined_deleteRecord _ hrecord.2)) fun _ _ _ =>
      confined_announce _ _

/-- A handler whose drawn id belongs to its warehouse keeps to its warehouse. -/
theorem confined_handler (text : LocationText) (request : InventoryRequest)
    (hdrawn : ∀ recordId, request.drawn = some recordId → own recordId = warehouseId) :
    ((request.addressed warehouseId).handler text).Grants (confinedHandler own warehouseId)
      (fun response _ => response.Within warehouseId) () := by
  cases request with
  | create dto recordId now draws =>
    exact Grants.bind (confined_createInventoryRecord dto now draws (hdrawn recordId rfl))
      fun _ _ h => (Coroutine.grants_ret _ _).mpr h
  | listForShipment shipmentId now =>
    exact Grants.bind (confined_listInventoryRecords shipmentId now)
      fun _ _ h => (Coroutine.grants_ret _ _).mpr h
  | get recordId now =>
    exact Grants.bind (confined_getInventoryRecord recordId now)
      fun _ _ h => (Coroutine.grants_ret _ _).mpr h
  | update recordId dto now draws =>
    exact Grants.bind (confined_updateInventoryRecord recordId dto now draws)
      fun _ _ h => (Coroutine.grants_ret _ _).mpr h
  | delete recordId now draws =>
    exact Grants.bind (confined_deleteInventoryRecord recordId now draws)
      fun _ _ h => (Coroutine.grants_ret _ _).mpr h

end Confined

/-- Every stored record is in the warehouse that its id belongs to. -/
def InventoryDb.Owned (own : UUID → UUID) (db : InventoryDb) : Prop :=
  ∀ row ∈ db.records.rows, own row.recordId = row.warehouseId

/-- The records of the other warehouses are those that were there before. -/
def InventoryDb.SameElsewhere (warehouseId : UUID) (db db' : InventoryDb) : Prop :=
  ∀ row, row.warehouseId ≠ warehouseId → (row ∈ db'.records.rows ↔ row ∈ db.records.rows)

section Owned

variable {own : UUID → UUID} {warehouseId : UUID} {db : InventoryDb}

/-- A confined statement is answered as expected, leaves every record in the warehouse of its id and
the other warehouses alone. -/
theorem InventoryDb.Owned.act (h : db.Owned own) {op : Call}
    (hmay : (confined own warehouseId).may () op) :
    (confined own warehouseId).expects op (Warehouse.act op db).1 ∧
      (Warehouse.act op db).2.Owned own ∧
      db.SameElsewhere warehouseId (Warehouse.act op db).2 := by
  cases op with
  | get recordId =>
    refine ⟨?_, h, fun _ _ => Iff.rfl⟩
    simp only [Warehouse.act]
    cases hrow : db.records.find? recordId with
    | none => trivial
    | some row => exact ⟨Table.key_of_find? hrow, h row (Table.mem_of_find? hrow)⟩
  | listByShipment shipmentId => exact ⟨trivial, h, fun _ _ => Iff.rfl⟩
  | delete recordId =>
    refine ⟨trivial, fun row hrow => h row (List.mem_of_mem_filter hrow), fun row hne => ?_⟩
    refine ⟨List.mem_of_mem_filter, fun hrow => List.mem_filter.mpr ⟨hrow, ?_⟩⟩
    have hid : row.recordId ≠ recordId := fun hid =>
      hne ((h row hrow).symm.trans ((congrArg own hid).trans hmay))
    simpa using hid
  | save record =>
    obtain ⟨hown, hwarehouse⟩ := hmay
    obtain ⟨hid, htarget⟩ := db.target_toRow record
    have hrow : own (db.target record.toRow).recordId = (db.target record.toRow).warehouseId := by
      rw [hid, htarget, hown, hwarehouse]
    rcases save_cases record db with ⟨_, db', hsave, _, hrecords⟩ | ⟨_, e, hsave⟩
    · simp only [Warehouse.act, hsave]
      refine ⟨⟨hid, hrow⟩, fun row hmem => ?_, fun row hne => ?_⟩
      · rw [hrecords, Table.mem_put] at hmem
        rcases hmem with rfl | ⟨hmem, _⟩
        · exact hrow
        · exact h row hmem
      · rw [hrecords, Table.mem_put]
        constructor
        · rintro (rfl | ⟨hmem, _⟩)
          · exact absurd (htarget.trans hwarehouse) hne
          · exact hmem
        · refine fun hmem => .inr ⟨hmem, fun heq => hne ?_⟩
          rw [← h row hmem, heq, hid, hown]
    · simp only [Warehouse.act, hsave]
      exact ⟨trivial, h, fun _ _ => Iff.rfl⟩

/-- The same of a call of a handler. -/
theorem InventoryDb.Owned.apiAct {backend : Backend} {s : Served World}
    (h : s.world.db.Owned own) {op : HandlerCall Statement}
    (hmay : (confinedHandler own warehouseId).may () op) :
    (confinedHandler own warehouseId).expects op (Warehouse.apiAct backend op s).1 ∧
      (Warehouse.apiAct backend op s).2.world.db.Owned own ∧
      s.world.db.SameElsewhere warehouseId (Warehouse.apiAct backend op s).2.world.db := by
  match op with
  | .repository (.shared op) => exact h.act hmay
  | .publishEvent call => exact ⟨trivial, h, fun _ _ => Iff.rfl⟩

end Owned

section Isolation

variable {ι : Type} (backend : Backend) (requests : ι → UUID × InventoryRequest)

/-- The requests before their first call. -/
def inventoryRouter (s : Served World) :
    Config ι (HandlerCall Statement) (HandlerCall.Ans Statement.Ans) InventoryError Response
      (Served World) where
  threads i := ((requests i).2.addressed (requests i).1).handler backend.text
  world := s
  trace := []

/-- The ids that `uuid4` draws are new. -/
structure FreshIds (db : InventoryDb) : Prop where
  unstored : ∀ i recordId, (requests i).2.drawn = some recordId →
    db.records.find? recordId = none
  distinct : ∀ i j recordId, (requests i).2.drawn = some recordId →
    (requests j).2.drawn = some recordId → i = j

variable {requests}

/-- Where the drawn ids are new, every id has one warehouse. -/
theorem FreshIds.exists_owner {db : InventoryDb} (h : FreshIds requests db) :
    ∃ own, db.Owned own ∧
      ∀ i recordId, (requests i).2.drawn = some recordId → own recordId = (requests i).1 := by
  classical
  refine ⟨fun recordId =>
    if hdrawn : ∃ i, (requests i).2.drawn = some recordId then (requests hdrawn.choose).1
    else ((db.records.find? recordId).map InventoryRow.warehouseId).getD recordId, ?_, ?_⟩
  · intro row hrow
    have hfind := Table.find?_of_mem hrow
    have hdrawn : ¬ ∃ i, (requests i).2.drawn = some row.recordId := by
      rintro ⟨i, hi⟩
      cases hfind.symm.trans (h.unstored i _ hi)
    simp only [dif_neg hdrawn, hfind, Option.map_some, Option.getD_some]
  · intro i recordId hi
    have hdrawn : ∃ i, (requests i).2.drawn = some recordId := ⟨i, hi⟩
    simp only [dif_pos hdrawn]
    rw [h.distinct _ _ recordId hdrawn.choose_spec hi]

variable [DecidableEq ι]

/-- Whatever the order of their calls, a request returns only records of its warehouse and leaves
the records of the others alone, and no record moves to another warehouse. -/
theorem inventory_isolated (s : Served World) (hfresh : FreshIds requests s.world.db)
    (sched : List ι)
    {c : Config ι (HandlerCall Statement) (HandlerCall.Ans Statement.Ans) InventoryError Response
      (Served World)}
    (h : (inventoryRouter backend requests s).exec (apiAct backend) sched = some c) :
    (∀ i response, c.threads i = .ret response → response.Within (requests i).1) ∧
    (∀ i d, c.step (apiAct backend) i = some d →
      c.world.world.db.SameElsewhere (requests i).1 d.world.world.db) ∧
    ∀ past d, past <+: sched →
      (inventoryRouter backend requests s).exec (apiAct backend) past = some d →
      ∀ row ∈ d.world.world.db.records.rows, ∀ row' ∈ c.world.world.db.records.rows,
        row.recordId = row'.recordId → row.warehouseId = row'.warehouseId := by
  obtain ⟨own, howned, hdrawn⟩ := hfresh.exists_owner
  have hreached : ∀ past d,
      (inventoryRouter backend requests s).exec (apiAct backend) past = some d →
      ∃ st, d.Conforms (fun i => confinedHandler own (requests i).1)
        (fun i response _ => response.Within (requests i).1) st ∧
        d.world.world.db.Owned own := by
    intro past d hd
    refine Config.exec_conforms (fun _ s _ => s.world.db.Owned own) ?_ (fun _ => ())
      (fun i => confined_handler backend.text (requests i).2 (hdrawn i)) howned
      hd
    intro st s tr i op hi hmay
    exact ⟨(hi.apiAct hmay).1, (hi.apiAct hmay).2.1⟩
  obtain ⟨st, hconforms, hown⟩ := hreached sched c h
  refine ⟨fun i response hi => ?_, fun i d hd => ?_, fun past d _ hd row hrow row' hrow' heq => ?_⟩
  · have hkeeps := hconforms i
    rw [hi] at hkeeps
    exact hkeeps response rfl
  · obtain ⟨op, k, hik, rfl⟩ := Config.step_cases hd
    exact (hown.apiAct (hconforms.may hik)).2.2
  · obtain ⟨_, _, hown'⟩ := hreached past d hd
    rw [← hown' row hrow, ← hown row' hrow', heq]

end Isolation

/-- Two warehouses, and a record in the first of them. -/
def sampleServed : Served World where
  world := {
    db := {
      warehouses := ⟨[⟨⟨50⟩, "East", "", 0, 0⟩, ⟨⟨51⟩, "West", "", 0, 0⟩], by decide⟩
      records := ⟨[⟨⟨54⟩, ⟨52⟩, ⟨50⟩, "stored", 0, 0⟩], by decide⟩
      warehouseOf := by decide }
    clock := fun n => n
    statements := 0 }
  queue := ⟨[], 0⟩

/-- A database that refuses nothing but a broken foreign key. -/
def isolationBackend : Backend where
  pg := ⟨fun _ => none, fun a b => decide (a ≤ b)⟩
  text := ⟨fun location => location.city, fun _ => .error (.valueError "")⟩
  adapter := .memory

/-- A new record for the first warehouse, and the deletion of its old one addressed to the
second. -/
def sampleInventoryRequests : Bool → UUID × InventoryRequest
  | false => ⟨⟨50⟩, .create { shipmentId := ⟨52⟩ } ⟨53⟩ (fun _ => 1) ⟨1, ⟨55⟩, 1⟩⟩
  | true => ⟨⟨51⟩, .delete ⟨54⟩ (fun _ => 1) ⟨1, ⟨56⟩, 1⟩⟩

/-- The deletion is answered with a 404, and no record moves. -/
theorem inventory_isolated_sample :
    ∃ c, (inventoryRouter isolationBackend sampleInventoryRequests sampleServed).exec
        (apiAct isolationBackend) [false, true] = some c ∧
      c.threads true = .raise (noRecord ⟨51⟩ ⟨54⟩) ∧
      c.world.world.db.records.rows.length = 2 ∧
      ∀ row ∈ sampleServed.world.db.records.rows, ∀ row' ∈ c.world.world.db.records.rows,
        row.recordId = row'.recordId → row.warehouseId = row'.warehouseId := by
  refine ⟨_, rfl, rfl, rfl, ?_⟩
  have hfresh : FreshIds sampleInventoryRequests sampleServed.world.db := by
    constructor
    · rintro (_ | _) recordId h
      · cases h
        decide
      · cases h
    · rintro (_ | _) (_ | _) recordId h h'
      · rfl
      · cases h'
      · cases h
      · rfl
  exact (inventory_isolated isolationBackend sampleServed hfresh [false, true] rfl).2.2 []
    _ List.nil_prefix rfl

end SupplyChainTracker.Warehouse
