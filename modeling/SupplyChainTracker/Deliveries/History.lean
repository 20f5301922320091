import SupplyChainTracker.Core.Run
import SupplyChainTracker.Deliveries.Lifecycle

/-!
# The delivery repository as a map

What the queries of the repository answer after any saves and deletions, told by these alone: the
saves of a delivery since its last deletion, and what has last been written for a courier.
-/

namespace SupplyChainTracker.Deliveries

open Coroutine (perform)

/-- An operation on the tables. -/
inductive StoreCall : Type
  | save (delivery : Delivery)
  | delete (deliveryId : UUID)
  | writeCourier (courierId : UUID) (name : FullName) (contactInfo : ContactInfo)
  | deleteCourier (courierId : UUID)

namespace StoreCall

/-- The statement or the method of a repository that is awaited. -/
def program : StoreCall → ServiceProgram Unit
  | save delivery => do
      let _ ← DeliveryRepository.save delivery
      return ()
  | delete deliveryId => inService (DeliveryRepository.delete deliveryId)
  | writeCourier courierId name contactInfo => do
      let _ ← perform (Statement.saveCourier courierId name.value contactInfo.value)
      return ()
  | deleteCourier courierId => CourierRepository.delete courierId

/-- The database after an operation. -/
def step (pg : Postgres) (call : StoreCall) (w : World) : World :=
  (call.program.run (Statement.act pg) w).2

/-- The foreign key admits the operation. -/
def Admitted (w : World) : StoreCall → Prop
  | save delivery => (w.db.couriers.find? delivery.courier.courierId).isSome
  | deleteCourier courierId => ∀ d ∈ w.db.deliveries.rows, d.courierId ≠ courierId
  | delete _ | writeCourier .. => True

end StoreCall

/-- No constraint besides the keys refuses a row. -/
structure Postgres.Lenient (pg : Postgres) : Prop where
  delivery : ∀ row, pg.refusesDelivery row = none
  courier : ∀ row, pg.refusesCourier row = none

/-- The tables without rows. -/
def DeliveryDb.empty : DeliveryDb where
  couriers := .empty
  deliveries := .empty
  courierOf := fun _ hd => by cases hd

/-- The saves of a delivery after one more operation. -/
def nextSaves (deliveryId : UUID) (saves : List Delivery) : StoreCall → List Delivery
  | .save delivery => if delivery.deliveryId = deliveryId then saves ++ [delivery] else saves
  | .delete deleted => if deleted = deliveryId then [] else saves
  | .writeCourier .. | .deleteCourier _ => saves

/-- The saves of a delivery since its last deletion. -/
def savesOf (deliveryId : UUID) (calls : List StoreCall) : List Delivery :=
  calls.foldl (nextSaves deliveryId) []

/-- The name and the contact of a courier after one more operation. -/
def nextCourier (courierId : UUID) (stored : Option (FullName × ContactInfo)) :
    StoreCall → Option (FullName × ContactInfo)
  | .writeCourier written name contactInfo =>
      if written = courierId then some (name, contactInfo) else stored
  | .deleteCourier deleted => if deleted = courierId then none else stored
  | .save _ | .delete _ => stored

/-- The name and the contact that are stored for a courier. -/
def courierTexts (courierId : UUID) (calls : List StoreCall) : Option (FullName × ContactInfo) :=
  calls.foldl (nextCourier courierId) none

/-- A query of the delivery repository. -/
inductive Query : Type
  | get (deliveryId : UUID)
  | getByShipment (shipmentId : UUID)
  | getByCourier (courierId : UUID)
  | getByStatus (status : DeliveryStatus)
  | getAll (limit : Nat)

namespace DeliveryDb

/-- The deliveries joined to their couriers. -/
def joined (db : DeliveryDb) : List (DeliveryRow × CourierRow) :=
  db.deliveries.rows.filterMap fun d => (db.couriers.find? d.courierId).map fun c => (d, c)

/-- The joined deliveries that satisfy a condition, in some order of their creation. -/
def selectWhere (p : DeliveryRow → Bool) (le : DateTime → DateTime → Bool) (db : DeliveryDb) :
    List (DeliveryRow × CourierRow) :=
  (db.joined.filter fun r => p r.1).insertionSort fun r s => le r.1.createdAt s.1.createdAt

end DeliveryDb

namespace Query

/-- The rows that a query fetches. -/
def rows (db : DeliveryDb) : Query → List (DeliveryRow × CourierRow)
  | get deliveryId => (db.get deliveryId).toList
  | getByShipment shipmentId =>
      db.selectWhere (fun d => d.shipmentId = shipmentId) fun s t => t ≤ s
  | getByCourier courierId => db.selectWhere (fun d => d.courierId = courierId) fun s t => t ≤ s
  | getByStatus status => db.selectWhere (fun d => d.status = status.value) fun s t => s ≤ t
  | getAll limit => db.listDeliveries limit 0

/-- What a query returns. -/
def run (query : Query) (db : DeliveryDb) : Except DeliveryError (List Delivery) :=
  (query.rows db).mapM fun row => rowToEntity row.1 row.2

/-- A query asks for the deliveries whose latest save satisfies a condition. -/
def Asks : Query → Delivery → Prop
  | get deliveryId, latest => latest.deliveryId = deliveryId
  | getByShipment shipmentId, latest => latest.shipmentId = shipmentId
  | getByCourier courierId, latest => latest.courier.courierId = courierId
  | getByStatus status, latest => latest.status = status
  | getAll _, _ => True

/-- The limit of a query is at least the number of rows. -/
def Covers (db : DeliveryDb) : Query → Prop
  | getAll limit => db.deliveries.rows.length ≤ limit
  | get _ | getByShipment _ | getByCourier _ | getByStatus _ => True

/-- The method `get` returns the delivery of its query. -/
theorem run_get (pg : Postgres) (deliveryId : UUID) (w : World) :
    ((inService (DeliveryRepository.get deliveryId)).run (Statement.act pg) w).1 =
      ((Query.get deliveryId).run w.db).map List.head? := by
  have hans : ∀ (op : Call) (w : World),
      ((Statement.act pg (.shared op) w).1.map fun a => a) = (act op w.db).1 := by
    intro op w
    simp only [Statement.act]
    cases (act op w.db).1 <;> rfl
  have hrun := (Coroutine.run_lift_of_view hans (fun _ _ => rfl)
    (DeliveryRepository.get deliveryId) w).1
  rw [inService, hrun]
  simp only [DeliveryRepository.get, Coroutine.bind_eq, Coroutine.run_bind, Coroutine.run_perform,
    act, Query.run, Query.rows]
  cases w.db.get deliveryId with
  | none => rfl
  | some r =>
    rw [Option.toList_some, List.mapM_cons]
    simp only [Coroutine.run_bind, Coroutine.run_ofExcept]
    cases rowToEntity r.1 r.2 <;> rfl

/-- The method `get_all` returns what its query does. -/
theorem run_getAll (pg : Postgres) (limit : Nat) (w : World) :
    ((DeliveryRepository.getAll limit 0).run (Statement.act pg) w).1 =
      (Query.getAll limit).run w.db := by
  simp only [DeliveryRepository.getAll, Coroutine.bind_eq, Coroutine.run_bind,
    Coroutine.run_perform, Statement.act, Coroutine.run_ofExcept]
  rfl

end Query

/-- The first and the latest save of a delivery since its last deletion. -/
structure SavedAs (calls : List StoreCall) (deliveryId : UUID) (first latest : Delivery) :
    Prop where
  isFirst : (savesOf deliveryId calls).head? = some first
  isLatest : (savesOf deliveryId calls).getLast? = some latest

/-- A delivery is as operations have left it, its last update aside. -/
structure Current (calls : List StoreCall) (delivery first latest : Delivery) : Prop where
  saved : SavedAs calls delivery.deliveryId first latest
  shipmentId : delivery.shipmentId = latest.shipmentId
  courierId : delivery.courier.courierId = latest.courier.courierId
  status : delivery.status = latest.status
  estimatedArrival : delivery.estimatedArrival = latest.estimatedArrival
  actualArrival : delivery.actualArrival = latest.actualArrival
  createdAt : delivery.createdAt = first.createdAt
  courier : courierTexts delivery.courier.courierId calls =
    some (delivery.courier.name, delivery.courier.contactInfo)

/-- A query is answered: with every delivery that has been saved and not deleted since and whose
latest save is asked for, once, as the operations have left it, and with no other. -/
structure Answers (calls : List StoreCall) (query : Query) (deliveries : List Delivery) :
    Prop where
  once : (deliveries.map Delivery.deliveryId).Nodup
  complete : ∀ deliveryId first latest, SavedAs calls deliveryId first latest →
    query.Asks latest → ∃ delivery ∈ deliveries, delivery.deliveryId = deliveryId
  current : ∀ delivery ∈ deliveries, ∃ first latest,
    Current calls delivery first latest ∧ query.Asks latest

theorem savesOf_append (deliveryId : UUID) (calls : List StoreCall) (call : StoreCall) :
    savesOf deliveryId (calls ++ [call]) =
      nextSaves deliveryId (savesOf deliveryId calls) call := by
  simp [savesOf]

theorem courierTexts_append (courierId : UUID) (calls : List StoreCall) (call : StoreCall) :
    courierTexts courierId (calls ++ [call]) =
      nextCourier courierId (courierTexts courierId calls) call := by
  simp [courierTexts]

/-- A row holds what the saves of its delivery have left. -/
structure RowOf (saves : List Delivery) (row : DeliveryRow) (first latest : Delivery) : Prop where
  isFirst : saves.head? = some first
  isLatest : saves.getLast? = some latest
  row : row = { latest.toRow with createdAt := first.createdAt, updatedAt := row.updatedAt }

/-- The tables hold what operations have left: a row for every delivery with a save, and the texts
that have been written for every courier. -/
structure DeliveryDb.Holds (calls : List StoreCall) (db : DeliveryDb) : Prop where
  absent : ∀ deliveryId, db.deliveries.find? deliveryId = none → savesOf deliveryId calls = []
  present : ∀ deliveryId row, db.deliveries.find? deliveryId = some row →
    ∃ first latest, RowOf (savesOf deliveryId calls) row first latest
  couriers : ∀ courierId, (db.couriers.find? courierId).map (fun c => (c.name, c.contactInfo)) =
    (courierTexts courierId calls).map fun texts => (texts.1.value, texts.2.value)

theorem DeliveryDb.holds_empty : DeliveryDb.empty.Holds [] where
  absent _ _ := rfl
  present _ _ h := by cases h
  couriers _ := rfl

section Steps

variable {pg : Postgres} {w : World} {calls : List StoreCall}

/-- A save that is admitted is carried out. -/
theorem db_step_save (hpg : pg.Lenient) {delivery : Delivery}
    (h : (w.db.couriers.find? delivery.courier.courierId).isSome) :
    ((StoreCall.save delivery).step pg w).db.couriers = w.db.couriers ∧
      ((StoreCall.save delivery).step pg w).db.deliveries =
        w.db.deliveries.put (w.db.deliveryTarget delivery w.now) := by
  have hsave : (w.db.saveDelivery pg delivery w.now).1 = .ok () ∧
      (w.db.saveDelivery pg delivery w.now).2.couriers = w.db.couriers ∧
      (w.db.saveDelivery pg delivery w.now).2.deliveries =
        w.db.deliveries.put (w.db.deliveryTarget delivery w.now) := by
    simp only [DeliveryDb.saveDelivery, hpg.delivery, Option.or_none, h, dif_pos, and_self]
  have hrun : (StoreCall.save delivery).step pg w =
      w.after (w.db.saveDelivery pg delivery w.now).2 := by
    simp only [StoreCall.step, StoreCall.program, DeliveryRepository.save, Coroutine.bind_eq,
      Coroutine.pure_eq, Coroutine.run_bind, Coroutine.run_perform, Statement.act, hsave.1,
      Coroutine.run_ret]
  rw [hrun]
  exact hsave.2

/-- A deletion is carried out. -/
theorem db_step_delete (deliveryId : UUID) :
    ((StoreCall.delete deliveryId).step pg w).db = w.db.delete deliveryId := by
  simp only [StoreCall.step, StoreCall.program, inService, DeliveryRepository.delete,
    Coroutine.run_lift_perform, Statement.act, act, Database.db_after]

/-- The texts of a courier are written. -/
theorem db_step_writeCourier (hpg : pg.Lenient) (courierId : UUID) (name : FullName)
    (contactInfo : ContactInfo) :
    ((StoreCall.writeCourier courierId name contactInfo).step pg w).db.couriers =
        w.db.couriers.put (w.db.courierTarget courierId name.value contactInfo.value w.now) ∧
      ((StoreCall.writeCourier courierId name contactInfo).step pg w).db.deliveries =
        w.db.deliveries := by
  simp [StoreCall.step, StoreCall.program, Coroutine.run_bind, Statement.act,
    DeliveryDb.saveCourier, hpg.courier]

variable (pg) in
/-- A courier without deliveries is deleted. -/
theorem db_step_deleteCourier {courierId : UUID}
    (h : ∀ d ∈ w.db.deliveries.rows, d.courierId ≠ courierId) :
    ((StoreCall.deleteCourier courierId).step pg w).db.couriers =
        w.db.couriers.removeWhere (fun c => c.courierId = courierId) ∧
      ((StoreCall.deleteCourier courierId).step pg w).db.deliveries = w.db.deliveries := by
  have hdelete : (w.db.deleteCourier courierId).2.couriers =
      w.db.couriers.removeWhere (fun c => c.courierId = courierId) ∧
      (w.db.deleteCourier courierId).2.deliveries = w.db.deliveries := by
    unfold DeliveryDb.deleteCourier
    rw [dif_pos h]
    exact ⟨rfl, rfl⟩
  simpa only [StoreCall.step, StoreCall.program, CourierRepository.delete, Coroutine.run_perform,
    Statement.act, Database.db_after] using hdelete

/-- Saving a delivery adds a save of it. -/
theorem holds_step_save (hpg : pg.Lenient) {delivery : Delivery}
    (hadmitted : (w.db.couriers.find? delivery.courier.courierId).isSome)
    (h : w.db.Holds calls) :
    ((StoreCall.save delivery).step pg w).db.Holds (calls ++ [.save delivery]) := by
  obtain ⟨hcouriers, hdeliveries⟩ := db_step_save hpg hadmitted
  refine ⟨fun deliveryId hnone => ?_, fun deliveryId row hrow => ?_, fun courierId => ?_⟩
  · rw [hdeliveries, Table.find?_put] at hnone
    split at hnone
    · cases hnone
    · rename_i hne
      rw [DeliveryDb.deliveryId_deliveryTarget] at hne
      rw [savesOf_append, nextSaves, if_neg hne]
      exact h.absent deliveryId hnone
  · rw [hdeliveries, Table.find?_put] at hrow
    rw [savesOf_append, nextSaves]
    rw [DeliveryDb.deliveryId_deliveryTarget] at hrow
    by_cases hid : delivery.deliveryId = deliveryId
    · rw [if_pos hid] at hrow ⊢
      obtain rfl := Option.some.inj hrow
      subst hid
      unfold DeliveryDb.deliveryTarget
      cases hold : w.db.deliveries.find? delivery.deliveryId with
      | none =>
        rw [h.absent _ hold]
        exact ⟨delivery, delivery, rfl, rfl, rfl⟩
      | some old =>
        obtain ⟨first, latest, hsaved⟩ := h.present _ old hold
        refine ⟨first, delivery, ?_, ?_, ?_⟩
        · rw [List.head?_append, hsaved.isFirst, Option.some_or]
        · rw [List.getLast?_concat]
        · rw [hsaved.row]
    · rw [if_neg hid] at hrow ⊢
      exact h.present deliveryId row hrow
  · rw [hcouriers, courierTexts_append]
    exact h.couriers courierId

/-- Deleting a delivery forgets its saves. -/
theorem holds_step_delete (deleted : UUID) (h : w.db.Holds calls) :
    ((StoreCall.delete deleted).step pg w).db.Holds (calls ++ [.delete deleted]) := by
  rw [db_step_delete]
  have hfind : ∀ deliveryId, (w.db.delete deleted).deliveries.find? deliveryId =
      if deliveryId = deleted then none else w.db.deliveries.find? deliveryId :=
    fun deliveryId => Table.find?_removeWhere_key _ _ _
  refine ⟨fun deliveryId hnone => ?_, fun deliveryId row hrow => ?_, fun courierId => ?_⟩
  · rw [savesOf_append, nextSaves]
    by_cases hid : deleted = deliveryId
    · rw [if_pos hid]
    · rw [hfind, if_neg (Ne.symm hid)] at hnone
      rw [if_neg hid]
      exact h.absent deliveryId hnone
  · rw [hfind] at hrow
    by_cases hid : deliveryId = deleted
    · rw [if_pos hid] at hrow
      cases hrow
    · rw [if_neg hid] at hrow
      rw [savesOf_append, nextSaves, if_neg (Ne.symm hid)]
      exact h.present deliveryId row hrow
  · rw [courierTexts_append]
    exact h.couriers courierId

/-- An operation on a courier leaves the saves of every delivery as they are. -/
theorem DeliveryDb.Holds.courierStep {db db' : DeliveryDb} {call : StoreCall} (h : db.Holds calls)
    (hdeliveries : db'.deliveries = db.deliveries)
    (hsaves : ∀ deliveryId saves, nextSaves deliveryId saves call = saves)
    (hcouriers : ∀ courierId,
      (db'.couriers.find? courierId).map (fun c => (c.name, c.contactInfo)) =
        (nextCourier courierId (courierTexts courierId calls) call).map fun texts =>
          (texts.1.value, texts.2.value)) :
    db'.Holds (calls ++ [call]) := by
  refine ⟨fun deliveryId hnone => ?_, fun deliveryId row hrow => ?_, fun courierId => ?_⟩
  · rw [hdeliveries] at hnone
    rw [savesOf_append, hsaves]
    exact h.absent deliveryId hnone
  · rw [hdeliveries] at hrow
    rw [savesOf_append, hsaves]
    exact h.present deliveryId row hrow
  · rw [courierTexts_append]
    exact hcouriers courierId

/-- Writing a courier changes the texts of that courier. -/
theorem holds_step_writeCourier (hpg : pg.Lenient) (written : UUID) (name : FullName)
    (contactInfo : ContactInfo) (h : w.db.Holds calls) :
    ((StoreCall.writeCourier written name contactInfo).step pg w).db.Holds
      (calls ++ [.writeCourier written name contactInfo]) := by
  obtain ⟨hcouriers, hdeliveries⟩ := db_step_writeCourier (w := w) hpg written name contactInfo
  have htexts : ((w.db.courierTarget written name.value contactInfo.value w.now).name,
      (w.db.courierTarget written name.value contactInfo.value w.now).contactInfo) =
      (name.value, contactInfo.value) := by
    unfold DeliveryDb.courierTarget
    split <;> rfl
  refine h.courierStep hdeliveries (fun _ _ => rfl) fun courierId => ?_
  rw [hcouriers, Table.find?_put, DeliveryDb.courierId_courierTarget, nextCourier]
  by_cases hid : written = courierId
  · rw [if_pos hid, if_pos hid, Option.map_some, Option.map_some, htexts]
  · rw [if_neg hid, if_neg hid]
    exact h.couriers courierId

/-- Deleting a courier forgets the texts of that courier. -/
theorem holds_step_deleteCourier {deleted : UUID}
    (hadmitted : ∀ d ∈ w.db.deliveries.rows, d.courierId ≠ deleted) (h : w.db.Holds calls) :
    ((StoreCall.deleteCourier deleted).step pg w).db.Holds
      (calls ++ [.deleteCourier deleted]) := by
  obtain ⟨hcouriers, hdeliveries⟩ := db_step_deleteCourier pg hadmitted
  refine h.courierStep hdeliveries (fun _ _ => rfl) fun courierId => ?_
  rw [hcouriers, Table.find?_removeWhere_key, nextCourier]
  by_cases hid : courierId = deleted
  · rw [if_pos hid, if_pos hid.symm]
    rfl
  · rw [if_neg hid, if_neg (Ne.symm hid)]
    exact h.couriers courierId

/-- The tables hold what one more operation has left. -/
theorem holds_step (hpg : pg.Lenient) {call : StoreCall} (hadmitted : call.Admitted w)
    (h : w.db.Holds calls) : (call.step pg w).db.Holds (calls ++ [call]) := by
  cases call with
  | save delivery => exact holds_step_save hpg hadmitted h
  | delete deliveryId => exact holds_step_delete deliveryId h
  | writeCourier courierId name contactInfo =>
    exact holds_step_writeCourier hpg courierId name contactInfo h
  | deleteCourier courierId => exact holds_step_deleteCourier hadmitted h

/-- The tables hold what any operations have left. -/
theorem holds_foldl (hpg : pg.Lenient) (more : List StoreCall) (h : w.db.Holds calls)
    (hadmitted : EachStep (StoreCall.step pg) (fun w call => call.Admitted w) more w) :
    (more.foldl (fun w call => call.step pg w) w).db.Holds (calls ++ more) := by
  induction more generalizing calls w with
  | nil => rwa [List.append_nil]
  | cons call more ih =>
    have hrest := ih (holds_step hpg hadmitted.1 h) hadmitted.2
    rwa [List.append_assoc, List.singleton_append] at hrest

end Steps

/-- A stored row is one that a query asks for. -/
def Query.Matches : Query → DeliveryRow → Prop
  | .get deliveryId, d => d.deliveryId = deliveryId
  | .getByShipment shipmentId, d => d.shipmentId = shipmentId
  | .getByCourier courierId, d => d.courierId = courierId
  | .getByStatus status, d => d.status = status.value
  | .getAll _, _ => True

/-- What a query fetches: the rows that match, once, each with its courier. -/
structure Query.Fetches (query : Query) (db : DeliveryDb) (rows : List (DeliveryRow × CourierRow)) :
    Prop where
  once : (rows.map fun r => r.1.deliveryId).Nodup
  mem_iff : ∀ d c, (d, c) ∈ rows ↔
    d ∈ db.deliveries.rows ∧ db.couriers.find? d.courierId = some c ∧ query.Matches d

section Fetching

variable (db : DeliveryDb)

theorem DeliveryDb.mem_joined {d : DeliveryRow} {c : CourierRow} :
    (d, c) ∈ db.joined ↔
      d ∈ db.deliveries.rows ∧ db.couriers.find? d.courierId = some c := by
  simp only [joined, List.mem_filterMap, Option.map_eq_some_iff, Prod.mk.injEq]
  constructor
  · rintro ⟨d', hd', c', hc', rfl, rfl⟩
    exact ⟨hd', hc'⟩
  · rintro ⟨hd, hc⟩
    exact ⟨d, hd, c, hc, rfl, rfl⟩

/-- The join keeps a row at most once. -/
theorem DeliveryDb.nodup_joined : (db.joined.map fun r => r.1.deliveryId).Nodup := by
  have hsublist : ∀ rows : List DeliveryRow, ((rows.filterMap fun d =>
      (db.couriers.find? d.courierId).map fun c => (d, c)).map Prod.fst).Sublist rows := by
    intro rows
    induction rows with
    | nil => exact .slnil
    | cons d rows ih =>
      rw [List.filterMap_cons]
      cases db.couriers.find? d.courierId with
      | none => exact ih.cons d
      | some c => exact ih.cons_cons d
  have hkeys := (hsublist db.deliveries.rows).map DeliveryRow.deliveryId
  rw [List.map_map] at hkeys
  exact db.deliveries.nodup.sublist hkeys

/-- A selection fetches the rows that satisfy its condition. -/
theorem Query.fetches_selectWhere {query : Query} {p : DeliveryRow → Bool}
    (hp : ∀ d, p d = true ↔ query.Matches d) (le : DateTime → DateTime → Bool) :
    query.Fetches db (db.selectWhere p le) where
  once := by
    have hperm := List.perm_insertionSort (fun r s : DeliveryRow × CourierRow =>
      le r.1.createdAt s.1.createdAt) (db.joined.filter fun r => p r.1)
    have hsublist : ((db.joined.filter fun r => p r.1).map fun r => r.1.deliveryId).Nodup :=
      db.nodup_joined.sublist (List.filter_sublist.map _)
    exact (hperm.map _).nodup_iff.mpr hsublist
  mem_iff d c := by
    rw [DeliveryDb.selectWhere, List.mem_insertionSort, List.mem_filter, db.mem_joined, hp,
      and_assoc]

/-- A delivery is found with its courier. -/
theorem DeliveryDb.get_eq_some_iff {deliveryId : UUID} {d : DeliveryRow} {c : CourierRow} :
    db.get deliveryId = some (d, c) ↔
      db.deliveries.find? deliveryId = some d ∧ db.couriers.find? d.courierId = some c := by
  simp only [DeliveryDb.get, Option.bind_eq_some_iff, Option.map_eq_some_iff, Prod.mk.injEq]
  constructor
  · rintro ⟨d', hd', c', hc', rfl, rfl⟩
    exact ⟨hd', hc'⟩
  · rintro ⟨hd, hc⟩
    exact ⟨d, hd, c, hc, rfl, rfl⟩

/-- A query for an id fetches its delivery. -/
theorem Query.fetches_get (deliveryId : UUID) :
    (Query.get deliveryId).Fetches db (db.get deliveryId).toList where
  once := by
    cases db.get deliveryId with
    | none => exact List.nodup_nil
    | some r => exact List.nodup_cons.mpr ⟨List.not_mem_nil, List.nodup_nil⟩
  mem_iff d c := by
    have hid : (Query.get deliveryId).Matches d ↔ d.deliveryId = deliveryId := Iff.rfl
    rw [Option.mem_toList, db.get_eq_some_iff, Table.find?_eq_some_iff, hid]
    tauto

/-- A query for all deliveries fetches them if the limit is large enough. -/
theorem Query.fetches_getAll {limit : Nat} (hlimit : db.deliveries.rows.length ≤ limit) :
    (Query.getAll limit).Fetches db (db.listDeliveries limit 0) := by
  have hlength : db.joined.length ≤ limit :=
    Nat.le_trans (List.length_filterMap_le _ _) hlimit
  have hrows : db.listDeliveries limit 0 =
      db.joined.insertionSort fun r s => s.1.createdAt ≤ r.1.createdAt := by
    change List.take limit (List.drop 0 (db.joined.insertionSort _)) = _
    rw [List.drop_zero]
    refine List.take_of_length_le ?_
    rw [List.length_insertionSort]
    exact hlength
  rw [hrows]
  constructor
  · exact ((List.perm_insertionSort _ db.joined).map _).nodup_iff.mpr db.nodup_joined
  · intro d c
    rw [List.mem_insertionSort, db.mem_joined]
    simp only [Query.Matches, and_true]

/-- Every query fetches the rows that match. -/
theorem Query.fetches_rows (query : Query) (hcovers : query.Covers db) :
    query.Fetches db (query.rows db) := by
  cases query with
  | get deliveryId => exact fetches_get db deliveryId
  | getByShipment shipmentId =>
    have hp : ∀ d : DeliveryRow, decide (d.shipmentId = shipmentId) = true ↔
        (Query.getByShipment shipmentId).Matches d := by
      intro d
      rw [decide_eq_true_iff, Query.Matches]
    exact fetches_selectWhere db hp (fun s t => t ≤ s)
  | getByCourier courierId =>
    have hp : ∀ d : DeliveryRow, decide (d.courierId = courierId) = true ↔
        (Query.getByCourier courierId).Matches d := by
      intro d
      rw [decide_eq_true_iff, Query.Matches]
    exact fetches_selectWhere db hp (fun s t => t ≤ s)
  | getByStatus status =>
    have hp : ∀ d : DeliveryRow, decide (d.status = status.value) = true ↔
        (Query.getByStatus status).Matches d := by
      intro d
      rw [decide_eq_true_iff, Query.Matches]
    exact fetches_selectWhere db hp (fun s t => s ≤ t)
  | getAll limit => exact fetches_getAll db hcovers

end Fetching

/-- A stored name is read back. -/
theorem FullName.ofString_value (name : FullName) : ofString name.value = .ok name := by
  have hlong := name.long
  have hempty : ¬ (Text.strip name.value).length = 0 := by omega
  have hshort : ¬ (Text.strip name.value).length < 2 := by omega
  simp only [ofString, hempty, hshort, if_false, dif_neg, not_false_eq_true]

/-- A stored contact is read back. -/
theorem ContactInfo.ofString_value (contactInfo : ContactInfo) :
    ofString contactInfo.value = .ok contactInfo := by
  have hlong := contactInfo.long
  have hempty : ¬ (Text.strip contactInfo.value).length = 0 := by omega
  have hshort : ¬ (Text.strip contactInfo.value).length < 5 := by omega
  simp only [ofString, hempty, hshort, if_false, dif_neg, not_false_eq_true]

section Reading

variable {calls : List StoreCall} {db : DeliveryDb}

/-- A row of a delivery matches when its latest save is asked for. -/
theorem RowOf.matches_iff {saves : List Delivery} {d : DeliveryRow} {first latest : Delivery}
    (h : RowOf saves d first latest) (query : Query) : query.Matches d ↔ query.Asks latest := by
  have hvalue : ∀ s t : DeliveryStatus, s.value = t.value ↔ s = t := by
    intro s t
    cases s <;> cases t <;> decide
  rw [h.row]
  cases query with
  | get deliveryId => exact Iff.rfl
  | getByShipment shipmentId => exact Iff.rfl
  | getByCourier courierId => exact Iff.rfl
  | getByStatus status => exact hvalue _ _
  | getAll limit => exact Iff.rfl

/-- Every stored row is read as its delivery is. -/
theorem DeliveryDb.Holds.read (h : db.Holds calls) {d : DeliveryRow} {c : CourierRow}
    (hd : d ∈ db.deliveries.rows) (hc : db.couriers.find? d.courierId = some c) :
    ∃ delivery first latest, rowToEntity d c = .ok delivery ∧
      Current calls delivery first latest ∧ RowOf (savesOf d.deliveryId calls) d first latest := by
  have hfind : db.deliveries.find? d.deliveryId = some d :=
    Table.find?_of_mem hd
  obtain ⟨first, latest, hrow⟩ := h.present _ d hfind
  have htexts := h.couriers d.courierId
  rw [hc, Option.map_some] at htexts
  obtain ⟨⟨name, contactInfo⟩, hstored, htexts⟩ := Option.map_eq_some_iff.mp htexts.symm
  obtain ⟨hname, hcontact⟩ := Prod.mk.inj htexts
  have hcourier : c.courierId = d.courierId := Table.key_of_find? hc
  have hstatus : DeliveryStatus.ofValue? d.status = some latest.status := by
    rw [hrow.row]
    exact DeliveryStatus.ofValue?_value latest.status
  have hread : rowToEntity d c = .ok ⟨d.deliveryId, d.shipmentId, ⟨c.courierId, name, contactInfo⟩,
      latest.status, d.estimatedArrival, d.actualArrival, d.createdAt, d.updatedAt⟩ := by
    simp only [rowToEntity, ← hname, ← hcontact, FullName.ofString_value,
      ContactInfo.ofString_value, hstatus]
    rfl
  refine ⟨_, first, latest, hread, ?_, hrow⟩
  exact {
    saved := ⟨hrow.isFirst, hrow.isLatest⟩
    shipmentId := congrArg DeliveryRow.shipmentId hrow.row
    courierId := hcourier.trans (congrArg DeliveryRow.courierId hrow.row)
    status := rfl
    estimatedArrival := congrArg DeliveryRow.estimatedArrival hrow.row
    actualArrival := congrArg DeliveryRow.actualArrival hrow.row
    createdAt := congrArg DeliveryRow.createdAt hrow.row
    courier := hcourier ▸ hstored }

/-- Where the tables hold what operations have left, every query is answered. -/
theorem DeliveryDb.Holds.answers (h : db.Holds calls) (query : Query)
    (hcovers : query.Covers db) :
    ∃ deliveries, query.run db = .ok deliveries ∧ Answers calls query deliveries := by
  have hfetches := query.fetches_rows db hcovers
  have hread : ∀ r ∈ query.rows db, ∃ delivery, rowToEntity r.1 r.2 = .ok delivery := by
    intro r hr
    obtain ⟨hd, hc, _⟩ := (hfetches.mem_iff r.1 r.2).mp hr
    obtain ⟨delivery, _, _, hdelivery, _⟩ := h.read hd hc
    exact ⟨delivery, hdelivery⟩
  obtain ⟨deliveries, hrun, hall⟩ := exists_mapM_eq_ok hread
  refine ⟨deliveries, hrun, ?_, ?_, ?_⟩
  · have hids : List.Forall₂ (fun r delivery => r.1.deliveryId = delivery.deliveryId)
        (query.rows db) deliveries := hall.imp fun r delivery hr =>
      (deliveryId_of_rowToEntity hr).symm
    have hsame : (query.rows db).map (fun r => r.1.deliveryId) =
        deliveries.map Delivery.deliveryId := by
      rw [← List.forall₂_eq_eq_eq, List.forall₂_map_left_iff, List.forall₂_map_right_iff]
      exact hids
    rw [← hsame]
    exact hfetches.once
  · intro deliveryId first latest hsaved hasks
    cases hfind : db.deliveries.find? deliveryId with
    | none =>
      have hempty := hsaved.isFirst
      rw [h.absent deliveryId hfind] at hempty
      cases hempty
    | some d =>
      obtain ⟨first', latest', hrow⟩ := h.present deliveryId d hfind
      have hlatest : latest' = latest := Option.some.inj (hrow.isLatest.symm.trans hsaved.isLatest)
      have hd := Table.mem_of_find? hfind
      obtain ⟨c, hc⟩ := Option.isSome_iff_exists.mp (db.courierOf d hd)
      have hmatches : query.Matches d := (hrow.matches_iff query).mpr (hlatest ▸ hasks)
      obtain ⟨delivery, hmem, hr⟩ :=
        exists_of_forall₂ hall ((hfetches.mem_iff d c).mpr ⟨hd, hc, hmatches⟩)
      exact ⟨delivery, hmem, (deliveryId_of_rowToEntity hr).trans (Table.key_of_find? hfind)⟩
  · intro delivery hdelivery
    obtain ⟨r, hr, hread⟩ := exists_of_forall₂ hall.flip hdelivery
    obtain ⟨hd, hc, hmatches⟩ := (hfetches.mem_iff r.1 r.2).mp hr
    obtain ⟨delivery', first, latest, hread', hcurrent, hrow⟩ := h.read hd hc
    have hsame : delivery' = delivery := Except.ok.inj (hread'.symm.trans hread)
    subst hsame
    exact ⟨first, latest, hcurrent, (hrow.matches_iff query).mp hmatches⟩

end Reading

/-- The database after operations, from the tables without rows on. -/
def afterCalls (pg : Postgres) (clock : Clock) (calls : List StoreCall) : World :=
  calls.foldl (fun w call => StoreCall.step pg call w) ⟨.empty, clock, 0⟩

/-- After any operations that the foreign key admits, every query returns each delivery that has
been saved and not deleted since and whose latest save it asks for, once, as the operations have
left it. -/
theorem repository_refines_map {pg : Postgres} (hpg : pg.Lenient) (clock : Clock)
    (calls : List StoreCall)
    (hadmitted : EachStep (StoreCall.step pg) (fun w call => call.Admitted w) calls
      ⟨.empty, clock, 0⟩)
    (query : Query) (hcovers : query.Covers (afterCalls pg clock calls).db) :
    ∃ deliveries, query.run (afterCalls pg clock calls).db = .ok deliveries ∧
      Answers calls query deliveries := by
  have hholds := holds_foldl hpg calls DeliveryDb.holds_empty hadmitted
  rw [List.nil_append] at hholds
  exact hholds.answers query hcovers

/-- A courier, a delivery that is saved twice, and one that is deleted. -/
def sampleCalls : List StoreCall :=
  let courier : Courier := ⟨⟨80⟩, ⟨"Eve", by decide⟩, ⟨"eve@post", by decide⟩⟩
  [.writeCourier courier.courierId courier.name courier.contactInfo,
    .save ⟨⟨81⟩, ⟨82⟩, courier, .assigned, none, none, 5, 5⟩,
    .save ⟨⟨83⟩, ⟨82⟩, courier, .assigned, none, none, 6, 6⟩,
    .save ⟨⟨81⟩, ⟨82⟩, courier, .delivered, none, some 9, 7, 7⟩,
    .delete ⟨83⟩]

theorem sampleCalls_admitted : EachStep (StoreCall.step lenientBackend.pg)
    (fun w call => call.Admitted w) sampleCalls ⟨.empty, fun n => n, 0⟩ := by
  refine ⟨trivial, ?_, ?_, ?_, trivial, trivial⟩
  all_goals exact Eq.refl true

theorem repository_refines_map_sample :
    ∃ deliveries, (Query.getByShipment ⟨82⟩).run
        (afterCalls lenientBackend.pg (fun n => n) sampleCalls).db = .ok deliveries ∧
      Answers sampleCalls (.getByShipment ⟨82⟩) deliveries :=
  repository_refines_map ⟨fun _ => rfl, fun _ => rfl⟩ (fun n => n) sampleCalls
    sampleCalls_admitted (.getByShipment ⟨82⟩) trivial
end SupplyChainTracker.Deliveries
