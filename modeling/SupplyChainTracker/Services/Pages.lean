import Mathlib.Data.List.Perm.Basic
import SupplyChainTracker.Core.Paging
import SupplyChainTracker.Deliveries.History
import SupplyChainTracker.Shipments.ShipmentRepository
import SupplyChainTracker.Warehouse.Repository

/-!
# Pages of the listings

The four listings with a limit order their rows by a name or a creation time, neither of which
is unique. Paging through one of them hands out the entity of every row once exactly when the rows
can be read and no page ends between rows of one name or time. Of the shipments only the rows that
the queries fetch are spoken of: what `_row_to_entity` makes of them is left out.
-/

namespace SupplyChainTracker.Services

open Deliveries (CourierRow DeliveryDb DeliveryRow DeliveryError)
open Shipments (ShipmentRow ShipmentError)
open Warehouse (WarehouseRow InventoryError LocationText)

/-- `ORDER BY name`. -/
def byName {ρ : Type} (collation : String → String → Bool) (name : ρ → String) (r s : ρ) : Prop :=
  collation (name r) (name s)

/-- `ORDER BY created_at DESC`. -/
def newestFirst {ρ : Type} (createdAt : ρ → DateTime) (r s : ρ) : Prop := createdAt s ≤ createdAt r

/-- A collation compares any two texts, and does so consistently. -/
structure Collates (collation : String → String → Bool) : Prop where
  total : ∀ a b, collation a b ∨ collation b a
  trans : ∀ a b c, collation a b → collation b c → collation a c

section Keys

variable {ρ : Type}

instance (collation : String → String → Bool) (name : ρ → String) :
    DecidableRel (byName collation name) :=
  fun _ _ => inferInstanceAs (Decidable (_ = true))

instance (createdAt : ρ → DateTime) : DecidableRel (newestFirst createdAt) :=
  fun _ _ => inferInstanceAs (Decidable (_ ≤ _))

instance (createdAt : ρ → DateTime) : Std.Total (newestFirst createdAt) :=
  ⟨fun _ _ => Int.le_total _ _⟩

instance (createdAt : ρ → DateTime) : IsTrans ρ (newestFirst createdAt) :=
  ⟨fun _ _ _ h h' => Int.le_trans h' h⟩

variable {collation : String → String → Bool} (name : ρ → String)

theorem Collates.total_byName (h : Collates collation) : Std.Total (byName collation name) :=
  ⟨fun _ _ => h.total _ _⟩

theorem Collates.trans_byName (h : Collates collation) : IsTrans ρ (byName collation name) :=
  ⟨fun _ _ _ => h.trans _ _ _⟩

end Keys

/-- The couriers, in the order that PostgreSQL has put them into. -/
def courierListing (pg : Deliveries.Postgres) (order : List CourierRow) :
    (op : Deliveries.Statement) → Deliveries.World →
      Except DeliveryError op.Ans × Deliveries.World
  | .listCouriers limit offset, w => (.ok ((order.drop offset).take limit), w.read)
  | op, w => Deliveries.Statement.act pg op w

/-- The deliveries with their couriers, in the order that PostgreSQL has put them into. -/
def deliveryListing (pg : Deliveries.Postgres) (order : List (DeliveryRow × CourierRow)) :
    (op : Deliveries.Statement) → Deliveries.World →
      Except DeliveryError op.Ans × Deliveries.World
  | .listDeliveries limit offset, w => (.ok ((order.drop offset).take limit), w.read)
  | op, w => Deliveries.Statement.act pg op w

/-- The warehouses, in the order that PostgreSQL has put them into. -/
def warehouseListing (pg : Warehouse.Postgres) (order : List WarehouseRow) :
    (op : Warehouse.Statement) → Warehouse.World → Except InventoryError op.Ans × Warehouse.World
  | .listWarehouses limit offset, w => (.ok ((order.drop offset).take limit), w.read)
  | op, w => Warehouse.Statement.act pg op w

/-- The rows that the query of `get_all` fetches of the shipments in some order. -/
def fetchShipments (limit offset : Nat) (order : List ShipmentRow) : List ShipmentRow :=
  (order.drop offset).take limit

/-- The shipments, in the order that PostgreSQL has put them into. -/
def shipmentListing (pg : Shipments.Postgres)
    (textArgument : Shipments.Place → Except ShipmentError String) (order : List ShipmentRow) :
    (op : Shipments.ShipmentCall) → Shipments.World → Except ShipmentError op.Ans × Shipments.World
  | .getAll limit offset, w =>
      ((fetchShipments limit offset order).mapM Shipments.ShipmentRepository.rowToEntity,
        w.after w.db)
  | op, w => Shipments.ShipmentRepository.act pg textArgument op w

section Sorted

/-- The sorted listings are among those in any order. -/
theorem act_eq_courierListing (pg : Deliveries.Postgres) (op : Deliveries.Statement)
    (w : Deliveries.World) : Deliveries.Statement.act pg op w =
      courierListing pg (w.db.couriers.rows.insertionSort (byName pg.collation CourierRow.name))
        op w := by
  cases op <;> rfl

theorem act_eq_deliveryListing (pg : Deliveries.Postgres) (op : Deliveries.Statement)
    (w : Deliveries.World) : Deliveries.Statement.act pg op w =
      deliveryListing pg (w.db.joined.insertionSort (newestFirst fun r => r.1.createdAt)) op w := by
  cases op <;> rfl

theorem act_eq_warehouseListing (pg : Warehouse.Postgres) (op : Warehouse.Statement)
    (w : Warehouse.World) : Warehouse.Statement.act pg op w =
      warehouseListing pg
        (w.db.warehouses.rows.insertionSort (byName pg.collation WarehouseRow.name)) op w := by
  cases op <;> rfl

theorem act_eq_shipmentListing (pg : Shipments.Postgres)
    (textArgument : Shipments.Place → Except ShipmentError String) (op : Shipments.ShipmentCall)
    (w : Shipments.World) : Shipments.ShipmentRepository.act pg textArgument op w =
      shipmentListing pg textArgument
        (w.db.shipments.rows.insertionSort (newestFirst ShipmentRow.createdAt)) op w := by
  cases op <;> rfl

end Sorted

/-- Whatever order each query chooses, what `get_all` returns up to the first short page holds the
entity of every row once. -/
def PagesCover {ρ ε α : Type} (le : ρ → ρ → Prop) (limit : Nat) (rows : List ρ)
    (rowToEntity : ρ → Except ε α) (getAll : List ρ → Nat → Except ε (List α)) : Prop :=
  ∀ order : Nat → List ρ, (∀ k, Paging.Ordered le rows (order k)) →
    ∃ entities pages, rows.mapM rowToEntity = .ok entities ∧
      (∀ k, getAll (order k) (k * limit) = .ok (pages k)) ∧
      Paging.Complete limit entities pages

/-- `_row_to_entity` can read every row. -/
def Readable {ρ ε α : Type} (rowToEntity : ρ → Except ε α) (rows : List ρ) : Prop :=
  ∀ r ∈ rows, ∃ entity, rowToEntity r = .ok entity

/-- Paging through `AsyncPostgresCourierRepository.get_all` covers the couriers. -/
def CouriersCovered (pg : Deliveries.Postgres) (limit : Nat) (w : Deliveries.World) : Prop :=
  PagesCover (byName pg.collation CourierRow.name) limit w.db.couriers.rows
    Deliveries.CourierRepository.rowToEntity fun order offset =>
      ((Deliveries.CourierRepository.getAll limit offset).run (courierListing pg order) w).1

/-- Paging through `AsyncPostgresDeliveryRepository.get_all` covers the deliveries. -/
def DeliveriesCovered (pg : Deliveries.Postgres) (limit : Nat) (w : Deliveries.World) : Prop :=
  PagesCover (newestFirst fun r : DeliveryRow × CourierRow => r.1.createdAt) limit w.db.joined
    (fun r => Deliveries.rowToEntity r.1 r.2) fun order offset =>
      ((Deliveries.DeliveryRepository.getAll limit offset).run (deliveryListing pg order) w).1

/-- Paging through `AsyncPostgresWarehouseRepository.get_all` covers the warehouses. -/
def WarehousesCovered (pg : Warehouse.Postgres) (text : LocationText) (limit : Nat)
    (w : Warehouse.World) : Prop :=
  PagesCover (byName pg.collation WarehouseRow.name) limit w.db.warehouses.rows
    (Warehouse.WarehouseRepository.rowToEntity text) fun order offset =>
      ((Warehouse.WarehouseRepository.getAll text limit offset).run (warehouseListing pg order) w).1

/-- Paging through `PostgresShipmentRepository.get_all` fetches every row of the shipments once. -/
def ShipmentsFetched (limit : Nat) (w : Shipments.World) : Prop :=
  ∀ order : Nat → List ShipmentRow,
    (∀ k, Paging.Ordered (newestFirst ShipmentRow.createdAt) w.db.shipments.rows (order k)) →
    Paging.Complete limit w.db.shipments.rows fun k => fetchShipments limit (k * limit) (order k)

/-- Every delivery has its courier, so the join keeps all deliveries. -/
theorem map_fst_joined (db : DeliveryDb) : db.joined.map Prod.fst = db.deliveries.rows := by
  have hjoin : ∀ rows : List DeliveryRow, (∀ d ∈ rows, (db.couriers.find? d.courierId).isSome) →
      (rows.filterMap fun d => (db.couriers.find? d.courierId).map fun c => (d, c)).map Prod.fst =
        rows := by
    intro rows h
    induction rows with
    | nil => rfl
    | cons d rows ih =>
      obtain ⟨hfirst, hrest⟩ := List.forall_mem_cons.mp h
      obtain ⟨c, hc⟩ := Option.isSome_iff_exists.mp hfirst
      rw [List.filterMap_cons, hc]
      exact congrArg (d :: ·) (ih hrest)
  exact hjoin db.deliveries.rows db.courierOf

/-- Rows of a table with the keys of all its rows are all its rows. -/
theorem perm_of_map_perm {ρ κ : Type} {key : ρ → κ} {xs rows : List ρ}
    (hnodup : (rows.map key).Nodup) (hsub : xs ⊆ rows) (h : (xs.map key).Perm (rows.map key)) :
    xs.Perm rows := by
  have hxs : xs.Nodup := (h.nodup_iff.mpr hnodup).of_map
  refine (List.perm_ext_iff_of_nodup hxs hnodup.of_map).mpr fun r => ⟨fun hr => hsub hr, ?_⟩
  intro hr
  obtain ⟨s, hs, hkey⟩ := List.mem_map.mp (h.mem_iff.mpr (List.mem_map_of_mem hr))
  rwa [← List.inj_on_of_nodup_map hnodup (hsub hs) hr hkey]

section Entities

variable {ρ ε α κ : Type} {le : ρ → ρ → Prop} {limit : Nat} {rows : List ρ}
  {rowToEntity : ρ → Except ε α} {key : ρ → κ} {keyOf : α → κ}

/-- The keys of the entities are those of the rows. -/
theorem map_key_of_forall₂ (hkey : ∀ r entity, rowToEntity r = .ok entity → keyOf entity = key r)
    {entities : List α}
    (h : List.Forall₂ (fun r entity => rowToEntity r = .ok entity) rows entities) :
    entities.map keyOf = rows.map key := by
  induction h with
  | nil => rfl
  | cons hr _ ih => rw [List.map_cons, List.map_cons, hkey _ _ hr, ih]

/-- Pages of entities are complete exactly if the pages of rows are that they are read from. -/
theorem complete_entities_iff (hnodup : (rows.map key).Nodup)
    (hkey : ∀ r entity, rowToEntity r = .ok entity → keyOf entity = key r)
    {entities : List α} (hentities : rows.mapM rowToEntity = .ok entities)
    {fetched : Nat → List ρ} {pages : Nat → List α}
    (hpages : ∀ k, (fetched k).mapM rowToEntity = .ok (pages k)) (hsub : ∀ k, fetched k ⊆ rows) :
    Paging.Complete limit entities pages ↔ Paging.Complete limit rows fetched := by
  have hread := mapM_eq_ok_iff.mp hentities
  have hpage := fun k => mapM_eq_ok_iff.mp (hpages k)
  refine exists_congr fun last => and_congr ?_ (and_congr ?_ ?_)
  · exact forall₂_congr fun k _ => by rw [(hpage k).length_eq]
  · rw [(hpage last).length_eq]
  · have hall := forall₂_flatMap hpage (List.range (last + 1))
    constructor
    · intro hperm
      refine perm_of_map_perm hnodup (fun r hr => ?_) ?_
      · obtain ⟨k, _, hk⟩ := List.mem_flatMap.mp hr
        exact hsub k hk
      rw [← map_key_of_forall₂ hkey hall, ← map_key_of_forall₂ hkey hread]
      exact hperm.map keyOf
    · intro hperm
      obtain ⟨entities', hentities', hperm'⟩ := List.perm_comp_forall₂ hperm hread
      cases (mapM_eq_ok_iff.mpr hall).symm.trans (mapM_eq_ok_iff.mpr hentities')
      exact hperm'

/-- A `get_all` that reads the rows of its page covers the rows exactly when it can read all of them
and no page splits a key. -/
theorem pagesCover_iff (key : ρ → κ) (keyOf : α → κ) [DecidableRel le] [Std.Total le]
    [IsTrans ρ le] {getAll : List ρ → Nat → Except ε (List α)} (hlimit : 1 ≤ limit)
    (hnodup : (rows.map key).Nodup)
    (hkey : ∀ r entity, rowToEntity r = .ok entity → keyOf entity = key r)
    (h : ∀ order offset, getAll order offset =
      ((order.drop offset).take limit).mapM rowToEntity) :
    PagesCover le limit rows rowToEntity getAll ↔
      Readable rowToEntity rows ∧ ¬ Paging.Splits le limit rows := by
  have hpage : ∀ order : List ρ, ∀ k, getAll order (k * limit) =
      (Paging.page limit k order).mapM rowToEntity := fun order k => h order (k * limit)
  have hsub : ∀ {order : List ρ} k, Paging.Ordered le rows order →
      Paging.page limit k order ⊆ rows := fun k horder _ hr =>
    horder.perm.mem_iff.mp (List.mem_of_mem_drop (List.mem_of_mem_take hr))
  rw [← Paging.covers_iff hlimit hnodup.of_map]
  constructor
  · intro hcovers
    refine ⟨fun r hr => ?_, fun order horder => ?_⟩
    · obtain ⟨entities, pages, hentities, _⟩ := hcovers (fun _ => rows.insertionSort le)
        fun _ => ⟨List.perm_insertionSort le rows, List.pairwise_insertionSort le rows⟩
      obtain ⟨entity, _, hentity⟩ := exists_of_forall₂ (mapM_eq_ok_iff.mp hentities) hr
      exact ⟨entity, hentity⟩
    · obtain ⟨entities, pages, hentities, hpages, hcomplete⟩ := hcovers order horder
      refine (complete_entities_iff hnodup hkey hentities (fun k => ?_) fun k =>
        hsub k (horder k)).mp hcomplete
      rw [← hpage, hpages k]
  · rintro ⟨hreadable, hcovers⟩ order horder
    obtain ⟨entities, hentities, _⟩ := exists_mapM_eq_ok hreadable
    have hreads : ∀ k, ∃ page, (Paging.page limit k (order k)).mapM rowToEntity = .ok page :=
      fun k => (exists_mapM_eq_ok fun r hr => hreadable r (hsub k (horder k) hr)).imp
        fun _ hread => hread.1
    choose pages hpages using hreads
    refine ⟨entities, pages, hentities, fun k => (hpage _ k).trans (hpages k), ?_⟩
    exact (complete_entities_iff hnodup hkey hentities hpages fun k => hsub k (horder k)).mpr
      (hcovers order horder)

end Entities

section Tables

variable {limit : Nat} (hlimit : 1 ≤ limit)
include hlimit

theorem couriersCovered_iff {pg : Deliveries.Postgres} (hpg : Collates pg.collation)
    (w : Deliveries.World) : CouriersCovered pg limit w ↔
      Readable Deliveries.CourierRepository.rowToEntity w.db.couriers.rows ∧
      ¬ Paging.Splits (byName pg.collation CourierRow.name) limit w.db.couriers.rows := by
  have := hpg.total_byName CourierRow.name
  have := hpg.trans_byName CourierRow.name
  refine pagesCover_iff CourierRow.courierId Deliveries.Courier.courierId hlimit
    w.db.couriers.nodup ?_ fun order offset => ?_
  · intro row courier hcourier
    obtain ⟨name, _, h⟩ := bind_eq_ok_iff.mp hcourier
    obtain ⟨contactInfo, _, h⟩ := bind_eq_ok_iff.mp h
    cases h
    rfl
  · simp only [Deliveries.CourierRepository.getAll, Coroutine.bind_eq, Coroutine.run_bind,
      Coroutine.run_perform, courierListing, Coroutine.run_ofExcept]

theorem warehousesCovered_iff {pg : Warehouse.Postgres} (hpg : Collates pg.collation)
    (text : LocationText) (w : Warehouse.World) : WarehousesCovered pg text limit w ↔
      Readable (Warehouse.WarehouseRepository.rowToEntity text) w.db.warehouses.rows ∧
      ¬ Paging.Splits (byName pg.collation WarehouseRow.name) limit w.db.warehouses.rows := by
  have := hpg.total_byName WarehouseRow.name
  have := hpg.trans_byName WarehouseRow.name
  refine pagesCover_iff WarehouseRow.warehouseId Warehouse.Warehouse.warehouseId hlimit
    w.db.warehouses.nodup ?_ fun order offset => ?_
  · intro row warehouse hwarehouse
    obtain ⟨location, _, h⟩ := bind_eq_ok_iff.mp hwarehouse
    cases h
    rfl
  · simp only [Warehouse.WarehouseRepository.getAll, Coroutine.bind_eq, Coroutine.run_bind,
      Coroutine.run_perform, warehouseListing, Coroutine.run_ofExcept]

theorem deliveriesCovered_iff (pg : Deliveries.Postgres) (w : Deliveries.World) :
    DeliveriesCovered pg limit w ↔
      Readable (fun r : DeliveryRow × CourierRow => Deliveries.rowToEntity r.1 r.2) w.db.joined ∧
      ¬ Paging.Splits (newestFirst DeliveryRow.createdAt) limit w.db.deliveries.rows := by
  have hjoined : Paging.Splits (newestFirst fun r : DeliveryRow × CourierRow => r.1.createdAt)
      limit w.db.joined ↔
      Paging.Splits (newestFirst DeliveryRow.createdAt) limit w.db.deliveries.rows := by
    rw [← map_fst_joined w.db]
    exact Paging.splits_map (newestFirst DeliveryRow.createdAt) Prod.fst
  rw [← hjoined]
  refine pagesCover_iff (fun r => r.1.deliveryId) Deliveries.Delivery.deliveryId hlimit
    w.db.nodup_joined ?_ fun order offset => ?_
  · rintro ⟨row, courier⟩ delivery hdelivery
    exact Deliveries.deliveryId_of_rowToEntity hdelivery
  · simp only [Deliveries.DeliveryRepository.getAll, Coroutine.bind_eq, Coroutine.run_bind,
      Coroutine.run_perform, deliveryListing, Coroutine.run_ofExcept]

theorem shipmentsFetched_iff (w : Shipments.World) : ShipmentsFetched limit w ↔
    ¬ Paging.Splits (newestFirst ShipmentRow.createdAt) limit w.db.shipments.rows :=
  Paging.covers_iff hlimit w.db.shipments.nodup.of_map

end Tables

/-- Paging through each of the three tables covers it exactly when its rows can be read and no page
ends between two rows of one sort key, and paging through the shipments fetches them exactly when no
page does. -/
theorem paging_covers_iff (limit : Nat) (hlimit : 1 ≤ limit) :
    (∀ pg, Collates pg.collation → ∀ w, CouriersCovered pg limit w ↔
      Readable Deliveries.CourierRepository.rowToEntity w.db.couriers.rows ∧
      ¬ Paging.Splits (byName pg.collation CourierRow.name) limit w.db.couriers.rows) ∧
    (∀ pg, Collates pg.collation → ∀ text w, WarehousesCovered pg text limit w ↔
      Readable (Warehouse.WarehouseRepository.rowToEntity text) w.db.warehouses.rows ∧
      ¬ Paging.Splits (byName pg.collation WarehouseRow.name) limit w.db.warehouses.rows) ∧
    (∀ pg w, DeliveriesCovered pg limit w ↔
      Readable (fun r : DeliveryRow × CourierRow => Deliveries.rowToEntity r.1 r.2) w.db.joined ∧
      ¬ Paging.Splits (newestFirst DeliveryRow.createdAt) limit w.db.deliveries.rows) ∧
    ∀ w, ShipmentsFetched limit w ↔
      ¬ Paging.Splits (newestFirst ShipmentRow.createdAt) limit w.db.shipments.rows :=
  ⟨fun _ hpg w => couriersCovered_iff hlimit hpg w,
    fun _ hpg text w => warehousesCovered_iff hlimit hpg text w,
    fun pg w => deliveriesCovered_iff hlimit pg w,
    fun w => shipmentsFetched_iff hlimit w⟩

/-- Texts in the order of their code points. -/
def codePointPostgres : Deliveries.Postgres where
  refusesDelivery _ := none
  refusesCourier _ := none
  collation a b := decide (a ≤ b)

theorem collates_codePoints : Collates codePointPostgres.collation where
  total a b := by simpa [codePointPostgres] using String.le_total a b
  trans a b c := by simpa [codePointPostgres] using String.le_trans

/-- Two couriers. -/
def twoCouriers (first second : String) : Deliveries.World where
  db := {
    couriers := ⟨[⟨⟨76⟩, first, "76@post", 0, 0⟩, ⟨⟨77⟩, second, "77@post", 0, 0⟩], by simp⟩
    deliveries := Table.empty
    courierOf := by simp }
  clock n := n
  statements := 0

/-- The two couriers can be read. -/
theorem readable_twoCouriers {second : String} (h : second ∈ ["Ida", "Jon"]) :
    Readable Deliveries.CourierRepository.rowToEntity
      (twoCouriers "Ida" second).db.couriers.rows := by
  simp only [List.mem_cons, List.not_mem_nil, or_false] at h
  rcases h with rfl | rfl
  · exact List.forall_mem_cons.mpr ⟨⟨_, rfl⟩, List.forall_mem_singleton.mpr ⟨_, rfl⟩⟩
  · exact List.forall_mem_cons.mpr ⟨⟨_, rfl⟩, List.forall_mem_singleton.mpr ⟨_, rfl⟩⟩

/-- Couriers of two names are covered one by one. -/
theorem paging_covers_iff_two : CouriersCovered codePointPostgres 1 (twoCouriers "Ida" "Jon") := by
  have := collates_codePoints.total_byName CourierRow.name
  have := collates_codePoints.trans_byName CourierRow.name
  refine ((paging_covers_iff 1 le_rfl).1 _ collates_codePoints _).mpr
    ⟨readable_twoCouriers (by simp),
      Paging.not_splits_of_distinct (Table.nodup _).of_map (by decide)⟩

/-- Couriers of one name are not, though they can be read: the second query may put them the other
way round. -/
theorem namesakes_not_covered :
    Readable Deliveries.CourierRepository.rowToEntity (twoCouriers "Ida" "Ida").db.couriers.rows ∧
      ¬ CouriersCovered codePointPostgres 1 (twoCouriers "Ida" "Ida") := by
  refine ⟨readable_twoCouriers (by simp), ?_⟩
  rw [couriersCovered_iff le_rfl collates_codePoints, not_and, not_not]
  exact fun _ => ⟨_, List.mem_cons_self .., 1, by decide, by decide⟩

end SupplyChainTracker.Services
