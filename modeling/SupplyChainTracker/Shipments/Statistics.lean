import SupplyChainTracker.Core.Sql
import SupplyChainTracker.Shipments.ItemSchema

/-!
# Statistics of shipments

The view `shipment_statistics` adds up the weights of the items of a shipment as they are stored.
The service multiplies each weight by the quantity of its item, so the two totals are the same
exactly for a shipment whose items are single.
-/

namespace SupplyChainTracker.Shipments

/-- A row of `shipment_statistics`. -/
structure ShipmentStatistics where
  shipmentId : UUID
  status : String
  origin : String
  destination : String
  totalItems : Nat
  totalQuantity : Int
  totalWeight : Rat
  createdAt : DateTime
  updatedAt : DateTime
  deriving DecidableEq, Repr

/-- The columns that the view selects from a group of the join. -/
def ShipmentStatistics.ofGroup (group : ShipmentRow × List (ShipmentRow × Option ItemRow)) :
    ShipmentStatistics where
  shipmentId := group.1.shipmentId
  status := group.1.status
  origin := group.1.origin
  destination := group.1.destination
  totalItems := Sql.count (group.2.map fun r => r.2.map ItemRow.itemId)
  totalQuantity := (Sql.sum (group.2.map fun r => r.2.map ItemRow.quantity)).getD 0
  totalWeight := (Sql.sum (group.2.map fun r => r.2.map ItemRow.weight)).getD 0
  createdAt := group.1.createdAt
  updatedAt := group.1.updatedAt

namespace ShipmentDb

/-- The query of `shipment_statistics`, grouped by every column of a shipment. -/
def shipmentStatistics (db : ShipmentDb) : List ShipmentStatistics :=
  (Sql.groupBy Prod.fst (Sql.leftJoin (fun (s : ShipmentRow) (i : ItemRow) =>
    s.shipmentId = i.shipmentId) db.shipments.rows db.items.rows)).map ShipmentStatistics.ofGroup

/-- The items of a shipment. -/
def itemsOf (shipmentId : UUID) (db : ShipmentDb) : List ItemRow :=
  db.items.rows.filter fun i => i.shipmentId = shipmentId

/-- The statistics of a shipment, in terms of its items. -/
def statisticsOf (db : ShipmentDb) (s : ShipmentRow) : ShipmentStatistics where
  shipmentId := s.shipmentId
  status := s.status
  origin := s.origin
  destination := s.destination
  totalItems := (db.itemsOf s.shipmentId).length
  totalQuantity := ((db.itemsOf s.shipmentId).map ItemRow.quantity).sum
  totalWeight := ((db.itemsOf s.shipmentId).map ItemRow.weight).sum
  createdAt := s.createdAt
  updatedAt := s.updatedAt

variable {db : ShipmentDb}

/-- The rows of the join that belong to a shipment. -/
def joined (db : ShipmentDb) (s : ShipmentRow) : List (ShipmentRow × Option ItemRow) :=
  (Sql.partners (fun (s : ShipmentRow) (i : ItemRow) => s.shipmentId = i.shipmentId)
    db.items.rows s).map fun i => (s, i)

/-- A column of the items in these rows, without its `NULL`s. -/
theorem reduceOption_joined {γ : Type} (f : ItemRow → γ) (s : ShipmentRow) :
    ((db.joined s).map fun r => r.2.map f).reduceOption = (db.itemsOf s.shipmentId).map f := by
  rw [joined, List.map_map]
  refine (Sql.reduceOption_partners _ _ f s).trans ?_
  simp only [itemsOf, eq_comm]

/-- The aggregates over these rows are those of the items. -/
theorem ofGroup_joined (s : ShipmentRow) :
    ShipmentStatistics.ofGroup (s, db.joined s) = db.statisticsOf s := by
  simp only [ShipmentStatistics.ofGroup, statisticsOf, Sql.count, Sql.getD_sum,
    reduceOption_joined, List.length_map]

/-- The view has a row for each shipment, with the aggregates of its items. -/
theorem mem_shipmentStatistics {stat : ShipmentStatistics} :
    stat ∈ db.shipmentStatistics ↔ ∃ s ∈ db.shipments.rows, stat = db.statisticsOf s := by
  rw [shipmentStatistics, List.mem_map]
  constructor
  · rintro ⟨group, hgroup, rfl⟩
    obtain ⟨s, hs, rfl⟩ := (Sql.mem_groupBy_leftJoin db.shipments.nodup.of_map).mp hgroup
    exact ⟨s, hs, ofGroup_joined s⟩
  · rintro ⟨s, hs, rfl⟩
    exact ⟨_, (Sql.mem_groupBy_leftJoin db.shipments.nodup.of_map).mpr ⟨s, hs, rfl⟩,
      ofGroup_joined s⟩

/-- The statistics of a stored shipment are those that the view has under its id. -/
theorem statistics_of_shipmentId {s : ShipmentRow} (hs : s ∈ db.shipments.rows)
    {stat : ShipmentStatistics} :
    stat ∈ db.shipmentStatistics ∧ stat.shipmentId = s.shipmentId ↔ stat = db.statisticsOf s := by
  rw [mem_shipmentStatistics]
  constructor
  · rintro ⟨⟨s', hs', rfl⟩, hid⟩
    rw [db.shipments.eq_of_key_eq hs' hs hid]
  · rintro rfl
    exact ⟨⟨s, hs, rfl⟩, rfl⟩

/-- Every row of `items` passes the `CHECK`s of the table. -/
def ItemsChecked (db : ShipmentDb) : Prop := ∀ row ∈ db.items.rows, checkItem row = none

end ShipmentDb

/-- The weight of an item in the total of the service. -/
def ItemRow.load (row : ItemRow) : Rat := row.weight * (row.quantity : Rat)

section Service

variable {pg : Postgres} {w : World} {shipmentId : UUID}

/-- Rows that pass the checks are read back with their numbers. -/
theorem exists_mapM_rowToEntity (rows : List ItemRow) (h : ∀ row ∈ rows, checkItem row = none) :
    ∃ items, rows.mapM ItemRepository.rowToEntity = .ok items ∧
      items.map (fun item => item.weight.value * (item.quantity.value : Rat)) =
        rows.map ItemRow.load := by
  obtain ⟨items, hitems, hall⟩ := exists_mapM_eq_ok (f := ItemRepository.rowToEntity)
    fun row hrow => by
      obtain ⟨hquantity, hweight⟩ := checkItem_eq_none_iff.mp (h row hrow)
      exact ⟨⟨row.name, ⟨row.quantity, hquantity⟩, ⟨row.weight, hweight.le⟩, row.itemId,
        row.shipmentId⟩, ItemRepository.rowToEntity_eq_ok_iff.mpr ⟨rfl, rfl, rfl, rfl, rfl⟩⟩
  refine ⟨items, hitems, List.forall₂_eq_eq_eq ▸ ?_⟩
  rw [List.forall₂_map_left_iff, List.forall₂_map_right_iff]
  refine hall.flip.imp fun item row hread => ?_
  obtain ⟨_, _, _, hquantity, hweight⟩ := ItemRepository.rowToEntity_eq_ok_iff.mp hread
  rw [ItemRow.load, hquantity, hweight]

/-- Both methods over a table that passes its checks. -/
theorem run_totals (pg : Postgres) (shipmentId : UUID) (hchecked : w.db.ItemsChecked) :
    ((ItemService.calculateTotalWeight shipmentId).run (ItemRepository.act pg) w).1 =
        .ok ((w.db.itemsOf shipmentId).map ItemRow.load).sum ∧
      ((ItemService.getItemsCount shipmentId).run (ItemRepository.act pg) w).1 =
        .ok (w.db.itemsOf shipmentId).length := by
  have hperm : (w.db.listItems pg fun i => i.shipmentId = shipmentId).Perm
    (w.db.itemsOf shipmentId) := List.perm_insertionSort _ _
  obtain ⟨items, hread, hloads⟩ := exists_mapM_rowToEntity
    (w.db.listItems pg fun i => i.shipmentId = shipmentId) fun row hrow =>
      hchecked row (List.mem_of_mem_filter (hperm.mem_iff.mp hrow))
  have hlength := congrArg List.length hloads
  rw [List.length_map, List.length_map, hperm.length_eq] at hlength
  simp only [ItemService.calculateTotalWeight, ItemService.getItemsCount,
    ItemService.getByShipment, Coroutine.bind_eq, Coroutine.run_bind, Coroutine.run_perform,
    ItemRepository.act, hread]
  exact ⟨congrArg Except.ok (hloads ▸ (hperm.map ItemRow.load).sum_eq),
    congrArg Except.ok hlength⟩

end Service

/-- The service computes the totals that the view has for a shipment. -/
def TotalsAgree (pg : Postgres) (w : World) (shipmentId : UUID) : Prop :=
  ∃ stat ∈ w.db.shipmentStatistics, stat.shipmentId = shipmentId ∧
    ((ItemService.calculateTotalWeight shipmentId).run (ItemRepository.act pg) w).1 =
      .ok stat.totalWeight ∧
    ((ItemService.getItemsCount shipmentId).run (ItemRepository.act pg) w).1 =
      .ok stat.totalItems

/-- Sums of terms that are in order are the same only when all terms are. -/
theorem sum_map_eq_iff {α : Type} {f g : α → Rat} {xs : List α} (h : ∀ x ∈ xs, f x ≤ g x) :
    (xs.map f).sum = (xs.map g).sum ↔ ∀ x ∈ xs, f x = g x := by
  induction xs with
  | nil => simp
  | cons x xs ih =>
    obtain ⟨hfirst, hrest⟩ := List.forall_mem_cons.mp h
    rw [List.map_cons, List.map_cons, List.sum_cons, List.sum_cons, List.forall_mem_cons,
      add_eq_add_iff_eq_and_eq hfirst (List.sum_le_sum hrest), ih hrest]

/-- A checked row weighs no more than it adds to the total, and as much when it is single. -/
theorem weight_le_load {row : ItemRow} (h : checkItem row = none) :
    row.weight ≤ row.load ∧ (row.weight = row.load ↔ row.quantity = 1) := by
  obtain ⟨hquantity, hweight⟩ := checkItem_eq_none_iff.mp h
  have hone : (1 : Rat) ≤ row.quantity := by exact_mod_cast hquantity
  refine ⟨le_mul_of_one_le_right hweight.le hone, ?_⟩
  rw [ItemRow.load, left_eq_mul₀ hweight.ne', Int.cast_eq_one]

/-- Over a checked table the totals agree exactly when both sums do. -/
theorem totalsAgree_iff_sums (pg : Postgres) {w : World} (hchecked : w.db.ItemsChecked)
    {s : ShipmentRow} (hs : s ∈ w.db.shipments.rows) :
    TotalsAgree pg w s.shipmentId ↔
      ((w.db.itemsOf s.shipmentId).map ItemRow.weight).sum =
        ((w.db.itemsOf s.shipmentId).map ItemRow.load).sum := by
  obtain ⟨hweight, hcount⟩ := run_totals pg s.shipmentId hchecked
  constructor
  · rintro ⟨stat, hstat, hid, htotal, _⟩
    obtain rfl := (ShipmentDb.statistics_of_shipmentId hs).mp ⟨hstat, hid⟩
    exact (Except.ok.inj (hweight.symm.trans htotal)).symm
  · intro h
    obtain ⟨hstat, hid⟩ := (ShipmentDb.statistics_of_shipmentId hs).mpr rfl
    exact ⟨_, hstat, hid, hweight.trans (congrArg Except.ok h.symm), hcount⟩

/-- The totals agree exactly when every item of the shipment is single. -/
theorem totalsAgree_iff (pg : Postgres) (w : World) (hchecked : w.db.ItemsChecked)
    (s : ShipmentRow) (hs : s ∈ w.db.shipments.rows) :
    TotalsAgree pg w s.shipmentId ↔
      ∀ row ∈ w.db.items.rows, row.shipmentId = s.shipmentId → row.quantity = 1 := by
  have hload : ∀ row ∈ w.db.itemsOf s.shipmentId,
      row.weight ≤ row.load ∧ (row.weight = row.load ↔ row.quantity = 1) :=
    fun row hrow => weight_le_load (hchecked row (List.mem_of_mem_filter hrow))
  rw [totalsAgree_iff_sums pg hchecked hs, sum_map_eq_iff fun row hrow => (hload row hrow).1]
  constructor
  · intro h row hrow hid
    have hmem : row ∈ w.db.itemsOf s.shipmentId :=
      List.mem_filter.mpr ⟨hrow, decide_eq_true hid⟩
    exact (hload row hmem).2.mp (h row hmem)
  · intro h row hmem
    obtain ⟨hrow, hid⟩ := List.mem_filter.mp hmem
    exact (hload row hmem).2.mpr (h row hrow (of_decide_eq_true hid))

/-- A shipment with one desk and one lamp. -/
def furnishedWorld : World where
  db := {
    shipments := Table.empty.put ⟨⟨5⟩, "Bergen", "Turku", "created", 1, 1⟩
    items := (Table.empty.put ⟨⟨51⟩, ⟨5⟩, "desk", 1, 30, 1, 1⟩).put
      ⟨⟨52⟩, ⟨5⟩, "lamp", 1, 5 / 2, 1, 1⟩
    shipmentOf := by decide }
  clock n := n
  statements := 0

theorem totalsAgree_iff_furnished : TotalsAgree samplePostgres furnishedWorld ⟨5⟩ := by
  refine (totalsAgree_iff samplePostgres furnishedWorld ?_
    ⟨⟨5⟩, "Bergen", "Turku", "created", 1, 1⟩ (by decide)).mpr (by decide)
  unfold ShipmentDb.ItemsChecked
  decide +kernel

/-- Five crates of ten kilograms weigh fifty for the service and ten in the view. -/
theorem totals_of_crates : ¬ TotalsAgree samplePostgres sampleWorld ⟨2⟩ := by
  have hchecked : sampleWorld.db.ItemsChecked := by
    unfold ShipmentDb.ItemsChecked
    decide +kernel
  rw [totalsAgree_iff_sums samplePostgres hchecked
    (s := ⟨⟨2⟩, "Riga", "Oslo", "created", 0, 0⟩) (by decide)]
  decide +kernel

end SupplyChainTracker.Shipments
