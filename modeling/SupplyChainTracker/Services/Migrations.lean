import Mathlib.Data.List.Induction
import SupplyChainTracker.Core.Except

/-!
# The migrations of the services in one database

The services share the database `supply_chain`. Four of them create the trigger function
`update_updated_at_column`, not all with the same body, and the one created last is the one that
the triggers of all of them execute.
-/

namespace SupplyChainTracker.Services

/-- A statement of a migration that concerns the tables with a trigger which executes
`update_updated_at_column`. -/
inductive Ddl : Type
  /-- `CREATE TABLE IF NOT EXISTS`. -/
  | createTable (table : String) (columns : List String)
  /-- `CREATE OR REPLACE FUNCTION update_updated_at_column()`, with the column of the new row that
  its body sets to `NOW()`. -/
  | createFunction (column : String)
  /-- `CREATE TRIGGER ... BEFORE UPDATE ... EXECUTE FUNCTION update_updated_at_column()`. -/
  | createTrigger (trigger table : String)

/-- What the statements leave. -/
structure Catalog where
  tables : List (String × List String) := []
  /-- The column that the function sets, if there is the function. -/
  assigned : Option String := none
  /-- The triggers with their tables. -/
  triggers : List (String × String) := []
  /-- The migrations that have been applied. -/
  applied : List String := []

namespace Catalog

/-- There is a table of the name. -/
def hasTable (cat : Catalog) (table : String) : Bool := cat.tables.any fun t => t.1 = table

/-- What an `UPDATE` of a row raises: the body of the function sets a column that the table does
not have. -/
def refusesUpdate (cat : Catalog) (table : String) : Option String := do
  if cat.triggers.any fun t => t.2 = table then
    let column ← cat.assigned
    let columns ← cat.tables.lookup table
    if column ∈ columns then none else some ("record \"new\" has no field \"" ++ column ++ "\"")
  else none

end Catalog

/-- The effect of a statement. -/
def Ddl.run : Ddl → Catalog → Except String Catalog
  | createTable table columns, cat =>
      if cat.hasTable table then .ok cat
      else .ok { cat with tables := cat.tables ++ [(table, columns)] }
  | createFunction column, cat => .ok { cat with assigned := some column }
  | createTrigger trigger table, cat =>
      if cat.hasTable table = false then .error ("relation \"" ++ table ++ "\" does not exist")
      else if cat.assigned = none then
        .error "function update_updated_at_column() does not exist"
      else if (trigger, table) ∈ cat.triggers then
        .error ("trigger \"" ++ trigger ++ "\" for relation \"" ++ table ++ "\" already exists")
      else .ok { cat with triggers := cat.triggers ++ [(trigger, table)] }

/-- A migration; its statements about other things are left out. -/
structure Migration where
  id : String
  statements : List Ddl

/-- Apply a migration. -/
def Migration.apply (m : Migration) (cat : Catalog) : Except String Catalog := do
  let cat ← m.statements.foldlM (fun cat statement => statement.run cat) cat
  return { cat with applied := cat.applied ++ [m.id] }

/-- `yoyo apply`: the migrations that have not been applied yet, one after the other. -/
def applyAll (migrations : List Migration) (cat : Catalog) : Except String Catalog :=
  migrations.foldlM (fun cat m => if m.id ∈ cat.applied then .ok cat else m.apply cat) cat

namespace Catalog

/-- A catalog with what is added to it; its function is the new one, if there is a new one. -/
def append (cat own : Catalog) : Catalog where
  tables := cat.tables ++ own.tables
  assigned := own.assigned.or cat.assigned
  triggers := cat.triggers ++ own.triggers
  applied := cat.applied ++ own.applied

@[simp] theorem append_empty (cat : Catalog) : cat.append {} = cat := by
  simp [append]

@[simp] theorem hasTable_append (cat own : Catalog) (table : String) :
    (cat.append own).hasTable table = (cat.hasTable table || own.hasTable table) := by
  simp [append, hasTable]

/-- Nothing of one catalog is in the other one. -/
structure Apart (cat own : Catalog) : Prop where
  tables : ∀ t ∈ own.tables, cat.hasTable t.1 = false
  triggers : ∀ t ∈ own.triggers, t ∉ cat.triggers
  applied : ∀ id ∈ own.applied, id ∉ cat.applied

/-- Everything of one catalog is in the other one. -/
structure Within (own own' : Catalog) : Prop where
  tables : own.tables ⊆ own'.tables
  triggers : own.triggers ⊆ own'.triggers
  applied : own.applied ⊆ own'.applied

theorem Within.refl (own : Catalog) : own.Within own := ⟨fun _ h => h, fun _ h => h, fun _ h => h⟩

theorem Within.trans {own own' own'' : Catalog} (h : own.Within own') (h' : own'.Within own'') :
    own.Within own'' :=
  ⟨fun _ ht => h'.tables (h.tables ht), fun _ ht => h'.triggers (h.triggers ht),
    fun _ ht => h'.applied (h.applied ht)⟩

theorem Apart.of_within {cat own own' : Catalog} (h : cat.Apart own') (hle : own.Within own') :
    cat.Apart own :=
  ⟨fun t ht => h.tables t (hle.tables ht), fun t ht => h.triggers t (hle.triggers ht),
    fun id hid => h.applied id (hle.applied hid)⟩

end Catalog

/-- A step that succeeds on a catalog succeeds beside another catalog in the same way. -/
def Framed (step : Catalog → Except String Catalog) : Prop :=
  ∀ own own', step own = .ok own' → own.Within own' ∧
    ∀ cat : Catalog, cat.Apart own' → step (cat.append own) = .ok (cat.append own')

/-- Framed steps one after the other are. -/
theorem framed_foldlM {α : Type} {step : Catalog → α → Except String Catalog} {as : List α}
    (h : ∀ a ∈ as, Framed fun cat => step cat a) : Framed fun cat => as.foldlM step cat := by
  induction as with
  | nil =>
    intro own own' hrun
    obtain rfl : own = own' := by simpa [pure, Except.pure] using hrun
    exact ⟨.refl own, fun _ _ => rfl⟩
  | cons a as ih =>
    intro own own' hrun
    simp only [List.foldlM_cons] at hrun ⊢
    obtain ⟨own₁, hfirst, hrest⟩ := bind_eq_ok_iff.mp hrun
    obtain ⟨hle, hframe⟩ := h a (List.mem_cons_self ..) own own₁ hfirst
    obtain ⟨hle', hframe'⟩ := ih (fun b hb => h b (List.mem_cons_of_mem _ hb)) own₁ own' hrest
    refine ⟨hle.trans hle', fun cat hcat => bind_eq_ok_iff.mpr ⟨_, hframe cat ?_, hframe' cat hcat⟩⟩
    exact hcat.of_within hle'

/-- Each statement is. -/
theorem framed_run (statement : Ddl) : Framed statement.run := by
  intro own own' hrun
  cases statement with
  | createTable table columns =>
    simp only [Ddl.run] at hrun ⊢
    split at hrun
    · rename_i hown
      cases hrun
      exact ⟨.refl own, fun cat _ => if_pos (by simp [hown])⟩
    · rename_i hown
      cases hrun
      refine ⟨⟨List.subset_append_left .., fun _ h => h, fun _ h => h⟩, fun cat hcat => ?_⟩
      have hnew := hcat.tables (table, columns) (by simp)
      rw [if_neg (by simpa [hnew] using hown)]
      simp [Catalog.append]
  | createFunction column =>
    cases hrun
    exact ⟨⟨fun _ h => h, fun _ h => h, fun _ h => h⟩, fun cat _ => rfl⟩
  | createTrigger trigger table =>
    simp only [Ddl.run] at hrun ⊢
    split at hrun
    · cases hrun
    rename_i htable
    split at hrun
    · cases hrun
    rename_i hassigned
    split at hrun
    · cases hrun
    rename_i hnew
    cases hrun
    refine ⟨⟨fun _ h => h, List.subset_append_left .., fun _ h => h⟩, fun cat hcat => ?_⟩
    have hcat := hcat.triggers (trigger, table) (by simp)
    rw [if_neg (by simpa using fun _ => htable), if_neg (by simp [Catalog.append, hassigned]),
      if_neg (by simp [Catalog.append, hcat, hnew])]
    simp [Catalog.append]

/-- Applying a list of migrations is. -/
theorem framed_applyAll (migrations : List Migration) : Framed (applyAll migrations) := by
  refine framed_foldlM fun m _ own own' hrun => ?_
  dsimp only at hrun ⊢
  split at hrun
  · rename_i happlied
    cases hrun
    exact ⟨.refl own, fun cat _ => if_pos (List.mem_append_right _ happlied)⟩
  · rename_i hnew
    obtain ⟨own₁, hstatements, hrun⟩ := bind_eq_ok_iff.mp hrun
    obtain ⟨hle, hframe⟩ := framed_foldlM (fun st _ => framed_run st) own own₁ hstatements
    cases hrun
    refine ⟨⟨hle.tables, hle.triggers, fun _ h => List.mem_append_left _ (hle.applied h)⟩,
      fun cat hcat => ?_⟩
    have hid := hcat.applied m.id (List.mem_append_right _ (List.mem_singleton.mpr rfl))
    rw [if_neg (by simp [Catalog.append, hid, hnew])]
    refine bind_eq_ok_iff.mpr ⟨_, hframe cat ⟨hcat.tables, hcat.triggers, fun id h =>
      hcat.applied id (List.mem_append_left _ h)⟩, ?_⟩
    simp [Catalog.append, pure, Except.pure]

/-- The services with such triggers. -/
inductive Migrated : Type
  | delivery
  | shipment
  | saga
  | blockchain
  deriving DecidableEq, Repr

namespace Migrated

/-- The `migrations` of a service that have such statements, in the order of their
dependencies. -/
def migrations : Migrated → List Migration
  | delivery => [
      ⟨"001_create_couriers", [
        .createTable "couriers"
          ["courier_id", "name", "contact_info", "is_active", "created_at", "updated_at"],
        .createFunction "updated_at",
        .createTrigger "update_couriers_updated_at" "couriers"]⟩,
      ⟨"002_create_deliveries", [
        .createTable "deliveries"
          ["delivery_id", "shipment_id", "courier_id", "status", "estimated_arrival",
            "actual_arrival", "created_at", "updated_at"],
        .createTrigger "update_deliveries_updated_at" "deliveries"]⟩]
  | shipment => [
      ⟨"001_create_shipments", [
        .createTable "shipments"
          ["shipment_id", "origin", "destination", "status", "created_at", "updated_at"],
        .createFunction "updated_at",
        .createTrigger "update_shipments_updated_at" "shipments"]⟩,
      ⟨"002_create_items", [
        .createTable "items"
          ["item_id", "shipment_id", "name", "quantity", "weight", "created_at", "updated_at"],
        .createTrigger "update_items_updated_at" "items"]⟩]
  | saga => [
      ⟨"001_create_saga_instances", [
        .createTable "saga_instances"
          ["saga_id", "saga_type", "shipment_id", "warehouse_id", "delivery_id", "status",
            "started_at", "updated_at", "completed_at", "failed_step", "error_message",
            "retry_count"],
        .createFunction "updated_at",
        .createTrigger "update_saga_updated_at" "saga_instances"]⟩]
  | blockchain => [
      ⟨"001_create_blockchain_records", [.createFunction "last_updated"]⟩,
      ⟨"002_create_nonce_manager", [
        .createTable "nonce_state" ["address", "current_nonce", "network", "last_updated"],
        .createTrigger "update_nonce_last_updated" "nonce_state"]⟩]

end Migrated

/-- The catalog after the migrations of services have been applied, in this order and any number
of times. -/
def Catalog.after (services : List Migrated) : Except String Catalog :=
  services.foldlM (fun cat s => applyAll s.migrations cat) {}

namespace Migrated

/-- The column that the function of a service sets. -/
def column (s : Migrated) : String := if s = blockchain then "last_updated" else "updated_at"

/-- What the migrations of a service leave in an empty database. -/
def own (s : Migrated) : Catalog where
  tables := s.migrations.flatMap fun m => m.statements.filterMap fun
    | .createTable table columns => some (table, columns)
    | _ => none
  assigned := some s.column
  triggers := s.migrations.flatMap fun m => m.statements.filterMap fun
    | .createTrigger trigger table => some (trigger, table)
    | _ => none
  applied := s.migrations.map Migration.id

/-- The tables of a service. -/
def tables (s : Migrated) : List String := s.own.tables.map Prod.fst

theorem applyAll_migrations (s : Migrated) : applyAll s.migrations {} = .ok s.own := by
  cases s <;> rfl

theorem lookup_own (s : Migrated) : ∀ t ∈ s.own.tables, s.own.tables.lookup t.1 = some t.2 := by
  cases s <;> decide

/-- Each of the tables has a trigger. -/
theorem trigger_own (s : Migrated) : ∀ t ∈ s.own.tables, ∃ u ∈ s.own.triggers, u.2 = t.1 := by
  cases s <;> decide

/-- A table has the column of its own service, and that of another one if that is the same. -/
theorem column_mem_iff (s s' : Migrated) :
    ∀ t ∈ s.own.tables, (s'.column ∈ t.2 ↔ (s = blockchain ↔ s' = blockchain)) := by
  cases s <;> cases s' <;> decide

/-- No table, no trigger and no migration belongs to two services. -/
theorem apart_own {s s' : Migrated} (h : s ≠ s') : s.own.Apart s'.own := by
  revert h
  cases s <;> cases s' <;> intro h <;>
    first | exact absurd rfl h | exact ⟨by decide, by decide, by decide⟩

end Migrated

/-- The services in the order in which their migrations are applied first. -/
def firstApplied (services : List Migrated) : List Migrated :=
  services.foldl (fun order s => if s ∈ order then order else order ++ [s]) []

/-- The catalog after the migrations of some services. -/
def Catalog.of (order : List Migrated) : Catalog :=
  order.foldl (fun cat s => cat.append s.own) {}

section Order

variable {order : List Migrated} {s last : Migrated}

@[simp] theorem Catalog.of_append (order : List Migrated) (s : Migrated) :
    Catalog.of (order ++ [s]) = (Catalog.of order).append s.own := by
  simp [Catalog.of]

/-- The migrations of a service are new until they are applied. -/
theorem apart_of (h : s ∉ order) : (Catalog.of order).Apart s.own := by
  induction order using List.reverseRecOn with
  | nil => exact ⟨fun _ _ => rfl, fun _ _ => List.not_mem_nil, fun _ _ => List.not_mem_nil⟩
  | append_singleton order s' ih =>
    obtain ⟨horder, hne⟩ : s ∉ order ∧ s ≠ s' := by simpa using h
    have hleft := ih horder
    have hright := Migrated.apart_own hne.symm
    rw [Catalog.of_append]
    refine ⟨fun t ht => ?_, fun t ht => ?_, fun id hid => ?_⟩
    · rw [Catalog.hasTable_append, hleft.tables t ht, hright.tables t ht]
      rfl
    · simp [Catalog.append, hleft.triggers t ht, hright.triggers t ht]
    · simp [Catalog.append, hleft.applied id hid, hright.applied id hid]

/-- Once they are applied, what they leave is there. -/
theorem within_of (h : s ∈ order) : s.own.Within (Catalog.of order) := by
  induction order using List.reverseRecOn with
  | nil => cases h
  | append_singleton order s' ih =>
    rw [Catalog.of_append]
    rcases List.mem_append.mp h with h | h
    · exact (ih h).trans ⟨List.subset_append_left .., List.subset_append_left ..,
        List.subset_append_left ..⟩
    · obtain rfl := List.mem_singleton.mp h
      exact ⟨List.subset_append_right .., List.subset_append_right .., List.subset_append_right ..⟩

/-- Migrations that have been applied are not applied again. -/
theorem applyAll_of_mem (h : s ∈ order) :
    applyAll s.migrations (.of order) = .ok (.of order) := by
  have hall : ∀ m ∈ s.migrations, m.id ∈ (Catalog.of order).applied := fun m hm =>
    (within_of h).applied (List.mem_map_of_mem hm)
  unfold applyAll
  generalize s.migrations = ms at hall
  induction ms with
  | nil => rfl
  | cons m ms ih =>
    rw [List.foldlM_cons, if_pos (hall m (List.mem_cons_self ..))]
    exact ih fun m hm => hall m (List.mem_cons_of_mem _ hm)

/-- New migrations are applied without an error. -/
theorem applyAll_of_not_mem (h : s ∉ order) :
    applyAll s.migrations (.of order) = .ok (.of (order ++ [s])) := by
  have hframe := (framed_applyAll s.migrations {} s.own s.applyAll_migrations).2
    (.of order) (apart_of h)
  rwa [Catalog.append_empty, ← Catalog.of_append] at hframe

/-- In whatever order and however often the migrations are applied, each of them is applied once,
without an error. -/
theorem after_eq (services : List Migrated) :
    Catalog.after services = .ok (.of (firstApplied services)) := by
  have hgeneral : ∀ order, services.foldlM (fun cat s => applyAll s.migrations cat)
      (Catalog.of order) = .ok (.of (services.foldl
        (fun order s => if s ∈ order then order else order ++ [s]) order)) := by
    induction services with
    | nil => exact fun _ => rfl
    | cons s services ih =>
      intro order
      rw [List.foldlM_cons, List.foldl_cons]
      by_cases h : s ∈ order
      · rw [applyAll_of_mem h, if_pos h]
        exact ih order
      · rw [applyAll_of_not_mem h, if_neg h]
        exact ih (order ++ [s])
  exact hgeneral []

/-- The function is that of the last service. -/
theorem assigned_of (h : order.getLast? = some last) :
    (Catalog.of order).assigned = some last.column := by
  obtain ⟨front, rfl⟩ := List.getLast?_eq_some_iff.mp h
  rw [Catalog.of_append]
  rfl

/-- A table is as its service has created it. -/
theorem lookup_of (h : s ∈ order) {t : String × List String} (ht : t ∈ s.own.tables) :
    (Catalog.of order).tables.lookup t.1 = some t.2 := by
  induction order using List.reverseRecOn with
  | nil => cases h
  | append_singleton order s' ih =>
    rw [Catalog.of_append, Catalog.append, List.lookup_append]
    by_cases hs : s ∈ order
    · rw [ih hs]
      rfl
    · obtain rfl : s = s' := by simpa [hs] using h
      have hnew := (apart_of hs).tables t ht
      rw [List.lookup_eq_none_iff.mpr ?_, s.lookup_own t ht]
      · rfl
      · intro u hu
        have hne : u.1 ≠ t.1 := by simpa using List.any_eq_false.mp hnew u hu
        exact bne_iff_ne.mpr hne.symm

/-- A trigger raises unless its table has the column of the service that was the last one. -/
theorem refusesUpdate_of (h : s ∈ order) (hlast : order.getLast? = some last) {table : String}
    (htable : table ∈ s.tables) :
    (Catalog.of order).refusesUpdate table =
      if s = .blockchain ↔ last = .blockchain then none
      else some ("record \"new\" has no field \"" ++ last.column ++ "\"") := by
  obtain ⟨t, ht, rfl⟩ := List.mem_map.mp htable
  have htrigger : (Catalog.of order).triggers.any (fun u => u.2 = t.1) = true := by
    obtain ⟨u, hu, hut⟩ := s.trigger_own t ht
    exact List.any_eq_true.mpr ⟨u, (within_of h).triggers hu, by simpa using hut⟩
  rw [Catalog.refusesUpdate, if_pos htrigger, assigned_of hlast, lookup_of h ht]
  simp only [bind, Option.bind, s.column_mem_iff last t ht]

/-- The order has the services whose migrations have been applied. -/
theorem mem_firstApplied {services : List Migrated} : s ∈ firstApplied services ↔ s ∈ services := by
  have hgeneral : ∀ order, s ∈ services.foldl
      (fun order s => if s ∈ order then order else order ++ [s]) order ↔
        s ∈ order ∨ s ∈ services := by
    induction services with
    | nil => simp
    | cons s' services ih =>
      intro order
      rw [List.foldl_cons, ih, List.mem_cons]
      split
      · rename_i h
        refine ⟨Or.imp_right .inr, ?_⟩
        rintro (hs | rfl | hs)
        · exact .inl hs
        · exact .inl h
        · exact .inr hs
      · simp [or_assoc]
  simpa [firstApplied] using hgeneral []

end Order

end SupplyChainTracker.Services
