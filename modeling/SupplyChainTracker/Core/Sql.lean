import Mathlib.Algebra.BigOperators.Group.List.Basic
import Mathlib.Algebra.Field.Rat
import Mathlib.Data.List.Dedup
import Mathlib.Data.List.ReduceOption
import Mathlib.Tactic.Common
import SupplyChainTracker.Core.Decimal

/-!
# Joins and aggregates

An outer join of two lists of rows, the groups of a list of rows, and aggregates over a column of
a group. A grouping of the join by the rows of its left table gives every such row the rows of the
right table that match it.
-/

namespace SupplyChainTracker.Sql

variable {α β γ κ : Type}

section Groups

variable [DecidableEq κ] (key : α → κ)

/-- `GROUP BY`. -/
def groupBy (rows : List α) : List (κ × List α) :=
  (rows.map key).dedup.map fun k => (k, rows.filter fun r => key r = k)

variable {key} {rows : List α}

/-- The groups are those of the rows. -/
theorem mem_groupBy {group : κ × List α} :
    group ∈ groupBy key rows ↔
      ∃ r ∈ rows, group = (key r, rows.filter fun r' => key r' = key r) := by
  simp only [groupBy, List.mem_map, List.mem_dedup]
  constructor
  · rintro ⟨_, ⟨r, hr, rfl⟩, rfl⟩
    exact ⟨r, hr, rfl⟩
  · rintro ⟨r, hr, rfl⟩
    exact ⟨key r, ⟨r, hr, rfl⟩, rfl⟩

/-- Grouped by a constant, all rows are in one group, if there are any. -/
theorem groupBy_const (k : κ) (rows : List α) :
    groupBy (fun _ => k) rows = if rows = [] then [] else [(k, rows)] := by
  cases rows with
  | nil => rfl
  | cons r rows =>
    have hkeys : ((r :: rows).map fun _ => k).dedup = [k] := by
      rw [List.map_const', List.replicate_dedup (by simp)]
    rw [groupBy, hkeys, if_neg (by simp), List.map_singleton]
    simp

variable {M : Type} [AddCommMonoid M]

/-- Summed up by their keys, rows give what they give summed up at once. -/
theorem sum_keys (f : α → M) {keys : List κ} (hkeys : keys.Nodup) (hmem : ∀ r ∈ rows, key r ∈ keys) :
    (keys.map fun k => ((rows.filter fun r => key r = k).map f).sum).sum = (rows.map f).sum := by
  induction rows with
  | nil => simp
  | cons r rows ih =>
    have hcons : ∀ k, (((r :: rows).filter fun r => key r = k).map f).sum =
        (if k = key r then f r else 0) + ((rows.filter fun r => key r = k).map f).sum := by
      intro k
      by_cases hk : key r = k
      · simp [hk]
      · simp [hk, Ne.symm hk]
    have hone : (keys.map fun k => if k = key r then f r else 0).sum = f r := by
      rw [List.sum_map_eq_nsmul_single (key r) _ fun k hk _ => if_neg hk, if_pos rfl,
        List.count_eq_one_of_mem hkeys (hmem r (List.mem_cons_self ..)), one_nsmul]
    simp only [hcons, List.sum_map_add, hone, List.map_cons, List.sum_cons]
    rw [ih fun r hr => hmem r (List.mem_cons_of_mem _ hr)]

/-- Summed up group by group, rows give what they give summed up at once. -/
theorem sum_groupBy (f : α → M) :
    ((groupBy key rows).map fun group => (group.2.map f).sum).sum = (rows.map f).sum := by
  rw [groupBy, List.map_map]
  exact sum_keys f (List.nodup_dedup _) fun r hr => List.mem_dedup.mpr (List.mem_map_of_mem hr)

end Groups

section Joins

variable (on : α → β → Bool) (ys : List β)

/-- What a row of the left table is joined with: `NULL` where no row matches. -/
def partners (x : α) : List (Option β) :=
  match ys.filter (on x) with
  | [] => [none]
  | found => found.map some

/-- `LEFT JOIN`. -/
def leftJoin (on : α → β → Bool) (xs : List α) (ys : List β) : List (α × Option β) :=
  xs.flatMap fun x => (partners on ys x).map fun y => (x, y)

theorem partners_ne_nil (x : α) : partners on ys x ≠ [] := by
  unfold partners
  split
  · exact List.cons_ne_nil _ _
  · rename_i hne
    exact fun h => hne (List.map_eq_nil_iff.mp h)

/-- A column of the right table without its `NULL`s is that of the rows that match. -/
theorem reduceOption_partners (f : β → γ) (x : α) :
    ((partners on ys x).map (Option.map f)).reduceOption = (ys.filter (on x)).map f := by
  unfold partners
  split
  · rename_i hnil
    rw [hnil]
    rfl
  · simp [List.reduceOption]

theorem leftJoin_append (xs xs' : List α) :
    leftJoin on (xs ++ xs') ys = leftJoin on xs ys ++ leftJoin on xs' ys := by
  simp only [leftJoin, List.flatMap_append]

variable [DecidableEq α] {on ys} {xs : List α}

/-- No row of the join goes back to a row that the left table does not have. -/
theorem filter_leftJoin_of_notMem {x : α} (hx : x ∉ xs) :
    (leftJoin on xs ys).filter (fun r => r.1 = x) = [] := by
  refine List.filter_eq_nil_iff.mpr fun r hr => ?_
  obtain ⟨z, hz, hr⟩ := List.mem_flatMap.mp hr
  obtain ⟨y, _, rfl⟩ := List.mem_map.mp hr
  have hne : z ≠ x := ne_of_mem_of_not_mem hz hx
  simpa using hne

/-- The rows of the join that go back to one row. -/
theorem filter_leftJoin (hxs : xs.Nodup) {x : α} (hx : x ∈ xs) :
    (leftJoin on xs ys).filter (fun r => r.1 = x) = (partners on ys x).map fun y => (x, y) := by
  obtain ⟨before, after, rfl⟩ := List.append_of_mem hx
  have hrest : x ∉ before ++ after := (List.nodup_cons.mp (List.nodup_middle.mp hxs)).1
  obtain ⟨hbefore, hafter⟩ := not_or.mp (mt List.mem_append.mpr hrest)
  have hcons : leftJoin on (x :: after) ys =
      ((partners on ys x).map fun y => (x, y)) ++ leftJoin on after ys := rfl
  rw [leftJoin_append, hcons, List.filter_append, List.filter_append,
    filter_leftJoin_of_notMem hbefore, filter_leftJoin_of_notMem hafter,
    List.nil_append, List.append_nil]
  refine List.filter_eq_self.mpr fun r hr => ?_
  obtain ⟨y, _, rfl⟩ := List.mem_map.mp hr
  exact decide_eq_true rfl

/-- Grouped by the rows of the left table, the join gives each of them what matches it. -/
theorem mem_groupBy_leftJoin (hxs : xs.Nodup) {group : α × List (α × Option β)} :
    group ∈ groupBy Prod.fst (leftJoin on xs ys) ↔
      ∃ x ∈ xs, group = (x, (partners on ys x).map fun y => (x, y)) := by
  rw [mem_groupBy]
  constructor
  · rintro ⟨r, hr, rfl⟩
    obtain ⟨x, hx, hr⟩ := List.mem_flatMap.mp hr
    obtain ⟨y, _, rfl⟩ := List.mem_map.mp hr
    exact ⟨x, hx, by rw [filter_leftJoin hxs hx]⟩
  · rintro ⟨x, hx, rfl⟩
    obtain ⟨y, hy⟩ := List.exists_mem_of_ne_nil _ (partners_ne_nil on ys x)
    refine ⟨(x, y), List.mem_flatMap.mpr ⟨x, hx, List.mem_map_of_mem hy⟩, ?_⟩
    rw [filter_leftJoin hxs hx]

end Joins

/-- `COUNT` of a column. -/
def count (column : List (Option γ)) : Nat := column.reduceOption.length

/-- `SUM` of a column, which is `NULL` where it has no value. -/
def sum [Add γ] [Zero γ] (column : List (Option γ)) : Option γ :=
  match column.reduceOption with
  | [] => none
  | values => some values.sum

/-- `COALESCE(SUM(column), 0)` is the sum of the values. -/
theorem getD_sum [Add γ] [Zero γ] (column : List (Option γ)) :
    (sum column).getD 0 = column.reduceOption.sum := by
  unfold sum
  split
  · rename_i hnil
    rw [hnil]
    rfl
  · rfl

/-- A column has the same values whether its `NULL`s are filtered out or not. -/
theorem reduceOption_filter {column : α → Option γ} {filtered : α → Bool}
    (h : ∀ r, filtered r = (column r).isSome) (rows : List α) :
    ((rows.filter filtered).map column).reduceOption = (rows.map column).reduceOption := by
  induction rows with
  | nil => rfl
  | cons r rows ih =>
    have hr := h r
    cases hcolumn : column r <;> simp_all

/-- The values of a column are as many as the rows that have one. -/
theorem length_reduceOption (column : α → Option γ) (rows : List α) :
    (rows.map column).reduceOption.length = rows.countP fun r => (column r).isSome := by
  induction rows with
  | nil => rfl
  | cons r rows ih => cases hr : column r <;> simp [hr, ih]

section Averages

-- The digits after the point that the database gives to the quotient of a sum and a count.
variable (scale : Rat → Nat → Nat)

/-- `AVG` of a column, which is `NULL` where it has no value, and rounded elsewhere. -/
def avg (column : List (Option Rat)) : Option Rat :=
  (sum column).map fun total =>
    Decimal.round (scale total (count column)) (total / count column)

/-- There is an average exactly if there is a value. -/
theorem isSome_avg (column : List (Option Rat)) : (avg scale column).isSome ↔ 0 < count column := by
  unfold avg sum count
  cases column.reduceOption <;> simp

/-- An average gives the sum back up to half a unit of its last digit for each value. -/
theorem abs_avg_mul_count_sub_le (column : List (Option Rat)) :
    |(avg scale column).getD 0 * count column - (sum column).getD 0| ≤
      count column / 2 / 10 ^ scale ((sum column).getD 0) (count column) := by
  cases hsum : sum column with
  | none =>
    have havg : avg scale column = none := by rw [avg, hsum, Option.map_none]
    rw [havg, Option.getD_none, zero_mul, sub_zero, abs_zero]
    positivity
  | some total =>
    have hcount : (0 : Rat) < count column := by
      unfold sum at hsum
      unfold count
      cases hvalues : column.reduceOption with
      | nil => simp [hvalues] at hsum
      | cons value values => exact Nat.cast_pos.mpr (Nat.succ_pos _)
    have havg : avg scale column =
        some (Decimal.round (scale total (count column)) (total / count column)) := by
      rw [avg, hsum, Option.map_some]
    have hround := Decimal.abs_round_sub_le (scale total (count column)) (total / count column)
    have htotal : total / count column * count column = total := div_mul_cancel₀ _ hcount.ne'
    rw [havg, Option.getD_some, Option.getD_some]
    calc |Decimal.round (scale total (count column)) (total / count column) * count column - total|
        = |Decimal.round (scale total (count column)) (total / count column) -
            total / count column| * count column := by
          rw [← abs_of_pos hcount, ← abs_mul, abs_of_pos hcount, sub_mul, htotal]
      _ ≤ 1 / 2 / 10 ^ scale total (count column) * count column :=
          mul_le_mul_of_nonneg_right hround hcount.le
      _ = count column / 2 / 10 ^ scale total (count column) := by ring

end Averages

/-- `COUNT(*)` with a `FILTER`, group by group. -/
theorem sum_groupBy_countP [DecidableEq κ] {key : α → κ} {rows : List α} (p : α → Bool) :
    ((groupBy key rows).map fun group => group.2.countP p).sum = rows.countP p := by
  have hcount : ∀ rows : List α, rows.countP p = (rows.map fun r => if p r then 1 else 0).sum := by
    intro rows
    induction rows with
    | nil => rfl
    | cons r rows ih => rw [List.countP_cons, ih, List.map_cons, List.sum_cons, Nat.add_comm]
  simp only [hcount]
  exact sum_groupBy _

/-- `SUM` of a column, group by group. -/
theorem sum_groupBy_sum [DecidableEq κ] [AddCommMonoid γ] {key : α → κ} {rows : List α}
    (column : α → Option γ) :
    ((groupBy key rows).map fun group => (sum (group.2.map column)).getD 0).sum =
      (sum (rows.map column)).getD 0 := by
  have hsum : ∀ rows : List α, (sum (rows.map column)).getD 0 =
      (rows.map fun r => (column r).getD 0).sum := by
    intro rows
    rw [getD_sum]
    induction rows with
    | nil => rfl
    | cons r rows ih =>
      cases hr : column r with
      | none => simp [hr, ih, List.reduceOption_cons_of_none]
      | some value => simp [hr, ih, List.reduceOption_cons_of_some]
  simp only [hsum]
  exact sum_groupBy _

end SupplyChainTracker.Sql
