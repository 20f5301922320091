import Mathlib.Data.List.Basic
import Mathlib.Data.List.Sort
import Mathlib.Order.Defs.Unbundled
import Mathlib.Tactic.Common
import Mathlib.Tactic.Linarith

/-!
# Paging through an ordered listing

Pages of a listing that is ordered by a key, where each query may put the rows with one key in
another order. The pages hold every row once for all such choices exactly when no page ends between
rows of one key.
-/

namespace SupplyChainTracker.Paging

variable {ρ : Type} (le : ρ → ρ → Prop)

/-- An order in which a query may return the rows of a table. -/
structure Ordered (rows order : List ρ) : Prop where
  perm : order.Perm rows
  sorted : order.Pairwise le

/-- The page of a query with `LIMIT limit OFFSET k * limit`. -/
def page (limit k : Nat) (order : List ρ) : List ρ := (order.drop (k * limit)).take limit

/-- Up to the first page that is short, the pages hold every row once. -/
def Complete (limit : Nat) (rows : List ρ) (pages : Nat → List ρ) : Prop :=
  ∃ last, (∀ k < last, limit ≤ (pages k).length) ∧ (pages last).length < limit ∧
    ((List.range (last + 1)).flatMap pages).Perm rows

/-- The pages are complete whatever order each query chooses. -/
def Covers (limit : Nat) (rows : List ρ) : Prop :=
  ∀ order : Nat → List ρ, (∀ k, Ordered le rows (order k)) →
    Complete limit rows fun k => page limit k (order k)

section Keys

variable [DecidableRel le]

/-- How many rows have a smaller key. -/
def before (rows : List ρ) (r : ρ) : Nat := rows.countP fun s => ¬ le r s

/-- How many rows have no greater key. -/
def upTo (rows : List ρ) (r : ρ) : Nat := rows.countP fun s => le s r

/-- A page ends between two rows of one key. -/
def Splits (limit : Nat) (rows : List ρ) : Prop :=
  ∃ r ∈ rows, ∃ k, before le rows r < k * limit ∧ k * limit < upTo le rows r

end Keys

section Positions

variable {le} [DecidableRel le] {rows order xs ys : List ρ} {r : ρ}

theorem before_perm (h : order.Perm rows) (r : ρ) : before le order r = before le rows r :=
  h.countP_eq _

theorem upTo_perm (h : order.Perm rows) (r : ρ) : upTo le order r = upTo le rows r :=
  h.countP_eq _

/-- Rows from which on no key is smaller than that of `r`. -/
theorem before_le (h : ∀ s ∈ ys, le r s) : before le (xs ++ ys) r ≤ xs.length := by
  have hys : ys.countP (fun s => ¬ le r s) = 0 :=
    List.countP_eq_zero.mpr fun s hs => by simpa using h s hs
  rw [before, List.countP_append, hys]
  exact List.countP_le_length

/-- Rows up to which no key is greater than that of `r`. -/
theorem le_upTo (h : ∀ s ∈ xs, le s r) : xs.length ≤ upTo le (xs ++ ys) r := by
  have hxs : xs.countP (fun s => le s r) = xs.length :=
    List.countP_eq_length.mpr fun s hs => by simpa using h s hs
  rw [upTo, List.countP_append, hxs]
  exact Nat.le_add_right ..

/-- Rows up to which every key is smaller than that of `r`. -/
theorem le_before (xs ys : List ρ) (h : ∀ s ∈ xs, ¬ le r s) :
    xs.length ≤ before le (xs ++ ys) r := by
  have hxs : xs.countP (fun s => ¬ le r s) = xs.length :=
    List.countP_eq_length.mpr fun s hs => by simpa using h s hs
  rw [before, List.countP_append, hxs]
  exact Nat.le_add_right ..

/-- Rows from which on every key is greater than that of `r`. -/
theorem upTo_le (xs ys : List ρ) (h : ∀ s ∈ ys, ¬ le s r) :
    upTo le (xs ++ ys) r ≤ xs.length := by
  have hys : ys.countP (fun s => le s r) = 0 :=
    List.countP_eq_zero.mpr fun s hs => by simpa using h s hs
  rw [upTo, List.countP_append, hys]
  exact List.countP_le_length

/-- Rows split as what they are ordered by does. -/
theorem splits_map (le : ρ → ρ → Prop) [DecidableRel le] {σ : Type} (f : σ → ρ) {limit : Nat}
    {rows : List σ} :
    Splits (fun r s => le (f r) (f s)) limit rows ↔ Splits le limit (rows.map f) := by
  simp [Splits, before, upTo, List.countP_map, Function.comp_def]

end Positions

section Unsplit

variable {le} [DecidableRel le] [Std.Total le] {rows order : List ρ} {limit : Nat}

/-- A row stands behind all rows of smaller keys and before all rows of greater ones. -/
theorem position {xs ys : List ρ} {r : ρ} (h : Ordered le rows (xs ++ r :: ys)) :
    before le rows r ≤ xs.length ∧ xs.length < upTo le rows r := by
  obtain ⟨_, hright, hacross⟩ := List.pairwise_append.mp h.sorted
  constructor
  · rw [← before_perm h.perm]
    refine before_le fun s hs => ?_
    rcases List.mem_cons.mp hs with rfl | hs
    · exact refl_of le s
    · exact List.rel_of_pairwise_cons hright hs
  · rw [← upTo_perm h.perm, List.append_cons]
    have hall : ∀ s ∈ xs ++ [r], le s r := by
      intro s hs
      rcases List.mem_append.mp hs with hs | hs
      · exact hacross s hs r (List.mem_cons_self ..)
      · obtain rfl := List.mem_singleton.mp hs
        exact refl_of le s
    have hlength : xs.length < (xs ++ [r]).length := by simp
    exact hlength.trans_le (le_upTo hall)

/-- The first pages hold the rows whose keys end there. -/
theorem take_perm (h : Ordered le rows order) (hsplits : ¬ Splits le limit rows) (k : Nat) :
    (order.take (k * limit)).Perm (rows.filter fun r => upTo le rows r ≤ k * limit) := by
  have hfirst : ∀ r ∈ order.take (k * limit), upTo le rows r ≤ k * limit := by
    intro r hr
    obtain ⟨xs, ys, htake⟩ := List.append_of_mem hr
    have horder : order = xs ++ r :: (ys ++ order.drop (k * limit)) := by
      conv_lhs => rw [← List.take_append_drop (k * limit) order, htake]
      simp
    have hbefore := (position (horder ▸ h)).1
    have hlength : xs.length < k * limit := by
      have htaken := List.length_take_le (k * limit) order
      rw [htake, List.length_append, List.length_cons] at htaken
      omega
    by_contra hlt
    exact hsplits ⟨r, h.perm.mem_iff.mp (List.mem_of_mem_take hr), k, by omega, by omega⟩
  have hrest : ∀ r ∈ order.drop (k * limit), ¬ upTo le rows r ≤ k * limit := by
    intro r hr
    obtain ⟨xs, ys, hdrop⟩ := List.append_of_mem hr
    have horder : order = (order.take (k * limit) ++ xs) ++ r :: ys := by
      conv_lhs => rw [← List.take_append_drop (k * limit) order, hdrop]
      simp
    have hupTo := (position (horder ▸ h)).2
    have hlt : k * limit < order.length := by
      by_contra hle
      rw [List.drop_eq_nil_of_le (not_lt.mp hle)] at hr
      cases hr
    rw [List.length_append, List.length_take, min_eq_left hlt.le] at hupTo
    omega
  refine .trans ?_ (h.perm.filter _)
  conv_rhs => rw [← List.take_append_drop (k * limit) order, List.filter_append,
    List.filter_eq_self.mpr fun r hr => decide_eq_true (hfirst r hr),
    List.filter_eq_nil_iff.mpr fun r hr => by simpa using hrest r hr, List.append_nil]

end Unsplit

section Pages

variable {rows : List ρ} {limit : Nat} {order : Nat → List ρ}

theorem length_page (k : Nat) (l : List ρ) :
    (page limit k l).length = min limit (l.length - k * limit) := by
  simp [page]

theorem take_append_page (k : Nat) (l : List ρ) :
    l.take (k * limit) ++ page limit k l = l.take ((k + 1) * limit) := by
  rw [page, Nat.succ_mul, List.take_add]

/-- Pages of one listing make up a stretch of it. -/
theorem flatMap_page (l : List ρ) (k count : Nat) :
    (List.range' k count).flatMap (fun k => page limit k l) =
      (l.drop (k * limit)).take (count * limit) := by
  induction count with
  | zero => simp
  | succ count ih =>
    rw [List.range'_1_concat, List.flatMap_append, ih, Nat.add_one_mul, List.take_add,
      List.drop_drop]
    simp [page, Nat.add_mul]

/-- The pages of two listings, of the second one from some page on. -/
theorem flatMap_page_ite (l l' : List ρ) {k count : Nat} (hk : k ≤ count) :
    (List.range count).flatMap (fun j => page limit j (if j < k then l else l')) =
      l.take (k * limit) ++ (l'.drop (k * limit)).take ((count - k) * limit) := by
  have hrange : List.range count = List.range' 0 k ++ List.range' k (count - k) := by
    have happend := List.range'_append_1 (s := 0) (m := k) (n := count - k)
    rw [Nat.zero_add, Nat.add_sub_cancel' hk] at happend
    rw [List.range_eq_range', happend]
  have hfirst : ∀ j ∈ List.range' 0 k, page limit j (if j < k then l else l') = page limit j l :=
    fun j hj => by rw [if_pos (by simpa using hj)]
  have hsecond : ∀ j ∈ List.range' k (count - k),
      page limit j (if j < k then l else l') = page limit j l' :=
    fun j hj => by rw [if_neg (not_lt.mpr (List.mem_range'_1.mp hj).1)]
  rw [hrange, List.flatMap_append, List.flatMap_congr hfirst, List.flatMap_congr hsecond,
    flatMap_page, flatMap_page, Nat.zero_mul, List.drop_zero]

/-- The pages of listings of one length are full but for the last. -/
theorem complete_iff (hlimit : 0 < limit) (h : ∀ k, (order k).length = rows.length) :
    Complete limit rows (fun k => page limit k (order k)) ↔
      ((List.range (rows.length / limit + 1)).flatMap fun k => page limit k (order k)).Perm
        rows := by
  have hfull : ∀ k < rows.length / limit, limit ≤ (page limit k (order k)).length := by
    intro k hk
    have hle := (Nat.mul_le_mul_right limit (Nat.succ_le_of_lt hk)).trans
      (Nat.div_mul_le_self rows.length limit)
    rw [Nat.succ_mul] at hle
    rw [length_page, h]
    omega
  have hshort :
      (page limit (rows.length / limit) (order (rows.length / limit))).length < limit := by
    have hmod := Nat.mod_lt rows.length hlimit
    have hdiv := Nat.div_add_mod' rows.length limit
    rw [length_page, h]
    omega
  constructor
  · rintro ⟨last, hbefore, hlast, hperm⟩
    obtain hlt | rfl | hgt := Nat.lt_trichotomy last (rows.length / limit)
    · exact absurd (hfull last hlt) (not_le.mpr hlast)
    · exact hperm
    · exact absurd (hbefore _ hgt) (not_le.mpr hshort)
  · exact fun hperm => ⟨_, hfull, hshort, hperm⟩

end Pages

section Covering

variable {le} {rows : List ρ} {limit : Nat}

/-- Where no page splits a key, the pages hold the rows in the end. -/
theorem flatMap_page_perm [DecidableRel le] [Std.Total le] (hsplits : ¬ Splits le limit rows)
    {order : Nat → List ρ} (h : ∀ k, Ordered le rows (order k)) (count : Nat) :
    ((List.range count).flatMap fun k => page limit k (order k)).Perm
      (rows.filter fun r => upTo le rows r ≤ count * limit) := by
  induction count with
  | zero => simpa using take_perm (h 0) hsplits 0
  | succ count ih =>
    rw [List.range_succ, List.flatMap_append, List.flatMap_singleton]
    refine .trans (ih.append_right _) ?_
    refine .trans ((take_perm (h count) hsplits count).symm.append_right _) ?_
    rw [take_append_page]
    exact take_perm (h count) hsplits (count + 1)

/-- On both sides of the end of a page that splits a key, there are rows of this key. -/
theorem exists_of_splits [DecidableRel le] [IsTrans ρ le] {order : List ρ}
    (h : Ordered le rows order) (hsplits : Splits le limit rows) :
    ∃ k xs ys r s, order = xs ++ r :: s :: ys ∧ xs.length + 1 = k * limit ∧ le s r := by
  obtain ⟨t, _, k, hbefore, hupTo⟩ := hsplits
  have hlength : k * limit < order.length :=
    h.perm.length_eq ▸ hupTo.trans_le List.countP_le_length
  obtain ⟨xs, rest, rfl, hxs⟩ : ∃ xs rest, order = xs ++ rest ∧ xs.length + 1 = k * limit :=
    ⟨_, _, (List.take_append_drop (k * limit - 1) order).symm, by rw [List.length_take]; omega⟩
  rw [List.length_append] at hlength
  obtain ⟨r, s, ys, rfl⟩ : ∃ r s ys, rest = r :: s :: ys := by
    match rest, hlength with
    | r :: s :: ys, _ => exact ⟨r, s, ys, rfl⟩
    | [_], hlength => simp only [List.length_singleton] at hlength; omega
    | [], hlength => simp only [List.length_nil] at hlength; omega
  obtain ⟨_, hright, hacross⟩ := List.pairwise_append.mp h.sorted
  have htr : le t r := by
    by_contra hlt
    refine absurd hbefore (not_lt.mpr ?_)
    rw [← before_perm h.perm, List.append_cons, ← hxs]
    refine le_trans (by simp) (le_before (xs ++ [r]) _ fun u hu htu => ?_)
    rcases List.mem_append.mp hu with hu | hu
    · exact hlt (trans_of le htu (hacross u hu r (List.mem_cons_self ..)))
    · exact hlt (List.mem_singleton.mp hu ▸ htu)
  have hst : le s t := by
    by_contra hlt
    refine absurd hupTo (not_lt.mpr ?_)
    rw [← upTo_perm h.perm, List.append_cons, ← hxs]
    refine (upTo_le (xs ++ [r]) _ fun u hu hut => ?_).trans (by simp)
    rcases List.mem_cons.mp hu with rfl | hu
    · exact hlt hut
    · exact hlt (trans_of le (List.rel_of_pairwise_cons (List.Pairwise.of_cons hright) hu) hut)
  exact ⟨k, xs, ys, r, s, rfl, hxs, trans_of le hst htr⟩

/-- Two neighbours of one key may change places. -/
theorem Ordered.swap {xs ys : List ρ} {r s : ρ} (h : Ordered le rows (xs ++ r :: s :: ys))
    (hle : le s r) : Ordered le rows (xs ++ s :: r :: ys) := by
  refine ⟨((List.Perm.swap ..).append_left xs).trans h.perm, ?_⟩
  have hsorted := h.sorted
  simp only [List.pairwise_append, List.pairwise_cons, List.mem_cons, forall_eq_or_imp] at hsorted ⊢
  obtain ⟨hxs, ⟨⟨_, hr⟩, hs, hys⟩, hacross⟩ := hsorted
  exact ⟨hxs, ⟨⟨hle, hs⟩, hr, hys⟩, fun x hx =>
    ⟨(hacross x hx).2.1, (hacross x hx).1, (hacross x hx).2.2⟩⟩

theorem not_covers_of_splits [DecidableRel le] [Std.Total le] [IsTrans ρ le] (hlimit : 0 < limit)
    (hnodup : rows.Nodup) (hsplits : Splits le limit rows) : ¬ Covers le limit rows := by
  intro hcovers
  have hsorted : Ordered le rows (rows.insertionSort le) :=
    ⟨List.perm_insertionSort le rows, List.pairwise_insertionSort le rows⟩
  obtain ⟨k, xs, ys, r, s, horder, hxs, hle⟩ := exists_of_splits hsorted hsplits
  rw [horder] at hsorted
  -- The queries from the end of this page on change the places of the two rows.
  have hchoices : ∀ j, Ordered le rows
      (if j < k then xs ++ r :: s :: ys else xs ++ s :: r :: ys) := by
    intro j
    split_ifs
    · exact hsorted
    · exact hsorted.swap hle
  have hperm := (complete_iff hlimit fun j => (hchoices j).perm.length_eq).mp (hcovers _ hchoices)
  have hlength := hsorted.perm.length_eq
  simp only [List.length_append, List.length_cons] at hlength
  have hk : k ≤ rows.length / limit + 1 :=
    Nat.le_succ_of_le ((Nat.le_div_iff_mul_le hlimit).mpr (by omega))
  have hfirst : (xs ++ r :: s :: ys).take (k * limit) = xs ++ [r] := by
    rw [List.append_cons]
    exact List.take_left' (by simp [hxs])
  have hsecond : (xs ++ s :: r :: ys).drop (k * limit) = r :: ys := by
    rw [List.append_cons]
    exact List.drop_left' (by simp [hxs])
  have hrest : (r :: ys).length ≤ (rows.length / limit + 1 - k) * limit := by
    have hdiv := Nat.lt_div_mul_add hlimit (a := rows.length)
    rw [List.length_cons, Nat.sub_mul, Nat.add_one_mul]
    omega
  rw [flatMap_page_ite _ _ hk, hfirst, hsecond, List.take_of_length_le hrest] at hperm
  have htwice := hperm.nodup_iff.mpr hnodup
  simp [List.nodup_append] at htwice

/-- No page splits keys that are distinct. -/
theorem not_splits_of_distinct [DecidableRel le] [Std.Total le] [IsTrans ρ le]
    (hnodup : rows.Nodup) (h : ∀ r ∈ rows, ∀ s ∈ rows, le r s → le s r → r = s) :
    ¬ Splits le limit rows := by
  rintro ⟨r, hr, k, hbefore, hupTo⟩
  have hsorted : Ordered le rows (rows.insertionSort le) :=
    ⟨List.perm_insertionSort le rows, List.pairwise_insertionSort le rows⟩
  obtain ⟨xs, ys, horder⟩ := List.append_of_mem (hsorted.perm.mem_iff.mpr hr)
  rw [horder] at hsorted
  have hmem : ∀ s, s ∈ xs ++ r :: ys → s ∈ rows := fun s => hsorted.perm.mem_iff.mp
  obtain ⟨hother, _⟩ :=
    List.nodup_cons.mp (List.nodup_middle.mp (hsorted.perm.nodup_iff.mpr hnodup))
  obtain ⟨_, hright, hacross⟩ := List.pairwise_append.mp hsorted.sorted
  have hleft : ∀ s ∈ xs, ¬ le r s := by
    intro s hs hle
    obtain rfl := h r hr s (hmem s (by simp [hs])) hle (hacross s hs r (List.mem_cons_self ..))
    exact hother (List.mem_append_left _ hs)
  have hrest : ∀ s ∈ ys, ¬ le s r := by
    intro s hs hle
    obtain rfl := h s (hmem s (by simp [hs])) r hr hle (List.rel_of_pairwise_cons hright hs)
    exact hother (List.mem_append_right _ hs)
  have hlow := le_before _ (r :: ys) hleft
  have hhigh := upTo_le (xs ++ [r]) _ hrest
  rw [before_perm hsorted.perm] at hlow
  rw [← List.append_cons, upTo_perm hsorted.perm, List.length_append, List.length_singleton]
    at hhigh
  omega

/-- The pages cover a table exactly when none of them splits a key. -/
theorem covers_iff [DecidableRel le] [Std.Total le] [IsTrans ρ le] (hlimit : 0 < limit)
    (hnodup : rows.Nodup) : Covers le limit rows ↔ ¬ Splits le limit rows := by
  refine ⟨fun hcovers hsplits => not_covers_of_splits hlimit hnodup hsplits hcovers, ?_⟩
  intro hsplits order h
  rw [complete_iff hlimit fun k => (h k).perm.length_eq]
  refine (flatMap_page_perm hsplits h _).trans (.of_eq (List.filter_eq_self.mpr fun r _ => ?_))
  have hupTo : upTo le rows r ≤ rows.length := List.countP_le_length
  have hdiv := Nat.lt_div_mul_add hlimit (a := rows.length)
  rw [decide_eq_true_eq, Nat.add_one_mul]
  omega

end Covering

end SupplyChainTracker.Paging
