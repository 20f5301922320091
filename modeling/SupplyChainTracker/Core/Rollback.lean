import Mathlib.Data.List.Infix
import Mathlib.Order.Monotone.Basic

/-!
# Lists that are rolled back

A list that grows at its end and now and then has its last elements replaced, by no fewer than it
loses. What lies deeper than any replacement reaches stays where it is for good.
-/

namespace SupplyChainTracker

namespace Rollback

variable {α β : Type} {depth : Nat} {xs ys : List α}

/-- At most `depth` elements at the end are replaced, by no fewer. -/
structure Replaces (depth : Nat) (xs ys : List α) : Prop where
  kept : xs.take (xs.length - depth) <+: ys
  length_le : xs.length ≤ ys.length

/-- Growing replaces nothing. -/
theorem replaces_of_prefix (depth : Nat) (h : xs <+: ys) : Replaces depth xs ys where
  kept := (List.take_prefix _ _).trans h
  length_le := h.length_le

/-- A list whose every next state replaces elements at the end of the one before. -/
def History (depth : Nat) (states : Nat → List α) : Prop :=
  ∀ n, Replaces depth (states n) (states (n + 1))

namespace History

variable {states : Nat → List α}

theorem length_mono (h : History depth states) : Monotone fun n => (states n).length :=
  monotone_nat_of_le_succ fun n => (h n).length_le

/-- What is out of reach stays in front. -/
theorem kept (h : History depth states) {n m : Nat} (hnm : n ≤ m) :
    (states n).take ((states n).length - depth) <+: states m := by
  induction m, hnm using Nat.le_induction with
  | base => exact List.take_prefix _ _
  | succ m hm ih =>
    -- the list has become no shorter, so that the next replacement does not reach what was kept
    have hlength : (states n).length ≤ (states m).length := h.length_mono hm
    have hin : (states n).take ((states n).length - depth) <+:
        (states m).take ((states m).length - depth) := by
      refine List.prefix_take_iff.mpr ⟨ih, ?_⟩
      rw [List.length_take]
      omega
    exact hin.trans (h m).kept

end History

section Find

variable {f : α × Nat → Option β} {position : β → Nat} {r : β}

/-- What is found first in a front is found first in the whole. -/
theorem findSome?_of_prefix (h : xs <+: ys) (hr : xs.zipIdx.findSome? f = some r) :
    ys.zipIdx.findSome? f = some r := by
  obtain ⟨rest, rfl⟩ := h
  rw [List.zipIdx_append, List.findSome?_append, hr, Option.some_or]

/-- Where everything is found at its own position, what is found first is found in every front that
includes its position. -/
theorem findSome?_take (hposition : ∀ p b, f p = some b → position b = p.2) {k : Nat}
    (hr : xs.zipIdx.findSome? f = some r) (hk : position r < k) :
    (xs.take k).zipIdx.findSome? f = some r := by
  obtain ⟨p, hp, hfp⟩ := List.exists_of_findSome?_eq_some hr
  cases hfront : (xs.take k).zipIdx.findSome? f with
  | some b =>
    have hwhole := findSome?_of_prefix (List.take_prefix k xs) hfront
    exact hwhole.symm.trans hr
  | none =>
    have hmem : p ∈ (xs.take k).zipIdx := by
      rw [List.mem_zipIdx_iff_getElem?] at hp ⊢
      rw [List.getElem?_take_of_lt (hposition p r hfp ▸ hk), hp]
    rw [List.findSome?_eq_none_iff.mp hfront p hmem] at hfp
    cases hfp

/-- What is found first, out of reach of a replacement, is found first for good. -/
theorem History.findSome?_eq {states : Nat → List α} (h : History depth states)
    (hposition : ∀ p b, f p = some b → position b = p.2) {n : Nat}
    (hr : (states n).zipIdx.findSome? f = some r)
    (hdeep : position r + depth < (states n).length) {m : Nat} (hnm : n ≤ m) :
    (states m).zipIdx.findSome? f = some r := by
  have hk : position r < (states n).length - depth := by omega
  exact findSome?_of_prefix (h.kept hnm) (findSome?_take hposition hr hk)

end Find

end Rollback

end SupplyChainTracker
