import Mathlib.Data.ENat.Lattice
import Mathlib.Tactic.Common

/-!
# Bounded retries

A loop makes attempts until one succeeds or a limit is reached, and then lets the error of its
last attempt escape.
-/

namespace SupplyChainTracker.Retry

variable {ε : Type}

/-- The position of the first success, counted from one; infinite if no attempt succeeds. -/
noncomputable def firstSuccess (outcome : Nat → Option ε) : ℕ∞ :=
  sInf {k | ∃ i : Nat, outcome i = none ∧ k = (i + 1 : Nat)}

/-- With at most so many attempts, the loop ends after `count` of them with a result. -/
structure Ends (outcome : Nat → Option ε) (limit count : Nat) (result : Except ε Unit) :
    Prop where
  pos : 0 < count
  le : count ≤ limit
  failed : ∀ i, i + 1 < count → outcome i ≠ none
  last : (outcome (count - 1) = none ∧ result = .ok ()) ∨
    count = limit ∧ ∃ e, outcome (count - 1) = some e ∧ result = .error e

variable {outcome : Nat → Option ε} {limit count : Nat} {result : Except ε Unit} {e : ε}

/-- A first attempt that succeeds ends the loop. -/
theorem ends_of_success (h : outcome 0 = none) : Ends outcome (limit + 1) 1 (.ok ()) where
  pos := Nat.one_pos
  le := by omega
  failed i hi := by omega
  last := .inl ⟨h, rfl⟩

/-- So does one that fails as the last one. -/
theorem ends_of_last (h : outcome 0 = some e) : Ends outcome 1 1 (.error e) where
  pos := Nat.one_pos
  le := le_rfl
  failed i hi := by omega
  last := .inr ⟨rfl, e, h, rfl⟩

/-- After any other one the loop goes on. -/
theorem Ends.of_failure (hfirst : outcome 0 = some e)
    (h : Ends (fun i => outcome (i + 1)) limit count result) :
    Ends outcome (limit + 1) (count + 1) result where
  pos := Nat.succ_pos count
  le := Nat.succ_le_succ h.le
  failed i hi := by
    cases i with
    | zero => simp [hfirst]
    | succ i => exact h.failed i (by omega)
  last := by
    have hlast := h.last
    rw [Nat.sub_add_cancel h.pos] at hlast
    rcases hlast with hok | ⟨hcount, herror⟩
    · exact .inl hok
    · exact .inr ⟨congrArg Nat.succ hcount, herror⟩

/-- No attempt before a position succeeds. -/
theorem le_firstSuccess (h : ∀ i, i + 1 < count → outcome i ≠ none) :
    (count : ℕ∞) ≤ firstSuccess outcome := by
  refine le_sInf ?_
  rintro _ ⟨i, hi, rfl⟩
  by_contra hlt
  exact h i (by exact_mod_cast not_le.mp hlt) hi

theorem firstSuccess_le {i : Nat} (h : outcome i = none) :
    firstSuccess outcome ≤ (i + 1 : Nat) := sInf_le ⟨i, h, rfl⟩

/-- The loop makes an attempt for every position up to the first success or the limit. -/
theorem Ends.count_eq (h : Ends outcome limit count result) :
    (count : ℕ∞) = min (firstSuccess outcome) limit := by
  have hle := le_firstSuccess h.failed
  refine le_antisymm (le_min hle (by exact_mod_cast h.le)) ?_
  rcases h.last with ⟨hnone, _⟩ | ⟨hcount, _⟩
  · have hfirst := firstSuccess_le hnone
    rw [Nat.sub_add_cancel h.pos] at hfirst
    exact (min_le_left _ _).trans hfirst
  · exact hcount ▸ min_le_right _ _

/-- The loop returns exactly when there is a success within the limit. -/
theorem Ends.eq_ok_iff (h : Ends outcome limit count result) :
    result = .ok () ↔ firstSuccess outcome ≤ limit := by
  rcases h.last with ⟨hnone, hok⟩ | ⟨hcount, e, hsome, herror⟩
  · have hfirst := firstSuccess_le hnone
    rw [Nat.sub_add_cancel h.pos] at hfirst
    exact iff_of_true hok (hfirst.trans (by exact_mod_cast h.le))
  · refine iff_of_false (fun hok => by cases herror.symm.trans hok) (not_le.mpr ?_)
    have hnext : ((limit + 1 : Nat) : ℕ∞) ≤ firstSuccess outcome := by
      refine le_firstSuccess fun i hi => ?_
      rcases Nat.lt_or_ge (i + 1) count with hlt | hge
      · exact h.failed i hlt
      · obtain rfl : i = count - 1 := by omega
        simp [hsome]
    exact lt_of_lt_of_le (by exact_mod_cast Nat.lt_succ_self limit) hnext

/-- Otherwise it lets the error of the last attempt escape. -/
theorem Ends.eq_error (h : Ends outcome limit count result)
    (hlimit : ¬ firstSuccess outcome ≤ limit) :
    ∃ e, outcome (limit - 1) = some e ∧ result = .error e := by
  rcases h.last with ⟨_, hok⟩ | ⟨rfl, herror⟩
  · exact absurd (h.eq_ok_iff.mp hok) hlimit
  · exact herror

end SupplyChainTracker.Retry
