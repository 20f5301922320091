import SupplyChainTracker.Core.Table

/-!
# Histories of one value

A history lists the changes of a value that may also be absent. It is sound if each change starts
from what the one before it has left, ends in another value, and the last one leaves what there is
now. Writing down a change exactly when there is one keeps a history sound.
-/

namespace SupplyChainTracker.Audit

variable {S : Type}

/-- A change: the value before it, if there was one, and the value after it. -/
structure Change (S : Type) where
  before : Option S
  after : S
  deriving DecidableEq, Repr

/-- The changes lead from one value to another, none of them leaving it as it is. -/
def Leads : Option S → List (Change S) → Option S → Prop
  | first, [], last => first = last
  | first, change :: changes, last =>
      change.before = first ∧ some change.after ≠ first ∧ Leads (some change.after) changes last

/-- A history of what there is now. -/
def Sound (history : List (Change S)) (now : Option S) : Prop := Leads none history now

/-- Changes that lead somewhere may be followed by others that lead on from there. -/
theorem Leads.append {first between last : Option S} {changes later : List (Change S)}
    (h : Leads first changes between) (hlater : Leads between later last) :
    Leads first (changes ++ later) last := by
  induction changes generalizing first with
  | nil => exact (show first = between from h) ▸ hlater
  | cons change changes ih => exact ⟨h.1, h.2.1, ih h.2.2⟩

/-- Where changes lead is what the last of them leaves. -/
theorem Leads.last_eq {first last : Option S} {changes : List (Change S)}
    (h : Leads first changes last) :
    last = (changes.getLast?.map Change.after).or first := by
  induction changes generalizing first with
  | nil => exact (show first = last from h).symm
  | cons change changes ih =>
    rw [ih h.2.2, List.getLast?_cons]
    cases hlast : changes.getLast? <;> rfl

section Write

variable [DecidableEq S]

/-- What is written down when a value is put in the place of what was there. -/
def written (old : Option S) (new : S) : List (Change S) :=
  if old = some new then [] else [⟨old, new⟩]

/-- What is written down leads to the new value. -/
theorem leads_written (old : Option S) (new : S) : Leads old (written old new) (some new) := by
  unfold written
  split
  · assumption
  · exact ⟨rfl, fun h => ‹¬ old = some new› h.symm, rfl⟩

/-- Writing down a change keeps a history sound. -/
theorem Sound.write {history : List (Change S)} {old : Option S} (h : Sound history old) (new : S) :
    Sound (history ++ written old new) (some new) :=
  Leads.append h (leads_written old new)

end Write

/-- What there is now is what a sound history says. -/
theorem Sound.now_eq {history : List (Change S)} {now : Option S} (h : Sound history now) :
    now = history.getLast?.map Change.after := by
  rw [Leads.last_eq h, Option.or_none]

section Ledger

variable {K R : Type} [DecidableEq K] (key : R → K) (change? : R → Option (Change S))

/-- What the rows of a ledger record of one key. -/
def changesOf (k : K) (rows : List R) : List (Change S) :=
  (rows.filter fun r => key r = k).filterMap change?

/-- The rows record a sound history of every key. -/
def Records (rows : List R) (now : K → Option S) : Prop :=
  ∀ k, Sound (changesOf key change? k rows) (now k)

variable {key change?} {rows : List R} {now now' : K → Option S}

/-- Rows about one key that lead from what there was to what there is. -/
theorem Records.append (h : Records key change? rows now) {k : K} {later : List R}
    (hkey : ∀ r ∈ later, key r = k) (hleads : Leads (now k) (later.filterMap change?) (now' k))
    (hother : ∀ j, j ≠ k → now' j = now j) : Records key change? (rows ++ later) now' := by
  intro j
  by_cases hj : j = k
  · subst hj
    have hown : later.filter (fun r => key r = j) = later :=
      List.filter_eq_self.mpr fun r hr => decide_eq_true (hkey r hr)
    rw [changesOf, List.filter_append, List.filterMap_append, hown]
    exact Leads.append (h j) hleads
  · have hnone : later.filter (fun r => key r = j) = [] :=
      List.filter_eq_nil_iff.mpr fun r hr hrj =>
        hj ((of_decide_eq_true hrj).symm.trans (hkey r hr))
    rw [changesOf, List.filter_append, hnone, List.append_nil, hother j hj]
    exact h j

/-- Rows that are dropped with their key. -/
theorem Records.forget (h : Records key change? rows now) {k : K} (hgone : now' k = none)
    (hother : ∀ j, j ≠ k → now' j = now j) :
    Records key change? (rows.filter fun r => key r ≠ k) now' := by
  intro j
  by_cases hj : j = k
  · subst hj
    rw [hgone, changesOf, List.filter_filter]
    have hnone : rows.filter (fun r => decide (key r = j) && decide (key r ≠ j)) = [] :=
      List.filter_eq_nil_iff.mpr fun r _ => by simp
    rw [hnone]
    rfl
  · have hsame : (rows.filter fun r => decide (key r = j) && decide (key r ≠ k)) =
        rows.filter fun r => key r = j := by
      refine List.filter_congr fun r _ => ?_
      by_cases hr : key r = j
      · simp [hr, hj]
      · simp [hr]
    rw [hother j hj, changesOf, List.filter_filter, hsame]
    exact h j

end Ledger

section Column

variable {κ ρ : Type} {key : ρ → κ} [DecidableEq κ] (f : ρ → S) (t : Table κ ρ key)

/-- What a table holds under each key in one column. -/
def column (k : κ) : Option S := (t.find? k).map f

theorem column_put (r : ρ) :
    column f (t.put r) = Function.update (column f t) (key r) (some (f r)) := by
  funext k
  by_cases hk : k = key r
  · subst hk
    simp [column]
  · rw [Function.update_of_ne hk, column, Table.find?_put_of_ne t r (Ne.symm hk), column]

theorem column_removeWhere (k : κ) :
    column f (t.removeWhere fun r => key r = k) = Function.update (column f t) k none := by
  funext j
  by_cases hj : j = k
  · subst hj
    simp [column, Table.find?_removeWhere_key]
  · rw [Function.update_of_ne hj, column, Table.find?_removeWhere_key, if_neg hj, column]

end Column

end SupplyChainTracker.Audit
