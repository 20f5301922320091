import SupplyChainTracker.Core.Async.Journal
import SupplyChainTracker.Core.Table

/-!
# Machines that refuse calls

A machine may be made to refuse calls that it would answer otherwise. If what is left of its calls
never changes a row of a table, then a row stays as it is until it is deleted, in every run of any
coroutines.
-/

namespace SupplyChainTracker

variable {ι Op κ ρ : Type} {Ans : Op → Type} {ε α W : Type}

/-- The calls that `raises` does not refuse are answered by the machine. -/
def refuse (raises : Op → W → Option ε) (read : W → W)
    (act : (op : Op) → W → Except ε (Ans op) × W) (op : Op) (w : W) : Except ε (Ans op) × W :=
  match raises op w with
  | some e => (.error e, read w)
  | none => act op w

section Refuse

variable {raises : Op → W → Option ε} {read : W → W} {act : (op : Op) → W → Except ε (Ans op) × W}
  {op : Op} {w : W}

theorem refuse_of_some {e : ε} (h : raises op w = some e) :
    refuse raises read act op w = (.error e, read w) := by
  simp [refuse, h]

theorem refuse_of_none (h : raises op w = none) : refuse raises read act op w = act op w := by
  simp [refuse, h]

end Refuse

namespace Table

variable [DecidableEq κ] {key : ρ → κ}

/-- Every row is as it was, or has been deleted. -/
def Frozen (t t' : Table κ ρ key) : Prop := ∀ r ∈ t.rows, r ∈ t'.rows ∨ t'.find? (key r) = none

theorem Frozen.refl (t : Table κ ρ key) : t.Frozen t := fun _ h => .inl h

/-- Storing a row under a new key changes no other row. -/
theorem frozen_put {t : Table κ ρ key} {r : ρ} (h : t.find? (key r) = none) :
    t.Frozen (t.put r) := by
  intro s hs
  refine .inl ((t.mem_put r s).mpr (.inr ⟨hs, ?_⟩))
  exact (t.find?_eq_none_iff _).mp h s hs

/-- Neither does deleting rows. -/
theorem frozen_removeWhere (t : Table κ ρ key) (p : ρ → Bool) : t.Frozen (t.removeWhere p) := by
  intro r hr
  cases hp : p r with
  | false => exact .inl (List.mem_filter.mpr ⟨hr, by simp [hp]⟩)
  | true =>
    refine .inr (((t.removeWhere p).find?_eq_none_iff _).mpr fun s hs heq => ?_)
    obtain ⟨hs, hps⟩ := List.mem_filter.mp hs
    rw [t.eq_of_key_eq hs hr heq, hp] at hps
    cases hps

end Table

namespace Config

variable [DecidableEq ι] [DecidableEq κ] {key : ρ → κ} {view : W → Table κ ρ key}
  {act : (op : Op) → W → Except ε (Ans op) × W} {c : Config ι Op Ans ε α W}

/-- From here on, a row stays as it is until it is deleted. -/
def Freezes (act : (op : Op) → W → Except ε (Ans op) × W) (view : W → Table κ ρ key)
    (c : Config ι Op Ans ε α W) : Prop :=
  ∀ sched d, c.exec act sched = some d → ∀ r ∈ (view c.world).rows,
    r ∈ (view d.world).rows ∨
      ∃ past e, past <+: sched ∧ c.exec act past = some e ∧ (view e.world).find? (key r) = none

/-- If no call changes a row, rows stay as they are in every run of any coroutines. -/
theorem freezes_of_frozen (hact : ∀ op w, (view w).Frozen (view (act op w).2)) :
    c.Freezes act view := by
  intro sched
  induction sched generalizing c with
  | nil =>
    intro d h r hr
    obtain rfl := Option.some.inj h
    exact .inl hr
  | cons i sched ih =>
    intro d h r hr
    obtain ⟨e, he, h⟩ := Option.bind_eq_some_iff.mp h
    obtain ⟨op, k, hik, rfl⟩ := step_cases he
    rcases hact op c.world r hr with hkept | hgone
    · refine (ih d h r hkept).imp_right ?_
      rintro ⟨past, f, hpast, hf, hnone⟩
      exact ⟨i :: past, f, List.cons_prefix_cons.mpr ⟨rfl, hpast⟩,
        Option.bind_eq_some_iff.mpr ⟨_, he, hf⟩, hnone⟩
    · exact .inr ⟨[i], _, List.cons_prefix_cons.mpr ⟨rfl, List.nil_prefix⟩,
        Option.bind_eq_some_iff.mpr ⟨_, he, rfl⟩, hgone⟩

end Config

/-- With calls that are written down and may raise. -/
theorem Journal.freezes_of_frozen [DecidableEq ι] [DecidableEq κ] {key : ρ → κ}
    {act : (op : Op) → W → Except ε (Ans op) × W} {c : Config ι Op Ans ε α (Journal Op Ans ε W)}
    (view : W → Table κ ρ key) (hact : ∀ op w, (view w).Frozen (view (act op w).2)) :
    c.Freezes (Journal.perform act) fun j => view j.world := by
  refine Config.freezes_of_frozen fun op j => ?_
  rcases j.perform_cases act op with ⟨e, -, hworld, -⟩ | ⟨-, hworld, -⟩
  · rw [hworld]
    exact .refl _
  · rw [hworld]
    exact hact op j.world

end SupplyChainTracker
