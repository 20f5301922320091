import Mathlib.Tactic.Common

/-!
# Runs of operations

Conditions on every state of a run and on every operation in the state before it,
and the rule that makes one of them equivalent to the other: an invariant under
which each operation keeps the state condition exactly when it is itself allowed.
-/

namespace SupplyChainTracker

variable {O W : Type} (step : O → W → W)

/-- A condition on every state of a run, its start included. -/
def Throughout (P : W → Prop) : List O → W → Prop
  | [], w => P w
  | o :: os, w => P w ∧ Throughout P os (step o w)

/-- A condition on every operation of a run in the state before it. -/
def EachStep (Q : W → O → Prop) : List O → W → Prop
  | [], _ => True
  | o :: os, w => Q w o ∧ EachStep Q os (step o w)

variable {step} {P : W → Prop} {Q : W → O → Prop}

theorem Throughout.head {os : List O} {w : W} (h : Throughout step P os w) : P w := by
  cases os with
  | nil => exact h
  | cons o os => exact h.1

/-- Conditions that agree wherever an invariant holds agree on every run from there. -/
theorem eachStep_congr_of_inv {Q' : W → O → Prop} {inv : W → Prop}
    (hinv : ∀ w o, inv w → inv (step o w)) (h : ∀ w o, inv w → (Q w o ↔ Q' w o)) (os : List O)
    {w : W} (hw : inv w) : EachStep step Q os w ↔ EachStep step Q' os w := by
  induction os generalizing w with
  | nil => exact Iff.rfl
  | cons o os ih => exact and_congr (h w o hw) (ih (hinv w o hw))

/-- Conditions that agree on every step agree on every run. -/
theorem eachStep_congr {Q' : W → O → Prop} (h : ∀ w o, Q w o ↔ Q' w o) (os : List O) (w : W) :
    EachStep step Q os w ↔ EachStep step Q' os w :=
  @eachStep_congr_of_inv O W step Q Q' (fun _ => True) (fun _ _ _ => trivial) (fun w o _ => h w o)
    os w trivial

/-- Where each operation keeps `P` exactly when `Q` allows it, `P` holds throughout a run
exactly when `Q` allows every operation of it. -/
theorem throughout_iff_eachStep {ok : O → Prop} {inv : W → Prop}
    (hinv : ∀ w o, inv w → ok o → inv (step o w))
    (hstep : ∀ w o, inv w → ok o → P w → (P (step o w) ↔ Q w o))
    {os : List O} {w : W} (hi : inv w) (hw : P w) (hok : ∀ o ∈ os, ok o) :
    Throughout step P os w ↔ EachStep step Q os w := by
  induction os generalizing w with
  | nil => exact iff_of_true hw trivial
  | cons o os ih =>
    have ho := hok o (List.mem_cons_self ..)
    have hos : ∀ o ∈ os, ok o := fun o' ho' => hok o' (List.mem_cons_of_mem _ ho')
    have hi' := hinv w o hi ho
    constructor
    · rintro ⟨_, hrest⟩
      exact ⟨(hstep w o hi ho hw).mp hrest.head, (ih hi' hrest.head hos).mp hrest⟩
    · rintro ⟨hq, hrest⟩
      have hw' := (hstep w o hi ho hw).mpr hq
      exact ⟨hw, (ih hi' hw' hos).mpr hrest⟩

end SupplyChainTracker
