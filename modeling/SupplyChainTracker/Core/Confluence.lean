import Mathlib.Tactic.Common

/-!
# Effects that may be repeated and exchanged

Effects that are idempotent and commute with each other leave a state that depends
only on which of them took place, not on how often or in what order. A run of
operations that simulates such effects inherits this.
-/

namespace SupplyChainTracker

variable {K V : Type}

/-- Effects of which repetitions and exchanges do not matter. -/
structure Absorbing (effect : K → V → V) : Prop where
  idem : ∀ k v, effect k (effect k v) = effect k v
  comm : ∀ j k v, effect j (effect k v) = effect k (effect j v)

/-- The effects of a list, the first one first. -/
def effects (effect : K → V → V) (ks : List K) (v : V) : V := ks.foldl (fun v k => effect k v) v

namespace Absorbing

variable {effect : K → V → V} (h : Absorbing effect)

include h

/-- An effect may be moved from the front of a list to its end. -/
theorem effect_effects (k : K) (ks : List K) (v : V) :
    effect k (effects effect ks v) = effects effect ks (effect k v) := by
  induction ks generalizing v with
  | nil => rfl
  | cons j ks ih =>
    change effect k (effects effect ks (effect j v)) = effects effect ks (effect j (effect k v))
    rw [ih, h.comm k j]

/-- An effect that has taken place may be left out. -/
theorem absorb {k : K} {ks : List K} (hk : k ∈ ks) (v : V) :
    effect k (effects effect ks v) = effects effect ks v := by
  induction ks generalizing v with
  | nil => cases hk
  | cons j ks ih =>
    rcases List.mem_cons.mp hk with rfl | hk
    · rw [h.effect_effects]
      exact congrArg (effects effect ks) (h.idem k v)
    · exact ih hk (effect j v)

/-- Effects that have all taken place may be left out. -/
theorem absorb_all {js ks : List K} (hjs : ∀ k ∈ js, k ∈ ks) (v : V) :
    effects effect js (effects effect ks v) = effects effect ks v := by
  induction js with
  | nil => rfl
  | cons j js ih =>
    change effects effect js (effect j (effects effect ks v)) = effects effect ks v
    rw [h.absorb (hjs j (List.mem_cons_self ..))]
    exact ih fun k hk => hjs k (List.mem_cons_of_mem _ hk)

/-- Two lists of effects commute. -/
theorem effects_comm (js ks : List K) (v : V) :
    effects effect js (effects effect ks v) = effects effect ks (effects effect js v) := by
  induction js generalizing v with
  | nil => rfl
  | cons j js ih =>
    change effects effect js (effect j (effects effect ks v)) = _
    rw [h.effect_effects]
    exact ih (effect j v)

/-- Lists of the same effects leave the same state. -/
theorem effects_eq_of_mem_iff {js ks : List K} (hmem : ∀ k, k ∈ js ↔ k ∈ ks) (v : V) :
    effects effect js v = effects effect ks v :=
  calc effects effect js v
      = effects effect ks (effects effect js v) := (h.absorb_all (fun k => (hmem k).mpr) v).symm
    _ = effects effect js (effects effect ks v) := h.effects_comm ks js v
    _ = effects effect ks v := h.absorb_all (fun k => (hmem k).mp) v

end Absorbing

variable {O W : Type}

/-- Under an invariant each operation of a kind has the effect of its kind. -/
structure Simulates (step : O → W → W) (kind : O → K → Prop) (inv : W → Prop) (view : W → V)
    (effect : K → V → V) : Prop where
  keeps : ∀ {o k w}, kind o k → inv w → inv (step o w)
  view_step : ∀ {o k w}, kind o k → inv w → view (step o w) = effect k (view w)

namespace Simulates

variable {step : O → W → W} {kind : O → K → Prop} {inv : W → Prop} {view : W → V}
  {effect : K → V → V} (h : Simulates step kind inv view effect)

include h

/-- The invariant holds after any run of operations that have a kind. -/
theorem inv_foldl {os : List O} (hos : ∀ o ∈ os, ∃ k, kind o k) {w : W} (hw : inv w) :
    inv (os.foldl (fun w o => step o w) w) := by
  induction os generalizing w with
  | nil => exact hw
  | cons o os ih =>
    obtain ⟨k, hk⟩ := hos o (List.mem_cons_self ..)
    exact ih (fun o ho => hos o (List.mem_cons_of_mem _ ho)) (h.keeps hk hw)

/-- A run has the effects of the kinds of its operations. -/
theorem view_foldl {os : List O} (hos : ∀ o ∈ os, ∃ k, kind o k) {w : W} (hw : inv w) :
    ∃ ks, (∀ k ∈ ks, ∃ o ∈ os, kind o k) ∧ (∀ o ∈ os, ∃ k ∈ ks, kind o k) ∧
      view (os.foldl (fun w o => step o w) w) = effects effect ks (view w) := by
  induction os generalizing w with
  | nil => exact ⟨[], nofun, nofun, rfl⟩
  | cons o os ih =>
    obtain ⟨k, hk⟩ := hos o (List.mem_cons_self ..)
    obtain ⟨ks, hks, hall, hview⟩ :=
      ih (fun o ho => hos o (List.mem_cons_of_mem _ ho)) (h.keeps hk hw)
    refine ⟨k :: ks, ?_, ?_, ?_⟩
    · rintro j (_ | ⟨_, hj⟩)
      · exact ⟨o, List.mem_cons_self .., hk⟩
      · obtain ⟨o', ho', hj⟩ := hks j hj
        exact ⟨o', List.mem_cons_of_mem _ ho', hj⟩
    · rintro o' (_ | ⟨_, ho'⟩)
      · exact ⟨k, List.mem_cons_self .., hk⟩
      · obtain ⟨j, hj, hoj⟩ := hall o' ho'
        exact ⟨j, List.mem_cons_of_mem _ hj, hoj⟩
    · rw [List.foldl_cons, hview, h.view_step hk hw]
      rfl

/-- Where repetitions and exchanges do not matter, runs in which all kinds of a list occur,
and no other, leave the same view. -/
theorem confluent (heffect : Absorbing effect)
    (hunique : ∀ {o j k}, kind o j → kind o k → j = k) {ks : List K} {os : List O}
    (hos : ∀ o ∈ os, ∃ k ∈ ks, kind o k) (hall : ∀ k ∈ ks, ∃ o ∈ os, kind o k) {w : W}
    (hw : inv w) :
    view (os.foldl (fun w o => step o w) w) = effects effect ks (view w) := by
  have hkinds : ∀ o ∈ os, ∃ k, kind o k := fun o ho => (hos o ho).imp fun _ hk => hk.2
  obtain ⟨js, hjs, hjs', hview⟩ := h.view_foldl hkinds hw
  rw [hview]
  refine heffect.effects_eq_of_mem_iff (fun k => ⟨fun hk => ?_, fun hk => ?_⟩) _
  · obtain ⟨o, ho, hok⟩ := hjs k hk
    obtain ⟨j, hj, hoj⟩ := hos o ho
    exact hunique hoj hok ▸ hj
  · obtain ⟨o, ho, hok⟩ := hall k hk
    obtain ⟨j, hj, hoj⟩ := hjs' o ho
    exact hunique hoj hok ▸ hj

end Simulates

end SupplyChainTracker
