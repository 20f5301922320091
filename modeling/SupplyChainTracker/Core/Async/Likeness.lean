import SupplyChainTracker.Core.Async.Journal

/-!
# Coroutines that differ in data that they pass on

Two coroutines are alike if they await like calls, whatever like answers they get, and end alike:
with like values or with the same exception. Like coroutines over machines that answer like calls
alike cannot be told apart by any schedule, but for the data in which likeness lets them differ.
-/

namespace SupplyChainTracker

variable {ι Op : Type} {Ans : Op → Type} {ε α β W : Type}

/-- Both are values that are related, or both the same exception. -/
inductive ResultsLike (Q : α → β → Prop) : Except ε α → Except ε β → Prop
  | ok {a : α} {b : β} (h : Q a b) : ResultsLike Q (.ok a) (.ok b)
  | error (e : ε) : ResultsLike Q (.error e) (.error e)

/-- A result is like itself if values are. -/
theorem resultsLike_refl {Q : α → α → Prop} (hQ : ∀ a, Q a a) (r : Except ε α) :
    ResultsLike Q r r := by
  cases r with
  | ok a => exact .ok (hQ a)
  | error e => exact .error e

/-- Which calls are alike, and which of their answers. -/
structure Likeness (Op : Type) (Ans : Op → Type) where
  call : Op → Op → Prop
  answer : (op op' : Op) → Ans op → Ans op' → Prop

namespace Coroutine

/-- Two coroutines await like calls and end with related values or with the same exception. -/
inductive Alike (L : Likeness Op Ans) (Q : α → α → Prop) :
    Coroutine Op Ans ε α → Coroutine Op Ans ε α → Prop
  | ret {a a' : α} (h : Q a a') : Alike L Q (ret a) (ret a')
  | raise (e : ε) : Alike L Q (raise e) (raise e)
  | await {op op' : Op} {k : Except ε (Ans op) → Coroutine Op Ans ε α}
      {k' : Except ε (Ans op') → Coroutine Op Ans ε α} (hcall : L.call op op')
      (hk : ∀ r r', ResultsLike (L.answer op op') r r' → Alike L Q (k r) (k' r')) :
      Alike L Q (await op k) (await op' k')

variable {L : Likeness Op Ans}

/-- Results of finished calls end alike if they are. -/
theorem alike_ofExcept {Q : α → α → Prop} {r r' : Except ε α} (h : ResultsLike Q r r') :
    (ofExcept r : Coroutine Op Ans ε α).Alike L Q (ofExcept r') := by
  cases h with
  | ok h => exact .ret h
  | error e => exact .raise e

/-- A single call. -/
theorem alike_perform {op : Op} {Q : Ans op → Ans op → Prop} (hcall : L.call op op)
    (hanswer : ∀ a a', L.answer op op a a' → Q a a') :
    (perform op : Coroutine Op Ans ε (Ans op)).Alike L Q (perform op) := by
  refine .await hcall fun r r' h => alike_ofExcept ?_
  cases h with
  | ok h => exact .ok (hanswer _ _ h)
  | error e => exact .error e

/-- A sequence is like another one if what follows like values is. -/
theorem Alike.bind {Q : α → α → Prop} {R : β → β → Prop} {p p' : Coroutine Op Ans ε α}
    {f f' : α → Coroutine Op Ans ε β} (h : p.Alike L Q p')
    (hf : ∀ a a', Q a a' → (f a).Alike L R (f' a')) : (p.bind f).Alike L R (p'.bind f') := by
  induction h with
  | ret ha => exact hf _ _ ha
  | raise e => exact .raise e
  | await hcall _ ih => exact .await hcall fun r r' hr => ih r r' hr

/-- A guarded coroutine is like another one if what handles each exception is. -/
theorem Alike.tryCatch {Q : α → α → Prop} {p p' : Coroutine Op Ans ε α}
    {handler handler' : ε → Coroutine Op Ans ε α} (h : p.Alike L Q p')
    (hhandler : ∀ e, (handler e).Alike L Q (handler' e)) :
    (p.tryCatch handler).Alike L Q (p'.tryCatch handler') := by
  induction h with
  | ret ha => exact .ret ha
  | raise e => exact hhandler e
  | await hcall _ ih => exact .await hcall fun r r' hr => ih r r' hr

end Coroutine

/-- Like calls are answered alike, and leave like states. -/
def Likeness.Respects (L : Likeness Op Ans) (V : W → W → Prop)
    (act : (op : Op) → W → Except ε (Ans op) × W) : Prop :=
  ∀ op op' w w', L.call op op' → V w w' →
    ResultsLike (L.answer op op') (act op w).1 (act op' w').1 ∧ V (act op w).2 (act op' w').2

/-- Journals of like states, with the same exceptions to come. -/
def Journal.Alike (V : W → W → Prop) (j j' : Journal Op Ans ε W) : Prop :=
  V j.world j'.world ∧ j.faults = j'.faults

/-- The same calls may be made to raise. -/
theorem Likeness.Respects.journal {L : Likeness Op Ans} {V : W → W → Prop}
    {act : (op : Op) → W → Except ε (Ans op) × W} (h : L.Respects V act) :
    L.Respects (Journal.Alike V) (Journal.perform act) := by
  rintro op op' j j' hcall ⟨hworld, hfaults⟩
  have hone := h op op' j.world j'.world hcall hworld
  cases hfault : j.faults 0 with
  | some e =>
    have hfault' := hfaults ▸ hfault
    simp only [Journal.perform, Journal.Alike, hfault, hfault', Coroutine.answer]
    exact ⟨.error e, hworld, by rw [hfaults]⟩
  | none =>
    have hfault' := hfaults ▸ hfault
    simp only [Journal.perform, Journal.Alike, hfault, hfault', Coroutine.answer]
    exact ⟨hone.1, hone.2, by rw [hfaults]⟩

namespace Config

variable [DecidableEq ι] {L : Likeness Op Ans} {Q : ι → α → α → Prop} {V : W → W → Prop}

/-- Like participants in like states. -/
structure Alike (L : Likeness Op Ans) (Q : ι → α → α → Prop) (V : W → W → Prop)
    (c c' : Config ι Op Ans ε α W) : Prop where
  threads : ∀ i, (c.threads i).Alike L (Q i) (c'.threads i)
  world : V c.world c'.world

variable {act : (op : Op) → W → Except ε (Ans op) × W}

/-- A schedule that one of two like configurations can follow, the other one can follow as well,
and they stay alike. -/
theorem Alike.exec (hact : L.Respects V act) {sched : List ι} {c c' d : Config ι Op Ans ε α W}
    (hc : c.Alike L Q V c') (h : c.exec act sched = some d) :
    ∃ d', c'.exec act sched = some d' ∧ d.Alike L Q V d' := by
  induction sched generalizing c c' with
  | nil => exact ⟨c', rfl, Option.some.inj h ▸ hc⟩
  | cons i sched ih =>
    obtain ⟨e, he, h⟩ := Option.bind_eq_some_iff.mp h
    obtain ⟨op, k, hik, rfl⟩ := step_cases he
    have hi := hc.threads i
    rw [hik] at hi
    cases hik' : c'.threads i with
    | ret a =>
      rw [hik'] at hi
      cases hi
    | raise e =>
      rw [hik'] at hi
      cases hi
    | await op' k' =>
      rw [hik'] at hi
      cases hi with
      | await hcall hk =>
        obtain ⟨hanswer, hworld⟩ := hact op op' c.world c'.world hcall hc.world
        have hnext : (c.answered act i op k).Alike L Q V (c'.answered act i op' k') := by
          refine ⟨fun j => ?_, hworld⟩
          by_cases hj : j = i
          · subst hj
            simpa using hk _ _ hanswer
          · simpa [Function.update_of_ne hj] using hc.threads j
        obtain ⟨d', hd', hd⟩ := ih hnext h
        refine ⟨d', ?_, hd⟩
        rw [Config.exec, step, hik']
        exact hd'

end Config

end SupplyChainTracker
