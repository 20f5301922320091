import SupplyChainTracker.Core.Async.Coroutine

/-!
# Flowcharts of coroutines

A flowchart names the points at which a coroutine can be suspended. Following a
flowchart replaces reasoning about continuations by a case analysis over its
points, for sequential runs here and for interleavings in the next module.
-/

namespace SupplyChainTracker

/-- What a coroutine does at one point of its flowchart. -/
inductive Node (Op : Type) (Ans : Op → Type) (ε α σ : Type) : Type
  /-- The coroutine has ended. -/
  | halt (result : Except ε α)
  /-- It awaits a call, whose answer selects the next point. -/
  | call (op : Op) (next : Except ε (Ans op) → σ)

namespace Node

variable {Op : Type} {Ans : Op → Type} {ε α σ W : Type}

/-- The coroutine at a node, given the coroutine of every point. -/
def toCoroutine (prog : σ → Coroutine Op Ans ε α) : Node Op Ans ε α σ → Coroutine Op Ans ε α
  | .halt r => .ofExcept r
  | .call op next => .await op fun r => prog (next r)

/-- The condition that a node's only call leads from one invariant to the next. -/
def Always (act : (op : Op) → W → Except ε (Ans op) × W) (faulty : Prop)
    (step : W → Coroutine.Performed Op Ans ε W → Prop) (post : Except ε α → W → Prop)
    (inv : σ → W → Prop) : Node Op Ans ε α σ → W → Prop
  | .halt r, w => post r w
  | .call op next, w =>
      (step w ⟨op, (act op w).1, (act op w).2⟩ ∧ inv (next (act op w).1) (act op w).2) ∧
      (faulty → ∀ e, step w ⟨op, .error e, w⟩ ∧ inv (next (.error e)) w)

/-- Rename the points of a node. -/
def relabel {τ : Type} (f : σ → τ) : Node Op Ans ε α σ → Node Op Ans ε α τ
  | .halt r => .halt r
  | .call op next => .call op fun r => f (next r)

theorem toCoroutine_relabel {τ : Type} (f : σ → τ) (prog : τ → Coroutine Op Ans ε α)
    (n : Node Op Ans ε α σ) : (n.relabel f).toCoroutine prog = n.toCoroutine fun s => prog (f s) := by
  cases n <;> rfl

end Node

/-- The coroutines `prog` follow the flowchart: each is the coroutine of its own node. -/
def Follows {Op : Type} {Ans : Op → Type} {ε α σ : Type} (chart : σ → Node Op Ans ε α σ)
    (prog : σ → Coroutine Op Ans ε α) : Prop :=
  ∀ s, prog s = (chart s).toCoroutine prog

namespace Follows

variable {Op : Type} {Ans : Op → Type} {ε α σ W : Type} {chart : σ → Node Op Ans ε α σ}
  {prog : σ → Coroutine Op Ans ε α} {act : (op : Op) → W → Except ε (Ans op) × W}

/-- A suspended coroutine is at a calling node with the same call. -/
theorem chart_of_await (hf : Follows chart prog) {s : σ} {op : Op}
    {k : Except ε (Ans op) → Coroutine Op Ans ε α} (h : prog s = .await op k) :
    ∃ next, chart s = .call op next ∧ ∀ r, k r = prog (next r) := by
  have hs := hf s
  rw [h] at hs
  cases hc : chart s with
  | halt r => cases r <;> simp [hc, Node.toCoroutine] at hs
  | call op' next =>
    simp only [hc, Node.toCoroutine, Coroutine.await.injEq] at hs
    obtain ⟨rfl, hk⟩ := hs
    exact ⟨next, rfl, fun r => congrFun (eq_of_heq hk) r⟩

/-- An ended coroutine is at an ended node with the same result. -/
theorem chart_of_ofExcept (hf : Follows chart prog) {s : σ} {r : Except ε α}
    (h : prog s = .ofExcept r) : chart s = .halt r := by
  have hs := hf s
  rw [h] at hs
  cases hc : chart s with
  | halt r' => cases r <;> cases r' <;> simp_all [Node.toCoroutine]
  | call op next => cases r <;> simp [hc, Node.toCoroutine] at hs

/-- At an ended node the coroutine has ended. -/
theorem eq_of_halt (hf : Follows chart prog) {s : σ} {r : Except ε α} (h : chart s = .halt r) :
    prog s = .ofExcept r := by
  rw [hf s, h]
  rfl

/-- The run from a calling node performs its call and goes on at the next point. -/
theorem runWith_call (hf : Follows chart prog) {s : σ} {op : Op}
    {next : Except ε (Ans op) → σ} (h : chart s = .call op next) (faults : Nat → Option ε) (w : W) :
    (prog s).runWith act faults w =
      (prog (next (Coroutine.answer act (faults 0) op w).1)).runWith act
        (fun n => faults (n + 1)) (Coroutine.answer act (faults 0) op w).2 := by
  rw [hf s, h]
  rfl

/-- The undisturbed run from a calling node. -/
theorem run_call (hf : Follows chart prog) {s : σ} {op : Op} {next : Except ε (Ans op) → σ}
    (h : chart s = .call op next) (w : W) :
    (prog s).run act w = (prog (next (act op w).1)).run act (act op w).2 :=
  hf.runWith_call h Coroutine.noFaults w

/-- The history from a calling node starts with its call. -/
theorem history_call (hf : Follows chart prog) {s : σ} {op : Op}
    {next : Except ε (Ans op) → σ} (h : chart s = .call op next) (faults : Nat → Option ε) (w : W) :
    (prog s).history act faults w =
      ⟨op, (Coroutine.answer act (faults 0) op w).1, (Coroutine.answer act (faults 0) op w).2⟩ ::
        (prog (next (Coroutine.answer act (faults 0) op w).1)).history act
          (fun n => faults (n + 1)) (Coroutine.answer act (faults 0) op w).2 := by
  rw [hf s, h]
  rfl

/-- An invariant kept by every node holds throughout the run from any of its points. -/
theorem always (hf : Follows chart prog) {faulty : Prop}
    {step : W → Coroutine.Performed Op Ans ε W → Prop} {post : Except ε α → W → Prop}
    {inv : σ → W → Prop}
    (hinv : ∀ s w, inv s w → (chart s).Always act faulty step post inv w)
    {s : σ} {w : W} (h : inv s w) : (prog s).Always act faulty step post w := by
  generalize hp : prog s = p
  induction p generalizing s w with
  | ret a =>
    have hn := hinv s w h
    rwa [hf.chart_of_ofExcept (r := .ok a) hp] at hn
  | raise e =>
    have hn := hinv s w h
    rwa [hf.chart_of_ofExcept (r := .error e) hp] at hn
  | await op k ih =>
    obtain ⟨next, hc, hk⟩ := hf.chart_of_await hp
    have hn := hinv s w h
    rw [hc] at hn
    exact ⟨⟨hn.1.1, ih _ hn.1.2 (hk _).symm⟩,
      fun hfault e => ⟨(hn.2 hfault e).1, ih _ (hn.2 hfault e).2 (hk _).symm⟩⟩

end Follows

end SupplyChainTracker
