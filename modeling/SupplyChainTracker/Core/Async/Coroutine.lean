import Mathlib.Data.List.Chain
import Mathlib.Tactic.Common

/-!
# Coroutines over awaited calls

A coroutine awaits one call of a fixed interface at a time and resumes with the
answer or with the exception the call raised. A machine answers calls against a
shared state; any single call may instead be made to raise, without effect.
The rules at the end carry a condition through every call of a run.
-/

namespace SupplyChainTracker

/-- A program that awaits calls `Op`, each answered in `Ans op` or by an exception. -/
inductive Coroutine (Op : Type) (Ans : Op → Type) (ε α : Type) : Type
  /-- Return normally. -/
  | ret (value : α)
  /-- Let an exception escape. -/
  | raise (error : ε)
  /-- Suspend on one call and resume with its answer or its exception. -/
  | await (op : Op) (resume : Except ε (Ans op) → Coroutine Op Ans ε α)

namespace Coroutine

variable {Op : Type} {Ans : Op → Type} {ε α β W : Type}

/-- Sequence two coroutines; an escaping exception skips the second. -/
protected def bind : Coroutine Op Ans ε α → (α → Coroutine Op Ans ε β) → Coroutine Op Ans ε β
  | .ret a, f => f a
  | .raise e, _ => .raise e
  | .await op k, f => .await op fun r => (k r).bind f

/-- Hand an escaping exception to a handler, as `try` and `except` do. -/
def tryCatch : Coroutine Op Ans ε α → (ε → Coroutine Op Ans ε α) → Coroutine Op Ans ε α
  | .ret a, _ => .ret a
  | .raise e, h => h e
  | .await op k, h => .await op fun r => (k r).tryCatch h

/-- Return the answer of a finished call, or let its exception escape. -/
def ofExcept : Except ε α → Coroutine Op Ans ε α
  | .ok a => .ret a
  | .error e => .raise e

/-- Await a single call. -/
def perform (op : Op) : Coroutine Op Ans ε (Ans op) := .await op ofExcept

/-- One coroutine after the other; an exception ends only its own. -/
def inTurn {O : Type} (program : O → Coroutine Op Ans ε α) : List O → Coroutine Op Ans ε Unit
  | [] => .ret ()
  | o :: os => (((program o).bind fun _ => .ret ()).tryCatch fun _ => .ret ()).bind fun _ =>
      inTurn program os

instance : Monad (Coroutine Op Ans ε) where
  pure := .ret
  bind := Coroutine.bind

@[simp] theorem pure_eq (a : α) : (pure a : Coroutine Op Ans ε α) = .ret a := rfl

@[simp] theorem bind_eq (p : Coroutine Op Ans ε α) (f : α → Coroutine Op Ans ε β) :
    p >>= f = p.bind f := rfl

@[simp] theorem ret_bind (a : α) (f : α → Coroutine Op Ans ε β) :
    (ret a : Coroutine Op Ans ε α).bind f = f a := rfl

@[simp] theorem raise_bind (e : ε) (f : α → Coroutine Op Ans ε β) :
    (raise e : Coroutine Op Ans ε α).bind f = .raise e := rfl

@[simp] theorem await_bind (op : Op) (k : Except ε (Ans op) → Coroutine Op Ans ε α)
    (f : α → Coroutine Op Ans ε β) :
    (await op k).bind f = .await op fun r => (k r).bind f := rfl

theorem bind_assoc {γ : Type} (p : Coroutine Op Ans ε α) (f : α → Coroutine Op Ans ε β)
    (g : β → Coroutine Op Ans ε γ) : (p.bind f).bind g = p.bind fun a => (f a).bind g := by
  induction p with
  | ret a => rfl
  | raise e => rfl
  | await op k ih => exact congrArg (await op) (funext fun r => ih r)

@[simp] theorem ret_tryCatch (a : α) (h : ε → Coroutine Op Ans ε α) :
    (ret a : Coroutine Op Ans ε α).tryCatch h = .ret a := rfl

@[simp] theorem raise_tryCatch (e : ε) (h : ε → Coroutine Op Ans ε α) :
    (raise e : Coroutine Op Ans ε α).tryCatch h = h e := rfl

@[simp] theorem await_tryCatch (op : Op) (k : Except ε (Ans op) → Coroutine Op Ans ε α)
    (h : ε → Coroutine Op Ans ε α) :
    (await op k).tryCatch h = .await op fun r => (k r).tryCatch h := rfl

@[simp] theorem ofExcept_ok (a : α) :
    (ofExcept (.ok a) : Coroutine Op Ans ε α) = .ret a := rfl

@[simp] theorem ofExcept_error (e : ε) :
    (ofExcept (.error e) : Coroutine Op Ans ε α) = .raise e := rfl

section Runs

variable (act : (op : Op) → W → Except ε (Ans op) × W)

/-- A call that the schedule makes raise has no effect; any other is answered by the machine. -/
def answer (fault : Option ε) (op : Op) (w : W) : Except ε (Ans op) × W :=
  match fault with
  | some e => (.error e, w)
  | none => act op w

@[simp] theorem answer_none (op : Op) (w : W) : answer act none op w = act op w := rfl

@[simp] theorem answer_some (e : ε) (op : Op) (w : W) :
    answer act (some e) op w = (.error e, w) := rfl

/-- Run to the end; the `n`-th call raises when `faults n` names an exception. -/
def runWith : Coroutine Op Ans ε α → (Nat → Option ε) → W → Except ε α × W
  | .ret a, _, w => (.ok a, w)
  | .raise e, _, w => (.error e, w)
  | .await op k, faults, w =>
      (k (answer act (faults 0) op w).1).runWith (fun n => faults (n + 1))
        (answer act (faults 0) op w).2

/-- The schedule in which every call succeeds as far as the machine lets it. -/
def noFaults : Nat → Option ε := fun _ => none

/-- The schedule in which exactly the call at one position raises. -/
def faultAt (position : Nat) (e : ε) : Nat → Option ε :=
  fun n => if n = position then some e else none

@[simp] theorem faultAt_zero_zero (e : ε) : faultAt 0 e 0 = some e := rfl

@[simp] theorem faultAt_succ_zero (position : Nat) (e : ε) : faultAt (position + 1) e 0 = none := rfl

/-- After the first call the failing position is one closer. -/
theorem faultAt_succ (position : Nat) (e : ε) :
    (fun n => faultAt (position + 1) e (n + 1)) = faultAt position e := by
  funext n
  simp [faultAt]

/-- Run with no injected exception. -/
def run (p : Coroutine Op Ans ε α) (w : W) : Except ε α × W := p.runWith act noFaults w

/-- One call of a run: what was called, how it was answered and the state it left. -/
structure Performed (Op : Type) (Ans : Op → Type) (ε W : Type) where
  /-- The call itself. -/
  op : Op
  /-- Its answer, or the exception it raised. -/
  answer : Except ε (Ans op)
  /-- The shared state after it. -/
  after : W

/-- The calls of a run, in order. -/
def history : Coroutine Op Ans ε α → (Nat → Option ε) → W → List (Performed Op Ans ε W)
  | .ret _, _, _ => []
  | .raise _, _, _ => []
  | .await op k, faults, w =>
      ⟨op, (answer act (faults 0) op w).1, (answer act (faults 0) op w).2⟩ ::
        (k (answer act (faults 0) op w).1).history (fun n => faults (n + 1))
          (answer act (faults 0) op w).2

/-- The states of a run: the one it starts from and the one after each call. -/
def reached (p : Coroutine Op Ans ε α) (faults : Nat → Option ε) (w : W) : List W :=
  w :: (p.history act faults w).map Performed.after

@[simp] theorem runWith_ret (a : α) (faults : Nat → Option ε) (w : W) :
    (ret a : Coroutine Op Ans ε α).runWith act faults w = (.ok a, w) := rfl

@[simp] theorem runWith_raise (e : ε) (faults : Nat → Option ε) (w : W) :
    (raise e : Coroutine Op Ans ε α).runWith act faults w = (.error e, w) := rfl

@[simp] theorem run_ret (a : α) (w : W) :
    (ret a : Coroutine Op Ans ε α).run act w = (.ok a, w) := rfl

@[simp] theorem run_raise (e : ε) (w : W) :
    (raise e : Coroutine Op Ans ε α).run act w = (.error e, w) := rfl

@[simp] theorem run_await (op : Op) (k : Except ε (Ans op) → Coroutine Op Ans ε α) (w : W) :
    (await op k).run act w = (k (act op w).1).run act (act op w).2 := rfl

/-- A single call is answered by the machine. -/
@[simp] theorem run_perform (op : Op) (w : W) :
    (perform op : Coroutine Op Ans ε (Ans op)).run act w = act op w := by
  rw [perform, run_await]
  rcases act op w with ⟨e | a, w'⟩ <;> rfl

theorem run_ofExcept (r : Except ε α) (w : W) :
    (ofExcept r : Coroutine Op Ans ε α).run act w = (r, w) := by
  cases r <;> rfl

/-- A sequence runs its second part where the first returns. -/
theorem run_bind (p : Coroutine Op Ans ε α) (f : α → Coroutine Op Ans ε β) (w : W) :
    (p.bind f).run act w =
      match (p.run act w).1 with
      | .ok a => (f a).run act (p.run act w).2
      | .error e => (.error e, (p.run act w).2) := by
  induction p generalizing w with
  | ret a => rfl
  | raise e => rfl
  | await op k ih => exact ih _ _

/-- A guarded part runs its handler where an exception escapes. -/
theorem run_tryCatch (p : Coroutine Op Ans ε α) (handler : ε → Coroutine Op Ans ε α) (w : W) :
    (p.tryCatch handler).run act w =
      match (p.run act w).1 with
      | .ok a => (.ok a, (p.run act w).2)
      | .error e => (handler e).run act (p.run act w).2 := by
  induction p generalizing w with
  | ret a => rfl
  | raise e => rfl
  | await op k ih => exact ih _ _

/-- Coroutines in turn let no exception escape and leave what each leaves of the state
before it. -/
theorem run_inTurn {O : Type} (program : O → Coroutine Op Ans ε α) (os : List O) (w : W) :
    (inTurn program os).run act w =
      (.ok (), os.foldl (fun w o => ((program o).run act w).2) w) := by
  induction os generalizing w with
  | nil => rfl
  | cons o os ih =>
    rw [List.foldl_cons, ← ih]
    simp only [inTurn, run_bind, run_tryCatch]
    cases h : ((program o).run act w).1 <;> simp only [run_ret]

/-- A sequence makes the calls of its second part where the first returns. -/
theorem history_bind (p : Coroutine Op Ans ε α) (f : α → Coroutine Op Ans ε β) (w : W) :
    (p.bind f).history act noFaults w = p.history act noFaults w ++
      match (p.run act w).1 with
      | .ok a => (f a).history act noFaults (p.run act w).2
      | .error _ => [] := by
  induction p generalizing w with
  | ret a => rfl
  | raise e => rfl
  | await op k ih => exact congrArg (_ :: ·) (ih _ _)

/-- A guarded part makes the calls of its handler where an exception escapes. -/
theorem history_tryCatch (p : Coroutine Op Ans ε α) (handler : ε → Coroutine Op Ans ε α) (w : W) :
    (p.tryCatch handler).history act noFaults w = p.history act noFaults w ++
      match (p.run act w).1 with
      | .ok _ => []
      | .error e => (handler e).history act noFaults (p.run act w).2 := by
  induction p generalizing w with
  | ret a => rfl
  | raise e => rfl
  | await op k ih => exact congrArg (_ :: ·) (ih _ _)

/-- A call that is followed by more returns what is returned only if it is made, is answered and the
rest returns it. -/
theorem runWith_perform_bind {op : Op} {f : Ans op → Coroutine Op Ans ε α} {faults : Nat → Option ε}
    {w : W} {r : α} (h : (((perform op).bind f).runWith act faults w).1 = .ok r) :
    ∃ a, (act op w).1 = .ok a ∧
      ((f a).runWith act (fun n => faults (n + 1)) (act op w).2).1 = .ok r := by
  simp only [perform, await_bind, runWith] at h
  cases hfault : faults 0 with
  | some e =>
    rw [hfault] at h
    cases h
  | none =>
    rw [hfault, answer_none] at h
    cases ha : (act op w).1 with
    | error e =>
      rw [ha] at h
      cases h
    | ok a =>
      rw [ha] at h
      exact ⟨a, rfl, h⟩

/-- What is evaluated before more returns what is returned only if it has a value. -/
theorem runWith_ofExcept_bind {x : Except ε β} {f : β → Coroutine Op Ans ε α}
    {faults : Nat → Option ε} {w : W} {r : α}
    (h : (((ofExcept x).bind f).runWith act faults w).1 = .ok r) :
    ∃ b, x = .ok b ∧ ((f b).runWith act faults w).1 = .ok r := by
  cases x with
  | error e => cases h
  | ok b => exact ⟨b, rfl, h⟩

/-- Where every exception is handled by returning the same value, that value is returned for each
of them. -/
theorem runWith_tryCatch_ret {p : Coroutine Op Ans ε α} {handler : ε → Coroutine Op Ans ε α}
    {a : α} (hhandler : ∀ e, handler e = .ret a) (faults : Nat → Option ε) (w : W) :
    ((p.tryCatch handler).runWith act faults w).1 =
      .ok ((p.runWith act faults w).1.toOption.getD a) := by
  induction p generalizing faults w with
  | ret b => rfl
  | raise e =>
    rw [raise_tryCatch, hhandler]
    rfl
  | await op k ih => exact ih _ _ _

/-- Where a second machine answers as the first one does, from related states to related states,
a coroutine ends on the second as it ends on the first. -/
theorem run_simulates {W' : Type} {act' : (op : Op) → W' → Except ε (Ans op) × W'}
    {R : W → W' → Prop} {ok : (op : Op) → Except ε (Ans op) → Prop}
    (hsim : ∀ op w w', R w w' → ok op (act op w).1 →
      (act' op w').1 = (act op w).1 ∧ R (act op w).2 (act' op w').2)
    (p : Coroutine Op Ans ε α) {w : W} {w' : W'} (h : R w w')
    (hok : ∀ c ∈ p.history act noFaults w, ok c.op c.answer) :
    (p.run act' w').1 = (p.run act w).1 ∧ R (p.run act w).2 (p.run act' w').2 := by
  induction p generalizing w w' with
  | ret a => exact ⟨rfl, h⟩
  | raise e => exact ⟨rfl, h⟩
  | await op k ih =>
    obtain ⟨hans, hnext⟩ := hsim op w w' h (hok _ (List.mem_cons_self ..))
    have hrest := ih (act op w).1 hnext fun c hc => hok c (List.mem_cons_of_mem _ hc)
    simpa only [run_await, hans] using hrest

end Runs

section Always

variable (act : (op : Op) → W → Except ε (Ans op) × W)

/-- Every call made from `w` satisfies `step`, and the end of the run satisfies `post`,
with injected exceptions allowed at every call when `faulty`. -/
def Always (faulty : Prop) (step : W → Performed Op Ans ε W → Prop)
    (post : Except ε α → W → Prop) : Coroutine Op Ans ε α → W → Prop
  | .ret a, w => post (.ok a) w
  | .raise e, w => post (.error e) w
  | .await op k, w =>
      (step w ⟨op, (act op w).1, (act op w).2⟩ ∧
        (k (act op w).1).Always faulty step post (act op w).2) ∧
      (faulty → ∀ e, step w ⟨op, .error e, w⟩ ∧ (k (.error e)).Always faulty step post w)

variable {act} {faulty : Prop} {step : W → Performed Op Ans ε W → Prop}
  {post : Except ε α → W → Prop}

@[simp] theorem always_ret (a : α) (w : W) :
    (ret a).Always act faulty step post w ↔ post (.ok a) w := Iff.rfl

@[simp] theorem always_raise (e : ε) (w : W) :
    (raise e).Always act faulty step post w ↔ post (.error e) w := Iff.rfl

theorem always_await (op : Op) (k : Except ε (Ans op) → Coroutine Op Ans ε α) (w : W) :
    (await op k).Always act faulty step post w ↔
      (step w ⟨op, (act op w).1, (act op w).2⟩ ∧
        (k (act op w).1).Always act faulty step post (act op w).2) ∧
      (faulty → ∀ e, step w ⟨op, .error e, w⟩ ∧
        (k (.error e)).Always act faulty step post w) := Iff.rfl

/-- Without injected exceptions only the machine's answer matters. -/
@[simp] theorem always_await_sound (op : Op) (k : Except ε (Ans op) → Coroutine Op Ans ε α)
    (w : W) :
    (await op k).Always act False step post w ↔
      step w ⟨op, (act op w).1, (act op w).2⟩ ∧
        (k (act op w).1).Always act False step post (act op w).2 := by
  simp [always_await]

/-- What every call keeps, every coroutine keeps. -/
theorem always_of_act {inv : W → Prop}
    (hact : ∀ op w, inv w → step w ⟨op, (act op w).1, (act op w).2⟩ ∧ inv (act op w).2)
    (p : Coroutine Op Ans ε α) {w : W} (h : inv w) :
    p.Always act False step (fun _ => inv) w := by
  induction p generalizing w with
  | ret a => exact h
  | raise e => exact h
  | await op k ih => exact ⟨⟨(hact op w h).1, ih _ (hact op w h).2⟩, False.elim⟩

/-- The end condition may be weakened. -/
theorem Always.mono {post' : Except ε α → W → Prop} (himp : ∀ r w, post r w → post' r w)
    {p : Coroutine Op Ans ε α} {w : W} (h : p.Always act faulty step post w) :
    p.Always act faulty step post' w := by
  induction p generalizing w with
  | ret a => exact himp _ _ h
  | raise e => exact himp _ _ h
  | await op k ih =>
    exact ⟨⟨h.1.1, ih _ h.1.2⟩, fun hf e => ⟨(h.2 hf e).1, ih _ (h.2 hf e).2⟩⟩

/-- A sequence is checked by checking the rest wherever the first part returns. -/
theorem Always.bind {post : Except ε β → W → Prop} {p : Coroutine Op Ans ε α}
    {f : α → Coroutine Op Ans ε β} {w : W}
    (h : p.Always act faulty step (fun r w =>
      match r with
      | .ok a => (f a).Always act faulty step post w
      | .error e => post (.error e) w) w) :
    (p.bind f).Always act faulty step post w := by
  induction p generalizing w with
  | ret a => exact h
  | raise e => exact h
  | await op k ih =>
    exact ⟨⟨h.1.1, ih _ h.1.2⟩, fun hf e => ⟨(h.2 hf e).1, ih _ (h.2 hf e).2⟩⟩

/-- A guarded part is checked by checking the handler wherever an exception escapes. -/
theorem Always.tryCatch {p : Coroutine Op Ans ε α} {handler : ε → Coroutine Op Ans ε α} {w : W}
    (h : p.Always act faulty step (fun r w =>
      match r with
      | .ok a => post (.ok a) w
      | .error e => (handler e).Always act faulty step post w) w) :
    (p.tryCatch handler).Always act faulty step post w := by
  induction p generalizing w with
  | ret a => exact h
  | raise e => exact h
  | await op k ih =>
    exact ⟨⟨h.1.1, ih _ h.1.2⟩, fun hf e => ⟨(h.2 hf e).1, ih _ (h.2 hf e).2⟩⟩

/-- Coroutines in turn are checked one at a time, by what holds before those that remain. -/
theorem Always.inTurn {O : Type} {inv : List O → W → Prop} {program : O → Coroutine Op Ans ε α}
    (hone : ∀ o os w, inv (o :: os) w →
      (program o).Always act faulty step (fun _ w => inv os w) w)
    {os : List O} {w : W} (h : inv os w) :
    (Coroutine.inTurn program os).Always act faulty step (fun _ => inv []) w := by
  induction os generalizing w with
  | nil => exact h
  | cons o os ih =>
    refine Always.bind (Always.tryCatch (Always.bind (Always.mono ?_ (hone o os w h))))
    intro result w' hw'
    cases result <;> exact ih hw'

/-- The answer of one call, injected or not, keeps a checked coroutine checked. -/
theorem Always.resume {op : Op} {k : Except ε (Ans op) → Coroutine Op Ans ε α} {w : W}
    (h : (await op k).Always act faulty step post w) (fault : Option ε)
    (hf : fault ≠ none → faulty) :
    step w ⟨op, (answer act fault op w).1, (answer act fault op w).2⟩ ∧
      (k (answer act fault op w).1).Always act faulty step post (answer act fault op w).2 := by
  cases fault with
  | none => exact h.1
  | some e => exact h.2 (hf (by simp)) e

/-- A relation that every call satisfies links the states of the whole history. -/
theorem Always.isChain_history {R : W → W → Prop} {p : Coroutine Op Ans ε α} {w : W}
    (h : p.Always act faulty (fun w c => R w c.after) post w) (faults : Nat → Option ε)
    (hf : ∀ n, faults n ≠ none → faulty) :
    List.IsChain R (w :: (p.history act faults w).map Performed.after) := by
  induction p generalizing w faults with
  | ret a => exact .singleton w
  | raise e => exact .singleton w
  | await op k ih =>
    have hr := h.resume (faults 0) (hf 0)
    exact .cons_cons hr.1 (ih _ hr.2 _ (fun n => hf (n + 1)))

/-- A condition on single calls holds of every call in the history. -/
theorem Always.forall_history {Q : Performed Op Ans ε W → Prop} {p : Coroutine Op Ans ε α} {w : W}
    (h : p.Always act faulty (fun _ c => Q c) post w) (faults : Nat → Option ε)
    (hf : ∀ n, faults n ≠ none → faulty) : ∀ c ∈ p.history act faults w, Q c := by
  induction p generalizing w faults with
  | ret a => simp [history]
  | raise e => simp [history]
  | await op k ih =>
    have hr := h.resume (faults 0) (hf 0)
    intro c hc
    rcases List.mem_cons.mp hc with rfl | hc
    · exact hr.1
    · exact ih _ hr.2 _ (fun n => hf (n + 1)) c hc

/-- A condition on states that holds at the start and after every call holds throughout. -/
theorem Always.forall_reached {Q : W → Prop} {p : Coroutine Op Ans ε α} {w : W}
    (h : p.Always act faulty (fun _ c => Q c.after) post w) (hw : Q w) (faults : Nat → Option ε)
    (hf : ∀ n, faults n ≠ none → faulty) : ∀ w' ∈ p.reached act faults w, Q w' := by
  intro w' hw'
  rcases List.mem_cons.mp hw' with rfl | hw'
  · exact hw
  · obtain ⟨c, hc, rfl⟩ := List.mem_map.mp hw'
    exact h.forall_history faults hf c hc

end Always

end Coroutine

end SupplyChainTracker
