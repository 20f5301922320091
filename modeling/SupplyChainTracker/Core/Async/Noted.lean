import SupplyChainTracker.Core.Async.Lift

/-!
# Coroutines that take notes

A coroutine may write notes between its calls. The notes change neither what it returns nor
what it leaves of the state, so it is the coroutine without them and a list of what was
written. A loop over messages handles each of them in a context that the messages so far have
set.
-/

namespace SupplyChainTracker

/-- The calls of an interface, and notes. -/
inductive Noted (Op N : Type) : Type
  | call (op : Op)
  | note (n : N)

/-- What they answer. -/
abbrev Noted.Ans {Op N : Type} (Ans : Op → Type) : Noted Op N → Type
  | call op => Ans op
  | note _ => Unit

namespace Coroutine

variable {Op N : Type} {Ans : Op → Type} {ε α β W : Type}

@[simp] theorem bind_ret_unit (p : Coroutine Op Ans ε Unit) :
    (p.bind fun _ => .ret ()) = p := by
  induction p with
  | ret a => rfl
  | raise e => rfl
  | await op k ih => exact congrArg (await op) (funext ih)

/-- What a guarded coroutine returns does not matter to what goes on without it. -/
theorem guarded_bind_const {γ : Type} (p : Coroutine Op Ans ε α) (a b : γ)
    (q : Coroutine Op Ans ε β) :
    (((p.bind fun _ => .ret a).tryCatch fun _ => .ret b).bind fun _ => q) =
      ((p.bind fun _ => .ret ()).tryCatch fun _ => .ret ()).bind fun _ => q := by
  induction p with
  | ret a => rfl
  | raise e => rfl
  | await op k ih => exact congrArg (await op) (funext ih)

/-- A coroutine that writes nothing. -/
def quiet (p : Coroutine Op Ans ε α) : Coroutine (Noted Op N) (Noted.Ans Ans) ε α :=
  p.lift Noted.call fun _ a => a

/-- Write a note. -/
def note (n : N) : Coroutine (Noted Op N) (Noted.Ans Ans) ε Unit := perform (Noted.note n)

/-- The coroutine without its notes. -/
def erase : Coroutine (Noted Op N) (Noted.Ans Ans) ε α → Coroutine Op Ans ε α
  | .ret a => .ret a
  | .raise e => .raise e
  | .await (.call op) k => .await op fun r => (k r).erase
  | .await (.note _) k => (k (.ok ())).erase

@[simp] theorem erase_ret (a : α) :
    (ret a : Coroutine (Noted Op N) (Noted.Ans Ans) ε α).erase = .ret a := rfl

@[simp] theorem erase_raise (e : ε) :
    (raise e : Coroutine (Noted Op N) (Noted.Ans Ans) ε α).erase = .raise e := rfl

@[simp] theorem erase_ofExcept (r : Except ε α) :
    (ofExcept r : Coroutine (Noted Op N) (Noted.Ans Ans) ε α).erase = .ofExcept r := by
  cases r <;> rfl

@[simp] theorem erase_note (n : N) :
    (note n : Coroutine (Noted Op N) (Noted.Ans Ans) ε Unit).erase = .ret () := rfl

@[simp] theorem erase_quiet (p : Coroutine Op Ans ε α) :
    (p.quiet : Coroutine (Noted Op N) (Noted.Ans Ans) ε α).erase = p := by
  induction p with
  | ret a => rfl
  | raise e => rfl
  | await op k ih =>
    refine congrArg (await op) (funext fun r => ?_)
    cases r <;> exact ih _

@[simp] theorem erase_bind (p : Coroutine (Noted Op N) (Noted.Ans Ans) ε α)
    (f : α → Coroutine (Noted Op N) (Noted.Ans Ans) ε β) :
    (p.bind f).erase = p.erase.bind fun a => (f a).erase := by
  induction p with
  | ret a => rfl
  | raise e => rfl
  | await op k ih =>
    cases op with
    | call op => exact congrArg (await op) (funext fun r => ih r)
    | note n => exact ih _

@[simp] theorem erase_tryCatch (p : Coroutine (Noted Op N) (Noted.Ans Ans) ε α)
    (handler : ε → Coroutine (Noted Op N) (Noted.Ans Ans) ε α) :
    (p.tryCatch handler).erase = p.erase.tryCatch fun e => (handler e).erase := by
  induction p with
  | ret a => rfl
  | raise e => rfl
  | await op k ih =>
    cases op with
    | call op => exact congrArg (await op) (funext fun r => ih r)
    | note n => exact ih _

section Runs

variable (act : (op : Op) → W → Except ε (Ans op) × W)

/-- The machine that also keeps the notes. -/
def noted : (op : Noted Op N) → W × List N → Except ε (Noted.Ans Ans op) × (W × List N)
  | .call op, (w, ns) => ((act op w).1, ((act op w).2, ns))
  | .note n, (w, ns) => (.ok (), (w, ns ++ [n]))

/-- The notes written from a state. -/
def notes : Coroutine (Noted Op N) (Noted.Ans Ans) ε α → W → List N
  | .ret _, _ => []
  | .raise _, _ => []
  | .await (.call op) k, w => (k (act op w).1).notes (act op w).2
  | .await (.note n) k, w => n :: (k (.ok ())).notes w

/-- A run returns and leaves what the coroutine without its notes does, and adds the notes. -/
theorem run_noted (p : Coroutine (Noted Op N) (Noted.Ans Ans) ε α) (w : W) (ns : List N) :
    p.run (noted act) (w, ns) =
      ((p.erase.run act w).1, ((p.erase.run act w).2, ns ++ p.notes act w)) := by
  induction p generalizing w ns with
  | ret a => simp [notes]
  | raise e => simp [notes]
  | await op k ih =>
    cases op with
    | call op => exact ih _ _ _
    | note n =>
      rw [run_await, noted, ih, erase, notes, List.append_assoc, List.singleton_append]

variable {act}

@[simp] theorem notes_ret (a : α) (w : W) :
    (ret a : Coroutine (Noted Op N) (Noted.Ans Ans) ε α).notes act w = [] := rfl

@[simp] theorem notes_raise (e : ε) (w : W) :
    (raise e : Coroutine (Noted Op N) (Noted.Ans Ans) ε α).notes act w = [] := rfl

@[simp] theorem notes_note (n : N) (w : W) :
    (note n : Coroutine (Noted Op N) (Noted.Ans Ans) ε Unit).notes act w = [n] := rfl

/-- What begins with a note writes it first. -/
theorem notes_note_bind (n : N) (f : Unit → Coroutine (Noted Op N) (Noted.Ans Ans) ε α) (w : W) :
    ((note n).bind f).notes act w = n :: (f ()).notes act w := rfl

/-- A guarded part writes at least its own notes. -/
theorem notes_subset_tryCatch (p : Coroutine (Noted Op N) (Noted.Ans Ans) ε α)
    (handler : ε → Coroutine (Noted Op N) (Noted.Ans Ans) ε α) (w : W) :
    p.notes act w ⊆ (p.tryCatch handler).notes act w := by
  induction p generalizing w with
  | ret a => exact List.nil_subset _
  | raise e => exact List.nil_subset _
  | await op k ih =>
    cases op with
    | call op => exact ih _ _
    | note n => exact List.cons_subset_cons n (ih _ _)

theorem notes_tryCatch_ne_nil {p : Coroutine (Noted Op N) (Noted.Ans Ans) ε α} {w : W}
    (h : p.notes act w ≠ []) (handler : ε → Coroutine (Noted Op N) (Noted.Ans Ans) ε α) :
    (p.tryCatch handler).notes act w ≠ [] := by
  intro hnil
  have hsub : p.notes act w ⊆ (p.tryCatch handler).notes act w := notes_subset_tryCatch p handler w
  rw [hnil] at hsub
  exact h (List.subset_nil.mp hsub)

end Runs

end Coroutine

/-- A message that has been handled, the context in which it was, and what was written. -/
structure Handled (M C N : Type) where
  message : M
  context : C
  notes : List N

section HandleEach

variable {M C Op N : Type} {Ans : Op → Type} {ε W : Type}
  (act : (op : Op) → W → Except ε (Ans op) × W) (enter : M → C → C)
  (handle : M → Coroutine (Noted Op N) (Noted.Ans Ans) ε Unit)

/-- Handle one message after the other, each in the context that it makes of the one before. -/
def handleEach : List M → C → W → List (Handled M C N) × W
  | [], _, w => ([], w)
  | m :: ms, c, w =>
      let handled := ((handle m).run (Coroutine.noted act) (w, [])).2
      let rest := handleEach ms (enter m c) handled.1
      (⟨m, enter m c, handled.2⟩ :: rest.1, rest.2)

/-- The first message, and the rest from what it leaves. -/
theorem handleEach_cons (m : M) (ms : List M) (c : C) (w : W) :
    handleEach act enter handle (m :: ms) c w =
      (⟨m, enter m c, (handle m).notes act w⟩ ::
          (handleEach act enter handle ms (enter m c) ((handle m).erase.run act w).2).1,
        (handleEach act enter handle ms (enter m c) ((handle m).erase.run act w).2).2) := by
  rw [handleEach, Coroutine.run_noted]
  rfl

/-- The loop leaves what the handlers without their notes leave one after the other. -/
theorem snd_handleEach (ms : List M) (c : C) (w : W) :
    (handleEach act enter handle ms c w).2 =
      ms.foldl (fun w m => ((handle m).erase.run act w).2) w := by
  induction ms generalizing c w with
  | nil => rfl
  | cons m ms ih => rw [handleEach_cons, List.foldl_cons, ← ih (enter m c)]

end HandleEach

end SupplyChainTracker
