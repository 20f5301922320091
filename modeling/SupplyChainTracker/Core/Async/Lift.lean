import SupplyChainTracker.Core.Async.Coroutine

/-!
# Coroutines over a part of an interface

A coroutine over one interface can be run over a larger interface that contains it, on
a state that contains its own. Its calls stay the calls it makes, so a condition on
them bounds what a run can do to the larger state.
-/

namespace SupplyChainTracker

/-- A part of a state. -/
structure Lens (S W : Type) where
  get : S → W
  set : S → W → S
  get_set : ∀ s w, get (set s w) = w
  set_get : ∀ s, set s (get s) = s
  set_set : ∀ s w w', set (set s w) w' = set s w'

attribute [simp] Lens.get_set Lens.set_get Lens.set_set

namespace Coroutine

variable {Op Op' : Type} {Ans : Op → Type} {Ans' : Op' → Type} {ε α β S W : Type}

/-- The same coroutine over an interface with more calls. -/
def lift (f : Op → Op') (back : (op : Op) → Ans' (f op) → Ans op) :
    Coroutine Op Ans ε α → Coroutine Op' Ans' ε α
  | .ret a => .ret a
  | .raise e => .raise e
  | .await op k => .await (f op) fun r => (k (r.map (back op))).lift f back

@[simp] theorem lift_ret {f : Op → Op'} {back : (op : Op) → Ans' (f op) → Ans op} (a : α) :
    (ret a : Coroutine Op Ans ε α).lift f back = .ret a := rfl

@[simp] theorem lift_raise {f : Op → Op'} {back : (op : Op) → Ans' (f op) → Ans op} (e : ε) :
    (raise e : Coroutine Op Ans ε α).lift f back = .raise e := rfl

@[simp] theorem lift_ofExcept {f : Op → Op'} {back : (op : Op) → Ans' (f op) → Ans op}
    (r : Except ε α) :
    (ofExcept r : Coroutine Op Ans ε α).lift f back = ofExcept r := by
  cases r <;> rfl

/-- A sequence is lifted part by part. -/
@[simp] theorem lift_bind {f : Op → Op'} {back : (op : Op) → Ans' (f op) → Ans op}
    (p : Coroutine Op Ans ε α) (g : α → Coroutine Op Ans ε β) :
    (p.bind g).lift f back = (p.lift f back).bind fun a => (g a).lift f back := by
  induction p with
  | ret a => rfl
  | raise e => rfl
  | await op k ih => exact congrArg (await (f op)) (funext fun r => ih _)

/-- A guarded part is lifted with its handler. -/
@[simp] theorem lift_tryCatch {f : Op → Op'} {back : (op : Op) → Ans' (f op) → Ans op}
    (p : Coroutine Op Ans ε α) (handler : ε → Coroutine Op Ans ε α) :
    (p.tryCatch handler).lift f back =
      (p.lift f back).tryCatch fun e => (handler e).lift f back := by
  induction p with
  | ret a => rfl
  | raise e => rfl
  | await op k ih => exact congrArg (await (f op)) (funext fun r => ih _)

/-- A coroutine that is lifted twice is lifted at once. -/
theorem lift_lift {Op'' : Type} {Ans'' : Op'' → Type} {f : Op → Op'}
    {back : (op : Op) → Ans' (f op) → Ans op} {g : Op' → Op''}
    {back' : (op : Op') → Ans'' (g op) → Ans' op} (p : Coroutine Op Ans ε α) :
    (p.lift f back).lift g back' =
      p.lift (fun op => g (f op)) fun op a => back op (back' (f op) a) := by
  induction p with
  | ret a => rfl
  | raise e => rfl
  | await op k ih =>
    refine congrArg (await (g (f op))) (funext fun r => ?_)
    cases r <;> exact ih _

/-- A single lifted call is answered by the larger interface. -/
theorem run_lift_perform {act' : (op : Op') → S → Except ε (Ans' op) × S} {f : Op → Op'}
    {back : (op : Op) → Ans' (f op) → Ans op} (op : Op) (s : S) :
    ((perform op : Coroutine Op Ans ε (Ans op)).lift f back).run act' s =
      ((act' (f op) s).1.map (back op), (act' (f op) s).2) := by
  simp only [perform, lift, run_await, lift_ofExcept]
  cases (act' (f op) s).1 <;> rfl

section Runs

variable {act : (op : Op) → W → Except ε (Ans op) × W}
  {act' : (op : Op') → S → Except ε (Ans' op) × S}
  {f : Op → Op'} {back : (op : Op) → Ans' (f op) → Ans op}

/-- Where the calls of the larger interface act on a part of the state as those of the smaller one
do, a lifted coroutine runs as the original does and leaves the rest of the state alone. -/
theorem run_lift (part : Lens S W)
    (hans : ∀ op s, (act' (f op) s).1.map (back op) = (act op (part.get s)).1)
    (hnext : ∀ op s, (act' (f op) s).2 = part.set s (act op (part.get s)).2)
    (p : Coroutine Op Ans ε α) (s : S) :
    (p.lift f back).run act' s =
      ((p.run act (part.get s)).1, part.set s (p.run act (part.get s)).2) := by
  induction p generalizing s with
  | ret a => simp [lift]
  | raise e => simp [lift]
  | await op k ih =>
    rw [lift, run_await, hans, hnext, ih, part.get_set, part.set_set, run_await]

/-- Where the calls of the larger interface act on what is seen of the state as those of the
smaller one do, a lifted coroutine does what the original does to it. -/
theorem run_lift_of_view {view : S → W}
    (hans : ∀ op s, (act' (f op) s).1.map (back op) = (act op (view s)).1)
    (hnext : ∀ op s, view (act' (f op) s).2 = (act op (view s)).2)
    (p : Coroutine Op Ans ε α) (s : S) :
    ((p.lift f back).run act' s).1 = (p.run act (view s)).1 ∧
      view ((p.lift f back).run act' s).2 = (p.run act (view s)).2 := by
  induction p generalizing s with
  | ret a => exact ⟨rfl, rfl⟩
  | raise e => exact ⟨rfl, rfl⟩
  | await op k ih =>
    rw [lift, run_await, run_await, hans, ← hnext]
    exact ih _ _

end Runs

/-- Every call that a coroutine can make satisfies a condition. -/
def Calls (ok : Op → Prop) : Coroutine Op Ans ε α → Prop
  | .ret _ => True
  | .raise _ => True
  | .await op k => ok op ∧ ∀ r, (k r).Calls ok

variable {ok : Op → Prop}

@[simp] theorem calls_ret (a : α) : (ret a : Coroutine Op Ans ε α).Calls ok := trivial

@[simp] theorem calls_raise (e : ε) : (raise e : Coroutine Op Ans ε α).Calls ok := trivial

@[simp] theorem calls_ofExcept (r : Except ε α) :
    (ofExcept r : Coroutine Op Ans ε α).Calls ok := by
  cases r <;> trivial

@[simp] theorem calls_perform {op : Op} :
    (perform op : Coroutine Op Ans ε (Ans op)).Calls ok ↔ ok op := by
  constructor
  · exact fun h => h.1
  · exact fun h => ⟨h, fun r => calls_ofExcept r⟩

/-- A condition that every call satisfies. -/
theorem calls_of_forall (h : ∀ op, ok op) (p : Coroutine Op Ans ε α) : p.Calls ok := by
  induction p with
  | ret a => trivial
  | raise e => trivial
  | await op k ih => exact ⟨h op, ih⟩

/-- The condition on the calls may be weakened. -/
theorem Calls.imp {ok' : Op → Prop} (himp : ∀ op, ok op → ok' op) {p : Coroutine Op Ans ε α}
    (hp : p.Calls ok) : p.Calls ok' := by
  induction p with
  | ret a => trivial
  | raise e => trivial
  | await op k ih => exact ⟨himp op hp.1, fun r => ih r (hp.2 r)⟩

/-- A sequence makes the calls of its parts. -/
theorem Calls.bind {p : Coroutine Op Ans ε α} {f : α → Coroutine Op Ans ε β} (hp : p.Calls ok)
    (hf : ∀ a, (f a).Calls ok) : (p.bind f).Calls ok := by
  induction p with
  | ret a => exact hf a
  | raise e => trivial
  | await op k ih => exact ⟨hp.1, fun r => ih r (hp.2 r)⟩

/-- What looks something up makes the calls of the lookup and of what follows it. -/
theorem Calls.found {p : Coroutine Op Ans ε (Option α)} {f : Option α → Coroutine Op Ans ε β}
    (hp : p.Calls ok) (hnone : (f none).Calls ok) (hsome : ∀ a, (f (some a)).Calls ok) :
    (p.bind f).Calls ok := by
  refine hp.bind fun a? => ?_
  cases a? with
  | none => exact hnone
  | some a => exact hsome a

/-- What becomes of the result makes no calls. -/
theorem Calls.map {p : Coroutine Op Ans ε α} (hp : p.Calls ok) (f : α → β) :
    (p.bind fun a => .ret (f a)).Calls ok :=
  hp.bind fun _ => trivial

/-- A lifted coroutine makes the calls of the original. -/
theorem Calls.lift {ok' : Op' → Prop} {f : Op → Op'} {back : (op : Op) → Ans' (f op) → Ans op}
    {p : Coroutine Op Ans ε α} (hp : p.Calls ok) (hok : ∀ op, ok op → ok' (f op)) :
    (p.lift f back).Calls ok' := by
  induction p with
  | ret a => trivial
  | raise e => trivial
  | await op k ih => exact ⟨hok op hp.1, fun r => ih _ (hp.2 _)⟩

/-- What each of its calls keeps, a run keeps. -/
theorem Calls.run {act : (op : Op) → W → Except ε (Ans op) × W} {R : W → W → Prop}
    (hrefl : ∀ w, R w w) (htrans : ∀ w w' w'', R w w' → R w' w'' → R w w'')
    (hact : ∀ op, ok op → ∀ w, R w (act op w).2) {p : Coroutine Op Ans ε α} (hp : p.Calls ok)
    (w : W) : R w (p.run act w).2 := by
  induction p generalizing w with
  | ret a => exact hrefl w
  | raise e => exact hrefl w
  | await op k ih =>
    rw [run_await]
    exact htrans _ _ _ (hact op hp.1 w) (ih _ (hp.2 _) _)

end Coroutine

end SupplyChainTracker
