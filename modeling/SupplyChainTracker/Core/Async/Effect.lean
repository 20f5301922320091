import SupplyChainTracker.Core.Async.Coroutine

/-!
# What a coroutine leaves of the state

Coroutines that leave the state alone, that raise in any case, and that look something up.
A sequence has the effect of its first part where the second has none.
-/

namespace SupplyChainTracker.Coroutine

variable {Op : Type} {Ans : Op → Type} {ε α β W : Type}

section Idle

variable (act : (op : Op) → W → Except ε (Ans op) × W)

/-- Leave the state as it is. -/
def Idle (p : Coroutine Op Ans ε α) : Prop := ∀ w, (p.run act w).2 = w

/-- Raise an exception and leave the state as it is. -/
def Refuses (p : Coroutine Op Ans ε α) : Prop := ∀ w, ∃ e, p.run act w = (.error e, w)

variable {act}

@[simp] theorem idle_ret (a : α) : (ret a : Coroutine Op Ans ε α).Idle act := fun _ => rfl

@[simp] theorem idle_raise (e : ε) : (raise e : Coroutine Op Ans ε α).Idle act := fun _ => rfl

@[simp] theorem idle_ofExcept (r : Except ε α) :
    (ofExcept r : Coroutine Op Ans ε α).Idle act := by
  cases r <;> simp

@[simp] theorem refuses_raise (e : ε) : (raise e : Coroutine Op Ans ε α).Refuses act :=
  fun _ => ⟨e, rfl⟩

theorem Refuses.idle {p : Coroutine Op Ans ε α} (h : p.Refuses act) : p.Idle act := by
  intro w
  obtain ⟨e, he⟩ := h w
  rw [he]

/-- What follows a coroutine that raises does not run. -/
theorem Refuses.bind {p : Coroutine Op Ans ε α} (h : p.Refuses act)
    (f : α → Coroutine Op Ans ε β) : (p.bind f).Refuses act := by
  intro w
  obtain ⟨e, he⟩ := h w
  exact ⟨e, by rw [run_bind, he]⟩

/-- A sequence whose second part leaves the state alone has the effect of the first. -/
theorem run_bind_of_idle (p : Coroutine Op Ans ε α) {f : α → Coroutine Op Ans ε β}
    (h : ∀ a, (f a).Idle act) (w : W) : ((p.bind f).run act w).2 = (p.run act w).2 := by
  rw [run_bind]
  cases (p.run act w).1 with
  | error e => rfl
  | ok a => exact h a _

/-- What becomes of the result leaves the state alone. -/
theorem snd_run_map (p : Coroutine Op Ans ε α) (f : α → β) (w : W) :
    ((p.bind fun a => .ret (f a)).run act w).2 = (p.run act w).2 :=
  run_bind_of_idle p (fun _ => idle_ret _) w

/-- A sequence whose second part raises in any case raises. -/
theorem run_bind_of_refuses (p : Coroutine Op Ans ε α) {f : α → Coroutine Op Ans ε β}
    (h : ∀ a, (f a).Refuses act) (w : W) : ∃ e, ((p.bind f).run act w).1 = .error e := by
  rw [run_bind]
  cases (p.run act w).1 with
  | error e => exact ⟨e, rfl⟩
  | ok a =>
    obtain ⟨e, he⟩ := h a (p.run act w).2
    exact ⟨e, congrArg Prod.fst he⟩

end Idle

section Loads

variable (act : (op : Op) → W → Except ε (Ans op) × W)

/-- Look something up: return it where there is one, and otherwise return nothing or raise. Either
way the state is the next one. -/
def Loads (p : Coroutine Op Ans ε (Option α)) (value? : W → Option α) (next : W → W) : Prop :=
  ∀ w, (∃ a, value? w = some a ∧ p.run act w = (.ok (some a), next w)) ∨
    (value? w = none ∧
      (p.run act w = (.ok none, next w) ∨ ∃ e, p.run act w = (.error e, next w)))

variable {act} {value? : W → Option α} {next : W → W}

/-- A sequence that refuses to go on with nothing goes on with what is found, or raises. -/
theorem Loads.run_bind {p : Coroutine Op Ans ε (Option α)} (h : p.Loads act value? next)
    {k : Option α → Coroutine Op Ans ε β} (hnone : (k none).Refuses act) (w : W) :
    (∃ a, value? w = some a ∧ (p.bind k).run act w = (k (some a)).run act (next w)) ∨
    (value? w = none ∧ ∃ e, (p.bind k).run act w = (.error e, next w)) := by
  rw [Coroutine.run_bind]
  rcases h w with ⟨a, ha, hrun⟩ | ⟨hnone', hrun | ⟨e, hrun⟩⟩
  · exact .inl ⟨a, ha, by rw [hrun]⟩
  · exact .inr ⟨hnone', by rw [hrun]; exact hnone (next w)⟩
  · exact .inr ⟨hnone', e, by rw [hrun]⟩

/-- The same of a coroutine that is such a sequence. -/
theorem Loads.run_eq {p : Coroutine Op Ans ε (Option α)} (h : p.Loads act value? next)
    {q : Coroutine Op Ans ε β} {k : Option α → Coroutine Op Ans ε β} (hq : q = p.bind k)
    (hnone : (k none).Refuses act) (w : W) :
    (∃ a, value? w = some a ∧ q.run act w = (k (some a)).run act (next w)) ∨
    (value? w = none ∧ ∃ e, q.run act w = (.error e, next w)) := by
  rw [hq]
  exact h.run_bind hnone w

/-- The effect of a sequence that goes on with what is found, or raises, and then maps its
result. -/
theorem Loads.snd_run_map {γ : Type} {p : Coroutine Op Ans ε (Option α)}
    (h : p.Loads act value? next) {k : Option α → Coroutine Op Ans ε β} (f : β → γ)
    (hnone : (k none).Refuses act) (w : W) :
    (∃ a, value? w = some a ∧
      (((p.bind k).bind fun b => .ret (f b)).run act w).2 = ((k (some a)).run act (next w)).2) ∨
    (value? w = none ∧ (((p.bind k).bind fun b => .ret (f b)).run act w).2 = next w) := by
  rw [Coroutine.snd_run_map]
  obtain ⟨a, ha, hrun⟩ | ⟨hnone', e, hrun⟩ := h.run_bind hnone w
  · exact .inl ⟨a, ha, by rw [hrun]⟩
  · exact .inr ⟨hnone', by rw [hrun]⟩

end Loads

end SupplyChainTracker.Coroutine
