import Mathlib.Data.List.DropRight
import SupplyChainTracker.Core.Async.Interleaving
import SupplyChainTracker.Core.Async.Lift

/-!
# Protocols of coroutines

A protocol says which calls may come next and what an answer makes of its state. A
coroutine keeps it whatever the answers are, as long as they are among the expected
ones. Of interleaved coroutines that keep protocols only their states matter.
-/

namespace SupplyChainTracker

/-- Which calls may come next in a state, which answers are expected, and the state after each. -/
structure Protocol (Op : Type) (Ans : Op → Type) (ε σ : Type) where
  may : σ → Op → Prop
  expects : (op : Op) → Except ε (Ans op) → Prop
  next : σ → (op : Op) → Except ε (Ans op) → σ

namespace Coroutine

variable {Op Op' : Type} {Ans : Op → Type} {Ans' : Op' → Type} {ε α β σ : Type}

/-- From a state, every call is one that may come next, and the end satisfies `post`. -/
def Keeps (P : Protocol Op Ans ε σ) (post : Except ε α → σ → Prop) :
    Coroutine Op Ans ε α → σ → Prop
  | .ret a, s => post (.ok a) s
  | .raise e, s => post (.error e) s
  | .await op k, s => P.may s op ∧ ∀ r, P.expects op r → (k r).Keeps P post (P.next s op r)

variable {P : Protocol Op Ans ε σ} {post : Except ε α → σ → Prop}

@[simp] theorem keeps_ret (a : α) (s : σ) :
    (ret a : Coroutine Op Ans ε α).Keeps P post s ↔ post (.ok a) s := Iff.rfl

@[simp] theorem keeps_raise (e : ε) (s : σ) :
    (raise e : Coroutine Op Ans ε α).Keeps P post s ↔ post (.error e) s := Iff.rfl

theorem keeps_await (op : Op) (k : Except ε (Ans op) → Coroutine Op Ans ε α) (s : σ) :
    (await op k).Keeps P post s ↔
      P.may s op ∧ ∀ r, P.expects op r → (k r).Keeps P post (P.next s op r) := Iff.rfl

@[simp] theorem keeps_ofExcept (r : Except ε α) (s : σ) :
    (ofExcept r : Coroutine Op Ans ε α).Keeps P post s ↔ post r s := by
  cases r <;> rfl

/-- A single call. -/
theorem keeps_perform {op : Op} {post : Except ε (Ans op) → σ → Prop} {s : σ} :
    (perform op : Coroutine Op Ans ε (Ans op)).Keeps P post s ↔
      P.may s op ∧ ∀ r, P.expects op r → post r (P.next s op r) := by
  simp only [perform, keeps_await, keeps_ofExcept]

/-- The end condition may be weakened. -/
theorem Keeps.mono {post' : Except ε α → σ → Prop} (himp : ∀ r s, post r s → post' r s)
    {p : Coroutine Op Ans ε α} {s : σ} (h : p.Keeps P post s) : p.Keeps P post' s := by
  induction p generalizing s with
  | ret a => exact himp _ _ h
  | raise e => exact himp _ _ h
  | await op k ih => exact ⟨h.1, fun r hr => ih r (h.2 r hr)⟩

/-- A sequence is checked by checking the rest wherever the first part returns. -/
theorem Keeps.bind {post : Except ε β → σ → Prop} {p : Coroutine Op Ans ε α}
    {f : α → Coroutine Op Ans ε β} {s : σ}
    (h : p.Keeps P (fun r s =>
      match r with
      | .ok a => (f a).Keeps P post s
      | .error e => post (.error e) s) s) : (p.bind f).Keeps P post s := by
  induction p generalizing s with
  | ret a => exact h
  | raise e => exact h
  | await op k ih => exact ⟨h.1, fun r hr => ih r (h.2 r hr)⟩

/-- A guarded part is checked by checking the handler wherever an exception escapes. -/
theorem Keeps.tryCatch {p : Coroutine Op Ans ε α} {handler : ε → Coroutine Op Ans ε α} {s : σ}
    (h : p.Keeps P (fun r s =>
      match r with
      | .ok a => post (.ok a) s
      | .error e => (handler e).Keeps P post s) s) : (p.tryCatch handler).Keeps P post s := by
  induction p generalizing s with
  | ret a => exact h
  | raise e => exact h
  | await op k ih => exact ⟨h.1, fun r hr => ih r (h.2 r hr)⟩

/-- Coroutines in turn are checked one at a time. -/
theorem Keeps.inTurn {O : Type} (inv : σ → Prop) {program : O → Coroutine Op Ans ε α}
    (hone : ∀ o s, inv s → (program o).Keeps P (fun _ s => inv s) s) {os : List O} {s : σ}
    (h : inv s) : (Coroutine.inTurn program os).Keeps P (fun _ s => inv s) s := by
  induction os generalizing s with
  | nil => exact h
  | cons o os ih =>
    refine Keeps.bind (Keeps.tryCatch (Keeps.bind (Keeps.mono ?_ (hone o s h))))
    intro result s' hs'
    cases result <;> exact ih hs'

/-- A coroutine over a part of an interface keeps what the protocol says of that part. -/
theorem Keeps.lift {P' : Protocol Op' Ans' ε σ} {f : Op → Op'}
    {back : (op : Op) → Ans' (f op) → Ans op} (hmay : ∀ s op, P.may s op → P'.may s (f op))
    (hexpects : ∀ op r, P'.expects (f op) r → P.expects op (r.map (back op)))
    (hnext : ∀ s op r, P'.next s (f op) r = P.next s op (r.map (back op)))
    {p : Coroutine Op Ans ε α} {s : σ} (h : p.Keeps P post s) :
    (p.lift f back).Keeps P' post s := by
  induction p generalizing s with
  | ret a => exact h
  | raise e => exact h
  | await op k ih =>
    refine ⟨hmay s op h.1, fun r hr => ?_⟩
    rw [hnext]
    exact ih _ (h.2 _ (hexpects op r hr))

/-- On a machine whose state is what the protocol makes of it, and whose answers are the expected
ones as far as they are allowed, a run ends as the protocol promises. -/
theorem Keeps.run {W : Type} {act : (op : Op) → W → Except ε (Ans op) × W} {R : σ → W → Prop}
    {ok : (op : Op) → Except ε (Ans op) → Prop}
    (hstep : ∀ op s w, R s w → P.may s op → ok op (act op w).1 →
      P.expects op (act op w).1 ∧ R (P.next s op (act op w).1) (act op w).2)
    {p : Coroutine Op Ans ε α} {s : σ} {w : W} (h : p.Keeps P post s) (hr : R s w)
    (hok : ∀ c ∈ p.history act noFaults w, ok c.op c.answer) :
    ∃ s', post (p.run act w).1 s' ∧ R s' (p.run act w).2 := by
  induction p generalizing s w with
  | ret a => exact ⟨s, h, hr⟩
  | raise e => exact ⟨s, h, hr⟩
  | await op k ih =>
    obtain ⟨hexp, hnext⟩ := hstep op s w hr h.1 (hok _ (List.mem_cons_self ..))
    exact ih _ (h.2 _ hexp) hnext fun c hc => hok c (List.mem_cons_of_mem _ hc)

/-- From a state, the protocol is kept, and what is returned satisfies `Q`. -/
def Grants (P : Protocol Op Ans ε σ) (Q : α → σ → Prop) (p : Coroutine Op Ans ε α) (s : σ) : Prop :=
  p.Keeps P (fun r s => ∀ a, r = .ok a → Q a s) s

variable {Q : α → σ → Prop}

@[simp] theorem grants_ret (a : α) (s : σ) :
    (ret a : Coroutine Op Ans ε α).Grants P Q s ↔ Q a s := by
  simp [Grants]

@[simp] theorem grants_raise (e : ε) (s : σ) : (raise e : Coroutine Op Ans ε α).Grants P Q s := by
  simp [Grants]

@[simp] theorem grants_ofExcept (r : Except ε α) (s : σ) :
    (ofExcept r : Coroutine Op Ans ε α).Grants P Q s ↔ ∀ a, r = .ok a → Q a s :=
  keeps_ofExcept r s

/-- A single call. -/
theorem grants_perform {op : Op} {Q : Ans op → σ → Prop} {s : σ} :
    (perform op : Coroutine Op Ans ε (Ans op)).Grants P Q s ↔
      P.may s op ∧ ∀ r, P.expects op r → ∀ a, r = .ok a → Q a (P.next s op r) :=
  keeps_perform

/-- The condition on what is returned may be weakened. -/
theorem Grants.mono {Q' : α → σ → Prop} (himp : ∀ a s, Q a s → Q' a s) {p : Coroutine Op Ans ε α}
    {s : σ} (h : p.Grants P Q s) : p.Grants P Q' s :=
  Keeps.mono (fun _ _ hr a ha => himp a _ (hr a ha)) h

/-- A sequence goes on with what its first part returns. -/
theorem Grants.bind {R : β → σ → Prop} {p : Coroutine Op Ans ε α} {f : α → Coroutine Op Ans ε β}
    {s : σ} (h : p.Grants P Q s) (hf : ∀ a s, Q a s → (f a).Grants P R s) :
    (p.bind f).Grants P R s := by
  refine Keeps.bind (Keeps.mono (fun r s hr => ?_) h)
  cases r with
  | ok a => exact hf a s (hr a rfl)
  | error e => exact fun b hb => by cases hb

/-- A sequence goes on with what a finished call has returned. -/
theorem grants_ofExcept_bind {R : β → σ → Prop} {r : Except ε α} {f : α → Coroutine Op Ans ε β}
    {s : σ} (hf : ∀ a, r = .ok a → (f a).Grants P R s) :
    ((ofExcept r : Coroutine Op Ans ε α).bind f).Grants P R s := by
  cases r with
  | ok a => exact hf a rfl
  | error e => exact grants_raise e s

/-- A handler that raises in turn returns nothing. -/
theorem Grants.tryCatch {p : Coroutine Op Ans ε α} {handler : ε → Coroutine Op Ans ε α} {s : σ}
    (h : p.Grants P Q s) (hraise : ∀ e, ∃ e', handler e = .raise e') :
    (p.tryCatch handler).Grants P Q s := by
  refine Keeps.tryCatch (Keeps.mono (fun r s hr => ?_) h)
  cases r with
  | ok a => exact hr
  | error e =>
    obtain ⟨e', he'⟩ := hraise e
    change (handler e).Grants P Q s
    rw [he']
    exact grants_raise e' s

/-- A coroutine over a part of an interface returns there what it returns. -/
theorem Grants.lift {P' : Protocol Op' Ans' ε σ} {f : Op → Op'}
    {back : (op : Op) → Ans' (f op) → Ans op} (hmay : ∀ s op, P.may s op → P'.may s (f op))
    (hexpects : ∀ op r, P'.expects (f op) r → P.expects op (r.map (back op)))
    (hnext : ∀ s op r, P'.next s (f op) r = P.next s op (r.map (back op)))
    {p : Coroutine Op Ans ε α} {s : σ} (h : p.Grants P Q s) : (p.lift f back).Grants P' Q s :=
  Keeps.lift hmay hexpects hnext h

/-- Coroutines in turn are checked one at a time. -/
theorem Grants.inTurn {O : Type} {program : O → Coroutine Op Ans ε α}
    (hone : ∀ o s, (program o).Grants P (fun _ _ => True) s) (os : List O) (s : σ) :
    (Coroutine.inTurn program os).Grants P (fun _ _ => True) s := by
  refine Keeps.mono (fun _ _ _ _ _ => trivial) (Keeps.inTurn (fun _ => True) ?_ trivial)
  exact fun o s _ => Keeps.mono (fun _ _ _ => trivial) (hone o s)

end Coroutine

/-- A coroutine keeps a protocol if every call of the flowchart that it follows does. -/
theorem Follows.keeps {Op : Type} {Ans : Op → Type} {ε α σ τ : Type} {P : Protocol Op Ans ε σ}
    {post : Except ε α → σ → Prop} {chart : τ → Node Op Ans ε α τ} {prog : τ → Coroutine Op Ans ε α}
    (hf : Follows chart prog) (inv : τ → σ → Prop)
    (hcall : ∀ t s op next, inv t s → chart t = .call op next →
      P.may s op ∧ ∀ r, P.expects op r → inv (next r) (P.next s op r))
    (hhalt : ∀ t s r, inv t s → chart t = .halt r → post r s) {t : τ} {s : σ} (h : inv t s) :
    (prog t).Keeps P post s := by
  generalize hp : prog t = p
  induction p generalizing t s with
  | ret a => exact hhalt t s (.ok a) h (hf.chart_of_ofExcept (r := .ok a) hp)
  | raise e => exact hhalt t s (.error e) h (hf.chart_of_ofExcept (r := .error e) hp)
  | await op k ih =>
    obtain ⟨next, hc, hk⟩ := hf.chart_of_await hp
    obtain ⟨hmay, hnext⟩ := hcall t s op next h hc
    exact ⟨hmay, fun r hr => ih r (hnext r hr) (hk r).symm⟩

namespace Config

variable {ι Op : Type} {Ans : Op → Type} {ε α σ W : Type}

/-- Every participant keeps its protocol from its state on, and returns what satisfies `Q`. -/
def Conforms (P : ι → Protocol Op Ans ε σ) (Q : ι → α → σ → Prop) (st : ι → σ)
    (c : Config ι Op Ans ε α W) : Prop :=
  ∀ i, (c.threads i).Grants (P i) (Q i) (st i)

variable {P : ι → Protocol Op Ans ε σ} {Q : ι → α → σ → Prop}

/-- A participant awaits only what its protocol lets come next. -/
theorem Conforms.may {st : ι → σ} {c : Config ι Op Ans ε α W} (h : c.Conforms P Q st) {i : ι}
    {op : Op} {k : Except ε (Ans op) → Coroutine Op Ans ε α} (hik : c.threads i = .await op k) :
    (P i).may (st i) op := by
  have hgrants := h i
  rw [hik] at hgrants
  exact hgrants.1

variable [DecidableEq ι] {act : (op : Op) → W → Except ε (Ans op) × W}

/-- An expected answer takes one participant to its next state. -/
theorem Conforms.answered {st : ι → σ} {c : Config ι Op Ans ε α W} (h : c.Conforms P Q st)
    {i : ι} {op : Op} {k : Except ε (Ans op) → Coroutine Op Ans ε α}
    (hik : c.threads i = .await op k) (hexp : (P i).expects op (act op c.world).1) :
    (c.answered act i op k).Conforms P Q
      (Function.update st i ((P i).next (st i) op (act op c.world).1)) := by
  intro j
  by_cases hj : j = i
  · subst hj
    have hgrants := h j
    rw [hik] at hgrants
    simp only [Function.update_self]
    exact hgrants.2 _ hexp
  · simpa [Function.update_of_ne hj] using h j

/-- An invariant of the states of the protocols, the shared state and the trace under which every
answer is expected, and that every allowed step keeps, holds at the end of every run whose steps
are all allowed. -/
theorem exec_conforms_guarded (inv : (ι → σ) → W → List (ι × Op) → Prop)
    {allowed : W → List (ι × Op) → ι → Op → Prop}
    (hinv : ∀ st w tr i op, inv st w tr → (P i).may (st i) op → allowed w tr i op →
      (P i).expects op (act op w).1 ∧
        inv (Function.update st i ((P i).next (st i) op (act op w).1)) (act op w).2
          (tr ++ [(i, op)]))
    {sched : List ι} {c c' : Config ι Op Ans ε α W} (st : ι → σ) (hc : c.Conforms P Q st)
    (hi : inv st c.world c.trace) (hal : c.Guarded act (fun c => allowed c.world c.trace) sched)
    (h : c.exec act sched = some c') :
    ∃ st', c'.Conforms P Q st' ∧ inv st' c'.world c'.trace := by
  refine exec_of_step (fun c => ∃ st, c.Conforms P Q st ∧ inv st c.world c.trace) ?_
    ⟨st, hc, hi⟩ hal h
  rintro c i op k ⟨st, hc, hi⟩ hik hallowed
  obtain ⟨hexp, hi'⟩ := hinv st c.world c.trace i op hi (hc.may hik) hallowed
  exact ⟨_, hc.answered hik hexp, hi'⟩

/-- The same rule for a run with no condition on its steps. -/
theorem exec_conforms (inv : (ι → σ) → W → List (ι × Op) → Prop)
    (hinv : ∀ st w tr i op, inv st w tr → (P i).may (st i) op →
      (P i).expects op (act op w).1 ∧
        inv (Function.update st i ((P i).next (st i) op (act op w).1)) (act op w).2
          (tr ++ [(i, op)]))
    {sched : List ι} {c c' : Config ι Op Ans ε α W} (st : ι → σ) (hc : c.Conforms P Q st)
    (hi : inv st c.world c.trace) (h : c.exec act sched = some c') :
    ∃ st', c'.Conforms P Q st' ∧ inv st' c'.world c'.trace :=
  exec_conforms_guarded inv (fun st w tr i op hi hmay (_ : True) => hinv st w tr i op hi hmay) st hc
    hi (along_true sched c).guarded h

/-- Where every step keeps a condition exactly when it is allowed, and the invariant as long as the
condition holds, the condition holds throughout a run exactly when all its steps are allowed. -/
theorem forall_reached_iff_conforms (inv : (ι → σ) → W → List (ι × Op) → Prop)
    (P' : W → List (ι × Op) → Prop) (allowed : W → List (ι × Op) → ι → Op → Prop)
    (hinv : ∀ st w tr i op, inv st w tr → P' w tr → (P i).may (st i) op →
      (P i).expects op (act op w).1 ∧
        (P' (act op w).2 (tr ++ [(i, op)]) →
          inv (Function.update st i ((P i).next (st i) op (act op w).1)) (act op w).2
            (tr ++ [(i, op)])))
    (hstep : ∀ st w tr i op, inv st w tr → P' w tr → (P i).may (st i) op →
      (P' (act op w).2 (tr ++ [(i, op)]) ↔ allowed w tr i op))
    {sched : List ι} {c c' : Config ι Op Ans ε α W} (st : ι → σ) (hc : c.Conforms P Q st)
    (hi : inv st c.world c.trace) (hP : P' c.world c.trace) (h : c.exec act sched = some c') :
    (∀ past d, past <+: sched → c.exec act past = some d → P' d.world d.trace) ↔
      c.Guarded act (fun c => allowed c.world c.trace) sched := by
  refine forall_reached_iff_of_step (P := fun c => P' c.world c.trace)
    (fun c => ∃ st, c.Conforms P Q st ∧ inv st c.world c.trace) ?_ ?_ ⟨st, hc, hi⟩ hP h
  · rintro c i op k ⟨st, hc, hi⟩ hP hik hP'
    obtain ⟨hexp, hi'⟩ := hinv st c.world c.trace i op hi hP (hc.may hik)
    exact ⟨_, hc.answered hik hexp, hi' hP'⟩
  · rintro c i op k ⟨st, hc, hi⟩ hP hik
    exact hstep st c.world c.trace i op hi hP (hc.may hik)

/-- The calls that the others have performed since a participant's last one. -/
def since (i : ι) (tr : List (ι × Op)) : List (ι × Op) := tr.rtakeWhile fun c => c.1 ≠ i

@[simp] theorem since_append_self (i : ι) (op : Op) (tr : List (ι × Op)) :
    since i (tr ++ [(i, op)]) = [] := List.rtakeWhile_concat_neg _ _ _ (by simp)

theorem since_append_of_ne {i j : ι} (h : j ≠ i) (op : Op) (tr : List (ι × Op)) :
    since i (tr ++ [(j, op)]) = since i tr ++ [(j, op)] :=
  List.rtakeWhile_concat_pos _ _ _ (by simpa using h)

theorem since_suffix (i : ι) (tr : List (ι × Op)) : since i tr <:+ tr :=
  List.rtakeWhile_suffix _ _

end Config

end SupplyChainTracker
