import SupplyChainTracker.Core.Async.Flowchart

/-!
# Interleavings of coroutines

Any number of coroutines share one state; a schedule picks who performs its next
call, and calls are atomic. The trace records every call performed. Runs may be
restricted by a condition on the next call and the trace before it.
-/

namespace SupplyChainTracker

variable {ι Op : Type} {Ans : Op → Type} {ε α σ W : Type}

/-- Whether a coroutine has ended. -/
def Coroutine.Done : Coroutine Op Ans ε α → Prop
  | .ret _ => True
  | .raise _ => True
  | .await _ _ => False

instance (p : Coroutine Op Ans ε α) : Decidable p.Done :=
  match p with
  | .ret _ => .isTrue trivial
  | .raise _ => .isTrue trivial
  | .await _ _ => .isFalse id

/-- Coroutines over one shared state, with the calls performed so far. -/
structure Config (ι Op : Type) (Ans : Op → Type) (ε α W : Type) where
  /-- What each participant still has to do. -/
  threads : ι → Coroutine Op Ans ε α
  /-- The shared state. -/
  world : W
  /-- Every call performed, oldest first. -/
  trace : List (ι × Op)

namespace Config

/-- Every participant has ended. -/
def Finished (c : Config ι Op Ans ε α W) : Prop := ∀ i, (c.threads i).Done

section Steps

variable [DecidableEq ι] (act : (op : Op) → W → Except ε (Ans op) × W)

/-- One participant performs its next call; an ended one cannot. -/
def step (i : ι) (c : Config ι Op Ans ε α W) : Option (Config ι Op Ans ε α W) :=
  match c.threads i with
  | .await op k => some {
      threads := Function.update c.threads i (k (act op c.world).1)
      world := (act op c.world).2
      trace := c.trace ++ [(i, op)] }
  | _ => none

/-- Follow a schedule; it must only pick participants that can still move. -/
def exec : List ι → Config ι Op Ans ε α W → Option (Config ι Op Ans ε α W)
  | [], c => some c
  | i :: sched, c => (c.step act i).bind (exec sched)

/-- Every step of the schedule meets a condition on its call and the trace before it. -/
def Along (allowed : List (ι × Op) → ι → Op → Prop) : List ι → Config ι Op Ans ε α W → Prop
  | [], _ => True
  | i :: sched, c =>
      match c.threads i with
      | .await op k => allowed c.trace i op ∧ Along allowed sched {
          threads := Function.update c.threads i (k (act op c.world).1)
          world := (act op c.world).2
          trace := c.trace ++ [(i, op)] }
      | _ => True

/-- Every step of the schedule meets a condition on its call and the configuration before it. -/
def Guarded (allowed : Config ι Op Ans ε α W → ι → Op → Prop) :
    List ι → Config ι Op Ans ε α W → Prop
  | [], _ => True
  | i :: sched, c =>
      match c.threads i with
      | .await op k => allowed c i op ∧ Guarded allowed sched {
          threads := Function.update c.threads i (k (act op c.world).1)
          world := (act op c.world).2
          trace := c.trace ++ [(i, op)] }
      | _ => True

variable {act}

/-- A condition on the trace is a condition on the configuration. -/
theorem Along.guarded {allowed : List (ι × Op) → ι → Op → Prop} {sched : List ι}
    {c : Config ι Op Ans ε α W} (h : c.Along act allowed sched) :
    c.Guarded act (fun c => allowed c.trace) sched := by
  induction sched generalizing c with
  | nil => trivial
  | cons i sched ih =>
    cases hi : c.threads i with
    | await op k =>
      simp only [Along, hi] at h
      simp only [Guarded, hi]
      exact ⟨h.1, ih h.2⟩
    | ret a => simp only [Guarded, hi]
    | raise e => simp only [Guarded, hi]

/-- A step performs the awaited call and nothing else. -/
theorem step_cases {i : ι} {c c' : Config ι Op Ans ε α W} (h : c.step act i = some c') :
    ∃ op k, c.threads i = .await op k ∧
      c' = ⟨Function.update c.threads i (k (act op c.world).1), (act op c.world).2,
        c.trace ++ [(i, op)]⟩ := by
  unfold step at h
  split at h
  · rename_i op k hi
    exact ⟨op, k, hi, (Option.some.inj h).symm⟩
  · contradiction

/-- A schedule may be followed in two parts. -/
theorem exec_append (past later : List ι) (c : Config ι Op Ans ε α W) :
    c.exec act (past ++ later) = (c.exec act past).bind (exec act later) := by
  induction past generalizing c with
  | nil => rfl
  | cons i past ih =>
    simp only [List.cons_append, exec, Option.bind_assoc]
    exact congrArg _ (funext ih)

/-- The trace of a run lists the schedule it followed. -/
theorem exec_trace {sched : List ι} {c c' : Config ι Op Ans ε α W}
    (h : c.exec act sched = some c') :
    c'.trace.map Prod.fst = c.trace.map Prod.fst ++ sched := by
  induction sched generalizing c with
  | nil => simp_all [exec]
  | cons i sched ih =>
    obtain ⟨d, hd, h⟩ := Option.bind_eq_some_iff.mp h
    obtain ⟨op, k, _, rfl⟩ := step_cases hd
    simpa using ih h

end Steps

/-- An answer takes one participant to the next point of its flowchart. -/
theorem threads_of_await [DecidableEq ι] {chart : ι → σ → Node Op Ans ε α σ}
    {prog : ι → σ → Coroutine Op Ans ε α} (hf : ∀ i, Follows (chart i) (prog i))
    {c : Config ι Op Ans ε α W} {st : ι → σ} (hc : c.threads = fun i => prog i (st i)) {i : ι}
    {op : Op} {k : Except ε (Ans op) → Coroutine Op Ans ε α} (hik : c.threads i = .await op k) :
    ∃ next, chart i (st i) = .call op next ∧ ∀ r, Function.update c.threads i (k r) =
      fun j => prog j (Function.update st i (next r) j) := by
  obtain ⟨next, hn, hk⟩ := (hf i).chart_of_await ((congrFun hc i).symm.trans hik)
  refine ⟨next, hn, fun r => ?_⟩
  funext j
  by_cases hj : j = i
  · subst hj
    simp [hk]
  · simp [hj, hc]

section Rules

variable [DecidableEq ι] {act : (op : Op) → W → Except ε (Ans op) × W}
  {allowed : Config ι Op Ans ε α W → ι → Op → Prop}

variable (act) in
/-- The configuration after a participant's call has been answered. -/
abbrev answered (c : Config ι Op Ans ε α W) (i : ι) (op : Op)
    (k : Except ε (Ans op) → Coroutine Op Ans ε α) : Config ι Op Ans ε α W where
  threads := Function.update c.threads i (k (act op c.world).1)
  world := (act op c.world).2
  trace := c.trace ++ [(i, op)]

/-- What every allowed step keeps holds at the end of every run whose steps are all allowed. -/
theorem exec_of_step (inv : Config ι Op Ans ε α W → Prop)
    (hinv : ∀ c i op k, inv c → c.threads i = .await op k → allowed c i op →
      inv (c.answered act i op k))
    {sched : List ι} {c c' : Config ι Op Ans ε α W} (hi : inv c)
    (hal : c.Guarded act allowed sched) (h : c.exec act sched = some c') : inv c' := by
  induction sched generalizing c with
  | nil => exact Option.some.inj h ▸ hi
  | cons i sched ih =>
    obtain ⟨d, hd, h⟩ := Option.bind_eq_some_iff.mp h
    obtain ⟨op, k, hik, rfl⟩ := step_cases hd
    simp only [Guarded, hik] at hal
    exact ih (hinv c i op k hi hik hal.1) hal.2 h

/-- Where every step keeps a condition exactly when it is allowed, and an invariant as long as the
condition holds, all configurations of a run meet the condition exactly when all its steps are
allowed. -/
theorem forall_reached_iff_of_step (inv : Config ι Op Ans ε α W → Prop)
    {P : Config ι Op Ans ε α W → Prop}
    (hinv : ∀ c i op k, inv c → P c → c.threads i = .await op k → P (c.answered act i op k) →
      inv (c.answered act i op k))
    (hstep : ∀ c i op k, inv c → P c → c.threads i = .await op k →
      (P (c.answered act i op k) ↔ allowed c i op))
    {sched : List ι} {c c' : Config ι Op Ans ε α W} (hi : inv c) (hP : P c)
    (h : c.exec act sched = some c') :
    (∀ past d, past <+: sched → c.exec act past = some d → P d) ↔ c.Guarded act allowed sched := by
  induction sched generalizing c with
  | nil =>
    refine iff_of_true (fun past d hpast hd => ?_) trivial
    rw [List.prefix_nil.mp hpast] at hd
    exact Option.some.inj hd ▸ hP
  | cons i sched ih =>
    obtain ⟨d, hd, h⟩ := Option.bind_eq_some_iff.mp h
    obtain ⟨op, k, hik, rfl⟩ := step_cases hd
    have hone := hstep c i op k hi hP hik
    have hrest := fun hP' => ih (hinv c i op k hi hP hik hP') hP' h
    simp only [Guarded, hik]
    constructor
    · intro hall
      have hP' := hall [i] _ (by simp) (by simpa [exec] using hd)
      refine ⟨hone.mp hP', (hrest hP').mp fun past d' hpast hd' => ?_⟩
      exact hall (i :: past) d' (List.cons_prefix_cons.mpr ⟨rfl, hpast⟩)
        (Option.bind_eq_some_iff.mpr ⟨_, hd, hd'⟩)
    · rintro ⟨hallowed, hguarded⟩ past d' hpast hd'
      cases past with
      | nil => exact Option.some.inj hd' ▸ hP
      | cons j past =>
        obtain ⟨rfl, hpast'⟩ := List.cons_prefix_cons.mp hpast
        obtain ⟨e, he, hd'⟩ := Option.bind_eq_some_iff.mp hd'
        cases hd.symm.trans he
        exact (hrest (hone.mpr hallowed)).mpr hguarded past d' hpast' hd'

end Rules

/-- An invariant of the flowchart points, the shared state and the trace that every
allowed step keeps holds at the end of every run whose steps are all allowed. -/
theorem exec_guarded_invariant [DecidableEq ι] {act : (op : Op) → W → Except ε (Ans op) × W}
    {chart : ι → σ → Node Op Ans ε α σ} {prog : ι → σ → Coroutine Op Ans ε α}
    (hf : ∀ i, Follows (chart i) (prog i)) {allowed : Config ι Op Ans ε α W → ι → Op → Prop}
    (inv : (ι → σ) → W → List (ι × Op) → Prop)
    (hinv : ∀ st w tr i op next, inv st w tr → chart i (st i) = .call op next →
      allowed ⟨fun j => prog j (st j), w, tr⟩ i op →
      inv (Function.update st i (next (act op w).1)) (act op w).2 (tr ++ [(i, op)]))
    {sched : List ι} {c c' : Config ι Op Ans ε α W} (st : ι → σ)
    (hc : c.threads = fun i => prog i (st i)) (hi : inv st c.world c.trace)
    (hal : c.Guarded act allowed sched) (h : c.exec act sched = some c') :
    ∃ st', c'.threads = (fun i => prog i (st' i)) ∧ inv st' c'.world c'.trace := by
  refine exec_of_step (fun c => ∃ st : ι → σ, c.threads = (fun i => prog i (st i)) ∧
    inv st c.world c.trace) ?_ ⟨st, hc, hi⟩ hal h
  rintro ⟨threads, w, tr⟩ i op k ⟨st, hst, hi⟩ hik hallowed
  obtain ⟨next, hn, hnext⟩ := threads_of_await hf hst hik
  cases hst
  exact ⟨_, hnext _, hinv st w tr i op next hi hn hallowed⟩

/-- Where every step keeps a condition exactly when it is allowed, all configurations of a run
meet the condition exactly when all its steps are allowed. -/
theorem forall_reached_iff_guarded [DecidableEq ι] {act : (op : Op) → W → Except ε (Ans op) × W}
    {chart : ι → σ → Node Op Ans ε α σ} {prog : ι → σ → Coroutine Op Ans ε α}
    (hf : ∀ i, Follows (chart i) (prog i)) {allowed : Config ι Op Ans ε α W → ι → Op → Prop}
    {P : Config ι Op Ans ε α W → Prop} (inv : (ι → σ) → W → Prop)
    (hinv : ∀ st w i op next, inv st w → chart i (st i) = .call op next →
      inv (Function.update st i (next (act op w).1)) (act op w).2)
    (hstep : ∀ st w tr i op next, inv st w → chart i (st i) = .call op next →
      P ⟨fun j => prog j (st j), w, tr⟩ →
      (P ⟨fun j => prog j (Function.update st i (next (act op w).1) j), (act op w).2,
        tr ++ [(i, op)]⟩ ↔ allowed ⟨fun j => prog j (st j), w, tr⟩ i op))
    {sched : List ι} {c c' : Config ι Op Ans ε α W} (st : ι → σ)
    (hc : c.threads = fun i => prog i (st i)) (hi : inv st c.world) (hP : P c)
    (h : c.exec act sched = some c') :
    (∀ past d, past <+: sched → c.exec act past = some d → P d) ↔ c.Guarded act allowed sched := by
  refine forall_reached_iff_of_step (fun c => ∃ st : ι → σ,
    c.threads = (fun i => prog i (st i)) ∧ inv st c.world) ?_ ?_ ⟨st, hc, hi⟩ hP h
  · rintro ⟨threads, w, tr⟩ i op k ⟨st, hst, hi⟩ _ hik _
    obtain ⟨next, hn, hnext⟩ := threads_of_await hf hst hik
    exact ⟨_, hnext _, hinv st w i op next hi hn⟩
  · rintro ⟨threads, w, tr⟩ i op k ⟨st, hst, hi⟩ hP hik
    obtain ⟨next, hn, hnext⟩ := threads_of_await hf hst hik
    have hthreads := hnext (act op w).1
    cases hst
    have hs := hstep st w tr i op next hi hn hP
    rwa [← hthreads] at hs

/-- The same rule for a condition on the next call and the trace before it. -/
theorem exec_invariant [DecidableEq ι] {act : (op : Op) → W → Except ε (Ans op) × W}
    {chart : ι → σ → Node Op Ans ε α σ} {prog : ι → σ → Coroutine Op Ans ε α}
    (hf : ∀ i, Follows (chart i) (prog i)) {allowed : List (ι × Op) → ι → Op → Prop}
    {inv : (ι → σ) → W → List (ι × Op) → Prop}
    (hinv : ∀ st w tr i op next, inv st w tr → chart i (st i) = .call op next →
      allowed tr i op →
      inv (Function.update st i (next (act op w).1)) (act op w).2 (tr ++ [(i, op)]))
    {sched : List ι} {c c' : Config ι Op Ans ε α W} {st : ι → σ}
    (hc : c.threads = fun i => prog i (st i)) (hi : inv st c.world c.trace)
    (hal : c.Along act allowed sched) (h : c.exec act sched = some c') :
    ∃ st', c'.threads = (fun i => prog i (st' i)) ∧ inv st' c'.world c'.trace :=
  exec_guarded_invariant hf inv hinv st hc hi hal.guarded h

/-- A run with no condition on its steps. -/
theorem along_true [DecidableEq ι] {act : (op : Op) → W → Except ε (Ans op) × W}
    (sched : List ι) (c : Config ι Op Ans ε α W) : c.Along act (fun _ _ _ => True) sched := by
  induction sched generalizing c with
  | nil => trivial
  | cons i sched ih =>
    unfold Along
    split
    · exact ⟨trivial, ih _⟩
    · trivial

/-- An ended participant is at an ended node of its flowchart. -/
theorem chart_halt_of_done {chart : σ → Node Op Ans ε α σ} {prog : σ → Coroutine Op Ans ε α}
    (hf : Follows chart prog) {s : σ} (h : (prog s).Done) : ∃ r, chart s = .halt r := by
  cases hp : prog s with
  | ret a => exact ⟨_, hf.chart_of_ofExcept (r := .ok a) hp⟩
  | raise e => exact ⟨_, hf.chart_of_ofExcept (r := .error e) hp⟩
  | await op k => simp [hp, Coroutine.Done] at h

end Config

end SupplyChainTracker
