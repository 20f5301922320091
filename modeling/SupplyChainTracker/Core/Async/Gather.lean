import Mathlib.Data.List.Forall2
import SupplyChainTracker.Core.Async.Protocol

/-!
# Gathered tasks

Tasks of one coroutine that take turns at its calls. Where each task keeps a protocol of
its own and leaves alone what the others rely on, all of them together keep the joint one.
-/

namespace SupplyChainTracker

namespace Coroutine

variable {Op : Type} {Ans : Op → Type} {ε α β σ τ O κ : Type}

/-- `asyncio.gather` of tasks from which no exception escapes: as long as the event loop picks, the
picked task goes on to its next call; the tasks that are left then end one after the other. -/
def gather : List Nat → List (Coroutine Op Ans ε α) → Coroutine Op Ans ε Unit
  | [], tasks => Coroutine.inTurn id tasks
  | pick :: picks, tasks =>
      match tasks[pick]? with
      | some (.await op k) => .await op fun r => gather picks (tasks.set pick (k r))
      | _ => gather picks tasks

/-- Each task has an object and a protocol of its own. What it relies on of the joint state
survives its own steps, and those of the tasks whose objects have other keys. -/
structure Shares (P : Protocol Op Ans ε σ) (L : O → Protocol Op Ans ε τ) (R : O → τ → σ → Prop)
    (key : O → κ) : Prop where
  may : ∀ {o t s op}, R o t s → (L o).may t op → P.may s op
  own : ∀ {o t s op r}, R o t s → (L o).may t op → P.expects op r →
    (L o).expects op r ∧ R o ((L o).next t op r) (P.next s op r)
  others : ∀ {o o' t t' s op r}, key o ≠ key o' → R o t s → (L o).may t op → P.expects op r →
    R o' t' s → R o' t' (P.next s op r)

/-- What is left of the task of an object, with the end that it promises. -/
def Held (L : O → Protocol Op Ans ε τ) (R : O → τ → σ → Prop) (Q : O → τ → Prop) (s : σ) (o : O)
    (p : Coroutine Op Ans ε α) : Prop :=
  ∃ t, R o t s ∧ p.Keeps (L o) (fun _ t => Q o t) t

/-- The task of an object has ended as it has promised. -/
def Ended (R : O → τ → σ → Prop) (Q : O → τ → Prop) (s : σ) (o : O) : Prop := ∃ t, R o t s ∧ Q o t

section Rule

variable {P : Protocol Op Ans ε σ} {L : O → Protocol Op Ans ε τ} {R : O → τ → σ → Prop}
  {key : O → κ} {Q : O → τ → Prop} {s : σ} {o o' : O} {op : Op} {r : Except ε (Ans op)}
  {p : Coroutine Op Ans ε α} {k : Except ε (Ans op) → Coroutine Op Ans ε α}

theorem Held.ended (h : Held L R Q s o p) (hdone : p.Done) : Ended R Q s o := by
  obtain ⟨t, ht, hp⟩ := h
  cases p with
  | ret a => exact ⟨t, ht, hp⟩
  | raise e => exact ⟨t, ht, hp⟩
  | await op k => exact hdone.elim

/-- The next call of a task is one that may come next. -/
theorem Held.may (hshares : Shares P L R key) (h : Held L R Q s o (.await op k)) : P.may s op := by
  obtain ⟨t, ht, hmay, _⟩ := h
  exact hshares.may ht hmay

/-- An answer leaves the rest of the task. -/
theorem Held.answered (hshares : Shares P L R key) (h : Held L R Q s o (.await op k))
    (hr : P.expects op r) : Held L R Q (P.next s op r) o (k r) := by
  obtain ⟨t, ht, hmay, hk⟩ := h
  obtain ⟨hexp, hnext⟩ := hshares.own ht hmay hr
  exact ⟨_, hnext, hk r hexp⟩

/-- The answer to one task leaves the others as they are. -/
theorem Held.other {p : Coroutine Op Ans ε β} (hshares : Shares P L R key)
    (h : Held L R Q s o (.await op k)) (hkey : key o ≠ key o') (hr : P.expects op r)
    (h' : Held L R Q s o' p) : Held L R Q (P.next s op r) o' p := by
  obtain ⟨t, ht, hmay, _⟩ := h
  obtain ⟨t', ht', hp⟩ := h'
  exact ⟨t', hshares.others hkey ht hmay hr ht', hp⟩

/-- A task that is run to its end keeps the joint protocol, and whatever its steps leave alone. -/
theorem Held.keeps (hshares : Shares P L R key) (frame : σ → Prop)
    (hframe : ∀ {s t op r}, R o t s → (L o).may t op → P.expects op r → frame s →
      frame (P.next s op r))
    (h : Held L R Q s o p) (hs : frame s) :
    p.Keeps P (fun _ s => frame s ∧ Ended R Q s o) s := by
  induction p generalizing s with
  | ret a => exact ⟨hs, h.ended trivial⟩
  | raise e => exact ⟨hs, h.ended trivial⟩
  | await op k ih =>
    refine ⟨h.may hshares, fun r hr => ih r (h.answered hshares hr) ?_⟩
    obtain ⟨t, ht, hmay, _⟩ := h
    exact hframe ht hmay hr hs

/-- Tasks that end one after the other, beside some that have ended already. -/
theorem Keeps.inTurn_held (hshares : Shares P L R key) (frame : σ → Prop)
    (hframe : ∀ {o s t op r}, R o t s → (L o).may t op → P.expects op r → frame s →
      frame (P.next s op r))
    {past os : List O} {tasks : List (Coroutine Op Ans ε α)}
    (hkeys : ((past ++ os).map key).Nodup) (hs : frame s) (hpast : ∀ o ∈ past, Ended R Q s o)
    (htasks : List.Forall₂ (Held L R Q s) os tasks) :
    (Coroutine.inTurn id tasks).Keeps P
      (fun _ s => frame s ∧ ∀ o ∈ past ++ os, Ended R Q s o) s := by
  induction tasks generalizing past os s with
  | nil =>
    cases htasks
    exact (keeps_ret ..).mpr ⟨hs, by simpa using hpast⟩
  | cons p tasks ih =>
    cases htasks with
    | @cons o _ os _ hp htasks =>
      have hne : ∀ o' ∈ past ++ os, key o ≠ key o' := by
        intro o' ho' heq
        have hmiddle := (List.perm_middle.map key).nodup_iff.mp hkeys
        exact (List.nodup_cons.mp hmiddle).1 (heq ▸ List.mem_map_of_mem ho')
      have hone := hp.keeps hshares
        (fun s => frame s ∧ (∀ o ∈ past, Ended R Q s o) ∧ List.Forall₂ (Held L R Q s) os tasks)
        ?_ ⟨hs, hpast, htasks⟩
      · refine Keeps.bind (Keeps.tryCatch (Keeps.bind (Keeps.mono ?_ hone)))
        rintro result s' ⟨⟨hs', hpast', htasks'⟩, ho⟩
        have hpast'' : ∀ o' ∈ past ++ [o], Ended R Q s' o' := by
          intro o' ho'
          rcases List.mem_append.mp ho' with ho' | ho'
          · exact hpast' o' ho'
          · exact List.mem_singleton.mp ho' ▸ ho
        have hrest := ih (by simpa using hkeys) hs' hpast'' htasks'
        rw [List.append_assoc] at hrest
        cases result <;> exact hrest
      · rintro s' t op r ht hmay hr ⟨hs', hpast', htasks'⟩
        refine ⟨hframe ht hmay hr hs', fun o' ho' => ?_, ?_⟩
        · obtain ⟨t', ht', hend⟩ := hpast' o' ho'
          have hkey := hne o' (List.mem_append_left _ ho')
          exact ⟨t', hshares.others hkey ht hmay hr ht', hend⟩
        · have hkeys' : ∀ o' ∈ os, key o ≠ key o' :=
            fun o' ho' => hne o' (List.mem_append_right _ ho')
          refine List.Forall₂.imp ?_ ((List.forall₂_and_left os tasks).mpr ⟨hkeys', htasks'⟩)
          rintro o' p' ⟨hkey, t', ht', hp'⟩
          exact ⟨t', hshares.others hkey ht hmay hr ht', hp'⟩

/-- What stands at one position of the second of two related lists. -/
theorem forall₂_getElem? {A B : Type} {S : A → B → Prop} {as : List A} {bs : List B}
    (h : List.Forall₂ S as bs) {n : Nat} {b : B} (hb : bs[n]? = some b) :
    ∃ a, as[n]? = some a ∧ S a b := by
  obtain ⟨hlength, hget⟩ := List.forall₂_iff_get.mp h
  obtain ⟨hn, rfl⟩ := List.getElem?_eq_some_iff.mp hb
  have hn' : n < as.length := hlength ▸ hn
  exact ⟨as[n], List.getElem?_eq_getElem hn', hget n hn' hn⟩

/-- A change at one position of related lists, where the rest stays related. -/
theorem forall₂_set {A B : Type} {S S' : A → B → Prop} {as : List A} {bs : List B}
    (h : List.Forall₂ S as bs) {n : Nat} {a : A} {b : B} (ha : as[n]? = some a) (hb : S' a b)
    (hrest : ∀ m a' b', m ≠ n → as[m]? = some a' → S a' b' → S' a' b') :
    List.Forall₂ S' as (bs.set n b) := by
  obtain ⟨hlength, hget⟩ := List.forall₂_iff_get.mp h
  refine List.forall₂_iff_get.mpr ⟨by simpa using hlength, fun m hm hm' => ?_⟩
  simp only [List.get_eq_getElem, List.getElem_set]
  split_ifs with hnm
  · subst hnm
    rw [List.getElem?_eq_getElem hm, Option.some.injEq] at ha
    exact ha ▸ hb
  · exact hrest m _ _ (Ne.symm hnm) (List.getElem?_eq_getElem hm)
      (hget m hm (by simpa using hm'))

/-- Gathered tasks whose objects have different keys keep the joint protocol and whatever no step
of theirs disturbs, and all of them end as they have promised. -/
theorem Keeps.gather (hshares : Shares P L R key) (frame : σ → Prop)
    (hframe : ∀ {o s t op r}, R o t s → (L o).may t op → P.expects op r → frame s →
      frame (P.next s op r))
    {os : List O} (hkeys : (os.map key).Nodup) (picks : List Nat)
    {tasks : List (Coroutine Op Ans ε α)} (hs : frame s)
    (htasks : List.Forall₂ (Held L R Q s) os tasks) :
    (gather picks tasks).Keeps P (fun _ s => frame s ∧ ∀ o ∈ os, Ended R Q s o) s := by
  induction picks generalizing tasks s with
  | nil =>
    have hpast : ∀ o ∈ ([] : List O), Ended R Q s o := fun _ ho => nomatch ho
    rw [Coroutine.gather, ← List.nil_append os]
    exact Keeps.inTurn_held hshares frame hframe hkeys hs hpast htasks
  | cons pick picks ih =>
    cases hp : tasks[pick]? with
    | none => simpa only [Coroutine.gather, hp] using ih hs htasks
    | some p =>
      cases p with
      | ret a => simpa only [Coroutine.gather, hp] using ih hs htasks
      | raise e => simpa only [Coroutine.gather, hp] using ih hs htasks
      | await op k =>
        obtain ⟨o, ho, hheld⟩ := forall₂_getElem? htasks hp
        simp only [Coroutine.gather, hp]
        refine ⟨hheld.may hshares, fun r hr => ih ?_ ?_⟩
        · obtain ⟨t, ht, hmay, _⟩ := hheld
          exact hframe ht hmay hr hs
        · refine forall₂_set htasks ho (hheld.answered hshares hr) fun m o' p' hm ho' hp' => ?_
          have hkey : key o ≠ key o' := by
            have hm' := (List.getElem?_eq_some_iff.mp ho').1
            have hinj := List.getElem?_inj (by simpa using hm') hkeys (j := pick)
            simp only [List.getElem?_map, ho, ho', Option.map_some, Option.some.injEq] at hinj
            exact fun heq => hm (hinj.mp heq.symm)
          exact hheld.other hshares hkey hr hp'

end Rule

section Steady

variable {P : Protocol Op Ans ε σ} {s : σ} {tasks : List (Coroutine Op Ans ε α)}

/-- Where no answer changes the state of the protocol, it stays as it is. -/
theorem Keeps.steady (hsteady : ∀ s op r, P.next s op r = s) {post : Except ε α → σ → Prop}
    {p : Coroutine Op Ans ε α} (h : p.Keeps P post s) : p.Keeps P (fun _ s' => s' = s) s := by
  induction p with
  | ret a => rfl
  | raise e => rfl
  | await op k ih =>
    refine ⟨h.1, fun r hr => ?_⟩
    have hk := h.2 r hr
    rw [hsteady] at hk ⊢
    exact ih r hk

/-- Where no answer changes the state of the protocol, gathered tasks keep it if each of them
does. -/
theorem Keeps.gather_steady (hsteady : ∀ s op r, P.next s op r = s) (picks : List Nat)
    (htasks : ∀ p ∈ tasks, p.Keeps P (fun _ _ => True) s) :
    (Coroutine.gather picks tasks).Keeps P (fun _ s' => s' = s) s := by
  induction picks generalizing tasks with
  | nil =>
    rw [Coroutine.gather]
    induction tasks with
    | nil => rfl
    | cons p tasks ih =>
      have hp := (htasks p (List.mem_cons_self ..)).steady hsteady
      refine Keeps.bind (Keeps.tryCatch (Keeps.bind (Keeps.mono ?_ hp)))
      rintro result _ rfl
      have hrest := ih fun q hq => htasks q (List.mem_cons_of_mem _ hq)
      cases result <;> exact hrest
  | cons pick picks ih =>
    cases hpick : tasks[pick]? with
    | none => simpa only [Coroutine.gather, hpick] using ih htasks
    | some p =>
      cases p with
      | ret a => simpa only [Coroutine.gather, hpick] using ih htasks
      | raise e => simpa only [Coroutine.gather, hpick] using ih htasks
      | await op k =>
        have hp := htasks _ (List.mem_of_getElem? hpick)
        simp only [Coroutine.gather, hpick]
        refine ⟨hp.1, fun r hr => ?_⟩
        have hk := hp.2 r hr
        rw [hsteady] at hk ⊢
        refine ih fun q hq => ?_
        rcases List.mem_or_eq_of_mem_set hq with hq | rfl
        · exact htasks q hq
        · exact hk

end Steady

end Coroutine

end SupplyChainTracker
