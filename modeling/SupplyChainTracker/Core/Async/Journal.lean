import SupplyChainTracker.Core.Async.Protocol

/-!
# Shared states that remember their calls

A journal is a shared state together with the calls performed on it and the exceptions that
coming calls are made to raise. Coroutines that are interleaved over a journal may then be held
to what the calls of all of them were answered, any single one of which may have failed.
-/

namespace SupplyChainTracker

open Coroutine (Performed)

variable {ι Op : Type} {Ans : Op → Type} {ε α σ W : Type}

/-- A shared state, the calls performed on it and the exceptions injected into coming ones. -/
structure Journal (Op : Type) (Ans : Op → Type) (ε W : Type) where
  /-- The shared state. -/
  world : W
  /-- The exceptions that the coming calls raise. -/
  faults : Nat → Option ε
  /-- The calls performed so far, oldest first. -/
  entries : List (Performed Op Ans ε W)

namespace Journal

/-- Nothing has been performed yet. -/
def start (w : W) (faults : Nat → Option ε) : Journal Op Ans ε W := ⟨w, faults, []⟩

variable (act : (op : Op) → W → Except ε (Ans op) × W)

/-- A call is answered by the machine or made to raise, and is written down. -/
def perform (op : Op) (j : Journal Op Ans ε W) : Except ε (Ans op) × Journal Op Ans ε W :=
  let answered := Coroutine.answer act (j.faults 0) op j.world
  (answered.1, {
    world := answered.2
    faults := fun n => j.faults (n + 1)
    entries := j.entries ++ [⟨op, answered.1, answered.2⟩] })

/-- A call raises without effect, or is answered by the machine; either way it is written down. -/
theorem perform_cases (op : Op) (j : Journal Op Ans ε W) :
    (∃ e, (perform act op j).1 = .error e ∧ (perform act op j).2.world = j.world ∧
      (perform act op j).2.entries = j.entries ++ [⟨op, .error e, j.world⟩]) ∨
    ((perform act op j).1 = (act op j.world).1 ∧
      (perform act op j).2.world = (act op j.world).2 ∧
      (perform act op j).2.entries =
        j.entries ++ [⟨op, (act op j.world).1, (act op j.world).2⟩]) := by
  cases h : j.faults 0 with
  | some e => exact .inl ⟨e, by simp [perform, h]⟩
  | none => exact .inr (by simp [perform, h])

variable {act}

/-- What a journal knows of a call is the last thing written down. -/
theorem entries_perform (op : Op) (j : Journal Op Ans ε W) :
    (perform act op j).2.entries =
      j.entries ++ [⟨op, (perform act op j).1, (perform act op j).2.world⟩] := rfl

section Runs

variable [DecidableEq ι] {P : ι → Protocol Op Ans ε σ} {Q : ι → α → σ → Prop}

/-- What the calls so far tell about each participant's protocol state and about the shared state
holds at the end of every run, if no further call can refute it and each call keeps it for the
participant that performs it. -/
theorem exec_conforms (known : ι → σ → List (Performed Op Ans ε W) → Prop)
    (shared : Journal Op Ans ε W → Prop)
    (hmono : ∀ i s entries entry, known i s entries → known i s (entries ++ [entry]))
    (hstep : ∀ i s op (j : Journal Op Ans ε W), known i s j.entries → shared j → (P i).may s op →
      (P i).expects op (perform act op j).1 ∧
        known i ((P i).next s op (perform act op j).1) (perform act op j).2.entries ∧
        shared (perform act op j).2)
    {sched : List ι} {c c' : Config ι Op Ans ε α (Journal Op Ans ε W)} (st : ι → σ)
    (hc : c.Conforms P Q st) (hknown : ∀ i, known i (st i) c.world.entries)
    (hshared : shared c.world) (h : c.exec (perform act) sched = some c') :
    ∃ st', c'.Conforms P Q st' ∧ (∀ i, known i (st' i) c'.world.entries) ∧ shared c'.world := by
  refine Config.exec_conforms
    (fun st j _ => (∀ i, known i (st i) j.entries) ∧ shared j) ?_ st hc ⟨hknown, hshared⟩ h
  rintro st j tr i op ⟨hknown, hshared⟩ hmay
  obtain ⟨hexp, hi, hshared'⟩ := hstep i (st i) op j (hknown i) hshared hmay
  refine ⟨hexp, fun k => ?_, hshared'⟩
  by_cases hk : k = i
  · subst hk
    simpa using hi
  · rw [Function.update_of_ne hk, entries_perform]
    exact hmono _ _ _ _ (hknown k)

/-- What every call of the machine leads to, and what is written down of it, holds of every run of
any coroutines. -/
theorem exec_of_act (inv : W → List (Performed Op Ans ε W) → Prop)
    (hfault : ∀ op e w entries, inv w entries → inv w (entries ++ [⟨op, .error e, w⟩]))
    (hact : ∀ op w entries, inv w entries →
      inv (act op w).2 (entries ++ [⟨op, (act op w).1, (act op w).2⟩]))
    {sched : List ι} {c c' : Config ι Op Ans ε α (Journal Op Ans ε W)}
    (hi : inv c.world.world c.world.entries) (h : c.exec (perform act) sched = some c') :
    inv c'.world.world c'.world.entries := by
  refine Config.exec_of_step (fun d => inv d.world.world d.world.entries) ?_ hi
    (Config.along_true sched c).guarded h
  intro d i op k hd _ _
  rcases d.world.perform_cases act op with ⟨e, _, hworld, hentries⟩ | ⟨_, hworld, hentries⟩
  · exact hworld ▸ hentries ▸ hfault op e _ _ hd
  · exact hworld ▸ hentries ▸ hact op _ _ hd

end Runs

end Journal

end SupplyChainTracker
