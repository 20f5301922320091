import Mathlib.Data.List.Induction
import Mathlib.Tactic.Common

/-!
# Maps whose entries expire

A map is changed by operations that keep, discard or put the entry of a key, so an entry is
there exactly when the last operation on its key put it. An entry may carry a deadline; it
reads as its value up to the deadline and as nothing afterwards.
-/

namespace SupplyChainTracker

/-- A value with the last time at which it is read. -/
structure TtlEntry (V T : Type*) where
  value : V
  deadline : Option T

/-- What a map stores under each key. -/
abbrev TtlMap (K V T : Type*) := K → Option (TtlEntry V T)

namespace TtlEntry

variable {V T : Type*} [LE T] [DecidableLE T]

/-- An entry read at a time. -/
def read (entry : TtlEntry V T) (now : T) : Option V :=
  match entry.deadline with
  | none => some entry.value
  | some deadline => if now ≤ deadline then some entry.value else none

@[simp] theorem read_lasting (v : V) (now : T) : read ⟨v, none⟩ now = some v := rfl

theorem read_of_le (v : V) {deadline now : T} (h : now ≤ deadline) :
    read ⟨v, some deadline⟩ now = some v := if_pos h

theorem read_of_not_le (v : V) {deadline now : T} (h : ¬ now ≤ deadline) :
    read ⟨v, some deadline⟩ now = none := if_neg h

end TtlEntry

/-- The value under a key at a time. -/
def TtlMap.lookup {K V T : Type*} [LE T] [DecidableLE T] (m : TtlMap K V T) (key : K) (now : T) :
    Option V :=
  (m key).bind (·.read now)

/-- What an operation does to the entry of one key. -/
inductive KeyEffect (E : Type*)
  | keep
  | discard
  | put (entry : E)

/-- The entry after an operation. -/
def KeyEffect.on {E : Type*} : KeyEffect E → Option E → Option E
  | keep, entry => entry
  | discard, _ => none
  | put entry, _ => some entry

section LastWrite

variable {O K E : Type*} (effect : O → K → KeyEffect E)

/-- The map after one more operation. -/
def applyEffect (m : K → Option E) (o : O) : K → Option E :=
  fun key => (effect o key).on (m key)

/-- The map after a list of operations on the empty one. -/
def mapAfter (os : List O) : K → Option E :=
  os.foldl (applyEffect effect) fun _ => none

theorem mapAfter_concat (os : List O) (o : O) :
    mapAfter effect (os ++ [o]) = applyEffect effect (mapAfter effect os) o := by
  simp only [mapAfter, List.foldl_append, List.foldl_cons, List.foldl_nil]

/-- An entry is stored exactly when the last operation that did not keep the entries of its
key put it there. -/
theorem mapAfter_eq_some_iff (os : List O) (key : K) (entry : E) :
    mapAfter effect os key = some entry ↔
      ∃ before o after, os = before ++ o :: after ∧ effect o key = .put entry ∧
        ∀ o' ∈ after, effect o' key = .keep := by
  induction os using List.reverseRecOn with
  | nil => simp [mapAfter]
  | append_singleton os o ih =>
    rw [mapAfter_concat]
    constructor
    · intro h
      cases he : effect o key with
      | keep =>
        simp only [applyEffect, he, KeyEffect.on] at h
        obtain ⟨before, o', after, rfl, hput, hkeep⟩ := ih.mp h
        refine ⟨before, o', after ++ [o], by simp, hput, fun o'' ho'' => ?_⟩
        rcases List.mem_append.mp ho'' with ho'' | ho''
        · exact hkeep o'' ho''
        · rw [List.mem_singleton.mp ho'', he]
      | discard => simp [applyEffect, he, KeyEffect.on] at h
      | put entry' =>
        simp only [applyEffect, he, KeyEffect.on, Option.some.injEq] at h
        exact ⟨os, o, [], rfl, h ▸ he, by simp⟩
    · rintro ⟨before, o', after, hos, hput, hkeep⟩
      rcases List.eq_nil_or_concat after with rfl | ⟨after, o'', rfl⟩
      · obtain ⟨-, rfl⟩ : os = before ∧ o = o' := by simpa using List.append_inj' hos rfl
        simp [applyEffect, hput, KeyEffect.on]
      · have hsplit : os ++ [o] = (before ++ o' :: after) ++ [o''] := by simpa using hos
        obtain ⟨hinit, hlast⟩ := List.append_inj' hsplit rfl
        obtain rfl : o = o'' := by simpa using hlast
        have ho : effect o key = .keep := hkeep o (by simp)
        simp only [applyEffect, ho, KeyEffect.on]
        exact ih.mpr ⟨before, o', after, hinit, hput, fun o'' ho'' => hkeep o'' (by simp [ho''])⟩

end LastWrite

end SupplyChainTracker
