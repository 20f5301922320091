import Mathlib.Data.List.Forall2
import Mathlib.Tactic.Common

/-!
# Results that may be exceptions

What a sequence of steps that may raise returns, and what it raises.
-/

namespace SupplyChainTracker

variable {ε α β : Type}

/-- A sequence returns when its first step does and the rest returns from there. -/
theorem bind_eq_ok_iff {x : Except ε α} {f : α → Except ε β} {b : β} :
    (x >>= f) = .ok b ↔ ∃ a, x = .ok a ∧ f a = .ok b := by
  constructor
  · intro h
    cases x with
    | error e => cases h
    | ok a => exact ⟨a, rfl, h⟩
  · rintro ⟨a, rfl, h⟩
    exact h

/-- A sequence raises what its first step does, or the rest where that returns. -/
theorem bind_eq_error_iff {x : Except ε α} {f : α → Except ε β} {e : ε} :
    (x >>= f) = .error e ↔ x = .error e ∨ ∃ a, x = .ok a ∧ f a = .error e := by
  cases x with
  | error e' => simp [bind, Except.bind]
  | ok a => simp [bind, Except.bind]

/-- A result is an option of what it returns. -/
theorem toOption_eq_some_iff {x : Except ε α} {a : α} : x.toOption = some a ↔ x = .ok a := by
  cases x with
  | error e => exact iff_of_false (fun h => by cases h) (fun h => by cases h)
  | ok a' =>
    constructor
    · intro h
      cases h
      rfl
    · intro h
      cases h
      rfl

/-- Where a function is undone by another one, it is undone on optional values too. -/
theorem option_mapM_eq_ok_iff {f : α → Except ε β} {g : β → α}
    (hf : ∀ a b, f a = .ok b ↔ a = g b) {a? : Option α} {b? : Option β} :
    a?.mapM f = .ok b? ↔ a? = b?.map g := by
  cases a? with
  | none =>
    cases b? with
    | none => exact iff_of_true rfl rfl
    | some b => exact iff_of_false (fun h => by cases h) (fun h => by cases h)
  | some a =>
    refine Iff.trans (bind_eq_ok_iff (f := fun b => .ok (some b))) ?_
    cases b? with
    | none => exact iff_of_false (fun ⟨b, _, h⟩ => by cases h) (fun h => by cases h)
    | some b => simp [hf]

/-- A list is mapped when each of its elements is. -/
theorem exists_mapM_eq_ok {f : α → Except ε β} {xs : List α} (h : ∀ x ∈ xs, ∃ y, f x = .ok y) :
    ∃ ys, xs.mapM f = .ok ys ∧ List.Forall₂ (fun x y => f x = .ok y) xs ys := by
  induction xs with
  | nil => exact ⟨[], rfl, .nil⟩
  | cons x xs ih =>
    obtain ⟨⟨y, hy⟩, hxs⟩ := List.forall_mem_cons.mp h
    obtain ⟨ys, hys, hall⟩ := ih hxs
    refine ⟨y :: ys, ?_, .cons hy hall⟩
    rw [List.mapM_cons]
    exact bind_eq_ok_iff.mpr ⟨y, hy, bind_eq_ok_iff.mpr ⟨ys, hys, rfl⟩⟩

/-- What a list is mapped to is what its elements are. -/
theorem mapM_eq_ok_iff {f : α → Except ε β} {xs : List α} {ys : List β} :
    xs.mapM f = .ok ys ↔ List.Forall₂ (fun x y => f x = .ok y) xs ys := by
  constructor
  · intro h
    have hreads : ∀ x ∈ xs, ∃ y, f x = .ok y := by
      induction xs generalizing ys with
      | nil => simp
      | cons x xs ih =>
        rw [List.mapM_cons] at h
        obtain ⟨y, hy, h⟩ := bind_eq_ok_iff.mp h
        obtain ⟨ys, hys, _⟩ := bind_eq_ok_iff.mp h
        exact List.forall_mem_cons.mpr ⟨⟨y, hy⟩, ih hys⟩
    obtain ⟨ys', hys', hall⟩ := exists_mapM_eq_ok hreads
    cases hys'.symm.trans h
    exact hall
  · intro h
    induction h with
    | nil => rfl
    | cons hx _ ih =>
      rw [List.mapM_cons]
      exact bind_eq_ok_iff.mpr ⟨_, hx, bind_eq_ok_iff.mpr ⟨_, ih, rfl⟩⟩

/-- Mapped parts make up what the whole is mapped to. -/
theorem forall₂_flatMap {κ : Type} {R : α → β → Prop} {f : κ → List α} {g : κ → List β}
    (h : ∀ k, List.Forall₂ R (f k) (g k)) (ks : List κ) :
    List.Forall₂ R (ks.flatMap f) (ks.flatMap g) := by
  induction ks with
  | nil => exact .nil
  | cons k ks ih =>
    rw [List.flatMap_cons, List.flatMap_cons]
    exact List.rel_append (h k) ih

/-- Each element of a list has a related one. -/
theorem exists_of_forall₂ {R : α → β → Prop} {xs : List α} {ys : List β}
    (h : List.Forall₂ R xs ys) {x : α} (hx : x ∈ xs) : ∃ y ∈ ys, R x y := by
  induction h with
  | nil => cases hx
  | cons hfirst _ ih =>
    rcases List.mem_cons.mp hx with rfl | hrest
    · exact ⟨_, List.mem_cons_self .., hfirst⟩
    · obtain ⟨y, hy, hR⟩ := ih hrest
      exact ⟨y, List.mem_cons_of_mem _ hy, hR⟩

end SupplyChainTracker
