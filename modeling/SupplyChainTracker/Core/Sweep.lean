import Mathlib.Data.List.Sort
import Mathlib.Logic.Function.Iterate

/-!
# Sweeps of a queue

A pass looks at the front of a queue and removes what is done there; what is not done keeps its
place. How often a queue has to be swept depends on where in it the others stand: they take up the
room in front of what comes after them.
-/

namespace SupplyChainTracker

namespace Sweep

variable {α : Type} (room : Nat) (done : α → Prop) [DecidablePred done]

/-- A pass over the first elements of a queue, as many as there is room for. -/
def sweep (l : List α) : List α :=
  (l.take room).filter (fun x => ¬ done x) ++ l.drop room

/-- A queue behind `waiting` elements that are not done can be cut into groups and a rest in which
nothing is done, so that each group has room beside what is not done before it. -/
def Covers : Nat → Nat → List α → Prop
  | 0, _, l => ∀ x ∈ l, ¬ done x
  | groups + 1, waiting, l => ∃ group rest, l = group ++ rest ∧ group.length ≤ room - waiting ∧
      Covers groups (waiting + group.countP fun x => ¬ done x) rest

variable {room done}

/-- Elements that are not done only take up room. -/
theorem sweep_append {front : List α} (hfront : ∀ x ∈ front, ¬ done x) (l : List α) :
    sweep room done (front ++ l) =
      (front ++ (l.take (room - front.length)).filter fun x => ¬ done x) ++
        l.drop (room - front.length) := by
  have hkept : (front.take room).filter (fun x => ¬ done x) = front.take room :=
    List.filter_eq_self.mpr fun x hx => decide_eq_true (hfront x (List.mem_of_mem_take hx))
  rw [sweep, List.take_append, List.drop_append, List.filter_append, hkept]
  rcases Nat.le_total front.length room with hle | hle
  · rw [List.take_of_length_le hle, List.drop_of_length_le hle, List.nil_append]
  · rw [Nat.sub_eq_zero_of_le hle, List.take_zero, List.filter_nil, List.append_nil,
      List.append_nil, List.drop_zero, ← List.append_assoc, List.take_append_drop]

/-- A pass is a condition on the elements that makes a difference in front only. -/
theorem sweep_eq_filter {p : α → Bool} {l : List α} (hfront : ∀ x ∈ l.take room, p x = ¬ done x)
    (hrest : ∀ x ∈ l.drop room, p x) : sweep room done l = l.filter p := by
  have hsplit : l.filter p = (l.take room).filter p ++ (l.drop room).filter p := by
    rw [← List.filter_append, List.take_append_drop]
  have hkept : (l.take room).filter p = (l.take room).filter fun x => ¬ done x :=
    List.filter_congr fun x hx => by
      rw [Bool.eq_iff_iff, decide_eq_true_iff]
      exact Iff.of_eq (hfront x hx)
  rw [hsplit, hkept, List.filter_eq_self.mpr hrest, sweep]

/-- A pass adds nothing. -/
theorem sweep_subset (l : List α) : sweep room done l ⊆ l := by
  intro x hx
  rcases List.mem_append.mp hx with hx | hx
  · exact List.mem_of_mem_take (List.mem_of_mem_filter hx)
  · exact List.mem_of_mem_drop hx

/-- What has been swept may as well wait in front. -/
theorem Covers.swept {groups waiting : Nat} {front l : List α}
    (h : Covers room done groups waiting (front ++ l)) :
    Covers room done groups (waiting + front.countP fun x => ¬ done x) l := by
  induction groups generalizing waiting front l with
  | zero => exact fun x hx => h x (List.mem_append_right _ hx)
  | succ groups ih =>
    obtain ⟨group, rest, heq, hroom, hrest⟩ := h
    rcases List.append_eq_append_iff.mp heq with ⟨more, rfl, rfl⟩ | ⟨more, rfl, rfl⟩
    · refine ⟨more, rest, rfl, ?_, ?_⟩
      · have hle := List.countP_le_length (p := fun x => decide ¬ done x) (l := front)
        rw [List.length_append] at hroom
        omega
      · rwa [List.countP_append, ← Nat.add_assoc] at hrest
    · have hlater := ih hrest
      rw [Nat.add_assoc, ← List.countP_append] at hlater
      exact ⟨[], l, rfl, Nat.zero_le _, hlater⟩

/-- As many sweeps leave nothing that is done as there are groups into which the queue can be
cut. -/
theorem iterate_sweep_iff (passes : Nat) {front : List α} (hfront : ∀ x ∈ front, ¬ done x)
    (l : List α) :
    (∀ x ∈ (sweep room done)^[passes] (front ++ l), ¬ done x) ↔
      Covers room done passes front.length l := by
  induction passes generalizing front l with
  | zero =>
    rw [Function.iterate_zero, id_eq]
    exact ⟨fun h x hx => h x (List.mem_append_right _ hx),
      fun h x hx => (List.mem_append.mp hx).elim (hfront x) (h x)⟩
  | succ passes ih =>
    have hswept : ∀ x ∈ front ++ (l.take (room - front.length)).filter fun x => ¬ done x,
        ¬ done x := by
      intro x hx
      rcases List.mem_append.mp hx with hx | hx
      · exact hfront x hx
      · exact of_decide_eq_true (List.mem_filter.mp hx).2
    rw [Function.iterate_succ_apply, sweep_append hfront, ih hswept, List.length_append,
      ← List.countP_eq_length_filter]
    constructor
    · intro h
      exact ⟨l.take (room - front.length), l.drop (room - front.length),
        (List.take_append_drop ..).symm, List.length_take_le .., h⟩
    · rintro ⟨group, rest, rfl, hroom, hrest⟩
      rw [List.take_append, List.drop_append, List.take_of_length_le hroom,
        List.drop_of_length_le hroom, List.nil_append, List.countP_append, ← Nat.add_assoc]
      refine Covers.swept ?_
      rwa [List.take_append_drop]

/-- Behind as many elements that are not done as there is room for, an element is not reached. -/
def Blocked (room : Nat) (done : α → Prop) [DecidablePred done] (x : α) (l : List α) : Prop :=
  ∃ older younger, l = older ++ x :: younger ∧ room ≤ older.countP fun y => ¬ done y

theorem Blocked.sweep {x : α} {l : List α} (h : Blocked room done x l) :
    Blocked room done x (Sweep.sweep room done l) := by
  obtain ⟨older, younger, rfl, hroom⟩ := h
  have hle : room ≤ older.length := hroom.trans List.countP_le_length
  refine ⟨Sweep.sweep room done older, younger, ?_, ?_⟩
  · rw [Sweep.sweep, List.take_append_of_le_length hle, List.drop_append_of_le_length hle,
      ← List.append_assoc]
    rfl
  · refine hroom.trans (le_of_eq ?_)
    rw [Sweep.sweep, List.countP_append, List.countP_filter]
    simp only [Bool.and_self]
    rw [← List.countP_append, List.take_append_drop]

/-- However often it is swept, a queue keeps an element that is blocked. -/
theorem Blocked.mem_iterate {x : α} {l : List α} (h : Blocked room done x l) (passes : Nat) :
    x ∈ (Sweep.sweep room done)^[passes] l := by
  have hblocked : Blocked room done x ((Sweep.sweep room done)^[passes] l) :=
    Function.Iterate.rec (Blocked room done x) h (fun _ h => h.sweep) passes
  obtain ⟨older, younger, heq, -⟩ := hblocked
  rw [heq]
  exact List.mem_append_right _ (List.mem_cons_self ..)

section Sorted

variable (r : α → α → Prop) [DecidableRel r] (p : α → Bool)

theorem filter_orderedInsert [IsTrans α r] (a : α) {l : List α} (h : l.Pairwise r) :
    (l.orderedInsert r a).filter p =
      if p a then (l.filter p).orderedInsert r a else l.filter p := by
  induction l with
  | nil => cases hp : p a <;> simp [hp]
  | cons b l ih =>
    obtain ⟨hb, hl⟩ := List.pairwise_cons.mp h
    rw [List.orderedInsert_cons]
    split_ifs with hab hp hp
    · have hfirst : ∀ x ∈ (b :: l).filter p, r a x := by
        intro x hx
        rcases List.mem_cons.mp (List.mem_of_mem_filter hx) with rfl | hx
        · exact hab
        · exact trans_of r hab (hb x hx)
      rw [List.filter_cons_of_pos hp]
      cases hrest : (b :: l).filter p with
      | nil => rfl
      | cons x xs => exact (List.orderedInsert_cons_of_le _ _ (hfirst x (by simp [hrest]))).symm
    · exact List.filter_cons_of_neg hp
    · cases hpb : p b with
      | false =>
        rw [List.filter_cons_of_neg (by simp [hpb]), List.filter_cons_of_neg (by simp [hpb]), ih hl,
          if_pos hp]
      | true =>
        rw [List.filter_cons_of_pos hpb, List.filter_cons_of_pos hpb, ih hl, if_pos hp,
          List.orderedInsert_of_not_le _ _ hab]
    · cases hpb : p b with
      | false =>
        rw [List.filter_cons_of_neg (by simp [hpb]), List.filter_cons_of_neg (by simp [hpb]), ih hl,
          if_neg hp]
      | true =>
        rw [List.filter_cons_of_pos hpb, List.filter_cons_of_pos hpb, ih hl, if_neg hp]

/-- The sort is stable: what is left of a queue is sorted as it was before. -/
theorem insertionSort_filter [Std.Total r] [IsTrans α r] (l : List α) :
    (l.filter p).insertionSort r = (l.insertionSort r).filter p := by
  induction l with
  | nil => rfl
  | cons a l ih =>
    rw [List.insertionSort_cons, filter_orderedInsert r p a (List.pairwise_insertionSort r l), ← ih]
    split_ifs with hp
    · rw [List.filter_cons_of_pos hp, List.insertionSort_cons]
    · rw [List.filter_cons_of_neg hp]

end Sorted

end Sweep

end SupplyChainTracker
