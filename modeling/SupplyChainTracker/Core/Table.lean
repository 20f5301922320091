import Mathlib.Data.List.Forall2
import Mathlib.Data.List.Nodup
import Mathlib.Tactic.Common

/-!
# Tables with a primary key

A table is a list of rows whose keys are pairwise distinct, so a key is stored at
most once by construction. Storing a row replaces the row of the same key in place
and otherwise appends it; removing rows keeps the order of the others.
-/

namespace SupplyChainTracker

/-- Rows whose keys are pairwise distinct. -/
structure Table (κ ρ : Type) (key : ρ → κ) where
  /-- The rows, in insertion order. -/
  rows : List ρ
  /-- The primary key. -/
  nodup : (rows.map key).Nodup

namespace Table

variable {κ ρ : Type} {key : ρ → κ}

/-- The table without rows. -/
def empty : Table κ ρ key := ⟨[], List.nodup_nil⟩

@[simp] theorem rows_empty : (empty : Table κ ρ key).rows = [] := rfl

/-- Tables with the same rows are equal. -/
theorem ext {s t : Table κ ρ key} (h : s.rows = t.rows) : s = t := by
  cases s
  cases t
  subst h
  rfl

/-- Rows of one table with the same key are the same row. -/
theorem eq_of_key_eq (t : Table κ ρ key) {r s : ρ} (hr : r ∈ t.rows) (hs : s ∈ t.rows)
    (h : key r = key s) : r = s :=
  List.inj_on_of_nodup_map t.nodup hr hs h

/-- Delete the rows that satisfy a condition. -/
def removeWhere (t : Table κ ρ key) (p : ρ → Bool) : Table κ ρ key where
  rows := t.rows.filter fun r => !p r
  nodup := t.nodup.sublist (List.filter_sublist.map key)

@[simp] theorem rows_removeWhere (t : Table κ ρ key) (p : ρ → Bool) :
    (t.removeWhere p).rows = t.rows.filter fun r => !p r := rfl

section Keyed

variable [DecidableEq κ]

/-- The row stored under a key. -/
def find? (t : Table κ ρ key) (k : κ) : Option ρ := t.rows.find? fun r => key r = k

/-- A stored row is found under its own key and under no other. -/
theorem find?_eq_some_iff (t : Table κ ρ key) (k : κ) (r : ρ) :
    t.find? k = some r ↔ r ∈ t.rows ∧ key r = k := by
  constructor
  · intro h
    exact ⟨List.mem_of_find?_eq_some h, by simpa using List.find?_some h⟩
  · rintro ⟨hr, rfl⟩
    cases h : t.find? (key r) with
    | none =>
      have hn := List.find?_eq_none.mp h r hr
      simp at hn
    | some s =>
      have hs : key s = key r := by simpa using List.find?_some h
      rw [t.eq_of_key_eq (List.mem_of_find?_eq_some h) hr hs]

/-- A stored row is found. -/
theorem find?_of_mem {t : Table κ ρ key} {r : ρ} (h : r ∈ t.rows) : t.find? (key r) = some r :=
  (t.find?_eq_some_iff _ _).mpr ⟨h, rfl⟩

/-- A key finds nothing exactly when no row carries it. -/
theorem find?_eq_none_iff (t : Table κ ρ key) (k : κ) :
    t.find? k = none ↔ ∀ r ∈ t.rows, key r ≠ k := by
  simp [find?, List.find?_eq_none]

@[simp] theorem find?_empty (k : κ) : (empty : Table κ ρ key).find? k = none := rfl

/-- The found row carries the key it was found under. -/
theorem key_of_find? {t : Table κ ρ key} {k : κ} {r : ρ} (h : t.find? k = some r) :
    key r = k :=
  ((t.find?_eq_some_iff k r).mp h).2

/-- The found row is stored. -/
theorem mem_of_find? {t : Table κ ρ key} {k : κ} {r : ρ} (h : t.find? k = some r) :
    r ∈ t.rows :=
  ((t.find?_eq_some_iff k r).mp h).1

/-- Deletion of one key hides exactly that key. -/
theorem find?_removeWhere_key (t : Table κ ρ key) (k k' : κ) :
    (t.removeWhere fun r => key r = k).find? k' = if k' = k then none else t.find? k' := by
  by_cases h : k' = k
  · subst h
    simp [find?_eq_none_iff]
  · simp only [h, if_false]
    apply Option.ext
    intro r
    simp only [find?_eq_some_iff, rows_removeWhere, List.mem_filter, Bool.not_eq_true',
      decide_eq_false_iff_not]
    constructor
    · exact fun hr => ⟨hr.1.1, hr.2⟩
    · exact fun hr => ⟨⟨hr.1, fun he => h (hr.2.symm.trans he)⟩, hr.2⟩

/-- Store a row under its key: replace the row already there, or append it. -/
def put (t : Table κ ρ key) (r : ρ) : Table κ ρ key where
  rows :=
    if key r ∈ t.rows.map key then t.rows.map fun s => if key s = key r then r else s
    else t.rows ++ [r]
  nodup := by
    split
    · rw [List.map_map]
      have hk : key ∘ (fun s => if key s = key r then r else s) = key := by
        funext s
        by_cases h : key s = key r <;> simp [h]
      rw [hk]
      exact t.nodup
    · rename_i h
      rw [List.map_append, List.map_singleton, ← List.concat_eq_append]
      exact t.nodup.concat h

/-- After storing, the rows are the stored one and the old rows of other keys. -/
theorem mem_put (t : Table κ ρ key) (r s : ρ) :
    s ∈ (t.put r).rows ↔ s = r ∨ s ∈ t.rows ∧ key s ≠ key r := by
  unfold put
  dsimp only
  split
  · rename_i h
    obtain ⟨r₀, hr₀, hk⟩ := List.mem_map.mp h
    simp only [List.mem_map]
    constructor
    · rintro ⟨u, hu, rfl⟩
      by_cases hc : key u = key r
      · exact Or.inl (if_pos hc)
      · exact Or.inr (by simpa [hc] using hu)
    · rintro (rfl | ⟨hs, hne⟩)
      · exact ⟨r₀, hr₀, if_pos hk⟩
      · exact ⟨s, hs, if_neg hne⟩
  · rename_i h
    have hne : s ∈ t.rows → key s ≠ key r := fun hs he => h (he ▸ List.mem_map_of_mem hs)
    simp only [List.mem_append, List.mem_singleton]
    tauto

@[simp] theorem find?_put_self (t : Table κ ρ key) (r : ρ) : (t.put r).find? (key r) = some r := by
  rw [find?_eq_some_iff, mem_put]
  exact ⟨Or.inl rfl, rfl⟩

/-- Storing a row leaves every other key alone. -/
theorem find?_put_of_ne (t : Table κ ρ key) (r : ρ) {k : κ} (h : key r ≠ k) :
    (t.put r).find? k = t.find? k := by
  apply Option.ext
  intro s
  rw [find?_eq_some_iff, find?_eq_some_iff, mem_put]
  constructor
  · rintro ⟨rfl | ⟨hs, _⟩, hk⟩
    · exact absurd hk h
    · exact ⟨hs, hk⟩
  · rintro ⟨hs, hk⟩
    exact ⟨Or.inr ⟨hs, fun he => h (he.symm.trans hk)⟩, hk⟩

/-- After storing, a key finds the stored row if it is its own. -/
theorem find?_put (t : Table κ ρ key) (r : ρ) (k : κ) :
    (t.put r).find? k = if key r = k then some r else t.find? k := by
  by_cases hk : key r = k
  · rw [if_pos hk, ← hk, find?_put_self]
  · rw [if_neg hk, find?_put_of_ne t r hk]

/-- A key that finds a row still does after another one is stored. -/
theorem isSome_find?_put {t : Table κ ρ key} {r : ρ} {k : κ} (h : (t.find? k).isSome) :
    ((t.put r).find? k).isSome := by
  by_cases hk : key r = k
  · subst hk
    simp
  · rwa [find?_put_of_ne t r hk]

/-- Replacing a stored row rewrites it in place. -/
theorem rows_put_of_mem (t : Table κ ρ key) {r s : ρ} (hs : s ∈ t.rows) (h : key s = key r) :
    (t.put r).rows = t.rows.map fun u => if key u = key r then r else u :=
  if_pos (h ▸ List.mem_map_of_mem hs)

/-- Storing a row under a new key appends it. -/
theorem rows_put_of_find?_none {t : Table κ ρ key} {r : ρ} (h : t.find? (key r) = none) :
    (t.put r).rows = t.rows ++ [r] := by
  refine if_neg fun hmem => ?_
  obtain ⟨s, hs, hk⟩ := List.mem_map.mp hmem
  exact (t.find?_eq_none_iff _).mp h s hs hk

/-- Replacing a stored row leaves the rows before and after it. -/
theorem exists_split_put {t : Table κ ρ key} {old new : ρ} (h : t.find? (key new) = some old) :
    ∃ before after, t.rows = before ++ old :: after ∧
      (t.put new).rows = before ++ new :: after := by
  have hkey := key_of_find? h
  obtain ⟨before, after, hrows⟩ := List.append_of_mem (mem_of_find? h)
  refine ⟨before, after, hrows, ?_⟩
  have hnodup := t.nodup
  rw [hrows, List.map_append, List.map_cons, List.nodup_middle, List.nodup_cons,
    ← List.map_append] at hnodup
  have hkeep : ∀ s ∈ before ++ after, (if key s = key new then new else s) = s := by
    refine fun s hs => if_neg fun hk => hnodup.1 ?_
    rw [hkey, ← hk]
    exact List.mem_map_of_mem hs
  rw [t.rows_put_of_mem (mem_of_find? h) hkey, hrows, List.map_append, List.map_cons, if_pos hkey,
    List.map_congr_left fun s hs => hkeep s (List.mem_append_left _ hs),
    List.map_congr_left fun s hs => hkeep s (List.mem_append_right _ hs), List.map_id', List.map_id']

/-- Storing what is stored already changes nothing. -/
theorem put_of_find? {t : Table κ ρ key} {r : ρ} (h : t.find? (key r) = some r) : t.put r = t := by
  have hr := mem_of_find? h
  refine ext ((t.rows_put_of_mem hr rfl).trans ?_)
  conv_rhs => rw [← List.map_id t.rows]
  refine List.map_congr_left fun s hs => ?_
  by_cases hk : key s = key r
  · rw [if_pos hk]
    exact t.eq_of_key_eq hr hs hk.symm
  · exact if_neg hk

/-- Storing a row changes nothing exactly when it is stored already. -/
theorem put_eq_self_iff (t : Table κ ρ key) (r : ρ) :
    t.put r = t ↔ t.find? (key r) = some r := by
  constructor
  · intro h
    have hfind := t.find?_put_self r
    rwa [h] at hfind
  · exact put_of_find?

/-- Deleting a key changes nothing exactly when it is not stored. -/
theorem removeWhere_key_eq_self_iff (t : Table κ ρ key) (k : κ) :
    (t.removeWhere fun r => key r = k) = t ↔ t.find? k = none := by
  constructor
  · intro h
    have hfind := t.find?_removeWhere_key k k
    rwa [h, if_pos rfl] at hfind
  · intro h
    refine ext (List.filter_eq_self.mpr fun r hr => ?_)
    simpa using (t.find?_eq_none_iff k).mp h r hr

/-- Only the last row stored under a key counts. -/
theorem put_put (t : Table κ ρ key) {r s : ρ} (h : key s = key r) :
    (t.put s).put r = t.put r := by
  refine ext (((t.put s).rows_put_of_mem ((t.mem_put s s).mpr (.inl rfl)) h).trans ?_)
  by_cases hr : key r ∈ t.rows.map key
  · obtain ⟨u, hu, hk⟩ := List.mem_map.mp hr
    rw [t.rows_put_of_mem hu hk, t.rows_put_of_mem hu (hk.trans h.symm), List.map_map]
    refine List.map_congr_left fun v _ => ?_
    by_cases hv : key v = key r <;> simp [hv, h]
  · have hne : ∀ v ∈ t.rows, key v ≠ key r := fun v hv he => hr (he ▸ List.mem_map_of_mem hv)
    have hs : (t.put s).rows = t.rows ++ [s] := if_neg (h ▸ hr)
    have hput : (t.put r).rows = t.rows ++ [r] := if_neg hr
    rw [hs, hput, List.map_append, List.map_singleton, if_pos h]
    congr 1
    conv_rhs => rw [← List.map_id t.rows]
    exact List.map_congr_left fun v hv => if_neg (hne v hv)

section Related

variable {R : ρ → ρ → Prop} {t t' : Table κ ρ key} {r r' : ρ}

/-- Related values are there or not alike. -/
theorem isSome_eq_of_rel {α β : Type} {Q : α → β → Prop} {a : Option α} {b : Option β}
    (h : Option.Rel Q a b) : a.isSome = b.isSome := by
  cases h with
  | some _ => rfl
  | none => rfl

omit [DecidableEq κ] in
/-- What two related lists find first is related, if they look for the same. -/
theorem rel_find? {rows rows' : List ρ} (h : List.Forall₂ R rows rows') {p : ρ → Bool}
    (hp : ∀ a b, R a b → p a = p b) : Option.Rel R (rows.find? p) (rows'.find? p) := by
  induction h with
  | nil => exact .none
  | @cons a b rows rows' hab _ ih =>
    have hab' := hp a b hab
    cases ha : p a
    · rwa [List.find?_cons_of_neg (by simp [ha]), List.find?_cons_of_neg (by simp [← hab', ha])]
    · rw [List.find?_cons_of_pos ha, List.find?_cons_of_pos (hab' ▸ ha)]
      exact .some hab

/-- Storing related rows keeps the rows of two tables related. -/
theorem forall₂_put (h : List.Forall₂ R t.rows t'.rows) (hkey : ∀ a b, R a b → key a = key b)
    (hr : R r r') : List.Forall₂ R (t.put r).rows (t'.put r').rows := by
  have hkeys : t.rows.map key = t'.rows.map key := by
    rw [← List.forall₂_eq_eq_eq, List.forall₂_map_left_iff, List.forall₂_map_right_iff]
    exact h.imp hkey
  unfold put
  dsimp only
  rw [hkeys, hkey r r' hr]
  split_ifs
  · rw [List.forall₂_map_left_iff, List.forall₂_map_right_iff]
    refine h.imp fun a b hab => ?_
    rw [hkey a b hab]
    split_ifs
    · exact hr
    · exact hab
  · exact List.rel_append h (.cons hr .nil)

end Related

/-- Every key that is stored is stored afterwards. -/
def Keeps (t t' : Table κ ρ key) : Prop := ∀ k, (t.find? k).isSome → (t'.find? k).isSome

theorem Keeps.refl (t : Table κ ρ key) : t.Keeps t := fun _ => id

theorem Keeps.trans {t t' t'' : Table κ ρ key} (h : t.Keeps t') (h' : t'.Keeps t'') :
    t.Keeps t'' :=
  fun k hk => h' k (h k hk)

theorem keeps_put (t : Table κ ρ key) (r : ρ) : t.Keeps (t.put r) := fun _ => isSome_find?_put

/-- Deleting a key that is stored does not keep it. -/
theorem not_keeps_removeWhere {t : Table κ ρ key} {k : κ} (h : (t.find? k).isSome) :
    ¬ t.Keeps (t.removeWhere fun r => key r = k) := by
  intro hkeeps
  have hgone := hkeeps k h
  rw [find?_removeWhere_key, if_pos rfl] at hgone
  cases hgone

/-- Among the rows that satisfy `p`, no two have the same value of `f`. -/
def UniqueWhere {ι : Type} (t : Table κ ρ key) (p : ρ → Bool) (f : ρ → ι) : Prop :=
  ∀ r ∈ t.rows, ∀ s ∈ t.rows, p r → p s → f r = f s → r = s

omit [DecidableEq κ] in
theorem uniqueWhere_empty {ι : Type} (p : ρ → Bool) (f : ρ → ι) :
    (empty : Table κ ρ key).UniqueWhere p f := by
  simp [UniqueWhere]

/-- Storing a row keeps a partial index unique exactly when no row of another key collides
with it. -/
theorem UniqueWhere.put_iff {ι : Type} {t : Table κ ρ key} {p : ρ → Bool} {f : ρ → ι} {r : ρ}
    (h : t.UniqueWhere p f) :
    (t.put r).UniqueWhere p f ↔
      (p r → ∀ s ∈ t.rows, key s ≠ key r → p s → f s ≠ f r) := by
  constructor
  · intro hput hr s hs hne hps heq
    have hsr : s = r := hput s ((t.mem_put r s).mpr (.inr ⟨hs, hne⟩)) r
      ((t.mem_put r r).mpr (.inl rfl)) hps hr heq
    exact hne (congrArg key hsr)
  · intro hfree s hs u hu hps hpu heq
    rcases (t.mem_put r s).mp hs with hsr | ⟨hst, hsne⟩
    · rcases (t.mem_put r u).mp hu with hur | ⟨hut, hune⟩
      · exact hsr.trans hur.symm
      · subst hsr
        exact absurd heq.symm (hfree hps u hut hune hpu)
    · rcases (t.mem_put r u).mp hu with hur | ⟨hut, _⟩
      · subst hur
        exact absurd heq (hfree hpu s hst hsne hps)
      · exact h s hst u hut hps hpu heq

/-- Replacing a row by one of the same key and index value keeps a partial index unique, as
long as the new row is indexed only where the old one was. -/
theorem UniqueWhere.replace {ι : Type} {t : Table κ ρ key} {p : ρ → Bool} {f : ρ → ι}
    {old new : ρ} (h : t.UniqueWhere p f) (hold : t.find? (key new) = some old)
    (hp : p new → p old) (hf : f new = f old) : (t.put new).UniqueWhere p f := by
  refine h.put_iff.mpr fun hnew s hs hne hps heq => hne ?_
  have hsold : s = old := h s hs old (mem_of_find? hold) hps (hp hnew) (heq.trans hf)
  exact (congrArg key hsold).trans (key_of_find? hold)

end Keyed

end Table

end SupplyChainTracker
