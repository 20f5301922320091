import Mathlib.Algebra.BigOperators.Group.Finset.Piecewise
import SupplyChainTracker.Core.Async.Interleaving
import SupplyChainTracker.Shipments.ItemRepository

/-!
# Concurrent changes of a quantity

Any number of callers increase or decrease the quantity of one item, each by a `get`
and a `save`. The stored quantity is the initial one with what the returned callers
have added exactly as long as every accepted `save` finds the quantity that its
caller has read.
-/

namespace SupplyChainTracker.Shipments

open Coroutine (perform)

/-- A call of `increase_quantity` or `decrease_quantity`. -/
inductive Adjustment : Type
  | increase (amount : Int)
  | decrease (amount : Int)

namespace Adjustment

/-- What a call that returns has added. -/
def delta : Adjustment → Int
  | increase amount => amount
  | decrease amount => -amount

/-- The service method of a call. -/
def program (itemId : UUID) : Adjustment → ItemProgram Item
  | increase amount => ItemService.increaseQuantity itemId amount
  | decrease amount => ItemService.decreaseQuantity itemId amount

/-- What a caller does with the item that it has loaded: the exception, or the item to save. -/
def adjusted (item : Item) : Adjustment → Except ShipmentError Item
  | increase amount => item.increased amount
  | decrease amount => item.decreased amount

theorem program_eq (itemId : UUID) (a : Adjustment) :
    a.program itemId = ItemService.modify itemId fun item => a.adjusted item := by
  cases a with
  | increase amount => exact ItemService.increaseQuantity_eq itemId amount
  | decrease amount => exact ItemService.decreaseQuantity_eq itemId amount

/-- The item to save is the loaded one with the changed quantity. -/
theorem adjusted_eq_ok {a : Adjustment} {item new : Item} (h : a.adjusted item = .ok new) :
    new.itemId = item.itemId ∧ new.quantity.value = item.quantity.value + a.delta := by
  have hincreased : item.increased a.delta = .ok new := by
    cases a with
    | increase amount => exact h
    | decrease amount => exact Item.decreased_eq_ok_iff.mp h
  obtain ⟨quantity, hvalue, rfl⟩ := Item.increased_eq_ok_iff.mp hincreased
  exact ⟨rfl, hvalue.symm⟩

end Adjustment

/-- The points of a caller. -/
inductive AdjustPoint : Type
  /-- Before `get`. -/
  | load
  /-- Before `save`. -/
  | store (item : Item)
  | halt (result : Except ShipmentError Item)

/-- The point after `get`. -/
def AdjustPoint.loaded (itemId : UUID) (a : Adjustment) :
    Except ShipmentError (Option Item) → AdjustPoint
  | .error e => halt (.error e)
  | .ok none => halt (.error (itemNotFound itemId))
  | .ok (some item) =>
      match a.adjusted item with
      | .error e => halt (.error e)
      | .ok new => store new

/-- What a caller does at a point. -/
def adjustChart (itemId : UUID) (a : Adjustment) :
    AdjustPoint → Node ItemCall ItemCall.Ans ShipmentError Item AdjustPoint
  | .load => .call (.get itemId) (.loaded itemId a)
  | .store item => .call (.save item) .halt
  | .halt r => .halt r

/-- What a caller still has to do at a point. -/
def adjustProg (itemId : UUID) (a : Adjustment) : AdjustPoint → ItemProgram Item
  | .load => a.program itemId
  | .store item => perform (ItemCall.save item)
  | .halt r => .ofExcept r

theorem follows_adjust (itemId : UUID) (a : Adjustment) :
    Follows (adjustChart itemId a) (adjustProg itemId a) := by
  intro p
  cases p with
  | load =>
    refine (a.program_eq itemId).trans
      (congrArg (Coroutine.await (ItemCall.get itemId)) (funext fun r => ?_))
    rcases r with e | _ | item
    · rfl
    · rfl
    · simp only [AdjustPoint.loaded, Coroutine.ofExcept_ok, Coroutine.ret_bind]
      cases a.adjusted item <;> rfl
  | store item => rfl
  | halt r => rfl

section Accounting

variable {ι : Type} [Fintype ι] (itemId : UUID) (calls : ι → Adjustment)

/-- The callers before their first call. -/
def adjusters (w : World) : Config ι ItemCall ItemCall.Ans ShipmentError Item World where
  threads i := (calls i).program itemId
  world := w
  trace := []

/-- The stored quantity of the item, if there is one. -/
def World.quantity? (w : World) : Option Int := (w.db.items.find? itemId).map ItemRow.quantity

/-- What a call has added so far: its amount once it has returned. -/
def Adjustment.added (a : Adjustment) : ItemProgram Item → Int
  | .ret _ => a.delta
  | _ => 0

/-- The stored quantity is the initial one, plus the amounts of the increases that have returned,
minus the amounts of the decreases that have returned. -/
def Accounted (start : World) (c : Config ι ItemCall ItemCall.Ans ShipmentError Item World) :
    Prop :=
  c.world.quantity? itemId =
    (start.quantity? itemId).map (· + ∑ i, (calls i).added (c.threads i))

/-- A `save` that the database accepts finds the quantity that its caller has read. -/
def UpToDate (pg : Postgres) (c : Config ι ItemCall ItemCall.Ans ShipmentError Item World)
    (i : ι) (op : ItemCall) : Prop :=
  match op with
  | .save item => c.world.db.Accepts pg item c.world.now →
      c.world.quantity? itemId = some (item.quantity.value - (calls i).delta)
  | _ => True

variable {itemId} {calls} [DecidableEq ι]

/-- A caller that moves on adds what it has added at its new point. -/
theorem sum_added_update (st : ι → AdjustPoint) (i : ι) (p : AdjustPoint)
    (h : (calls i).added (adjustProg itemId (calls i) (st i)) = 0) :
    ∑ j, (calls j).added (adjustProg itemId (calls j) (Function.update st i p j)) =
      (∑ j, (calls j).added (adjustProg itemId (calls j) (st j))) +
        (calls i).added (adjustProg itemId (calls i) p) := by
  have hupdate : (fun j => (calls j).added (adjustProg itemId (calls j) (Function.update st i p j))) =
      Function.update (fun j => (calls j).added (adjustProg itemId (calls j) (st j))) i
        ((calls i).added (adjustProg itemId (calls i) p)) :=
    funext fun j => Function.apply_update (fun j q => (calls j).added (adjustProg itemId (calls j) q))
      st i p j
  rw [hupdate, Finset.sum_update_of_mem (Finset.mem_univ i),
    Finset.sum_eq_add_sum_sdiff_singleton_of_mem (Finset.mem_univ i)
      (fun j => (calls j).added (adjustProg itemId (calls j) (st j))), h]
  omega

/-- Before its last call a caller has added nothing. -/
theorem added_of_call {a : Adjustment} {p : AdjustPoint} {op : ItemCall}
    {next : Except ShipmentError op.Ans → AdjustPoint} (h : adjustChart itemId a p = .call op next) :
    a.added (adjustProg itemId a p) = 0 := by
  rw [follows_adjust itemId a p, h]
  rfl

/-- Loading adds nothing. -/
theorem added_loaded (a : Adjustment) (r : Except ShipmentError (Option Item)) :
    a.added (adjustProg itemId a (.loaded itemId a r)) = 0 := by
  rcases r with e | _ | item
  · rfl
  · rfl
  · simp only [AdjustPoint.loaded]
    cases a.adjusted item <;> rfl

/-- An accepted `save` sets the quantity. -/
theorem quantity?_save {pg : Postgres} {item : Item} {w : World}
    (h : w.db.Accepts pg item w.now) :
    (ItemRepository.act pg (.save item) w).2.quantity? item.itemId = some item.quantity.value := by
  obtain ⟨db, hact, _, hitems⟩ := ItemRepository.act_save_of_accepts h
  rw [hact, World.quantity?, World.db_after, hitems]
  conv_lhs => rw [← ShipmentDb.itemId_itemTarget w.db item w.now, Table.find?_put_self]
  simp

variable {pg : Postgres}

/-- The items that callers are about to save are copies of the one item. -/
def AboutItem (itemId : UUID) (st : ι → AdjustPoint) : Prop :=
  ∀ i item, st i = .store item → item.itemId = itemId

omit [Fintype ι] in
theorem AboutItem.step {st : ι → AdjustPoint} (h : AboutItem itemId st) {w : World} {i : ι}
    {op : ItemCall} {next : Except ShipmentError op.Ans → AdjustPoint}
    (hn : adjustChart itemId (calls i) (st i) = .call op next) :
    AboutItem itemId (Function.update st i (next (ItemRepository.act pg op w).1)) := by
  intro j item hj
  by_cases hji : j = i
  · subst hji
    rw [Function.update_self] at hj
    cases hs : st j with
    | load =>
      rw [hs] at hn
      cases hn
      rw [ItemRepository.act] at hj
      cases hrow : w.db.items.find? itemId with
      | none => simp [hrow, AdjustPoint.loaded] at hj
      | some row =>
        simp only [hrow] at hj
        cases hload : ItemRepository.rowToEntity row with
        | error e => simp [hload, Except.map, AdjustPoint.loaded] at hj
        | ok old =>
          simp only [hload, Except.map, AdjustPoint.loaded] at hj
          split at hj
          · cases hj
          · rename_i new hnew
            cases hj
            have hold := (ItemRepository.rowToEntity_eq_ok_iff.mp hload).1
            exact (Adjustment.adjusted_eq_ok hnew).1.trans (hold.symm.trans (Table.key_of_find? hrow))
    | store item' =>
      rw [hs] at hn
      cases hn
      cases hj
    | halt r =>
      rw [hs] at hn
      cases hn
  · rw [Function.update_of_ne hji] at hj
    exact h j item hj

omit [DecidableEq ι] in
/-- A step that leaves the quantity alone and adds nothing keeps the account. -/
theorem Accounted.congr {start w w' : World} {tr tr' : List (ι × ItemCall)}
    {st st' : ι → AdjustPoint}
    (h : Accounted itemId calls start ⟨fun j => adjustProg itemId (calls j) (st j), w, tr⟩)
    (hq : w'.quantity? itemId = w.quantity? itemId)
    (hsum : ∑ j, (calls j).added (adjustProg itemId (calls j) (st' j)) =
      ∑ j, (calls j).added (adjustProg itemId (calls j) (st j))) :
    Accounted itemId calls start ⟨fun j => adjustProg itemId (calls j) (st' j), w', tr'⟩ := by
  simp only [Accounted, hq, hsum]
  exact h

/-- A step keeps the account exactly when it is a read, a refused `save` or an up-to-date one. -/
theorem Accounted.step_iff {start w : World} {tr : List (ι × ItemCall)} {st : ι → AdjustPoint}
    {i : ι} {op : ItemCall} {next : Except ShipmentError op.Ans → AdjustPoint}
    (habout : AboutItem itemId st) (hn : adjustChart itemId (calls i) (st i) = .call op next)
    (h : Accounted itemId calls start ⟨fun j => adjustProg itemId (calls j) (st j), w, tr⟩) :
    Accounted itemId calls start ⟨fun j => adjustProg itemId (calls j)
        (Function.update st i (next (ItemRepository.act pg op w).1) j),
        (ItemRepository.act pg op w).2, tr ++ [(i, op)]⟩ ↔
      UpToDate itemId calls pg ⟨fun j => adjustProg itemId (calls j) (st j), w, tr⟩ i op := by
  have hsum := fun p => sum_added_update st i p (added_of_call hn)
  cases hs : st i with
  | load =>
    rw [hs] at hn
    cases hn
    refine iff_of_true (h.congr rfl ?_) trivial
    rw [hsum, added_loaded, Int.add_zero]
  | store item =>
    have hid := habout i item hs
    rw [hs] at hn
    cases hn
    by_cases haccepts : w.db.Accepts pg item w.now
    · obtain ⟨db, hact, _⟩ := ItemRepository.act_save_of_accepts haccepts
      have hstored : (w.after db).quantity? itemId = some item.quantity.value := by
        have hsaved := quantity?_save haccepts
        rwa [hact, hid] at hsaved
      simp only [Accounted, UpToDate, haccepts, true_imp_iff, hsum, hact, hstored] at h ⊢
      rw [h]
      cases start.quantity? itemId with
      | none => exact iff_of_false (fun hsome => by cases hsome) (fun hsome => by cases hsome)
      | some quantity =>
        have hadded : (calls i).added (adjustProg itemId (calls i) (.halt (.ok item))) =
            (calls i).delta := rfl
        simp only [Option.map_some, Option.some.injEq, hadded]
        omega
    · obtain ⟨violated, hact⟩ := ItemRepository.act_save_of_not_accepts haccepts
      refine iff_of_true (h.congr ?_ ?_) fun haccepted => absurd haccepted haccepts
      · rw [hact]
        rfl
      · rw [hsum, hact]
        exact Int.add_zero _
  | halt r =>
    rw [hs] at hn
    cases hn

/-- In every state that a run reaches, the quantity is the initial one plus what the returned
callers have added, exactly when every accepted `save` of the run is up to date. -/
theorem accounted_iff_upToDate (pg : Postgres) (w : World) (sched : List ι)
    {c : Config ι ItemCall ItemCall.Ans ShipmentError Item World}
    (h : (adjusters itemId calls w).exec (ItemRepository.act pg) sched = some c) :
    (∀ past d, past <+: sched →
      (adjusters itemId calls w).exec (ItemRepository.act pg) past = some d →
      Accounted itemId calls w d) ↔
    (adjusters itemId calls w).Guarded (ItemRepository.act pg) (UpToDate itemId calls pg) sched := by
  refine Config.forall_reached_iff_guarded (fun i => follows_adjust itemId (calls i))
    (fun st _ => AboutItem itemId st) (fun st w i op next hi hn => hi.step hn)
    (fun st w tr i op next hi hn hP => hP.step_iff hi hn) (fun _ => .load) rfl ?_ ?_ h
  · intro i item hi
    cases hi
  · have hzero : ∀ i, (calls i).added ((calls i).program itemId) = 0 := fun i =>
      added_of_call (p := .load) rfl
    simp only [Accounted, adjusters, hzero, Finset.sum_const_zero, Int.add_zero]
    exact Option.map_id'.symm

end Accounting

/-- One caller adds one crate and the other two. -/
def sampleCalls (x : Bool) : Adjustment := .increase (if x then 2 else 1)

/-- One caller after the other: both amounts are in the stored quantity. -/
theorem accounted_iff_upToDate_sample :
    ∃ c, (adjusters ⟨21⟩ sampleCalls sampleWorld).exec (ItemRepository.act samplePostgres)
        [false, false, true, true] = some c ∧ Accounted ⟨21⟩ sampleCalls sampleWorld c ∧
      c.world.quantity? ⟨21⟩ = some 8 := by
  refine ⟨_, rfl, ?_, rfl⟩
  have hguarded : (adjusters ⟨21⟩ sampleCalls sampleWorld).Guarded (ItemRepository.act samplePostgres)
      (UpToDate ⟨21⟩ sampleCalls samplePostgres) [false, false, true, true] :=
    ⟨trivial, fun _ => rfl, trivial, fun _ => rfl, trivial⟩
  exact (accounted_iff_upToDate samplePostgres sampleWorld [false, false, true, true] rfl).mpr
    hguarded _ _ (List.prefix_refl _) rfl

/-- Two callers that both read before either saves: both return, and one crate is lost. -/
theorem increase_lost :
    ∃ c item item', (adjusters ⟨21⟩ sampleCalls sampleWorld).exec (ItemRepository.act samplePostgres)
        [false, true, false, true] = some c ∧
      c.threads false = .ret item ∧ c.threads true = .ret item' ∧
      c.world.quantity? ⟨21⟩ = some 7 ∧ ¬ Accounted ⟨21⟩ sampleCalls sampleWorld c :=
  have hne : (some 7 : Option Int) ≠ some 8 := by decide
  ⟨_, _, _, rfl, rfl, rfl, rfl, hne⟩

end SupplyChainTracker.Shipments
