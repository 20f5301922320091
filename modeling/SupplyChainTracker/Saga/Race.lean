import SupplyChainTracker.Saga.Calls

/-!
# Two handlers of one saga

Two coordinator replicas handle failure events of the same started saga. The
invariant counts the calls of each: whether a handler goes on depends only on
how many calls the other had made before its first and its second look.
-/

namespace SupplyChainTracker.Saga

open SagaCompensationWorker

/-- How many calls the other participant makes before call `n` of `x`, counted from zero. -/
def lead (x : Bool) : Nat → List Bool → Nat
  | _, [] => 0
  | n, y :: ys =>
      if y = x then
        match n with
        | 0 => 0
        | n + 1 => lead x n ys
      else lead x n ys + 1

/-- Once the call has been made its lead is settled. -/
theorem lead_append {x : Bool} {n : Nat} {l : List Bool} (h : n < l.count x) (m : List Bool) :
    lead x n (l ++ m) = lead x n l := by
  induction l generalizing n with
  | nil => simp at h
  | cons y ys ih =>
    by_cases hy : y = x
    · subst hy
      cases n with
      | zero => simp [lead]
      | succ n =>
        rw [List.count_cons_self] at h
        simpa [lead] using ih (by omega)
    · rw [List.count_cons_of_ne hy] at h
      simpa [lead, hy] using ih h

/-- The call being made now has all earlier calls of the other before it. -/
theorem lead_concat {x : Bool} {n : Nat} {l : List Bool} (h : l.count x = n) :
    lead x n (l ++ [x]) = l.count (!x) := by
  induction l generalizing n with
  | nil =>
    subst h
    simp [lead]
  | cons y ys ih =>
    by_cases hy : y = x
    · subst hy
      rw [List.count_cons_self] at h
      subst h
      have hne : y ≠ !y := by cases y <;> decide
      simpa [lead, List.count_cons_of_ne hne] using ih rfl
    · have hyx : y = !x := by cases x <;> cases y <;> simp_all
      subst hyx
      rw [List.count_cons_of_ne hy] at h
      simpa [lead, hy] using ih h

/-- The types of published commands. -/
def types (sent : List (Command × String)) : List String := sent.map fun p => p.1.commandType

section Invariant

variable (s : SagaInstance) (r : Bool → Received)

/-- The calls of a handler that goes through: two reads, the claim, the commands of its
strategy, a third read and the final save. -/
def cost (x : Bool) : Nat := 5 + (strategy s (r x)).length

/-- The status one handler leaves after a number of its calls. -/
def progress (calls total : Nat) : SagaStatus :=
  if calls < 3 then .started else if calls < total then .compensating else .failed

/-- The commands a handler has taken on once it has claimed the saga. -/
def taken (x : Bool) (calls : Nat) : List (Command × String) :=
  if calls < 3 then [] else strategy s (r x)

/-- The commands a handler still owes. -/
def owed : Stage → List (Command × String)
  | .publish _ todo => todo
  | _ => []

/-- The other handler had not claimed the saga at the first look of `x` and had not failed
it at the second. -/
def Unhindered (x : Bool) (l : List Bool) : Prop :=
  lead x 0 l < 3 ∧ lead x 1 l < cost s r (!x)

/-- What is known of a handler at each of its points. -/
def HandlerAt (x : Bool) (l : List Bool) : Stage → Prop
  | .guard => l.count x = 0
  | .reread sagaId => l.count x = 1 ∧ lead x 0 l < 3 ∧ sagaId = s.sagaId
  | .claim t => l.count x = 2 ∧ Unhindered s r x l ∧ SameParticipants s t
  | .publish t todo => l.count x + todo.length = 3 + (strategy s (r x)).length ∧
      3 ≤ l.count x ∧ Unhindered s r x l ∧ SameParticipants s t ∧
      ∀ p ∈ todo, p.1.correlationId = some s.sagaId
  | .close t => l.count x = 4 + (strategy s (r x)).length ∧ Unhindered s r x l ∧
      SameParticipants s t
  | .halt _ => (l.count x = 1 ∧ 3 ≤ lead x 0 l) ∨ (l.count x = 2 ∧ cost s r (!x) ≤ lead x 1 l) ∨
      (l.count x = cost s r x ∧ Unhindered s r x l)

/-- Both handlers, the stored status and the commands sent. -/
structure RaceInv (st : Bool → Stage) (w : World) (l : List Bool) : Prop where
  handler : ∀ x, HandlerAt s r x l (st x)
  status : ∃ status, w.Holds s status ∧
    ∀ x, l.count x < 3 → status = progress (l.count (!x)) (cost s r (!x))
  sent : ∀ type, (types (w.commandsFor s.sagaId)).count type +
      ((types (owed (st false))).count type + (types (owed (st true))).count type) =
    (types (taken s r false (l.count false))).count type +
      (types (taken s r true (l.count true))).count type

end Invariant

variable {s : SagaInstance} {r : Bool → Received} {w : World} {l : List Bool}

/-- A call of the other handler leaves what is known of this one. -/
theorem HandlerAt.other {x : Bool} {st : Stage} (h : HandlerAt s r x l st) :
    HandlerAt s r x (l ++ [!x]) st := by
  have hne : (!x) ≠ x := by cases x <;> decide
  have hcount : (l ++ [!x]).count x = l.count x := by
    simp [List.count_append, List.count_cons_of_ne hne]
  have hfirst : 0 < l.count x → lead x 0 (l ++ [!x]) = lead x 0 l := fun h => lead_append h _
  have hsecond : 1 < l.count x → lead x 1 (l ++ [!x]) = lead x 1 l := fun h => lead_append h _
  have hunhindered : 1 < l.count x → Unhindered s r x l → Unhindered s r x (l ++ [!x]) := by
    intro hlt hun
    rw [Unhindered, hfirst (by omega), hsecond hlt]
    exact hun
  cases st with
  | guard => exact hcount.trans h
  | reread _ =>
    obtain ⟨hc, hl, hid⟩ := h
    exact ⟨hcount.trans hc, (hfirst (by omega)).symm ▸ hl, hid⟩
  | claim _ =>
    obtain ⟨hc, hun, hsame⟩ := h
    exact ⟨hcount.trans hc, hunhindered (by omega) hun, hsame⟩
  | publish _ _ =>
    obtain ⟨hc, hge, hun, hrest⟩ := h
    exact ⟨hcount.symm ▸ hc, hcount.symm ▸ hge, hunhindered (by omega) hun, hrest⟩
  | close _ =>
    obtain ⟨hc, hun, hsame⟩ := h
    exact ⟨hcount.trans hc, hunhindered (by omega) hun, hsame⟩
  | halt _ =>
    rcases h with ⟨hc, hl⟩ | ⟨hc, hl⟩ | ⟨hc, hun⟩
    · exact .inl ⟨hcount.trans hc, (hfirst (by omega)).symm ▸ hl⟩
    · exact .inr (.inl ⟨hcount.trans hc, (hsecond (by omega)).symm ▸ hl⟩)
    · have hbig : 1 < l.count x := by
        rw [hc, cost]
        omega
      exact .inr (.inr ⟨hcount.trans hc, hunhindered hbig hun⟩)

private theorem count_concat_self (x : Bool) (l : List Bool) :
    (l ++ [x]).count x = l.count x + 1 := by
  simp [List.count_append]

private theorem count_concat_other (x : Bool) (l : List Bool) :
    (l ++ [x]).count (!x) = l.count (!x) := by
  have hne : x ≠ !x := by cases x <;> decide
  simp [List.count_append, List.count_cons_of_ne hne]

/-- One handler makes a call: its own point, the status and the balance of commands change. -/
theorem RaceInv.advance {st : Bool → Stage} (h : RaceInv s r st w l) {i : Bool} {next : Stage}
    {w' : World} {status : SagaStatus} (hat : HandlerAt s r i (l ++ [i]) next)
    (hst : w'.Holds s status)
    (hself : l.count i + 1 < 3 → status = progress (l.count (!i)) (cost s r (!i)))
    (hother : l.count (!i) < 3 → status = progress (l.count i + 1) (cost s r i))
    (hsent : ∀ type, (types (w'.commandsFor s.sagaId)).count type +
        (types (owed next)).count type + (types (taken s r i (l.count i))).count type =
      (types (w.commandsFor s.sagaId)).count type + (types (owed (st i))).count type +
        (types (taken s r i (l.count i + 1))).count type) :
    RaceInv s r (Function.update st i next) w' (l ++ [i]) where
  handler x := by
    by_cases hx : x = i
    · subst hx
      simpa using hat
    · obtain rfl : i = !x := by cases x <;> cases i <;> simp_all
      rw [Function.update_of_ne hx]
      exact (h.handler x).other
  status := by
    refine ⟨status, hst, fun x hlt => ?_⟩
    by_cases hx : x = i
    · subst hx
      rw [count_concat_self] at hlt
      rw [count_concat_other]
      exact hself hlt
    · obtain rfl : x = !i := by cases x <;> cases i <;> simp_all
      rw [count_concat_other] at hlt
      rw [Bool.not_not, count_concat_self]
      exact hother hlt
  sent type := by
    have hold := h.sent type
    have hnew := hsent type
    have hself := count_concat_self i l
    have hother := count_concat_other i l
    cases i
    · rw [Bool.not_false] at hother
      rw [hself, hother, Function.update_self, Function.update_of_ne (by decide)]
      omega
    · rw [Bool.not_true] at hother
      rw [hself, hother, Function.update_self, Function.update_of_ne (by decide)]
      omega

/-- A call that changes neither the world nor what is owed, and does not claim the saga. -/
theorem RaceInv.look {st : Bool → Stage} (h : RaceInv s r st w l) {i : Bool} {next : Stage}
    (hat : HandlerAt s r i (l ++ [i]) next) (howed : owed next = owed (st i))
    (hclaim : l.count i + 1 < 3 ∨ 3 ≤ l.count i ∧ l.count i + 1 < cost s r i) :
    RaceInv s r (Function.update st i next) w (l ++ [i]) := by
  obtain ⟨status, hst, hprogress⟩ := h.status
  refine h.advance hat hst (fun hlt => hprogress i (by omega)) (fun hlt => ?_) fun type => ?_
  · rw [hprogress (!i) hlt, Bool.not_not]
    unfold progress cost
    unfold cost at hclaim
    split_ifs <;> first | rfl | omega
  · have htaken : taken s r i (l.count i + 1) = taken s r i (l.count i) := by
      unfold taken
      split_ifs <;> first | rfl | omega
    rw [howed, htaken]

section Step

variable {st : Bool → Stage} {i : Bool}

private theorem step_guard (h : RaceInv s r st w l) (hsti : st i = .guard) :
    RaceInv s r (Function.update st i (guardNext (w.db.get s.sagaId))) w (l ++ [i]) := by
  have hat : l.count i = 0 := by simpa [hsti, HandlerAt] using h.handler i
  obtain ⟨status, hst, hprogress⟩ := h.status
  obtain ⟨t, hget, hsame, ht⟩ := hst.get
  have hstatus := hprogress i (by omega)
  have hcount := count_concat_self i l
  have hlead : lead i 0 (l ++ [i]) = l.count (!i) := lead_concat hat
  simp only [hget, guardNext]
  split
  · rename_i hstarted
    refine h.look ⟨by omega, ?_, hsame.sagaId⟩ (by rw [hsti]; rfl) (.inl (by omega))
    rw [hlead]
    by_contra hge
    rw [← ht, hstarted, progress, if_neg hge] at hstatus
    split at hstatus <;> cases hstatus
  · rename_i hother
    refine h.look (.inl ⟨by omega, ?_⟩) (by rw [hsti]; rfl) (.inl (by omega))
    rw [hlead]
    by_contra hlt
    rw [← ht, progress, if_pos (by omega)] at hstatus
    exact hother hstatus

private theorem step_reread (h : RaceInv s r st w l) {sagaId : UUID}
    (hsti : st i = .reread sagaId) {next : Except SagaError (Option SagaInstance) → Stage}
    (hn : chart (r i) (.reread sagaId) = .call (Call.get sagaId) next) :
    RaceInv s r (Function.update st i (next (w.db.get sagaId))) w (l ++ [i]) := by
  have hat : HandlerAt s r i l (.reread sagaId) := hsti ▸ h.handler i
  obtain ⟨hone, hfirst, rfl⟩ := hat
  cases hn
  obtain ⟨status, hst, hprogress⟩ := h.status
  obtain ⟨t, hget, hsame, ht⟩ := hst.get
  have hstatus := hprogress i (by omega)
  have hcount := count_concat_self i l
  have hlead : lead i 1 (l ++ [i]) = l.count (!i) := lead_concat hone
  have hlead0 : lead i 0 (l ++ [i]) = lead i 0 l := lead_append (by omega) _
  simp only [hget]
  split
  · rename_i hended
    refine h.look (.inr (.inl ⟨by omega, ?_⟩)) (by rw [hsti]; rfl) (.inl (by omega))
    rw [hlead]
    by_contra hlt
    rw [← ht, progress] at hstatus
    split_ifs at hstatus <;> first | omega | simp [hstatus] at hended
  · rename_i hopen
    refine h.look ⟨by omega, ⟨hlead0 ▸ hfirst, ?_⟩, hsame⟩ (by rw [hsti]; rfl) (.inl (by omega))
    rw [hlead]
    by_contra hge
    have hbig : ¬ l.count (!i) < 3 := by
      unfold cost at hge
      omega
    rw [← ht, progress, if_neg hbig, if_neg hge] at hstatus
    exact hopen (.inr hstatus)

private theorem step_claim (h : RaceInv s r st w l) {t : SagaInstance} (hsti : st i = .claim t)
    {items : List (String × Json)} (hdict : (r i).event.payload = .obj items)
    {next : Except SagaError SagaInstance → Stage}
    (hn : chart (r i) (.claim t) =
      .call (Call.save (t.markCompensating (r i).event.eventType ((r i).now 0))) next) :
    RaceInv s r (Function.update st i (next (act .leftAside
        (Call.save (t.markCompensating (r i).event.eventType ((r i).now 0))) w).1))
      (act .leftAside (Call.save (t.markCompensating (r i).event.eventType ((r i).now 0))) w).2
      (l ++ [i]) := by
  have hat : HandlerAt s r i l (.claim t) := hsti ▸ h.handler i
  obtain ⟨htwo, hun, hsame⟩ := hat
  cases hn
  obtain ⟨status, hst, hprogress⟩ := h.status
  obtain ⟨reason, hreason⟩ := failureReason_of_dict hdict
  have hmark := hsame.markCompensating (r i).event.eventType ((r i).now 0)
  obtain ⟨t', w', hsave, hsame', hst', hpub⟩ := hst.save_leftAside hmark
  have hcount := count_concat_self i l
  simp only [hsave, hreason]
  have hun' : Unhindered s r i (l ++ [i]) := by
    rw [Unhindered, lead_append (by omega), lead_append (by omega)]
    exact hun
  refine h.advance ?_ hst' (fun hlt => absurd hlt (by omega)) (fun _ => ?_) fun type => ?_
  · rw [strategy_congr hsame']
    exact ⟨by omega, by omega, hun', hsame', fun p hp => correlationId_of_mem_strategy hp⟩
  · have hcost : l.count i + 1 < cost s r i := by
      unfold cost
      omega
    rw [progress, if_neg (by omega), if_pos hcost]
    rfl
  · have hsent : w'.commandsFor s.sagaId = w.commandsFor s.sagaId := congrArg (List.filter _) hpub
    have hbefore : taken s r i (l.count i) = [] := if_pos (by omega)
    have hafter : taken s r i (l.count i + 1) = strategy s (r i) := if_neg (by omega)
    simp only [hsent, hsti, owed, hbefore, hafter, strategy_congr hsame', types, List.map_nil,
      List.count_nil]
    omega

private theorem step_publish (h : RaceInv s r st w l) {t : SagaInstance} {p : Command × String}
    {todo : List (Command × String)} (hsti : st i = .publish t (p :: todo)) :
    RaceInv s r (Function.update st i (.publish t todo))
      (act .leftAside (Call.publishCommand p.1 p.2) w).2 (l ++ [i]) := by
  have hat : HandlerAt s r i l (.publish t (p :: todo)) := hsti ▸ h.handler i
  obtain ⟨hcalls, hge, hun, hsame, hids⟩ := hat
  obtain ⟨status, hst, hprogress⟩ := h.status
  have hcount := count_concat_self i l
  have hlen : (p :: todo).length = todo.length + 1 := rfl
  have hun' : Unhindered s r i (l ++ [i]) := by
    rw [Unhindered, lead_append (by omega), lead_append (by omega)]
    exact hun
  have hcost : l.count i + 1 < cost s r i := by
    unfold cost
    omega
  refine h.advance ?_ hst (fun hlt => absurd hlt (by omega)) (fun hlt => ?_)
    fun type => ?_
  · exact ⟨by omega, by omega, hun', hsame, fun q hq => hids q (List.mem_cons_of_mem _ hq)⟩
  · rw [hprogress (!i) hlt, Bool.not_not]
    unfold progress
    split_ifs <;> first | rfl | omega
  · have hp := hids p (List.mem_cons_self ..)
    rw [commandsFor_publish, if_pos hp]
    have htaken : taken s r i (l.count i + 1) = taken s r i (l.count i) := by
      unfold taken
      split_ifs <;> first | rfl | omega
    simp only [hsti, owed, htaken, types, List.map_append, List.map_cons, List.map_nil,
      List.count_append, List.count_cons, List.count_nil]
    omega

private theorem step_refetch (h : RaceInv s r st w l) {t : SagaInstance}
    (hsti : st i = .publish t []) {next : Except SagaError (Option SagaInstance) → Stage}
    (hn : chart (r i) (.publish t []) = .call (Call.get t.sagaId) next) :
    RaceInv s r (Function.update st i (next (w.db.get t.sagaId))) w (l ++ [i]) := by
  have hat : HandlerAt s r i l (.publish t []) := hsti ▸ h.handler i
  obtain ⟨hcalls, hge, hun, hsame, _⟩ := hat
  cases hn
  obtain ⟨status, hst, _⟩ := h.status
  obtain ⟨t', hget, hsame', _⟩ := hst.get
  have hcount := count_concat_self i l
  have hun' : Unhindered s r i (l ++ [i]) := by
    rw [Unhindered, lead_append (by omega), lead_append (by omega)]
    exact hun
  rw [hsame.sagaId, hget]
  rw [List.length_nil] at hcalls
  refine h.look ⟨by omega, hun', hsame'⟩ (by rw [hsti]; rfl) (.inr ⟨hge, ?_⟩)
  unfold cost
  omega

private theorem step_close (h : RaceInv s r st w l) {t : SagaInstance} (hsti : st i = .close t)
    {next : Except SagaError SagaInstance → Stage}
    (hn : chart (r i) (.close t) = .call (Call.save
      (t.markFailed (r i).event.eventType (failureMessage (r i)) ((r i).now 1))) next) :
    RaceInv s r (Function.update st i (next (act .leftAside (Call.save
        (t.markFailed (r i).event.eventType (failureMessage (r i)) ((r i).now 1))) w).1))
      (act .leftAside (Call.save
        (t.markFailed (r i).event.eventType (failureMessage (r i)) ((r i).now 1))) w).2
      (l ++ [i]) := by
  have hat : HandlerAt s r i l (.close t) := hsti ▸ h.handler i
  obtain ⟨hcalls, hun, hsame⟩ := hat
  cases hn
  obtain ⟨status, hst, _⟩ := h.status
  have hmark := hsame.markFailed (r i).event.eventType (failureMessage (r i)) ((r i).now 1)
  obtain ⟨t', w', hsave, _, hst', hpub⟩ := hst.save_leftAside hmark
  have hcount := count_concat_self i l
  have hun' : Unhindered s r i (l ++ [i]) := by
    rw [Unhindered, lead_append (by omega), lead_append (by omega)]
    exact hun
  have hcost : l.count i + 1 = cost s r i := by
    unfold cost
    omega
  simp only [hsave]
  refine h.advance (.inr (.inr ⟨hcount.trans hcost, hun'⟩)) hst'
    (fun hlt => absurd hlt (by omega)) (fun _ => ?_) fun type => ?_
  · rw [progress, if_neg (by omega), if_neg (by omega)]
    rfl
  · have hsent : w'.commandsFor s.sagaId = w.commandsFor s.sagaId := congrArg (List.filter _) hpub
    have htaken : taken s r i (l.count i + 1) = taken s r i (l.count i) := by
      unfold taken
      split_ifs <;> first | rfl | omega
    simp only [hsent, hsti, owed, htaken]

end Step

/-- The two handlers about to start. -/
def raceStart (r : Bool → Received) (db : SagaDb) :
    Config Bool Call Call.Ans SagaError Unit World where
  threads := fun x => handleFailureEvent (r x)
  world := World.initial db
  trace := []

/-- A strategy of a trigger type cancels the shipment once. -/
theorem count_cancel_strategy {d : Received} (htype : d.event.eventType ∈ triggerTypes)
    {items : List (String × Json)} (hdict : d.event.payload = .obj items) (s : SagaInstance) :
    (types (strategy s d)).count CancelShipmentCommand.commandType = 1 := by
  obtain ⟨reason, hreason⟩ := failureReason_of_dict hdict
  have hmem : CancelShipmentCommand.commandType ∈ types (strategy s d) := by
    simp only [triggerTypes, List.mem_cons, List.not_mem_nil, or_false] at htype
    rcases htype with h | h | h <;>
      simp [types, strategy, hreason, h, cancelShipment, CancelShipmentCommand.create]
  exact le_antisymm (List.nodup_iff_count_le_one.mp (nodup_strategy s d) _)
    (List.count_pos_iff.mpr hmem)

/-- Every call of either handler keeps the invariant. -/
theorem RaceInv.step (hcorr : ∀ x, (r x).event.correlationId = some s.sagaId)
    (hdict : ∀ x, ∃ items, (r x).event.payload = .obj items) (st : Bool → Stage) (w : World)
    (tr : List (Bool × Call)) (i : Bool) (op : Call) (next : Except SagaError op.Ans → Stage)
    (h : RaceInv s r st w (tr.map Prod.fst)) (hn : chart (r i) (st i) = .call op next)
    (_ : True) :
    RaceInv s r (Function.update st i (next (act .leftAside op w).1)) (act .leftAside op w).2
      ((tr ++ [(i, op)]).map Prod.fst) := by
  simp only [List.map_append, List.map_cons, List.map_nil]
  obtain ⟨items, hitems⟩ := hdict i
  cases hsti : st i with
  | guard =>
    rw [hsti, chart_guard (hcorr i)] at hn
    cases hn
    exact step_guard h hsti
  | reread sagaId =>
    rw [hsti] at hn
    cases hn
    exact step_reread h hsti rfl
  | claim t =>
    rw [hsti] at hn
    cases hn
    exact step_claim h hsti hitems rfl
  | publish t todo =>
    rw [hsti] at hn
    cases todo with
    | cons p todo =>
      cases hn
      exact step_publish h hsti
    | nil =>
      cases hn
      exact step_refetch h hsti rfl
  | close t =>
    rw [hsti] at hn
    cases hn
    exact step_close h hsti rfl
  | halt result =>
    rw [hsti] at hn
    cases hn

/-- The invariant holds along every schedule. -/
theorem RaceInv.exec {db : SagaDb} (hstarted : (World.initial db).Holds s .started)
    (hcorr : ∀ x, (r x).event.correlationId = some s.sagaId)
    (hdict : ∀ x, ∃ items, (r x).event.payload = .obj items) {sched : List Bool}
    {c : Config Bool Call Call.Ans SagaError Unit World}
    (h : (raceStart r db).exec (act .leftAside) sched = some c) :
    ∃ st, c.threads = (fun x => prog (r x) (st x)) ∧ RaceInv s r st c.world sched := by
  have htrace : c.trace.map Prod.fst = sched := by
    simpa [raceStart] using Config.exec_trace h
  have hinit : RaceInv s r (fun _ => .guard) (raceStart r db).world
      ((raceStart r db).trace.map Prod.fst) := by
    refine ⟨fun _ => rfl, ⟨.started, hstarted, fun _ _ => rfl⟩, fun _ => ?_⟩
    simp [types, owed, taken, raceStart]
  obtain ⟨st, hthreads, hinv⟩ := Config.exec_invariant (fun x => follows (r x))
    (RaceInv.step hcorr hdict) rfl hinit (Config.along_true _ _) h
  exact ⟨st, hthreads, htrace ▸ hinv⟩

/-- Both handlers are through, and every command one has taken on has been sent. -/
structure RaceEnd (s : SagaInstance) (r : Bool → Received) (w : World) (l : List Bool) : Prop where
  handler : ∀ x, HandlerAt s r x l (.halt (.ok ()))
  sent : ∀ type, (types (w.commandsFor s.sagaId)).count type =
    (types (taken s r false (l.count false))).count type +
      (types (taken s r true (l.count true))).count type

/-- A handler that is through is at its last point. -/
theorem eq_halt_of_chart {r : Received} {sagaId : UUID}
    (hcorr : r.event.correlationId = some sagaId) {st : Stage} {result : Except SagaError Unit}
    (h : chart r st = .halt result) : st = .halt result := by
  cases st with
  | guard =>
    rw [chart_guard hcorr] at h
    cases h
  | publish t todo => cases todo <;> cases h
  | halt result =>
    cases h
    rfl
  | _ => cases h

/-- A finished race has come to its end. -/
theorem RaceInv.end_of_finished {st : Bool → Stage} (h : RaceInv s r st w l)
    (hcorr : ∀ x, (r x).event.correlationId = some s.sagaId)
    (hdone : ∀ x, (prog (r x) (st x)).Done) : RaceEnd s r w l := by
  have hhalt : ∀ x, ∃ result, st x = .halt result := by
    intro x
    obtain ⟨result, hchart⟩ := Config.chart_halt_of_done (follows (r x)) (hdone x)
    exact ⟨result, eq_halt_of_chart (hcorr x) hchart⟩
  have howed : ∀ x, types (owed (st x)) = [] := by
    intro x
    obtain ⟨result, hx⟩ := hhalt x
    rw [hx]
    rfl
  constructor
  · intro x
    obtain ⟨result, hx⟩ := hhalt x
    have hat := h.handler x
    rw [hx] at hat
    exact hat
  · intro type
    have hsent := h.sent type
    simpa only [howed, List.count_nil, Nat.add_zero] using hsent

/-- A handler that was held up has taken on no command. -/
theorem RaceEnd.taken_eq_nil (h : RaceEnd s r w l) {x : Bool}
    (hx : 3 ≤ lead x 0 l ∨ cost s r (!x) ≤ lead x 1 l) : taken s r x (l.count x) = [] := by
  rcases h.handler x with ⟨hc, _⟩ | ⟨hc, _⟩ | ⟨_, hun⟩
  · exact if_pos (by omega)
  · exact if_pos (by omega)
  · rcases hx with hx | hx
    · exact absurd hun.1 (by omega)
    · exact absurd hun.2 (by omega)

/-- A handler that was not held up has taken on its whole strategy. -/
theorem RaceEnd.taken_eq_strategy (h : RaceEnd s r w l) {x : Bool}
    (hx : ¬ (3 ≤ lead x 0 l ∨ cost s r (!x) ≤ lead x 1 l)) :
    taken s r x (l.count x) = strategy s (r x) := by
  rcases h.handler x with ⟨_, hl⟩ | ⟨_, hl⟩ | ⟨hc, _⟩
  · exact absurd (.inl hl) hx
  · exact absurd (.inr hl) hx
  · refine if_neg ?_
    rw [hc, cost]
    omega

/-- One handler takes on a type of command at most once. -/
theorem count_taken_le_one (s : SagaInstance) (r : Bool → Received) (x : Bool) (calls : Nat)
    (type : String) : (types (taken s r x calls)).count type ≤ 1 := by
  unfold taken
  split
  · exact Nat.zero_le 1
  · exact List.nodup_iff_count_le_one.mp (nodup_strategy s (r x)) type

/-- If one handler was held up, no type of command was sent twice. -/
theorem RaceEnd.nodup (h : RaceEnd s r w l) {x : Bool}
    (hx : 3 ≤ lead x 0 l ∨ cost s r (!x) ≤ lead x 1 l) :
    (types (w.commandsFor s.sagaId)).Nodup := by
  refine List.nodup_iff_count_le_one.mpr fun type => ?_
  have hsent := h.sent type
  have hle := count_taken_le_one s r (!x) (l.count !x) type
  have hnone := h.taken_eq_nil hx
  cases x with
  | false =>
    rw [hsent, hnone]
    simpa [types] using hle
  | true =>
    rw [hsent, hnone]
    simpa [types] using hle

/-- If neither was held up, the shipment was cancelled twice. -/
theorem RaceEnd.count_cancel (h : RaceEnd s r w l)
    (htype : ∀ x, (r x).event.eventType ∈ triggerTypes)
    (hdict : ∀ x, ∃ items, (r x).event.payload = .obj items)
    (hx : ∀ x, ¬ (3 ≤ lead x 0 l ∨ cost s r (!x) ≤ lead x 1 l)) :
    (types (w.commandsFor s.sagaId)).count CancelShipmentCommand.commandType = 2 := by
  have hcancel : ∀ x, (types (strategy s (r x))).count CancelShipmentCommand.commandType = 1 := by
    intro x
    obtain ⟨items, hitems⟩ := hdict x
    exact count_cancel_strategy (htype x) hitems s
  rw [h.sent, h.taken_eq_strategy (hx false), h.taken_eq_strategy (hx true), hcancel, hcancel]

/-- Two failure events of one started saga are handled concurrently: every type of command
is sent at most once if and only if one handler first looked at the saga after the other
had claimed it, or looked again after the other had failed it. -/
theorem nodup_race_iff (db : SagaDb) (s : SagaInstance) (hget : db.get s.sagaId = .ok (some s))
    (hst : s.status = .started) (r : Bool → Received)
    (hcorr : ∀ x, (r x).event.correlationId = some s.sagaId)
    (htype : ∀ x, (r x).event.eventType ∈ triggerTypes)
    (hdict : ∀ x, ∃ items, (r x).event.payload = .obj items) (sched : List Bool)
    (c : Config Bool Call Call.Ans SagaError Unit World)
    (h : (raceStart r db).exec (act .leftAside) sched = some c) (hfin : c.Finished) :
    (types (c.world.commandsFor s.sagaId)).Nodup ↔
      ∃ x, 3 ≤ lead x 0 sched ∨ cost s r (!x) ≤ lead x 1 sched := by
  obtain ⟨st, hthreads, hinv⟩ :=
    RaceInv.exec (hst ▸ World.holds_of_get hget) hcorr hdict h
  have hend : RaceEnd s r c.world sched := by
    refine hinv.end_of_finished hcorr fun x => ?_
    have hdone := hfin x
    rwa [hthreads] at hdone
  constructor
  · intro hnodup
    by_contra hnone
    have htwice := hend.count_cancel htype hdict fun x hx => hnone ⟨x, hx⟩
    have honce := List.nodup_iff_count_le_one.mp hnodup CancelShipmentCommand.commandType
    omega
  · rintro ⟨x, hx⟩
    exact hend.nodup hx

/-- Both handlers look at the saga before either has claimed it. -/
def overlappingSchedule : List Bool :=
  [false, true, false, true] ++ List.replicate 6 false ++ List.replicate 6 true

theorem nodup_race_iff_sample : ∃ c,
    (raceStart (fun _ => sampleEvent "delivery.failed") sampleDb).exec (act .leftAside)
      overlappingSchedule = some c ∧
    ((types (c.world.commandsFor sampleSaga.sagaId)).Nodup ↔
      ∃ x, 3 ≤ lead x 0 overlappingSchedule ∨
        cost sampleSaga (fun _ => sampleEvent "delivery.failed") (!x) ≤
          lead x 1 overlappingSchedule) := by
  refine ⟨_, rfl, nodup_race_iff sampleDb sampleSaga rfl rfl
    (fun _ => sampleEvent "delivery.failed") (fun _ => rfl) (fun _ => by decide)
    (fun _ => ⟨_, rfl⟩) overlappingSchedule _ rfl fun x => ?_⟩
  cases x <;> trivial

/-- Two deliveries of `delivery.failed` that overlap send every command of the started
saga twice. -/
theorem overlapping_handlers_send_twice :
    sampleDb.get sampleSaga.sagaId = .ok (some sampleSaga) ∧ sampleSaga.status = .started ∧
    ∃ c, (raceStart (fun _ => sampleEvent "delivery.failed") sampleDb).exec (act .leftAside)
        overlappingSchedule = some c ∧ c.Finished ∧
      ¬ (types (c.world.commandsFor sampleSaga.sagaId)).Nodup := by
  refine ⟨rfl, rfl, _, rfl, fun x => ?_, by decide⟩
  cases x <;> trivial

end SupplyChainTracker.Saga
