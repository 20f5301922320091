import SupplyChainTracker.Saga.Handling

/-!
# One worker against any number of context updates

Every writer of a saga reads the whole row and writes it back. The invariant says
what each copy is worth: a copy agrees with the row in every column that nobody
has set since it was read. When no writer stores a copy that has been overtaken,
the status is the worker's and no id is lost.
-/

namespace SupplyChainTracker.Saga

open SagaCompensationWorker SagaRouter

/-- No bad entry follows the last marked one. -/
def quietSince {α : Type} (mark bad : α → Bool) (l : List α) : Bool :=
  l.foldl (fun quiet e => if mark e then true else if bad e then false else quiet) true

/-- No bad entry follows the first marked one. -/
def quietSinceFirst {α : Type} (mark bad : α → Bool) : List α → Bool
  | [] => true
  | e :: l => if mark e then l.all (fun e => !bad e) else quietSinceFirst mark bad l

section Quiet

variable {α : Type} {mark bad : α → Bool} {l : List α} {e : α}

theorem quietSince_concat : quietSince mark bad (l ++ [e]) =
    if mark e then true else if bad e then false else quietSince mark bad l := by
  simp [quietSince]

/-- An entry that is not marked keeps a quiet list quiet only if it is not bad. -/
theorem quietSince_of_concat (hm : mark e = false) (h : quietSince mark bad (l ++ [e])) :
    bad e = false ∧ quietSince mark bad l := by
  rw [quietSince_concat, hm] at h
  cases hb : bad e <;> simp_all

theorem quietSinceFirst_of_concat (hm : l.any mark) (h : quietSinceFirst mark bad (l ++ [e])) :
    bad e = false ∧ quietSinceFirst mark bad l := by
  induction l with
  | nil => simp at hm
  | cons d l ih =>
    simp only [List.cons_append, quietSinceFirst] at h ⊢
    cases hd : mark d with
    | true => simp_all
    | false =>
      simp only [hd, Bool.false_eq_true, if_false] at h ⊢
      exact ih (by simpa [hd] using hm) h

end Quiet

/-- The two columns a `PATCH` can set. -/
inductive IdField : Type
  | warehouse
  | delivery

namespace IdField

/-- The column in an entity. -/
def ofEntity : IdField → SagaInstance → Option UUID
  | warehouse, s => s.warehouseId
  | delivery, s => s.deliveryId

/-- The column in a stored row. -/
def ofRow : IdField → SagaRow → Option UUID
  | warehouse, r => r.warehouseId
  | delivery, r => r.deliveryId

/-- What a request supplies for the column. -/
def ofDto : IdField → SagaUpdateDTO → Option UUID
  | warehouse, dto => dto.warehouseId
  | delivery, dto => dto.deliveryId

/-- The component of a pair of ids. -/
def pick : IdField → Option UUID → Option UUID → Option UUID
  | warehouse, warehouseId, _ => warehouseId
  | delivery, _, deliveryId => deliveryId

end IdField

/-- A point of the worker or of a `PATCH`. -/
inductive Point : Type
  | worker (stage : Stage)
  | patch (stage : PatchStage)

section Participants

variable {ι : Type} (s : SagaInstance) (r : Received) (dto : ι → SagaUpdateDTO)
  (now : ι → DateTime)

/-- The worker is `none`; the others are requests. -/
def contenderChart : Option ι → Point → Node Call Call.Ans SagaError Unit Point
  | none, .worker st => (SagaCompensationWorker.chart r st).relabel .worker
  | some i, .patch st => (patchChart (dto i) st).relabel .patch
  | _, _ => .halt (.ok ())

/-- What a participant still has to do. -/
def contenderProg : Option ι → Point → Program Unit
  | none, .worker st => SagaCompensationWorker.prog r st
  | some i, .patch st => patchProg (dto i) (now i) st
  | _, _ => .ret ()

theorem follows_contender (p : Option ι) :
    Follows (contenderChart r dto p) (contenderProg r dto now p) := by
  intro point
  rcases p with _ | i <;> rcases point with st | st
  · change _ = ((SagaCompensationWorker.chart r st).relabel Point.worker).toCoroutine _
    rw [Node.toCoroutine_relabel]
    exact SagaCompensationWorker.follows r st
  · rfl
  · rfl
  · change _ = ((patchChart (dto i) st).relabel Point.patch).toCoroutine _
    rw [Node.toCoroutine_relabel]
    exact follows_patch (dto i) (now i) st

/-- The worker handling an event and every request about to start. -/
def contenders (db : SagaDb) : Config (Option ι) Call Call.Ans SagaError Unit World where
  threads
    | none => handleFailureEvent r
    | some i => (updateSagaContext s.sagaId (dto i) (now i)).bind fun _ => .ret ()
  world := World.initial db
  trace := []

end Participants

/-- Whether a call is a `save`. -/
def Call.isSave : Call → Bool
  | save _ => true
  | _ => false

/-- Whether a call is a `get`. -/
def Call.isGet : Call → Bool
  | get _ => true
  | _ => false

section Traces

variable {ι : Type} [DecidableEq ι] (s : SagaInstance) (dto : ι → SagaUpdateDTO)

/-- A read of one participant. -/
def readOf (p : Option ι) (e : Option ι × Call) : Bool := e.1 = p && e.2.isGet

/-- A save of one participant. -/
def saveOf (p : Option ι) (e : Option ι × Call) : Bool := e.1 = p && e.2.isSave

/-- The status the worker has written last, if any. -/
def lastWritten (tr : List (Option ι × Call)) : SagaStatus :=
  tr.foldl (fun status e =>
    match e with
    | (none, .save t) => t.status
    | _ => status) s.status

/-- Request `j` is the only one that supplies a column. -/
def OnlySupplier (f : IdField) (j : ι) : Prop :=
  (f.ofDto (dto j)).isSome ∧ ∀ i, i ≠ j → f.ofDto (dto i) = none

/-- What a column with one supplier should hold. -/
def current (f : IdField) (j : ι) (tr : List (Option ι × Call)) : Option UUID :=
  if tr.any (saveOf (some j)) then f.ofDto (dto j) else f.ofEntity s

/-- The next call does not store an overtaken copy. A save of the worker is not separated
from the worker's last read by a request that supplies an id. A save of a request is not
separated from its last read by the worker, nor by a request that supplies a column it
does not supply itself; if that column was set from the beginning, then not even from its
first read. -/
def NotOvertaken (tr : List (Option ι × Call)) (p : Option ι) (op : Call) : Prop :=
  op.isSave → match p with
    | none => ∀ (j : ι) (f : IdField), (f.ofDto (dto j)).isSome →
        quietSince (readOf none) (saveOf (some j)) tr
    | some i => quietSince (readOf (some i)) (saveOf none) tr ∧
        ∀ (j : ι) (f : IdField), (f.ofDto (dto j)).isSome → f.ofDto (dto i) = none →
          quietSince (readOf (some i)) (saveOf (some j)) tr ∧
          ((f.ofEntity s).isSome → quietSinceFirst (readOf (some i)) (saveOf (some j)) tr)

end Traces

/-! ## The invariant -/

section Invariant

variable {ι : Type} [DecidableEq ι] (s : SagaInstance) (dto : ι → SagaUpdateDTO)

/-- The stored row has the worker's status and every column with one supplier is up to date. -/
def RowAt (w : World) (tr : List (Option ι × Call)) : Prop :=
  ∃ row, w.row? s.sagaId = some row ∧ row.status = (lastWritten s tr).value ∧
    ∀ f j, OnlySupplier dto f j → f.ofRow row = current s dto f j tr

/-- A copy of the worker is up to date in every column not set since the worker's last read. -/
def WorkerCopy (t : SagaInstance) (tr : List (Option ι × Call)) : Prop :=
  t.sagaId = s.sagaId ∧ ∀ f j, OnlySupplier dto f j →
    quietSince (readOf none) (saveOf (some j)) tr → f.ofEntity t = current s dto f j tr

/-- What is known of the worker at each of its points. -/
def WorkerAt (tr : List (Option ι × Call)) : Stage → Prop
  | .reread sagaId => sagaId = s.sagaId
  | .claim t => WorkerCopy s dto t tr
  | .publish t _ => t.sagaId = s.sagaId
  | .close t => WorkerCopy s dto t tr
  | _ => True

/-- What is known of a request at each of its points. -/
def PatchAt (i : ι) (tr : List (Option ι × Call)) : PatchStage → Prop
  | .first sagaId => sagaId = s.sagaId
  | .second sagaId warehouseId deliveryId => sagaId = s.sagaId ∧ tr.any (readOf (some i)) ∧
      ∀ f j, OnlySupplier dto f j →
        (i = j → f.pick warehouseId deliveryId = f.ofDto (dto j)) ∧
        (i ≠ j → ∀ v, f.pick warehouseId deliveryId = some v →
          f.ofEntity s = none ∨ quietSinceFirst (readOf (some i)) (saveOf (some j)) tr →
          current s dto f j tr = some v)
  | .store t => t.sagaId = s.sagaId ∧ tr.any (readOf (some i)) ∧
      (quietSince (readOf (some i)) (saveOf none) tr → t.status = lastWritten s tr) ∧
      ∀ f j, OnlySupplier dto f j →
        (i = j → f.ofEntity t = f.ofDto (dto j)) ∧
        (i ≠ j → quietSince (readOf (some i)) (saveOf (some j)) tr →
          ((f.ofEntity s).isSome → quietSinceFirst (readOf (some i)) (saveOf (some j)) tr) →
          f.ofEntity t = current s dto f j tr)
  | .halt _ => ∀ f, OnlySupplier dto f i → tr.any (saveOf (some i))

/-- The row, the worker and every request. -/
structure ContendInv (points : Option ι → Point) (w : World) (tr : List (Option ι × Call)) :
    Prop where
  row : RowAt s dto w tr
  written : ∀ t, (none, Call.save t) ∈ tr → t.status = .compensating ∨ t.status = .failed
  worker : ∃ st, points none = .worker st ∧ WorkerAt s dto tr st
  patch : ∀ i, ∃ st, points (some i) = .patch st ∧ PatchAt s dto i tr st

end Invariant

section Preservation

variable {ι : Type} [DecidableEq ι] {s : SagaInstance} {dto : ι → SagaUpdateDTO}
  {tr : List (Option ι × Call)} {e : Option ι × Call} {f : IdField} {i j : ι}

theorem lastWritten_concat (h : saveOf none e = false) :
    lastWritten s (tr ++ [e]) = lastWritten s tr := by
  obtain ⟨p, op⟩ := e
  rw [lastWritten, List.foldl_append, lastWritten, List.foldl_cons, List.foldl_nil]
  cases p <;> cases op <;> simp_all [saveOf, Call.isSave]

omit [DecidableEq ι] in
theorem lastWritten_concat_save (t : SagaInstance) :
    lastWritten s (tr ++ [(none, Call.save t)]) = t.status := by
  rw [lastWritten, List.foldl_append]
  rfl

omit [DecidableEq ι] in
/-- A status the worker has written last is one of the worker's saves. -/
theorem exists_save_of_lastWritten (h : ∃ t, (none, Call.save t) ∈ tr) :
    ∃ t, (none, Call.save t) ∈ tr ∧ lastWritten s tr = t.status := by
  induction tr using List.reverseRecOn with
  | nil => simp at h
  | append_singleton tr e ih =>
    by_cases he : ∃ t, e = (none, Call.save t)
    · obtain ⟨t, rfl⟩ := he
      exact ⟨t, by simp, lastWritten_concat_save t⟩
    · obtain ⟨t, ht⟩ := h
      have ht' : (none, Call.save t) ∈ tr := by
        rcases List.mem_append.mp ht with ht | ht
        · exact ht
        · exact absurd ⟨t, (List.mem_singleton.mp ht).symm⟩ he
      obtain ⟨t', hmem, hlast⟩ := ih ⟨t, ht'⟩
      refine ⟨t', List.mem_append_left _ hmem, ?_⟩
      rw [lastWritten, List.foldl_append, List.foldl_cons, List.foldl_nil]
      split
      · exact absurd ⟨_, rfl⟩ he
      · exact hlast

theorem current_concat (h : saveOf (some j) e = false) :
    current s dto f j (tr ++ [e]) = current s dto f j tr := by
  have hany : (tr ++ [e]).any (saveOf (some j)) = tr.any (saveOf (some j)) := by
    rw [List.any_append, List.any_cons, h, List.any_nil, Bool.or_false, Bool.or_false]
  rw [current, hany, current]

theorem current_concat_save (h : saveOf (some j) e = true) :
    current s dto f j (tr ++ [e]) = f.ofDto (dto j) := by
  have hany : (tr ++ [e]).any (saveOf (some j)) = true := by
    rw [List.any_append, List.any_cons, h, Bool.true_or, Bool.or_true]
  rw [current, if_pos hany]

/-- A column that was not set at first keeps the only value it can get. -/
theorem current_concat_of_unset {v : UUID} (hnone : f.ofEntity s = none)
    (h : current s dto f j tr = some v) : current s dto f j (tr ++ [e]) = some v := by
  have hany : tr.any (saveOf (some j)) = true := by
    by_contra hno
    rw [current, if_neg hno, hnone] at h
    cases h
  have hany' : (tr ++ [e]).any (saveOf (some j)) = true := by
    rw [List.any_append, hany, Bool.true_or]
  rw [current, if_pos hany] at h
  rw [current, if_pos hany', h]

private theorem readOf_of_ne {p : Option ι} (h : e.1 ≠ p) : readOf p e = false := by
  simp [readOf, h]

/-- A call of another participant leaves what is known of the worker. -/
theorem WorkerAt.other {st : Stage} (h : WorkerAt s dto tr st) (he : e.1 ≠ none) :
    WorkerAt s dto (tr ++ [e]) st := by
  have hcopy : ∀ t, WorkerCopy s dto t tr → WorkerCopy s dto t (tr ++ [e]) := by
    rintro t ⟨hid, ht⟩
    refine ⟨hid, fun f j hj hq => ?_⟩
    obtain ⟨hsave, hq'⟩ := quietSince_of_concat (readOf_of_ne he) hq
    rw [current_concat hsave]
    exact ht f j hj hq'
  cases st with
  | claim t => exact hcopy t h
  | close t => exact hcopy t h
  | guard => trivial
  | reread _ => exact h
  | publish _ _ => exact h
  | halt _ => trivial

/-- A call of another participant leaves what is known of a request. -/
theorem PatchAt.other {st : PatchStage} (h : PatchAt s dto i tr st) (he : e.1 ≠ some i) :
    PatchAt s dto i (tr ++ [e]) st := by
  have hread := readOf_of_ne he
  cases st with
  | first sagaId => exact h
  | second sagaId warehouseId deliveryId =>
    obtain ⟨hid, hany, hcols⟩ := h
    refine ⟨hid, by rw [List.any_append, hany, Bool.true_or], fun f j hj => ?_⟩
    refine ⟨(hcols f j hj).1, fun hne v hv hor => ?_⟩
    have hcur := (hcols f j hj).2 hne v hv
    rcases hor with hnone | hq
    · exact current_concat_of_unset hnone (hcur (.inl hnone))
    · obtain ⟨hsave, hq'⟩ := quietSinceFirst_of_concat hany hq
      rw [current_concat hsave]
      exact hcur (.inr hq')
  | store t =>
    obtain ⟨hid, hany, hstatus, hcols⟩ := h
    refine ⟨hid, by rw [List.any_append, hany, Bool.true_or], fun hq => ?_, fun f j hj => ?_⟩
    · obtain ⟨hsave, hq'⟩ := quietSince_of_concat hread hq
      rw [lastWritten_concat hsave]
      exact hstatus hq'
    · refine ⟨(hcols f j hj).1, fun hne hq hfirst => ?_⟩
      obtain ⟨hsave, hq'⟩ := quietSince_of_concat hread hq
      rw [current_concat hsave]
      exact (hcols f j hj).2 hne hq' fun hset => (quietSinceFirst_of_concat hany (hfirst hset)).2
  | halt result =>
    intro f hf
    rw [List.any_append, h f hf, Bool.true_or]

/-- A call that is not a save leaves the row up to date. -/
theorem RowAt.look {w : World} (h : RowAt s dto w tr) (he : e.2.isSave = false) :
    RowAt s dto w (tr ++ [e]) := by
  have hsave : ∀ p, saveOf p e = false := fun p => by simp [saveOf, he]
  obtain ⟨row, hrow, hst, hcols⟩ := h
  refine ⟨row, hrow, ?_, fun f j hj => ?_⟩
  · rw [lastWritten_concat (hsave _)]
    exact hst
  · rw [current_concat (hsave _)]
    exact hcols f j hj

/-- The worker makes a call: its own point and the row change. -/
theorem ContendInv.worker_step {points : Option ι → Point} {w w' : World}
    (h : ContendInv s dto points w tr) {op : Call} {next : Stage}
    (hrow : RowAt s dto w' (tr ++ [(none, op)]))
    (hop : ∀ t, op = Call.save t → t.status = .compensating ∨ t.status = .failed)
    (hnext : WorkerAt s dto (tr ++ [(none, op)]) next) :
    ContendInv s dto (Function.update points none (.worker next)) w' (tr ++ [(none, op)]) where
  row := hrow
  written t ht := by
    rcases List.mem_append.mp ht with ht | ht
    · exact h.written t ht
    · exact hop t (congrArg Prod.snd (List.mem_singleton.mp ht)).symm
  worker := ⟨next, Function.update_self .., hnext⟩
  patch i := by
    obtain ⟨st, hst, hat⟩ := h.patch i
    exact ⟨st, (Function.update_of_ne (Option.some_ne_none i) ..).trans hst,
      hat.other (Option.some_ne_none i).symm⟩

/-- A request makes a call: its own point and the row change. -/
theorem ContendInv.patch_step {points : Option ι → Point} {w w' : World}
    (h : ContendInv s dto points w tr) {op : Call} {next : PatchStage}
    (hrow : RowAt s dto w' (tr ++ [(some i, op)]))
    (hnext : PatchAt s dto i (tr ++ [(some i, op)]) next) :
    ContendInv s dto (Function.update points (some i) (.patch next)) w' (tr ++ [(some i, op)]) where
  row := hrow
  written t ht := by
    rcases List.mem_append.mp ht with ht | ht
    · exact h.written t ht
    · cases congrArg Prod.fst (List.mem_singleton.mp ht)
  worker := by
    obtain ⟨st, hst, hat⟩ := h.worker
    exact ⟨st, (Function.update_of_ne (Option.some_ne_none i).symm ..).trans hst,
      hat.other (Option.some_ne_none i)⟩
  patch j := by
    by_cases hij : i = j
    · subst hij
      exact ⟨next, Function.update_self .., hnext⟩
    · obtain ⟨st, hst, hat⟩ := h.patch j
      have hne : some i ≠ some j := fun he => hij (Option.some.inj he)
      exact ⟨st, (Function.update_of_ne hne.symm ..).trans hst, hat.other hne⟩

end Preservation

section Step

variable {ι : Type} [DecidableEq ι] {s : SagaInstance} {r : Received} {dto : ι → SagaUpdateDTO}
  {tr : List (Option ι × Call)} {points : Option ι → Point} {w : World} {i : ι}

theorem IdField.ofEntity_entity (f : IdField) (row : SagaRow) (status : SagaStatus) :
    f.ofEntity (row.entity status) = f.ofRow row := by
  cases f <;> rfl

/-- A copy read just now is up to date. -/
private theorem RowAt.read (h : RowAt s dto w tr) (p : Option ι) :
    ∃ t, w.db.get s.sagaId = .ok (some t) ∧ t.sagaId = s.sagaId ∧ t.status = lastWritten s tr ∧
      ∀ f j, OnlySupplier dto f j →
        f.ofEntity t = current s dto f j (tr ++ [(p, Call.get s.sagaId)]) := by
  obtain ⟨row, hrow, hst, hcols⟩ := h
  have hid : row.sagaId = s.sagaId := Table.key_of_find? hrow
  refine ⟨_, get_of_row? hrow hst, hid, rfl, fun f j hj => ?_⟩
  rw [f.ofEntity_entity, current_concat (by simp [saveOf, Call.isSave])]
  exact hcols f j hj

/-- A save of an up-to-date copy keeps the row up to date. -/
private theorem RowAt.save (h : RowAt s dto w tr) {p : Option ι} {t : SagaInstance}
    (hid : t.sagaId = s.sagaId) (hst : t.status = lastWritten s (tr ++ [(p, Call.save t)]))
    (hcols : ∀ f j, OnlySupplier dto f j →
      f.ofEntity t = current s dto f j (tr ++ [(p, Call.save t)])) :
    RowAt s dto (act .leftAside (Call.save t) w).2 (tr ++ [(p, Call.save t)]) := by
  obtain ⟨row, hrow, _, _⟩ := h
  obtain ⟨new, w', hsave, _, hnew, _, hnst, _, _, _, hup⟩ := act_save_edited hrow hid
  rw [hsave]
  refine ⟨new, hnew, hnst.trans (congrArg SagaStatus.value hst), fun f j hj => ?_⟩
  rw [← hcols f j hj]
  cases f
  · exact hup.warehouseId
  · exact hup.deliveryId

private theorem WorkerCopy.of_read {t : SagaInstance} {e : Option ι × Call}
    (hid : t.sagaId = s.sagaId)
    (hcols : ∀ f j, OnlySupplier dto f j → f.ofEntity t = current s dto f j (tr ++ [e])) :
    WorkerCopy s dto t (tr ++ [e]) :=
  ⟨hid, fun f j hj _ => hcols f j hj⟩

/-- Any save of the worker stores an up-to-date copy with the worker's status. -/
private theorem worker_save (h : ContendInv s dto points w tr) {t : SagaInstance}
    (t' : SagaInstance) (hcopy : WorkerCopy s dto t tr) (hid : t'.sagaId = t.sagaId)
    (hsame : ∀ f : IdField, f.ofEntity t' = f.ofEntity t)
    (hallowed : NotOvertaken s dto tr none (Call.save t')) :
    RowAt s dto (act .leftAside (Call.save t') w).2 (tr ++ [(none, Call.save t')]) := by
  refine h.row.save (hid.trans hcopy.1) (lastWritten_concat_save t').symm fun f j hj => ?_
  rw [current_concat (by simp [saveOf]), hsame]
  exact hcopy.2 f j hj (hallowed rfl j f hj.1)

private theorem step_worker (hcorr : r.event.correlationId = some s.sagaId)
    (h : ContendInv s dto points w tr) {st : Stage} (hat : WorkerAt s dto tr st) {op : Call}
    {next : Except SagaError op.Ans → Stage}
    (hn : SagaCompensationWorker.chart r st = .call op next)
    (hallowed : NotOvertaken s dto tr none op) :
    ContendInv s dto (Function.update points none (.worker (next (act .leftAside op w).1)))
      (act .leftAside op w).2 (tr ++ [(none, op)]) := by
  obtain ⟨t₀, hget, hid₀, _, hcols₀⟩ := h.row.read none
  cases st with
  | guard =>
    rw [chart_guard hcorr] at hn
    cases hn
    refine h.worker_step (h.row.look rfl) (by simp) ?_
    simp only [act, hget, guardNext]
    split
    · exact hid₀
    · trivial
  | reread sagaId =>
    obtain rfl : sagaId = s.sagaId := hat
    cases hn
    refine h.worker_step (h.row.look rfl) (by simp) ?_
    simp only [act, hget]
    split
    · trivial
    · exact WorkerCopy.of_read hid₀ hcols₀
  | claim t =>
    cases hn
    obtain ⟨row, hrow, _, _⟩ := h.row
    have hsaved := worker_save h (t.markCompensating r.event.eventType (r.now 0)) hat rfl
      (fun f => by cases f <;> rfl) hallowed
    refine h.worker_step hsaved (fun _ he => .inl (by cases he; rfl)) ?_
    obtain ⟨new, w', hsave, _, _, _, _, _, _, _, hup⟩ :=
      act_save_edited hrow (t := t.markCompensating r.event.eventType (r.now 0)) hat.1
    simp only [hsave]
    split
    · trivial
    · exact hup.sagaId.trans hat.1
  | publish t todo =>
    cases todo with
    | cons p todo =>
      cases hn
      have hrow : RowAt s dto (act .leftAside (Call.publishCommand p.1 p.2) w).2
          (tr ++ [(none, Call.publishCommand p.1 p.2)]) :=
        RowAt.look (w := (act .leftAside (Call.publishCommand p.1 p.2) w).2) h.row rfl
      exact h.worker_step hrow (by simp) hat
    | nil =>
      cases hn
      refine h.worker_step (h.row.look rfl) (by simp) ?_
      rw [show t.sagaId = s.sagaId from hat]
      simp only [act, hget]
      exact WorkerCopy.of_read hid₀ hcols₀
  | close t =>
    cases hn
    have hsaved := worker_save h
      (t.markFailed r.event.eventType (failureMessage r) (r.now 1)) hat rfl
      (fun f => by cases f <;> rfl) hallowed
    refine h.worker_step hsaved (fun _ he => .inr (by cases he; rfl)) ?_
    cases (act .leftAside (Call.save
      (t.markFailed r.event.eventType (failureMessage r) (r.now 1))) w).1 <;> trivial
  | halt result => cases hn

/-- The columns `update_context` saves: the given ids, and the stored ones elsewhere. -/
private theorem IdField.ofEntity_withContext (f : IdField) (t : SagaInstance)
    (warehouseId deliveryId : Option UUID) :
    f.ofEntity (SagaService.withContext t warehouseId deliveryId) =
      (f.pick warehouseId deliveryId).or (f.ofEntity t) := by
  cases f <;> rfl

private theorem step_first (h : ContendInv s dto points w tr) :
    PatchAt s dto i (tr ++ [(some i, Call.get s.sagaId)])
      (firstNext (dto i) s.sagaId (w.db.get s.sagaId)) := by
  obtain ⟨t, hget, hid, _, hcols⟩ := h.row.read (some i)
  have hpick : ∀ f : IdField, f.pick ((dto i).warehouseId.or t.warehouseId)
      ((dto i).deliveryId.or t.deliveryId) = (f.ofDto (dto i)).or (f.ofEntity t) := by
    intro f
    cases f <;> rfl
  simp only [hget, firstNext]
  refine ⟨hid, by simp [readOf, Call.isGet], fun f j hj => ⟨?_, fun hne v hv _ => ?_⟩⟩
  · rintro rfl
    obtain ⟨x, hx⟩ := Option.isSome_iff_exists.mp hj.1
    rw [hpick, hx, Option.some_or]
  · rw [hpick, hj.2 i hne, Option.none_or, hcols f j hj] at hv
    exact hv

private theorem step_second (h : ContendInv s dto points w tr)
    {warehouseId deliveryId : Option UUID}
    (hat : PatchAt s dto i tr (.second s.sagaId warehouseId deliveryId)) :
    PatchAt s dto i (tr ++ [(some i, Call.get s.sagaId)])
      (secondNext s.sagaId warehouseId deliveryId (w.db.get s.sagaId)) := by
  obtain ⟨_, hany, hids⟩ := hat
  obtain ⟨t, hget, hid, hst, hcols⟩ := h.row.read (some i)
  have hget' : saveOf none (some i, Call.get s.sagaId) = false := by simp [saveOf]
  simp only [hget, secondNext]
  split
  · refine ⟨hid, by rw [List.any_append, hany, Bool.true_or], fun _ => ?_, fun f j hj => ?_⟩
    · rw [lastWritten_concat hget']
      exact hst
    · rw [f.ofEntity_withContext]
      refine ⟨?_, fun hne _ hfirst => ?_⟩
      · rintro rfl
        obtain ⟨x, hx⟩ := Option.isSome_iff_exists.mp hj.1
        rw [(hids f i hj).1 rfl, hx, Option.some_or]
      · cases hpick : f.pick warehouseId deliveryId with
        | none =>
          rw [Option.none_or]
          exact hcols f j hj
        | some v =>
          rw [Option.some_or, current_concat (by simp [saveOf, Call.isSave])]
          refine ((hids f j hj).2 hne v hpick ?_).symm
          cases hset : f.ofEntity s with
          | none => exact .inl rfl
          | some v₀ =>
            exact .inr (quietSinceFirst_of_concat hany (hfirst (by rw [hset]; rfl))).2
  · rename_i hnone
    intro f hf
    have hpick := (hids f i hf).1 rfl
    obtain ⟨x, hx⟩ := Option.isSome_iff_exists.mp hf.1
    rw [hx] at hpick
    refine absurd ?_ hnone
    cases f
    · exact .inl (Option.isSome_iff_exists.mpr ⟨x, hpick⟩)
    · exact .inr (Option.isSome_iff_exists.mpr ⟨x, hpick⟩)

private theorem step_store (h : ContendInv s dto points w tr) {t : SagaInstance}
    (hat : PatchAt s dto i tr (.store t))
    (hallowed : NotOvertaken s dto tr (some i) (Call.save t)) :
    RowAt s dto (act .leftAside (Call.save t) w).2 (tr ++ [(some i, Call.save t)]) := by
  obtain ⟨hid, hany, hst, hcols⟩ := hat
  obtain ⟨hquiet, hothers⟩ := hallowed rfl
  have hself : saveOf (some i) (some i, Call.save t) = true := by simp [saveOf, Call.isSave]
  refine h.row.save hid ?_ fun f j hj => ?_
  · rw [lastWritten_concat (by simp [saveOf])]
    exact hst hquiet
  · by_cases hij : i = j
    · subst hij
      rw [current_concat_save hself]
      exact (hcols f i hj).1 rfl
    · obtain ⟨hlast, hfirst⟩ := hothers j f hj.1 (hj.2 i hij)
      rw [current_concat (by simp [saveOf, hij])]
      exact (hcols f j hj).2 hij hlast hfirst

/-- Every call that does not store an overtaken copy keeps the invariant. -/
theorem ContendInv.step (hcorr : r.event.correlationId = some s.sagaId)
    (points : Option ι → Point) (w : World) (tr : List (Option ι × Call)) (p : Option ι)
    (op : Call) (next : Except SagaError op.Ans → Point) (h : ContendInv s dto points w tr)
    (hn : contenderChart r dto p (points p) = .call op next)
    (hallowed : NotOvertaken s dto tr p op) :
    ContendInv s dto (Function.update points p (next (act .leftAside op w).1))
      (act .leftAside op w).2 (tr ++ [(p, op)]) := by
  cases p with
  | none =>
    obtain ⟨st, hst, hat⟩ := h.worker
    rw [hst, contenderChart] at hn
    cases hchart : SagaCompensationWorker.chart r st with
    | halt result =>
      rw [hchart] at hn
      cases hn
    | call op' next' =>
      rw [hchart] at hn
      cases hn
      exact step_worker hcorr h hat hchart hallowed
  | some i =>
    obtain ⟨st, hst, hat⟩ := h.patch i
    rw [hst, contenderChart] at hn
    cases st with
    | first sagaId =>
      obtain rfl : sagaId = s.sagaId := hat
      cases hn
      exact h.patch_step (h.row.look rfl) (step_first h)
    | second sagaId warehouseId deliveryId =>
      obtain rfl : sagaId = s.sagaId := hat.1
      cases hn
      exact h.patch_step (h.row.look rfl) (step_second h hat)
    | store t =>
      cases hn
      refine h.patch_step (step_store h hat hallowed) ?_
      have hsaved : ((tr ++ [(some i, Call.save t)]).any (saveOf (some i))) = true := by
        simp [saveOf, Call.isSave]
      cases (act .leftAside (Call.save t) w).1 <;> exact fun _ _ => hsaved
    | halt result => cases hn

end Step

/-! ## Runs without overtaken saves -/

/-- When no save stores an overtaken copy, the stored status is always the one the worker
wrote last, never `STARTED` again, and at the end every id with a single supplier is stored. -/
theorem no_lost_update {ι : Type} [DecidableEq ι] (db : SagaDb) (s : SagaInstance)
    (hget : db.get s.sagaId = .ok (some s)) (r : Received)
    (hcorr : r.event.correlationId = some s.sagaId) (dto : ι → SagaUpdateDTO)
    (now : ι → DateTime) (sched : List (Option ι))
    (c : Config (Option ι) Call Call.Ans SagaError Unit World)
    (h : (contenders s r dto now db).exec (act .leftAside) sched = some c)
    (hallowed : (contenders s r dto now db).Along (act .leftAside) (NotOvertaken s dto) sched) :
    c.world.status? s.sagaId = some (lastWritten s c.trace).value ∧
    ((∃ t, (none, Call.save t) ∈ c.trace) →
      c.world.status? s.sagaId ≠ some SagaStatus.started.value) ∧
    (c.Finished → ∀ f j, OnlySupplier dto f j →
      ∃ row, c.world.row? s.sagaId = some row ∧ f.ofRow row = f.ofDto (dto j)) := by
  obtain ⟨row₀, hrow₀, hs₀⟩ := SagaDb.get_eq_some_iff.mp hget
  obtain ⟨hst₀, hs₀⟩ := rowToEntity_eq_ok_iff.mp hs₀
  have hinit : ContendInv s dto
      (fun | none => .worker .guard | some _ => .patch (.first s.sagaId))
      (contenders s r dto now db).world (contenders s r dto now db).trace := by
    refine ⟨⟨row₀, hrow₀, hst₀, fun f j _ => ?_⟩, fun t ht => absurd ht List.not_mem_nil,
      ⟨.guard, rfl, trivial⟩, fun i => ⟨.first s.sagaId, rfl, rfl⟩⟩
    rw [hs₀]
    cases f <;> rfl
  obtain ⟨points, hthreads, hinv⟩ := Config.exec_invariant (follows_contender r dto now)
    (ContendInv.step hcorr) (funext fun p => by cases p <;> rfl) hinit hallowed h
  obtain ⟨row, hrow, hst, hcols⟩ := hinv.row
  have hstatus : c.world.status? s.sagaId = some (lastWritten s c.trace).value := by
    rw [World.status?, hrow, Option.map_some, hst]
  refine ⟨hstatus, fun hwrote hback => ?_, fun hfin f j hj => ⟨row, hrow, ?_⟩⟩
  · obtain ⟨t, ht, hlast⟩ := exists_save_of_lastWritten (s := s) hwrote
    rw [hstatus, hlast] at hback
    have hstarted := SagaStatus.value_injective (Option.some.inj hback)
    rcases hinv.written t ht with hw | hw <;> simp [hw] at hstarted
  · rw [hcols f j hj]
    obtain ⟨st, hpoint, hat⟩ := hinv.patch j
    have hdone := hfin (some j)
    simp only [hthreads, hpoint] at hdone
    obtain ⟨result, hchart⟩ := Config.chart_halt_of_done (follows_patch (dto j) (now j)) hdone
    cases st with
    | halt result => exact if_pos (hat f hj)
    | _ => simp [patchChart] at hchart

/-- One request that supplies a warehouse. -/
def sampleUpdate : Unit → SagaUpdateDTO := fun _ => { warehouseId := some ⟨9⟩ }

/-- The request comes after the worker has finished. -/
def orderlySchedule : List (Option Unit) := List.replicate 8 none ++ List.replicate 3 (some ())

theorem no_lost_update_sample : ∃ c,
    (contenders sampleSaga (sampleEvent "delivery.failed") sampleUpdate (fun _ => 0)
      sampleDb).exec (act .leftAside) orderlySchedule = some c ∧
    c.world.status? sampleSaga.sagaId = some (lastWritten sampleSaga c.trace).value ∧
    ((∃ t, (none, Call.save t) ∈ c.trace) →
      c.world.status? sampleSaga.sagaId ≠ some SagaStatus.started.value) ∧
    (c.Finished → ∀ f j, OnlySupplier sampleUpdate f j →
      ∃ row, c.world.row? sampleSaga.sagaId = some row ∧
        f.ofRow row = f.ofDto (sampleUpdate j)) := by
  refine ⟨_, rfl, no_lost_update sampleDb sampleSaga rfl (sampleEvent "delivery.failed") rfl
    sampleUpdate (fun _ => 0) orderlySchedule _ rfl ?_⟩
  refine ⟨nofun, nofun, fun _ _ _ _ => rfl, nofun, nofun, nofun, nofun, fun _ _ _ _ => rfl,
    nofun, nofun, fun _ => ⟨rfl, fun _ f hsome hnone => ?_⟩, trivial⟩
  cases f
  · cases hnone
  · cases hsome

/-- The request reads the saga before the worker claims it and saves it afterwards. -/
def overtakenSchedule : List (Option Unit) :=
  List.replicate 2 (some ()) ++ List.replicate 8 none ++ [some ()]

/-- The overtaken save puts a failed saga back into `STARTED`. -/
theorem overtaken_save_restarts :
    sampleDb.get sampleSaga.sagaId = .ok (some sampleSaga) ∧
    ∃ c, (contenders sampleSaga (sampleEvent "delivery.failed") sampleUpdate (fun _ => 0)
        sampleDb).exec (act .leftAside) overtakenSchedule = some c ∧ c.Finished ∧
      lastWritten sampleSaga c.trace = .failed ∧
      c.world.status? sampleSaga.sagaId = some SagaStatus.started.value := by
  refine ⟨rfl, _, rfl, fun p => ?_, rfl, by decide⟩
  rcases p with _ | _ <;> trivial

end SupplyChainTracker.Saga
