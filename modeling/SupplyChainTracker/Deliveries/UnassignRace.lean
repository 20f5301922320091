import SupplyChainTracker.Core.Async.Protocol
import SupplyChainTracker.Deliveries.CommandWorker
import SupplyChainTracker.Deliveries.Effects

/-!
# Deliveries that come back

A request that changes a delivery makes sure that it is there and then stores it with
an upsert. A deleted delivery stays deleted exactly as long as no deletion falls between
the two.
-/

namespace SupplyChainTracker.Deliveries

/-- What uses the repositories at the same time. -/
inductive Participant : Type
  /-- The handling of a command. -/
  | unassign (command : Command)
  | update (deliveryId : UUID) (dto : DeliveryUpdateDTO) (now : Clock) (estimateNow : DateTime)
      (draws : EventDraws)
  | start (deliveryId : UUID) (now : DateTime) (draws : EventDraws)
  | complete (deliveryId : UUID) (today : Date) (now : DateTime) (draws : EventDraws)

/-- What a participant does. -/
def Participant.program : Participant → ApiProgram Unit
  | unassign command => service (inService (DeliveryCommandWorker.handleCommand command))
  | update deliveryId dto now estimateNow draws => do
      let _ ← DeliveryRouter.updateDelivery deliveryId dto now estimateNow draws
      return ()
  | start deliveryId now draws => do
      let _ ← DeliveryRouter.markDeliveryInTransit deliveryId now draws
      return ()
  | complete deliveryId today now draws => do
      let _ ← DeliveryRouter.completeDelivery deliveryId today now draws
      return ()

/-- A delivery is stored only right after it has been found. -/
def saveAfterFound : Protocol Statement Statement.Ans DeliveryError (Option UUID) where
  may found op :=
    match op with
    | .saveDelivery delivery => found = some delivery.deliveryId
    | .shared _ => True
    | .getCourier _ => True
    | _ => False
  expects op r :=
    match op, r with
    | .shared (.get deliveryId), .ok (some row) => row.1.deliveryId = deliveryId
    | _, _ => True
  next _ op r :=
    match op, r with
    | .shared (.get deliveryId), .ok (some _) => some deliveryId
    | _, _ => none

/-- The same of the calls of a handler. -/
def handlerAfterFound :
    Protocol (HandlerCall Statement) (HandlerCall.Ans Statement.Ans) DeliveryError (Option UUID) where
  may found op :=
    match op with
    | .repository op => saveAfterFound.may found op
    | .publishEvent _ => True
  expects op r :=
    match op, r with
    | .repository op, r => saveAfterFound.expects op r
    | _, _ => True
  next found op r :=
    match op, r with
    | .repository op, r => saveAfterFound.next found op r
    | _, _ => none

section Grants

open Coroutine (Grants)

variable {α : Type} (found : Option UUID)

/-- `get` finds the delivery that it returns. -/
theorem afterFound_get (deliveryId : UUID) :
    (DeliveryService.get deliveryId).Grants saveAfterFound (fun delivery? found =>
      ∀ delivery, delivery? = some delivery →
        delivery.deliveryId = deliveryId ∧ found = some deliveryId) found := by
  rw [DeliveryService.get, inService, DeliveryRepository.get, Coroutine.bind_eq,
    Coroutine.lift_bind]
  refine Grants.bind (Q := fun row? found => ∀ row, row? = some row →
    row.1.deliveryId = deliveryId ∧ found = some deliveryId) ?_ fun row? found hrow? => ?_
  · refine ⟨trivial, fun r hr => ?_⟩
    rcases r with e | _ | row
    · exact (Coroutine.grants_raise _ _)
    · exact (Coroutine.grants_ret _ _).mpr fun _ h => by cases h
    · refine (Coroutine.grants_ret _ _).mpr fun row' h => ?_
      cases h
      exact ⟨hr, rfl⟩
  · cases row? with
    | none => simp
    | some row =>
      simp only [Coroutine.bind_eq, Coroutine.lift_bind, Coroutine.lift_ofExcept]
      refine Coroutine.grants_ofExcept_bind fun delivery hdelivery =>
        (Coroutine.grants_ret _ _).mpr fun delivery' h => ?_
      cases h
      obtain ⟨hid, hfound⟩ := hrow? row rfl
      exact ⟨(deliveryId_of_rowToEntity hdelivery).trans hid, hfound⟩

theorem afterFound_save (delivery : Delivery) :
    (DeliveryRepository.save delivery).Grants saveAfterFound (fun _ _ => True)
      (some delivery.deliveryId) :=
  Grants.bind (Coroutine.grants_perform.mpr ⟨rfl, fun _ _ _ _ => trivial⟩)
    fun _ _ (_ : True) => (Coroutine.grants_ret _ _).mpr trivial

theorem afterFound_update (delivery : Delivery) :
    (DeliveryService.update delivery).Grants saveAfterFound (fun _ _ => True) found := by
  refine Grants.bind (afterFound_get found delivery.deliveryId) fun delivery? found hfound => ?_
  cases delivery? with
  | none => simp
  | some existing =>
    obtain ⟨_, rfl⟩ := hfound existing rfl
    exact afterFound_save delivery

theorem afterFound_markAsInTransit (deliveryId : UUID) (now : DateTime) :
    (DeliveryService.markAsInTransit deliveryId now).Grants saveAfterFound
      (fun _ _ => True) found := by
  refine Grants.bind (Q := fun delivery found => found = some delivery.deliveryId)
    (Grants.bind (afterFound_get found deliveryId) fun delivery? found hfound => ?_)
    fun delivery found hfound => ?_
  · cases delivery? with
    | none => simp
    | some delivery =>
      obtain ⟨hid, rfl⟩ := hfound delivery rfl
      exact (Coroutine.grants_ret _ _).mpr (congrArg some hid.symm)
  · subst hfound
    split_ifs
    · simp
    · exact afterFound_save _

theorem afterFound_delete (deliveryId : UUID) :
    (inService (DeliveryService.delete deliveryId)).Keeps saveAfterFound
      (fun _ _ => True) found := by
  rw [inService, DeliveryService.delete, Coroutine.bind_eq, Coroutine.lift_bind]
  refine Coroutine.Keeps.bind (Coroutine.Keeps.mono (fun r found _ => ?_)
    (afterFound_get found deliveryId))
  rcases r with e | _ | delivery
  · trivial
  · trivial
  · exact ⟨trivial, fun r _ => by cases r <;> trivial⟩

theorem afterFound_handleCommand (command : Command) :
    (inService (DeliveryCommandWorker.handleCommand command)).Grants saveAfterFound
      (fun _ _ => True) found := by
  unfold DeliveryCommandWorker.handleCommand DeliveryCommandWorker.handleUnassignCourier
  split_ifs
  · split
    · exact Coroutine.grants_raise _ _
    · exact (Coroutine.grants_ret _ _).mpr trivial
    · rename_i deliveryId _
      rw [inService, Coroutine.lift_tryCatch]
      refine Coroutine.Keeps.tryCatch (Coroutine.Keeps.mono (fun r found _ => ?_)
        (afterFound_delete found deliveryId))
      rcases r with e | u
      · cases e <;> simp
      · simp
  · exact (Coroutine.grants_ret _ _).mpr trivial

theorem afterFound_service {p : ServiceProgram α} {Q : α → Option UUID → Prop}
    (h : p.Grants saveAfterFound Q found) : (service p).Grants handlerAfterFound Q found := by
  refine Grants.lift ?_ ?_ ?_ h
  · exact fun _ _ hmay => hmay
  · rintro op (e | a) hr <;> exact hr
  · rintro _ op (e | a) <;> rfl

theorem afterFound_announce (domainEvent : DomainEvent) (draws : EventDraws) :
    (announce domainEvent draws).Grants handlerAfterFound (fun _ _ => True) found :=
  Coroutine.grants_perform.mpr ⟨trivial, fun _ _ _ _ => trivial⟩

theorem afterFound_newCourier (delivery : Delivery) (dto : DeliveryUpdateDTO) :
    (DeliveryRouter.newCourier delivery dto).Grants handlerAfterFound (fun _ _ => True) found := by
  have hget : ∀ courierId, (CourierService.get courierId).Grants saveAfterFound
      (fun _ _ => True) found := by
    refine fun courierId => Grants.bind (Q := fun _ _ => True)
      (Coroutine.grants_perform.mpr ⟨trivial, fun _ _ _ _ => trivial⟩) fun row? _ _ => ?_
    cases row? with
    | none => simp
    | some row =>
      exact Coroutine.grants_ofExcept_bind fun _ _ => (Coroutine.grants_ret _ _).mpr trivial
  unfold DeliveryRouter.newCourier
  split
  · simp
  · split_ifs
    · simp
    · refine Grants.bind (afterFound_service found (hget _)) fun courier? _ _ => ?_
      cases courier? <;> simp

/-- A handler that begins with `get` is checked by checking what it does with a delivery. -/
theorem afterFound_handler (deliveryId : UUID) {k : Option Delivery → ApiProgram DeliveryDTO}
    (hnone : ∀ found, (k none).Grants handlerAfterFound (fun _ _ => True) found)
    (hsome : ∀ delivery found,
      (k (some delivery)).Grants handlerAfterFound (fun _ _ => True) found) :
    (((service (DeliveryService.get deliveryId)).bind k).bind fun _ => .ret ()).Grants
      handlerAfterFound (fun _ _ => True) found := by
  refine Grants.bind (Q := fun _ _ => True) (Grants.bind (afterFound_service found
    (afterFound_get found deliveryId)) fun delivery? found _ => ?_) fun _ _ _ => ?_
  · cases delivery? with
    | none => exact hnone found
    | some delivery => exact hsome delivery found
  · exact (Coroutine.grants_ret _ _).mpr trivial

/-- The reply of a handler. -/
theorem afterFound_reply (delivery : Delivery) :
    (Coroutine.ofExcept (DeliveryMapper.entityToDto delivery) : ApiProgram DeliveryDTO).Grants
      handlerAfterFound (fun _ _ => True) found :=
  (Coroutine.grants_ofExcept _ _).mpr fun _ _ => trivial

theorem afterFound_program (participant : Participant) :
    participant.program.Grants handlerAfterFound (fun _ _ => True) found := by
  cases participant with
  | unassign command => exact afterFound_service found (afterFound_handleCommand found command)
  | update deliveryId dto now estimateNow draws =>
    refine afterFound_handler found deliveryId (by simp) fun delivery found => ?_
    refine Grants.bind (afterFound_newCourier found delivery dto) fun courier found _ => ?_
    refine Grants.bind (afterFound_service found (afterFound_update found _)) fun saved found _ => ?_
    dsimp only
    split_ifs
    · exact Grants.bind (afterFound_announce found _ _) fun _ found _ => afterFound_reply found _
    · exact afterFound_reply found _
  | start deliveryId now draws =>
    refine afterFound_handler found deliveryId (by simp) fun delivery found => ?_
    refine Grants.bind (afterFound_service found (afterFound_markAsInTransit found _ _))
      fun _ found _ => ?_
    refine Grants.bind (afterFound_service found (afterFound_get found _)) fun saved? found _ => ?_
    cases saved? with
    | none => simp
    | some saved =>
      exact Grants.bind (afterFound_announce found _ _) fun _ found _ => afterFound_reply found _
  | complete deliveryId today now draws =>
    refine afterFound_handler found deliveryId (by simp) fun delivery found => ?_
    refine Grants.bind (afterFound_service found (afterFound_update found _)) fun saved found _ => ?_
    exact Grants.bind (afterFound_announce found _ _) fun _ found _ => afterFound_reply found _

end Grants

/-- The deletion of a delivery, as a call of a handler. -/
abbrev deletion (deliveryId : UUID) : HandlerCall Statement :=
  .repository (.shared (.delete deliveryId))

section Race

variable {ι : Type} (backend : Backend) (participants : ι → Participant)

/-- The participants before their first call. -/
def unassigners (s : Served World) :
    Config ι (HandlerCall Statement) (HandlerCall.Ans Statement.Ans) DeliveryError Unit
      (Served World) where
  threads i := (participants i).program
  world := s
  trace := []

/-- One of the calls has deleted the delivery. -/
def DeletedIn (deliveryId : UUID) (tr : List (ι × HandlerCall Statement)) : Prop :=
  ∃ i, (i, deletion deliveryId) ∈ tr

/-- A deleted delivery is not in the table. -/
def StaysDeleted (s : Served World) (tr : List (ι × HandlerCall Statement)) : Prop :=
  ∀ deliveryId, DeletedIn deliveryId tr → s.world.db.deliveries.find? deliveryId = none

/-- A call stores a delivery only if nobody has deleted it since the caller has found it, or if the
database refuses it. -/
def NotDeletedSince [DecidableEq ι] (s : Served World) (tr : List (ι × HandlerCall Statement))
    (i : ι) (op : HandlerCall Statement) : Prop :=
  match op with
  | .repository (.saveDelivery delivery) =>
      s.world.db.AcceptsDelivery backend.pg delivery s.world.now →
        ¬ DeletedIn delivery.deliveryId (Config.since i tr)
  | _ => True

/-- What a participant has found has been deleted, if at all, since then. -/
def FoundSince [DecidableEq ι] (found : ι → Option UUID)
    (tr : List (ι × HandlerCall Statement)) : Prop :=
  ∀ i deliveryId, found i = some deliveryId → DeletedIn deliveryId tr →
    DeletedIn deliveryId (Config.since i tr)

variable {backend} {s : Served World} {tr : List (ι × HandlerCall Statement)} {i : ι}
  {op : HandlerCall Statement} {found : ι → Option UUID} {deliveryId : UUID}

@[simp] theorem deletedIn_append_singleton :
    DeletedIn deliveryId (tr ++ [(i, op)]) ↔ DeletedIn deliveryId tr ∨ op = deletion deliveryId := by
  simp only [DeletedIn, List.mem_append, List.mem_singleton, Prod.mk.injEq, exists_or]
  exact or_congr Iff.rfl ⟨fun ⟨_, _, h⟩ => h.symm, fun h => ⟨i, rfl, h.symm⟩⟩

/-- `get` of a delivery returns its row. -/
theorem deliveryId_of_get {db : DeliveryDb} {row : DeliveryRow × CourierRow}
    (h : db.get deliveryId = some row) : db.deliveries.find? deliveryId = some row.1 := by
  obtain ⟨d, hd, hjoin⟩ := Option.bind_eq_some_iff.mp h
  obtain ⟨c, _, rfl⟩ := Option.map_eq_some_iff.mp hjoin
  exact hd

theorem expects_apiAct (op : HandlerCall Statement) (s : Served World) :
    handlerAfterFound.expects op (apiAct backend op s).1 := by
  rcases op with op | call
  · rcases op with op | _ | _ | _ | _ | _ | _
    case shared =>
      cases op with
      | get deliveryId =>
        change saveAfterFound.expects (.shared (.get deliveryId)) (.ok (s.world.db.get deliveryId))
        cases hrow : s.world.db.get deliveryId with
        | none => trivial
        | some row => exact Table.key_of_find? (deliveryId_of_get hrow)
      | delete deliveryId => trivial
    all_goals trivial
  · trivial

variable [DecidableEq ι]

/-- A participant that finds a delivery finds it undeleted. -/
theorem FoundSince.step (h : FoundSince found tr) (hgone : StaysDeleted s tr) :
    FoundSince (Function.update found i (handlerAfterFound.next (found i) op (apiAct backend op s).1))
      (tr ++ [(i, op)]) := by
  intro j deliveryId hj hdeleted
  by_cases hji : j = i
  · subst hji
    rw [Function.update_self] at hj
    rcases op with op | call
    · rcases op with op | _ | _ | _ | _ | _ | _
      case shared =>
        cases op with
        | get deliveryId' =>
          change saveAfterFound.next (found j) (.shared (.get deliveryId'))
            (.ok (s.world.db.get deliveryId')) = _ at hj
          cases hrow : s.world.db.get deliveryId' with
          | none =>
            rw [hrow] at hj
            cases hj
          | some row =>
            rw [hrow] at hj
            cases hj
            rcases deletedIn_append_singleton.mp hdeleted with hbefore | hnow
            · cases (deliveryId_of_get hrow).symm.trans (hgone deliveryId hbefore)
            · cases hnow
        | delete deliveryId' => cases hj
      all_goals cases hj
    · cases hj
  · rw [Function.update_of_ne hji] at hj
    rw [Config.since_append_of_ne (Ne.symm hji)]
    rw [deletedIn_append_singleton] at hdeleted ⊢
    exact hdeleted.imp_left (h j deliveryId hj)

omit [DecidableEq ι] in
/-- A call that neither deletes a delivery nor touches the table keeps deleted deliveries deleted. -/
theorem StaysDeleted.of_unchanged (hgone : StaysDeleted s tr)
    (hop : ∀ deliveryId, op ≠ deletion deliveryId)
    (hdb : (apiAct backend op s).2.world.db.deliveries = s.world.db.deliveries) :
    StaysDeleted (apiAct backend op s).2 (tr ++ [(i, op)]) := by
  intro deliveryId hdeleted
  rw [deletedIn_append_singleton] at hdeleted
  rw [hdb]
  exact hgone deliveryId (hdeleted.resolve_right (hop deliveryId))

/-- A `save` keeps deleted deliveries deleted exactly when the delivery has not been deleted since
it has been found, or the database refuses it. -/
theorem StaysDeleted.save_iff {delivery : Delivery} (h : FoundSince found tr)
    (hfound : found i = some delivery.deliveryId) (hgone : StaysDeleted s tr) :
    StaysDeleted (apiAct backend (.repository (.saveDelivery delivery)) s).2
        (tr ++ [(i, .repository (.saveDelivery delivery))]) ↔
      NotDeletedSince backend s tr i (.repository (.saveDelivery delivery)) := by
  have hafter : (apiAct backend (.repository (.saveDelivery delivery)) s).2.world.db =
      (s.world.db.saveDelivery backend.pg delivery s.world.now).2 := rfl
  simp only [StaysDeleted, deletedIn_append_singleton]
  rw [hafter, NotDeletedSince]
  rcases saveDelivery_cases backend.pg delivery s.world.now s.world.db with
    ⟨haccepts, db', hsave, _, hdeliveries⟩ | ⟨hrefuses, e, hsave⟩
  · rw [hsave, hdeliveries]
    have hid := s.world.db.deliveryId_deliveryTarget delivery s.world.now
    constructor
    · rintro hall _ ⟨j, hj⟩
      have hnone := hall delivery.deliveryId
        (.inl ⟨j, (Config.since_suffix i tr).subset hj⟩)
      rw [← hid, Table.find?_put_self] at hnone
      cases hnone
    · intro hallowed deliveryId hdeleted
      have hbefore := hdeleted.resolve_right fun heq => by cases heq
      have hne : delivery.deliveryId ≠ deliveryId := by
        rintro rfl
        exact hallowed haccepts (h i _ hfound hbefore)
      rw [Table.find?_put_of_ne _ _ (by rwa [hid])]
      exact hgone deliveryId hbefore
  · rw [hsave]
    refine iff_of_true (fun deliveryId hdeleted => ?_) fun haccepts => absurd haccepts hrefuses
    exact hgone deliveryId (hdeleted.resolve_right fun heq => by cases heq)

omit [DecidableEq ι] in
/-- A deletion keeps deleted deliveries deleted. -/
theorem StaysDeleted.delete (hgone : StaysDeleted s tr) (deleted : UUID) :
    StaysDeleted (apiAct backend (deletion deleted) s).2 (tr ++ [(i, deletion deleted)]) := by
  intro deliveryId hdeleted
  rw [deletedIn_append_singleton] at hdeleted
  change (s.world.db.delete deleted).deliveries.find? deliveryId = none
  rw [DeliveryDb.delete, Table.find?_removeWhere_key]
  split_ifs with heq
  · rfl
  · exact hgone deliveryId (hdeleted.resolve_right fun hop => heq (by cases hop; rfl))

/-- A step keeps deleted deliveries deleted exactly when it stores none that has been deleted
since it has been found. -/
theorem StaysDeleted.step_iff (h : FoundSince found tr) (hmay : handlerAfterFound.may (found i) op)
    (hgone : StaysDeleted s tr) :
    StaysDeleted (apiAct backend op s).2 (tr ++ [(i, op)]) ↔ NotDeletedSince backend s tr i op := by
  rcases op with op | call
  · rcases op with op | delivery | _ | courierId | _ | _ | _
    case shared =>
      cases op with
      | get deliveryId =>
        exact iff_of_true (hgone.of_unchanged (fun _ heq => by cases heq) rfl) trivial
      | delete deleted => exact iff_of_true (hgone.delete deleted) trivial
    case saveDelivery => exact StaysDeleted.save_iff h hmay hgone
    case getCourier =>
      exact iff_of_true (hgone.of_unchanged (fun _ heq => by cases heq) rfl) trivial
    all_goals exact hmay.elim
  · exact iff_of_true (hgone.of_unchanged (fun _ heq => by cases heq) rfl) trivial

/-- In every state that a run reaches, the deleted deliveries are absent, exactly when no call of
the run stores a delivery that has been deleted since it has been found. -/
theorem staysDeleted_iff_notDeletedSince (backend : Backend) (participants : ι → Participant)
    (s : Served World) (sched : List ι)
    {c : Config ι (HandlerCall Statement) (HandlerCall.Ans Statement.Ans) DeliveryError Unit
      (Served World)}
    (h : (unassigners participants s).exec (apiAct backend) sched = some c) :
    (∀ past d, past <+: sched → (unassigners participants s).exec (apiAct backend) past = some d →
      StaysDeleted d.world d.trace) ↔
    (unassigners participants s).Guarded (apiAct backend)
      (fun c => NotDeletedSince backend c.world c.trace) sched := by
  refine Config.forall_reached_iff_conforms (fun found _ tr => FoundSince found tr) StaysDeleted
    (NotDeletedSince backend)
    (fun found s tr i op hi hgone hmay => ⟨expects_apiAct op s, fun _ => hi.step hgone⟩)
    (fun found s tr i op hi hgone hmay => hgone.step_iff hi hmay) (fun _ => none)
    (fun i => afterFound_program none (participants i)) ?_ ?_ h
  · intro i deliveryId hi
    cases hi
  · rintro deliveryId ⟨i, hi⟩
    cases hi

end Race

/-- One assigned delivery. -/
def sampleAssigned : Served World where
  world := {
    db := {
      couriers := ⟨[⟨⟨60⟩, "Ann", "ann@post", 0, 0⟩], by decide⟩
      deliveries := ⟨[⟨⟨61⟩, ⟨62⟩, ⟨60⟩, "assigned", none, none, 0, 0⟩], by decide⟩
      courierOf := by decide }
    clock := fun n => n
    statements := 0 }
  queue := ⟨[], 0⟩

/-- A database that refuses nothing but a broken foreign key. -/
def unassignBackend : Backend where
  pg := ⟨fun _ => none, fun _ => none, fun a b => decide (a ≤ b)⟩
  textArgument := fun
    | .name name => .ok name.value
    | .contactInfo contactInfo => .ok contactInfo.value
  adapter := .memory

/-- The compensation of the delivery, and a request that starts it. -/
def sampleRace : Bool → Participant
  | false => .unassign (UnassignCourierCommand.create ⟨61⟩ ⟨63⟩ .null ⟨64⟩)
  | true => .start ⟨61⟩ 1 ⟨1, ⟨65⟩, 1⟩

/-- The deletion before the request looks the delivery up: it stays deleted. -/
theorem staysDeleted_iff_notDeletedSince_sample :
    ∃ c, (unassigners sampleRace sampleAssigned).exec (apiAct unassignBackend)
        [false, false, true] = some c ∧
      c.threads true = .raise (.httpException 404 "Delivery not found") ∧
      c.world.world.db.deliveries.rows = [] ∧ StaysDeleted c.world c.trace := by
  refine ⟨_, rfl, rfl, rfl, ?_⟩
  have hguarded : (unassigners sampleRace sampleAssigned).Guarded (apiAct unassignBackend)
      (fun c => NotDeletedSince unassignBackend c.world c.trace) [false, false, true] :=
    ⟨trivial, trivial, trivial, trivial⟩
  exact (staysDeleted_iff_notDeletedSince unassignBackend sampleRace sampleAssigned
    [false, false, true] rfl).mpr hguarded _ _ (List.prefix_refl _) rfl

/-- The request has found the delivery twice before it is deleted, and stores it again. -/
theorem deleted_delivery_returns :
    ∃ c d, (unassigners sampleRace sampleAssigned).exec (apiAct unassignBackend)
        [true, true, false, false] = some c ∧
      (unassigners sampleRace sampleAssigned).exec (apiAct unassignBackend)
        [true, true, false, false, true] = some d ∧
      c.world.world.db.deliveries.rows = [] ∧
      (d.world.world.db.deliveries.find? ⟨61⟩).map DeliveryRow.status = some "in_transit" ∧
      ¬ StaysDeleted d.world d.trace := by
  refine ⟨_, _, rfl, rfl, rfl, rfl, fun hgone => ?_⟩
  have hnone := hgone ⟨61⟩ ⟨false, .tail _ (.tail _ (.tail _ (.head _)))⟩
  cases hnone

end SupplyChainTracker.Deliveries
