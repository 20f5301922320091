import SupplyChainTracker.Core.Run
import SupplyChainTracker.Deliveries.Effects

/-!
# The lifecycle of a delivery

Runs of the methods of the service and of the requests to the API. Some methods guard the status
that they replace, and the handlers write it past them: a run keeps the order of the statuses
exactly when its callers do.
-/

namespace SupplyChainTracker.Deliveries

/-- The place of a status in the life of a delivery. -/
def DeliveryStatus.rank : DeliveryStatus → Nat
  | assigned => 0
  | inTransit => 1
  | delivered => 2
  | confirmed => 3

@[simp] theorem DeliveryStatus.ofValue?_value (status : DeliveryStatus) :
    ofValue? status.value = some status := by
  cases status <;> rfl

/-- The status that is stored for a delivery. -/
def DeliveryDb.status? (deliveryId : UUID) (db : DeliveryDb) : Option DeliveryStatus :=
  (db.deliveries.find? deliveryId).bind fun row => DeliveryStatus.ofValue? row.status

/-- No delivery that has been delivered falls back, and only delivered ones are confirmed. -/
structure DeliveryDb.Advances (before after : DeliveryDb) : Prop where
  keeps : ∀ deliveryId old new, before.status? deliveryId = some old →
    after.status? deliveryId = some new → DeliveryStatus.delivered.rank ≤ old.rank →
    old.rank ≤ new.rank
  confirms : ∀ deliveryId, after.status? deliveryId = some .confirmed →
    before.status? deliveryId = some .delivered ∨ before.status? deliveryId = some .confirmed

/-- The statuses that may replace a stored one, or none. -/
def Admissible (stored : Option DeliveryStatus) : DeliveryStatus → Prop
  | .assigned => stored ≠ some .delivered ∧ stored ≠ some .confirmed
  | .inTransit => stored ≠ some .delivered ∧ stored ≠ some .confirmed
  | .delivered => stored ≠ some .confirmed
  | .confirmed => stored = some .delivered ∨ stored = some .confirmed

section Order

variable {before after : DeliveryDb}

theorem admissible_self (status : DeliveryStatus) : Admissible (some status) status := by
  cases status <;> simp [Admissible]

theorem admissible_iff (stored : Option DeliveryStatus) (new : DeliveryStatus) :
    Admissible stored new ↔
      (∀ old, stored = some old → DeliveryStatus.delivered.rank ≤ old.rank → old.rank ≤ new.rank) ∧
      (new = .confirmed → stored = some .delivered ∨ stored = some .confirmed) := by
  rcases stored with _ | (_ | _ | _ | _) <;> cases new <;>
    simp [Admissible, DeliveryStatus.rank]

/-- Deliveries that keep their status or lose it keep the order. -/
theorem advances_of_status?_eq (h : ∀ deliveryId, after.status? deliveryId = none ∨
    after.status? deliveryId = before.status? deliveryId) : before.Advances after where
  keeps deliveryId old new hold hnew _ := by
    rcases h deliveryId with hnone | hsame
    · cases hnone.symm.trans hnew
    · cases hold.symm.trans (hsame.symm.trans hnew)
      exact le_rfl
  confirms deliveryId hnew := by
    rcases h deliveryId with hnone | hsame
    · cases hnone.symm.trans hnew
    · exact .inr (hsame.symm.trans hnew)

theorem status?_put {delivery : Delivery} {now : DateTime}
    (h : after.deliveries = before.deliveries.put (before.deliveryTarget delivery now))
    (deliveryId : UUID) : after.status? deliveryId =
      if delivery.deliveryId = deliveryId then some delivery.status
      else before.status? deliveryId := by
  rw [DeliveryDb.status?, h]
  split_ifs with hid
  · have hkey := DeliveryDb.deliveryId_deliveryTarget before delivery now
    have hstatus : (before.deliveryTarget delivery now).status = delivery.status.value := by
      unfold DeliveryDb.deliveryTarget
      split <;> rfl
    rw [← hid, ← hkey, Table.find?_put_self, Option.bind_some, hstatus,
      DeliveryStatus.ofValue?_value]
  · rw [Table.find?_put_of_ne _ _ (by rwa [DeliveryDb.deliveryId_deliveryTarget])]
    rfl

/-- A `save` that the database accepts keeps the order when its status is admissible. -/
theorem advances_afterSave_iff (pg : Postgres) (delivery : Delivery) {w : World}
    (haccepts : w.db.AcceptsDelivery pg delivery w.now) :
    w.db.Advances (w.db.afterSave pg (some (delivery, w))) ↔
      Admissible (w.db.status? delivery.deliveryId) delivery.status := by
  obtain ⟨_, db, hsave, _, hdeliveries⟩ | ⟨hrefuses, _⟩ :=
    saveDelivery_cases pg delivery w.now w.db
  · have hput := status?_put hdeliveries
    simp only [DeliveryDb.afterSave, hsave, admissible_iff]
    constructor
    · intro h
      have hself : db.status? delivery.deliveryId = some delivery.status := by
        rw [hput, if_pos rfl]
      refine ⟨fun old hold => h.keeps _ old _ hold hself, fun hconfirmed => ?_⟩
      exact h.confirms _ (by rw [hself, hconfirmed])
    · rintro ⟨hkeeps, hconfirms⟩
      refine ⟨fun deliveryId old new hold hnew => ?_, fun deliveryId hnew => ?_⟩
      · rw [hput] at hnew
        split_ifs at hnew with hid
        · cases hnew
          exact hkeeps old (hid ▸ hold)
        · cases hold.symm.trans hnew
          exact fun _ => le_rfl
      · rw [hput] at hnew
        split_ifs at hnew with hid
        · rw [← hid]
          exact hconfirms (Option.some.inj hnew)
        · exact .inr hnew
  · exact absurd haccepts hrefuses

end Order

/-- A method of `DeliveryService` that stores a delivery. -/
inductive Method : Type
  | create (delivery : Delivery)
  | markAsReceived (deliveryId : UUID)
  | markAsReadyForDelivery (deliveryId : UUID)
  | markAsInTransit (deliveryId : UUID) (now : DateTime)
  | markAsDelivered (deliveryId : UUID) (arrivalDate : Date) (now : DateTime)
  | markAsCompleted (deliveryId : UUID) (now : DateTime)
  | reassignCourier (deliveryId : UUID) (newCourier : Courier) (now : DateTime)

/-- An operation of the service or of the API. -/
inductive Operation : Type
  | method (method : Method)
  | request (request : Request)

namespace Method

/-- The coroutine of a method. -/
def program : Method → ServiceProgram Delivery
  | create delivery => DeliveryService.create delivery
  | markAsReceived deliveryId => DeliveryService.markAsReceived deliveryId
  | markAsReadyForDelivery deliveryId => DeliveryService.markAsReadyForDelivery deliveryId
  | markAsInTransit deliveryId now => DeliveryService.markAsInTransit deliveryId now
  | markAsDelivered deliveryId arrivalDate now =>
      DeliveryService.markAsDelivered deliveryId arrivalDate now
  | markAsCompleted deliveryId now => DeliveryService.markAsCompleted deliveryId now
  | reassignCourier deliveryId newCourier now =>
      DeliveryService.reassignCourier deliveryId newCourier now

/-- The delivery that a method gives to `save`, with the world in which it does. -/
def saves? (w : World) : Method → Option (Delivery × World)
  | create delivery => some (delivery, w)
  | markAsReceived deliveryId => (w.db.delivery? deliveryId).bind fun delivery =>
      if delivery.status = .delivered then none else some (delivery, w.read)
  | markAsReadyForDelivery deliveryId => (w.db.delivery? deliveryId).bind fun delivery =>
      some (delivery, w.read)
  | markAsInTransit deliveryId now => (w.db.delivery? deliveryId).bind fun delivery =>
      if delivery.status = .delivered then none
      else some (delivery.updateStatus .inTransit now, w.read)
  | markAsDelivered deliveryId arrivalDate now =>
      (w.db.delivery? deliveryId).bind fun delivery =>
        some (delivery.markDelivered (midnight arrivalDate) now, w.read)
  | markAsCompleted deliveryId now => (w.db.delivery? deliveryId).bind fun delivery =>
      if delivery.status ≠ .delivered then none
      else some (delivery.updateStatus .confirmed now, w.read)
  | reassignCourier deliveryId newCourier now =>
      (w.db.delivery? deliveryId).bind fun delivery =>
        if delivery.status = .delivered ∨ delivery.status = .confirmed then none
        else some ({ delivery with courier := newCourier, updatedAt := now }, w.read)

end Method

/-- One operation of a run. -/
def operationStep (backend : Backend) : Operation → Served World → Served World
  | .method method, s =>
      { s with world := (method.program.run (Statement.act backend.pg) s.world).2 }
  | .request request, s => (request.handle backend s).2

namespace Operation

/-- The delivery that an operation gives to `save`, with the world in which it does. -/
def saves? (w : World) : Operation → Option (Delivery × World)
  | method m => m.saves? w
  | request r => r.saves? w

/-- An operation reaches its `save`, and the database accepts it. -/
def Commits (pg : Postgres) (w : World) (op : Operation) : Prop :=
  ∃ delivery w', op.saves? w = some (delivery, w') ∧ w'.db.AcceptsDelivery pg delivery w'.now

/-- The status that an update of a delivery asks for. -/
def newStatus? (dto : DeliveryUpdateDTO) : Option DeliveryStatus :=
  if dto.actualArrival.isSome then some .delivered else dto.status

/-- The caller asks for a status only where it may replace the stored one. A method that is
not listed looks after that itself. -/
def Permitted (db : DeliveryDb) : Operation → Prop
  | method (.create delivery) => Admissible (db.status? delivery.deliveryId) delivery.status
  | method (.markAsInTransit deliveryId _) => db.status? deliveryId ≠ some .confirmed
  | method (.markAsDelivered deliveryId _ _) => db.status? deliveryId ≠ some .confirmed
  | request (.createDelivery dto deliveryId _ _ _) =>
      Admissible (db.status? deliveryId) (dto.status.getD .assigned)
  | request (.updateDelivery deliveryId dto _ _ _) =>
      ∀ status, newStatus? dto = some status → Admissible (db.status? deliveryId) status
  | request (.markDeliveryInTransit deliveryId _ _) => db.status? deliveryId ≠ some .confirmed
  | request (.completeDelivery deliveryId _ _ _) => db.status? deliveryId ≠ some .confirmed
  | _ => True

end Operation

/-- A method leaves what its `save` leaves. -/
theorem stores_method (pg : Postgres) (method : Method) :
    Stores pg method.saves? method.program := by
  cases method with
  | create delivery => exact stores_save delivery
  | markAsReceived deliveryId =>
    refine stores_getOrRaise_bind deliveryId (fun delivery w =>
      if delivery.status = .delivered then none else some (delivery, w)) fun delivery => ?_
    split_ifs
    · exact stores_raise _
    · exact stores_save delivery
  | markAsReadyForDelivery deliveryId =>
    exact stores_getOrRaise_bind deliveryId (fun delivery w => some (delivery, w))
      fun delivery => stores_save delivery
  | markAsInTransit deliveryId now => exact stores_markAsInTransit deliveryId now
  | markAsDelivered deliveryId arrivalDate now =>
    exact stores_getOrRaise_bind deliveryId
      (fun delivery w => some (delivery.markDelivered (midnight arrivalDate) now, w))
      fun delivery => stores_save _
  | markAsCompleted deliveryId now =>
    refine stores_getOrRaise_bind deliveryId (fun delivery w =>
      if delivery.status ≠ .delivered then none
      else some (delivery.updateStatus .confirmed now, w)) fun delivery => ?_
    split_ifs
    · exact stores_raise _
    · exact stores_save _
  | reassignCourier deliveryId newCourier now =>
    refine stores_getOrRaise_bind deliveryId (fun delivery w =>
      if delivery.status = .delivered ∨ delivery.status = .confirmed then none
      else some ({ delivery with courier := newCourier, updatedAt := now }, w))
      fun delivery => ?_
    split_ifs
    · exact stores_raise _
    · exact stores_save _

/-- A method reaches its `save` with the tables as they were. -/
theorem db_of_method_saves? {method : Method} {w w' : World} {delivery : Delivery}
    (h : method.saves? w = some (delivery, w')) : w'.db = w.db := by
  cases method <;> simp only [Method.saves?, Option.bind_eq_some_iff] at h <;>
    grind [Database.db_read]

/-- An operation reaches its `save` with the tables as they were. -/
theorem Operation.db_of_saves? {op : Operation} {w w' : World} {delivery : Delivery}
    (h : op.saves? w = some (delivery, w')) : w'.db = w.db := by
  cases op with
  | method method => exact db_of_method_saves? h
  | request request => exact Request.db_of_saves? h

section Step

variable {backend : Backend} {s : Served World}

/-- What the calls of a handler keep that leaves the deliveries alone. -/
abbrev SparesDeliveries (backend : Backend) : HandlerCall Statement → Prop :=
  Respects backend fun w w' => w'.db.deliveries = w.db.deliveries

theorem spares_getCourier (courierId : UUID) :
    (service (CourierService.get courierId)).Calls (SparesDeliveries backend) := by
  refine calls_service ((Coroutine.calls_perform.mpr fun w => rfl).found trivial fun row => ?_)
  exact (Coroutine.calls_ofExcept _).map _

theorem spares_saveCourier (courier : Courier) :
    (CourierRepository.save backend.textArgument courier).Calls fun op =>
      ∀ w, (Statement.act backend.pg op w).2.db.deliveries = w.db.deliveries := by
  refine (Coroutine.calls_ofExcept _).bind fun name => (Coroutine.calls_ofExcept _).bind
    fun contactInfo => (Coroutine.calls_perform.mpr fun w => ?_).bind fun _ =>
      Coroutine.calls_ofExcept _
  simp only [Statement.act, DeliveryDb.saveCourier, Database.db_after]
  split <;> rfl

theorem spares_createCourier (dto : CourierCreateDTO) (courierId : UUID) :
    ((Request.createCourier dto courierId).handler backend.textArgument).Calls
      (SparesDeliveries backend) :=
  ((Coroutine.calls_ofExcept _).bind fun courier =>
    (calls_service (spares_saveCourier courier)).map _).map _

theorem spares_updateCourier (courierId : UUID) (dto : CourierUpdateDTO) :
    ((Request.updateCourier courierId dto).handler backend.textArgument).Calls
      (SparesDeliveries backend) := by
  refine ((spares_getCourier courierId).found (by trivial) fun courier => ?_).map _
  refine (Coroutine.calls_ofExcept _).bind fun new => (calls_service ?_).map _
  refine ((Coroutine.calls_perform.mpr fun w => rfl).bind fun row => ?_).bind fun existing => ?_
  · cases row with
    | none => trivial
    | some row => exact (Coroutine.calls_ofExcept _).map _
  · cases existing with
    | none => trivial
    | some existing => exact spares_saveCourier new

theorem find?_of_deliveries_eq {db db' : DeliveryDb} (h : db'.deliveries = db.deliveries)
    (deliveryId : UUID) : db'.deliveries.find? deliveryId = db.deliveries.find? deliveryId :=
  congrArg (fun t => t.find? deliveryId) h

/-- A request whose calls leave the deliveries alone keeps every row. -/
theorem find?_of_spares {request : Request}
    (h : (request.handler backend.textArgument).Calls (SparesDeliveries backend))
    (deliveryId : UUID) :
    (operationStep backend (.request request) s).world.db.deliveries.find? deliveryId =
      s.world.db.deliveries.find? deliveryId := by
  have hdeliveries : (request.handle backend s).2.world.db.deliveries = s.world.db.deliveries :=
    Handler.run_keeps h s
  exact find?_of_deliveries_eq hdeliveries deliveryId

theorem find?_delete (db : DeliveryDb) (deleted deliveryId : UUID) :
    (db.delete deleted).deliveries.find? deliveryId = none ∨
      (db.delete deleted).deliveries.find? deliveryId = db.deliveries.find? deliveryId := by
  simp only [DeliveryDb.delete, Table.find?_removeWhere_key]
  split_ifs
  · exact .inl rfl
  · exact .inr rfl

/-- A `GET` request leaves the tables as they are. -/
theorem db_operationStep_get {request : Request} (h : request.route.method = .get) :
    (operationStep backend (.request request) s).world.db = s.world.db :=
  db_handle_get h

/-- An operation leaves what its `save` leaves, or keeps or removes every row without one. -/
theorem db_operationStep (op : Operation) :
    (operationStep backend op s).world.db =
        s.world.db.afterSave backend.pg (op.saves? s.world) ∨
    op.saves? s.world = none ∧ ∀ deliveryId,
      (operationStep backend op s).world.db.deliveries.find? deliveryId = none ∨
        (operationStep backend op s).world.db.deliveries.find? deliveryId =
          s.world.db.deliveries.find? deliveryId := by
  cases op with
  | method method => exact .inl (stores_method backend.pg method s.world)
  | request request =>
    cases request with
    | createDelivery => exact .inl (Request.db_handle_createDelivery backend s ..)
    | updateDelivery => exact .inl (Request.db_handle_updateDelivery backend s ..)
    | markDeliveryInTransit => exact .inl (Request.db_handle_markDeliveryInTransit backend s ..)
    | completeDelivery => exact .inl (Request.db_handle_completeDelivery backend s ..)
    | deleteDelivery deliveryId =>
      refine .inr ⟨rfl, fun other => ?_⟩
      rw [operationStep, Request.db_handle_deleteDelivery]
      split_ifs
      · exact find?_delete _ _ _
      · exact .inr rfl
    | deleteCourier courierId =>
      refine .inr ⟨rfl, fun other => .inr (find?_of_deliveries_eq ?_ other)⟩
      rw [operationStep, Request.db_handle_deleteCourier, DeliveryDb.deleteCourier]
      split_ifs <;> rfl
    | createCourier dto courierId =>
      refine .inr ⟨rfl, fun other => .inr (find?_of_spares ?_ other)⟩
      exact spares_createCourier dto courierId
    | updateCourier courierId dto =>
      refine .inr ⟨rfl, fun other => .inr (find?_of_spares ?_ other)⟩
      exact spares_updateCourier courierId dto
    | _ => exact .inl (db_operationStep_get rfl)

/-- An operation stores what it gives to `save`, or keeps or removes every row. -/
theorem operationStep_cases (op : Operation) :
    (∃ delivery w, op.saves? s.world = some (delivery, w) ∧ w.db = s.world.db ∧
      w.db.AcceptsDelivery backend.pg delivery w.now ∧
      (operationStep backend op s).world.db = w.db.afterSave backend.pg (some (delivery, w))) ∨
    (¬ op.Commits backend.pg s.world ∧ ∀ deliveryId,
      (operationStep backend op s).world.db.deliveries.find? deliveryId = none ∨
        (operationStep backend op s).world.db.deliveries.find? deliveryId =
          s.world.db.deliveries.find? deliveryId) := by
  obtain hdb | ⟨hnone, hrows⟩ := @db_operationStep backend s op
  · rw [hdb]
    cases hsaves : op.saves? s.world with
    | none =>
      refine .inr ⟨?_, fun _ => .inr rfl⟩
      rintro ⟨_, _, hsome, _⟩
      cases hsaves.symm.trans hsome
    | some saved =>
      obtain ⟨delivery, w⟩ := saved
      have hw := op.db_of_saves? hsaves
      obtain ⟨haccepts, _⟩ | ⟨hrefuses, e, hsave⟩ :=
        saveDelivery_cases backend.pg delivery w.now w.db
      · exact .inl ⟨delivery, w, rfl, hw, haccepts, rfl⟩
      · refine .inr ⟨?_, fun _ => .inr ?_⟩
        · rintro ⟨_, _, hsome, haccepts⟩
          cases hsaves.symm.trans hsome
          exact hrefuses haccepts
        · rw [DeliveryDb.afterSave, hsave, hw]
  · refine .inr ⟨?_, hrows⟩
    rintro ⟨_, _, hsome, _⟩
    cases hnone.symm.trans hsome

/-- A delivery that is read has the stored status. -/
theorem status?_of_delivery? {db : DeliveryDb} {deliveryId : UUID} {delivery : Delivery}
    (h : db.delivery? deliveryId = some delivery) :
    db.status? deliveryId = some delivery.status := by
  obtain ⟨d, c, hfind, _, hentity⟩ := exists_row_of_delivery? h
  obtain ⟨courier, status, _, hstatus, rfl⟩ := columns_of_rowToEntity hentity
  rw [DeliveryDb.status?, hfind]
  exact hstatus

theorem status_updateEntityFromDto (entity : Delivery) (dto : DeliveryUpdateDTO)
    (newCourier : Option Courier) (now : Clock) :
    (DeliveryMapper.updateEntityFromDto entity dto newCourier now).status =
      (Operation.newStatus? dto).getD entity.status := by
  unfold DeliveryMapper.updateEntityFromDto Operation.newStatus?
  rcases dto with ⟨courierId, _ | status, estimatedArrival, _ | actualArrival⟩ <;> dsimp only <;>
    repeat' split
  all_goals simp_all [Delivery.markDelivered, Delivery.updateStatus]

/-- A delivery is stored under its own id with the status that it has been read with. -/
theorem status?_self {db : DeliveryDb} {deliveryId : UUID} {delivery : Delivery}
    (h : db.delivery? deliveryId = some delivery) :
    db.status? delivery.deliveryId = some delivery.status := by
  rw [deliveryId_of_delivery? h]
  exact status?_of_delivery? h

/-- A delivery that has been delivered, or has not been confirmed, may be delivered again. -/
theorem admissible_delivered_iff (stored : Option DeliveryStatus) :
    Admissible stored .delivered ↔ stored ≠ some .confirmed := Iff.rfl

/-- A delivery that has not been delivered may be started unless it has been confirmed. -/
theorem admissible_inTransit_iff {old : DeliveryStatus} (h : old ≠ .delivered) :
    Admissible (some old) .inTransit ↔ some old ≠ some .confirmed := by
  simp [Admissible, h]

section Marked

variable {db : DeliveryDb} {deliveryId : UUID} {old : Delivery}

/-- A start of a stored delivery that has not been delivered. -/
theorem admissible_started_iff (hold : db.delivery? deliveryId = some old)
    (hdelivered : old.status ≠ .delivered) (now : DateTime) :
    Admissible (db.status? (old.updateStatus .inTransit now).deliveryId)
        (old.updateStatus .inTransit now).status ↔
      db.status? deliveryId ≠ some .confirmed := by
  rw [Delivery.deliveryId_updateStatus, Delivery.status_updateStatus, status?_self hold,
    status?_of_delivery? hold]
  exact admissible_inTransit_iff hdelivered

/-- The arrival of a stored delivery. -/
theorem admissible_arrived_iff (hold : db.delivery? deliveryId = some old)
    (arrivalDate now : DateTime) :
    Admissible (db.status? (old.markDelivered arrivalDate now).deliveryId)
        (old.markDelivered arrivalDate now).status ↔
      db.status? deliveryId ≠ some .confirmed := by
  rw [Delivery.deliveryId_markDelivered, Delivery.status_markDelivered, deliveryId_of_delivery? hold]
  exact admissible_delivered_iff _

end Marked

/-- What a method gives to `save` is admissible when its caller asks for nothing else. -/
theorem admissible_method_iff {method : Method} {w w' : World} {delivery : Delivery}
    (h : method.saves? w = some (delivery, w')) :
    Admissible (w.db.status? delivery.deliveryId) delivery.status ↔
      (Operation.method method).Permitted w.db := by
  cases method with
  | create saved =>
    cases h
    exact Iff.rfl
  | markAsReceived deliveryId =>
    obtain ⟨old, hold, h⟩ := Option.bind_eq_some_iff.mp h
    split_ifs at h
    cases h
    rw [status?_self hold]
    exact iff_of_true (admissible_self _) trivial
  | markAsReadyForDelivery deliveryId =>
    obtain ⟨old, hold, h⟩ := Option.bind_eq_some_iff.mp h
    cases h
    rw [status?_self hold]
    exact iff_of_true (admissible_self _) trivial
  | markAsInTransit deliveryId now =>
    obtain ⟨old, hold, h⟩ := Option.bind_eq_some_iff.mp h
    split_ifs at h with hdelivered
    cases h
    exact admissible_started_iff hold hdelivered _
  | markAsDelivered deliveryId arrivalDate now =>
    obtain ⟨old, hold, h⟩ := Option.bind_eq_some_iff.mp h
    cases h
    exact admissible_arrived_iff hold _ _
  | markAsCompleted deliveryId now =>
    obtain ⟨old, hold, h⟩ := Option.bind_eq_some_iff.mp h
    split_ifs at h with hdelivered
    cases h
    rw [Delivery.deliveryId_updateStatus, Delivery.status_updateStatus, status?_self hold,
      not_not.mp hdelivered]
    exact iff_of_true (.inl rfl) trivial
  | reassignCourier deliveryId newCourier now =>
    obtain ⟨old, hold, h⟩ := Option.bind_eq_some_iff.mp h
    split_ifs at h
    cases h
    have hstored := status?_self hold
    simp only [hstored]
    exact iff_of_true (admissible_self _) trivial

/-- What a handler gives to `save` is admissible when its caller asks for nothing else. -/
theorem admissible_request_iff {request : Request} {w w' : World} {delivery : Delivery}
    (h : request.saves? w = some (delivery, w')) :
    Admissible (w.db.status? delivery.deliveryId) delivery.status ↔
      (Operation.request request).Permitted w.db := by
  cases request with
  | createDelivery dto deliveryId now estimateNow draws =>
    obtain ⟨courier, _, h⟩ := Option.map_eq_some_iff.mp h
    cases h
    exact Iff.rfl
  | updateDelivery deliveryId dto now estimateNow draws =>
    obtain ⟨old, hold, h⟩ := Option.bind_eq_some_iff.mp h
    obtain ⟨moved, _, h⟩ := Option.map_eq_some_iff.mp h
    cases h
    rw [DeliveryMapper.deliveryId_updateEntityFromDto, status_updateEntityFromDto,
      Operation.Permitted, deliveryId_of_delivery? hold]
    cases Operation.newStatus? dto with
    | none =>
      rw [Option.getD_none, status?_of_delivery? hold]
      exact iff_of_true (admissible_self _) fun _ hnone => nomatch hnone
    | some status => simp
  | markDeliveryInTransit deliveryId now draws =>
    obtain ⟨old, hold, h⟩ := Option.bind_eq_some_iff.mp h
    split_ifs at h with hdelivered
    cases h
    exact admissible_started_iff hold hdelivered _
  | completeDelivery deliveryId today now draws =>
    obtain ⟨old, hold, h⟩ := Option.map_eq_some_iff.mp h
    cases h
    exact admissible_arrived_iff hold _ _
  | _ => cases h

/-- An operation keeps the order exactly when it asks for nothing else or stores nothing. -/
theorem advances_iff_permitted (op : Operation) :
    s.world.db.Advances (operationStep backend op s).world.db ↔
      (op.Commits backend.pg s.world → op.Permitted s.world.db) := by
  obtain ⟨delivery, w, hsaves, hw, haccepts, hdb⟩ | ⟨hidle, hrows⟩ :=
    @operationStep_cases backend s op
  · have hcommits : op.Commits backend.pg s.world := ⟨delivery, w, hsaves, haccepts⟩
    have hadmissible : Admissible (s.world.db.status? delivery.deliveryId) delivery.status ↔
        op.Permitted s.world.db := by
      cases op with
      | method method => exact admissible_method_iff hsaves
      | request request => exact admissible_request_iff hsaves
    have hiff := advances_afterSave_iff backend.pg delivery haccepts
    rw [← hdb, hw] at hiff
    simp only [hcommits, forall_const, ← hadmissible]
    exact hiff
  · refine iff_of_true (advances_of_status?_eq fun deliveryId => ?_) fun h => absurd h hidle
    obtain hgone | hsame := hrows deliveryId
    · exact .inl (by rw [DeliveryDb.status?, hgone, Option.bind_none])
    · exact .inr (by rw [DeliveryDb.status?, hsame, DeliveryDb.status?])

end Step

/-- In a run, every operation keeps the order of the statuses exactly when every operation that
stores a delivery asks for a status that may replace the stored one. -/
theorem advances_iff_eachPermitted (backend : Backend) (ops : List Operation) (s : Served World) :
    EachStep (operationStep backend)
        (fun s op => s.world.db.Advances (operationStep backend op s).world.db) ops s ↔
      EachStep (operationStep backend)
        (fun s op => op.Commits backend.pg s.world → op.Permitted s.world.db) ops s :=
  eachStep_congr (fun _ op => advances_iff_permitted op) ops s

/-- One delivery on its way. -/
def sampleUnderway : Served World where
  world := {
    db := {
      couriers := ⟨[⟨⟨70⟩, "Eve", "eve@post", 0, 0⟩], by decide⟩
      deliveries := ⟨[⟨⟨71⟩, ⟨72⟩, ⟨70⟩, "in_transit", none, none, 0, 0⟩], by decide⟩
      courierOf := by decide }
    clock := fun n => n
    statements := 0 }
  queue := ⟨[], 0⟩

/-- A database that takes every row with a courier. -/
def lenientBackend : Backend where
  pg := ⟨fun _ => none, fun _ => none, fun _ _ => true⟩
  textArgument := fun
    | .name name => .ok name.value
    | .contactInfo contactInfo => .ok contactInfo.value
  adapter := .memory

/-- A delivery that is on its way is confirmed by an update, and started once more. -/
def sampleOperations : List Operation :=
  [.request (.updateDelivery ⟨71⟩ { status := some .confirmed } (fun n => n) 0 ⟨0, ⟨73⟩, 0⟩),
    .request (.markDeliveryInTransit ⟨71⟩ 1 ⟨1, ⟨74⟩, 1⟩)]

/-- The delivery is confirmed without having been delivered, and it falls back. -/
theorem confirmed_falls_back :
    ¬ EachStep (operationStep lenientBackend)
        (fun s op => s.world.db.Advances (operationStep lenientBackend op s).world.db)
        sampleOperations sampleUnderway ∧
    sampleUnderway.world.db.status? ⟨71⟩ = some .inTransit ∧
    ((sampleOperations.take 1).foldl (fun s op => operationStep lenientBackend op s)
      sampleUnderway).world.db.status? ⟨71⟩ = some .confirmed ∧
    (sampleOperations.foldl (fun s op => operationStep lenientBackend op s)
      sampleUnderway).world.db.status? ⟨71⟩ = some .inTransit := by
  refine ⟨fun h => ?_, rfl, rfl, rfl⟩
  have hkeeps := h.2.1.keeps ⟨71⟩ .confirmed .inTransit rfl rfl (by decide)
  exact absurd hkeeps (by decide)

end SupplyChainTracker.Deliveries
