import SupplyChainTracker.Deliveries.Api

/-!
# What a request changes in the delivery service

Each handler makes at most one call that stores or deletes a row, after reads that leave
the tables alone. A request changes the tables exactly when that call is reached and has
an effect.
-/

namespace SupplyChainTracker.Deliveries

/-- The delivery that a read of an id returns, if it returns one. -/
def DeliveryDb.delivery? (deliveryId : UUID) (db : DeliveryDb) : Option Delivery :=
  (db.get deliveryId).bind fun row => (rowToEntity row.1 row.2).toOption

/-- The courier that a read of an id returns, if it returns one. -/
def DeliveryDb.courier? (courierId : UUID) (db : DeliveryDb) : Option Courier :=
  (db.couriers.find? courierId).bind fun row => (CourierRepository.rowToEntity row).toOption

/-- A call of `save` stores a row for a delivery that is not stored already. -/
def SavesDelivery (pg : Postgres) (delivery : Delivery) (w : World) : Prop :=
  w.db.AcceptsDelivery pg delivery w.now ∧
    w.db.deliveries.find? delivery.deliveryId ≠ some (w.db.deliveryTarget delivery w.now)

/-- A call of `save` stores a row for a courier that is not stored already. -/
def SavesCourier (backend : Backend) (courier : Courier) (w : World) : Prop :=
  ∃ name contactInfo, backend.textArgument (.name courier.name) = .ok name ∧
    backend.textArgument (.contactInfo courier.contactInfo) = .ok contactInfo ∧
    backend.pg.refusesCourier
      (w.db.courierTarget courier.courierId name contactInfo w.now) = none ∧
    w.db.couriers.find? courier.courierId ≠
      some (w.db.courierTarget courier.courierId name contactInfo w.now)

/-- The courier that an update moves a delivery to, with the world after it has been looked up;
nothing where the update raises instead. -/
def newCourier? (delivery : Delivery) (dto : DeliveryUpdateDTO) (w : World) :
    Option (Option Courier × World) :=
  match dto.courierId with
  | none => some (none, w)
  | some courierId =>
      if courierId = delivery.courier.courierId then some (none, w)
      else (w.db.courier? courierId).map fun courier => (some courier, w.read)

/-- The condition under which a request changes the tables. -/
def Request.Writes (backend : Backend) (w : World) : Request → Prop
  | createCourier dto courierId => ∃ courier,
      CourierMapper.createDtoToEntity dto courierId = .ok courier ∧ SavesCourier backend courier w
  | updateCourier courierId dto => ∃ courier new, w.db.courier? courierId = some courier ∧
      CourierMapper.updateEntityFromDto courier dto = .ok new ∧
      SavesCourier backend new w.read.read
  | deleteCourier courierId => (w.db.courier? courierId).isSome ∧
      ∀ d ∈ w.db.deliveries.rows, d.courierId ≠ courierId
  | createDelivery dto deliveryId now _ _ => ∃ courier,
      w.db.courier? dto.courierId = some courier ∧ SavesDelivery backend.pg
        (DeliveryMapper.createDtoToEntity dto courier deliveryId now) w.read
  | updateDelivery deliveryId dto now _ _ => ∃ delivery courier w',
      w.db.delivery? deliveryId = some delivery ∧
      newCourier? delivery dto w.read = some (courier, w') ∧ SavesDelivery backend.pg
        (DeliveryMapper.updateEntityFromDto delivery dto courier now) w'.read
  | deleteDelivery deliveryId => (w.db.delivery? deliveryId).isSome
  | markDeliveryInTransit deliveryId now _ => ∃ delivery,
      w.db.delivery? deliveryId = some delivery ∧ delivery.status ≠ .delivered ∧
      SavesDelivery backend.pg (delivery.updateStatus .inTransit now) w.read.read
  | completeDelivery deliveryId today now _ => ∃ delivery,
      w.db.delivery? deliveryId = some delivery ∧
      SavesDelivery backend.pg (delivery.markDelivered (midnight today) now) w.read.read
  | _ => False

/-- The delivery that a request gives to `save`, with the world in which it does. -/
def Request.saves? (w : World) : Request → Option (Delivery × World)
  | createDelivery dto deliveryId now _ _ => (w.db.courier? dto.courierId).map fun courier =>
      (DeliveryMapper.createDtoToEntity dto courier deliveryId now, w.read)
  | updateDelivery deliveryId dto now _ _ => (w.db.delivery? deliveryId).bind fun delivery =>
      (newCourier? delivery dto w.read).map fun moved =>
        (DeliveryMapper.updateEntityFromDto delivery dto moved.1 now, moved.2.read)
  | markDeliveryInTransit deliveryId now _ => (w.db.delivery? deliveryId).bind fun delivery =>
      if delivery.status = .delivered then none
      else some (delivery.updateStatus .inTransit now, w.read.read)
  | completeDelivery deliveryId today now _ => (w.db.delivery? deliveryId).map fun delivery =>
      (delivery.markDelivered (midnight today) now, w.read.read)
  | _ => none

/-- The type of the event with which a handler announces whatever it has stored; an update of a
delivery announces a change of its courier only. -/
def Request.eventType? : Request → Option String
  | createDelivery .. => some "courier.assigned"
  | markDeliveryInTransit .. => some "delivery.in_transit"
  | completeDelivery .. => some "delivery.completed"
  | _ => none

/-- The tables after the `save` that is reached, if one is, by the delivery and the world that it
is given. -/
def DeliveryDb.afterSave (pg : Postgres) (db : DeliveryDb) :
    Option (Delivery × World) → DeliveryDb
  | none => db
  | some (delivery, w) => (w.db.saveDelivery pg delivery w.now).2

/-- Databases with the same tables are the same. -/
theorem DeliveryDb.ext {db db' : DeliveryDb} (hcouriers : db.couriers = db'.couriers)
    (hdeliveries : db.deliveries = db'.deliveries) : db = db' := by
  cases db
  cases db'
  cases hcouriers
  cases hdeliveries
  rfl

section Calls

variable {pg : Postgres} {w : World}

/-- A statement stores the row of an accepted delivery and refuses any other without effect. -/
theorem saveDelivery_cases (pg : Postgres) (delivery : Delivery) (now : DateTime)
    (db : DeliveryDb) :
    (db.AcceptsDelivery pg delivery now ∧ ∃ db', db.saveDelivery pg delivery now = (.ok (), db') ∧
      db'.couriers = db.couriers ∧
      db'.deliveries = db.deliveries.put (db.deliveryTarget delivery now)) ∨
    (¬ db.AcceptsDelivery pg delivery now ∧
      ∃ e, db.saveDelivery pg delivery now = (.error e, db)) := by
  unfold DeliveryDb.saveDelivery
  cases hrow : pg.refusesDelivery delivery.toRow with
  | some violated => exact .inr ⟨(fun h => by cases hrow.symm.trans h.1), _, rfl⟩
  | none =>
    cases htarget : pg.refusesDelivery (db.deliveryTarget delivery now) with
    | some violated => exact .inr ⟨(fun h => by cases htarget.symm.trans h.2.1), _, rfl⟩
    | none =>
      simp only [Option.or_none]
      split_ifs with hcourier
      · exact .inl ⟨⟨hrow, htarget, hcourier⟩, _, rfl, rfl, rfl⟩
      · exact .inr ⟨fun h => hcourier h.2.2, _, rfl⟩

/-- What `save` leaves differs from what was there when it stores a new row. -/
theorem saveDelivery_eq_iff (delivery : Delivery) :
    (w.db.saveDelivery pg delivery w.now).2 = w.db ↔ ¬ SavesDelivery pg delivery w := by
  rw [SavesDelivery]
  rcases saveDelivery_cases pg delivery w.now w.db with
    ⟨haccepts, db', hsave, hcouriers, hdeliveries⟩ | ⟨hrefuses, e, hsave⟩
  · have hput := w.db.deliveries.put_eq_self_iff (w.db.deliveryTarget delivery w.now)
    rw [DeliveryDb.deliveryId_deliveryTarget] at hput
    rw [hsave]
    constructor
    · rintro rfl ⟨_, hne⟩
      exact hne (hput.mp hdeliveries.symm)
    · intro hsaves
      have hstored := not_not.mp fun hne => hsaves ⟨haccepts, hne⟩
      exact DeliveryDb.ext hcouriers (hdeliveries.trans (hput.mpr hstored))
  · rw [hsave]
    exact iff_of_true rfl fun hsaves => hrefuses hsaves.1

/-- A creation or a replacement of a courier stores a row when both texts are encoded and the row
passes. -/
theorem db_saveCourier_eq_iff (backend : Backend) (courier : Courier) :
    ((CourierRepository.save backend.textArgument courier).run
        (Statement.act backend.pg) w).2.db = w.db ↔ ¬ SavesCourier backend courier w := by
  simp only [CourierRepository.save, Coroutine.bind_eq]
  cases hname : backend.textArgument (.name courier.name) with
  | error e =>
    refine iff_of_true rfl ?_
    rintro ⟨_, _, hok, _⟩
    cases hname.symm.trans hok
  | ok name =>
    cases hcontact : backend.textArgument (.contactInfo courier.contactInfo) with
    | error e =>
      refine iff_of_true rfl ?_
      rintro ⟨_, _, _, hok, _⟩
      cases hcontact.symm.trans hok
    | ok contactInfo =>
      have hput := w.db.couriers.put_eq_self_iff
        (w.db.courierTarget courier.courierId name contactInfo w.now)
      rw [DeliveryDb.courierId_courierTarget] at hput
      simp only [Coroutine.ofExcept_ok, Coroutine.ret_bind, Coroutine.run_bind,
        Coroutine.run_perform, Statement.act, DeliveryDb.saveCourier]
      cases hrefuses : backend.pg.refusesCourier
          (w.db.courierTarget courier.courierId name contactInfo w.now) with
      | some violated =>
        refine iff_of_true rfl ?_
        rintro ⟨_, _, hname', hcontact', hpasses, _⟩
        cases hname.symm.trans hname'
        cases hcontact.symm.trans hcontact'
        cases hrefuses.symm.trans hpasses
      | none =>
        simp only [Coroutine.run_ofExcept, Database.db_after]
        constructor
        · rintro hsame ⟨_, _, hname', hcontact', _, hne⟩
          cases hname.symm.trans hname'
          cases hcontact.symm.trans hcontact'
          exact hne (hput.mp (congrArg DeliveryDb.couriers hsame))
        · intro hsaves
          have hstored := not_not.mp fun hne =>
            hsaves ⟨name, contactInfo, hname, hcontact, hrefuses, hne⟩
          exact DeliveryDb.ext (hput.mpr hstored) rfl

/-- `get` of a courier looks it up. -/
theorem loads_getCourier (pg : Postgres) (courierId : UUID) :
    (CourierService.get courierId).Loads (Statement.act pg) (fun w => w.db.courier? courierId)
      Database.read := by
  intro w
  simp only [CourierService.get, CourierRepository.get, DeliveryDb.courier?, Coroutine.bind_eq,
    Coroutine.run_bind, Coroutine.run_perform, Statement.act]
  cases w.db.couriers.find? courierId with
  | none => exact .inr ⟨rfl, .inl rfl⟩
  | some row =>
    simp only [Option.bind_some, Coroutine.run_bind, Coroutine.run_ofExcept]
    cases CourierRepository.rowToEntity row with
    | error e => exact .inr ⟨rfl, .inr ⟨e, rfl⟩⟩
    | ok courier => exact .inl ⟨courier, rfl, rfl⟩

/-- `get` of a delivery looks it up. -/
theorem loads_getDelivery (pg : Postgres) (deliveryId : UUID) :
    (DeliveryService.get deliveryId).Loads (Statement.act pg)
      (fun w => w.db.delivery? deliveryId) Database.read := by
  intro w
  simp only [DeliveryService.get, inService, DeliveryRepository.get, DeliveryDb.delivery?,
    Coroutine.bind_eq, Coroutine.lift_bind, Coroutine.run_bind, Coroutine.run_lift_perform,
    Statement.act, act, Except.map]
  cases w.db.get deliveryId with
  | none => exact .inr ⟨rfl, .inl rfl⟩
  | some row =>
    simp only [Option.bind_some, Coroutine.lift_bind, Coroutine.lift_ofExcept,
      Coroutine.run_bind, Coroutine.run_ofExcept]
    cases rowToEntity row.1 row.2 with
    | error e => exact .inr ⟨rfl, .inr ⟨e, rfl⟩⟩
    | ok delivery => exact .inl ⟨delivery, rfl, rfl⟩

/-- A delivery that is read has the columns of its row, and the status of its text. -/
theorem columns_of_rowToEntity {d : DeliveryRow} {c : CourierRow} {delivery : Delivery}
    (h : rowToEntity d c = .ok delivery) :
    ∃ courier status, courier.courierId = c.courierId ∧
      DeliveryStatus.ofValue? d.status = some status ∧
      delivery = ⟨d.deliveryId, d.shipmentId, courier, status, d.estimatedArrival,
        d.actualArrival, d.createdAt, d.updatedAt⟩ := by
  obtain ⟨name, _, h⟩ := bind_eq_ok_iff.mp h
  obtain ⟨contactInfo, _, h⟩ := bind_eq_ok_iff.mp h
  cases hstatus : DeliveryStatus.ofValue? d.status with
  | none =>
    rw [hstatus] at h
    cases h
  | some status =>
    rw [hstatus] at h
    cases h
    exact ⟨_, status, rfl, rfl, rfl⟩

theorem deliveryId_of_rowToEntity {d : DeliveryRow} {c : CourierRow} {delivery : Delivery}
    (h : rowToEntity d c = .ok delivery) : delivery.deliveryId = d.deliveryId := by
  obtain ⟨_, _, _, _, rfl⟩ := columns_of_rowToEntity h
  rfl

/-- A delivery is read by its id from a stored row and the row of its courier. -/
theorem exists_row_of_delivery? {db : DeliveryDb} {deliveryId : UUID} {delivery : Delivery}
    (h : db.delivery? deliveryId = some delivery) :
    ∃ d c, db.deliveries.find? deliveryId = some d ∧ db.couriers.find? d.courierId = some c ∧
      rowToEntity d c = .ok delivery := by
  obtain ⟨⟨d, c⟩, hrow, hentity⟩ := Option.bind_eq_some_iff.mp h
  obtain ⟨d', hfind, hjoin⟩ := Option.bind_eq_some_iff.mp hrow
  obtain ⟨c', hcourier, hpair⟩ := Option.map_eq_some_iff.mp hjoin
  cases hpair
  exact ⟨d, c, hfind, hcourier, toOption_eq_some_iff.mp hentity⟩

/-- A delivery that is read carries the id it is read by. -/
theorem deliveryId_of_delivery? {db : DeliveryDb} {deliveryId : UUID} {delivery : Delivery}
    (h : db.delivery? deliveryId = some delivery) : delivery.deliveryId = deliveryId := by
  obtain ⟨d, c, hfind, _, hentity⟩ := exists_row_of_delivery? h
  rw [deliveryId_of_rowToEntity hentity]
  exact Table.key_of_find? hfind

/-- A courier that is read carries the id it is read by. -/
theorem courierId_of_courier? {db : DeliveryDb} {courierId : UUID} {courier : Courier}
    (h : db.courier? courierId = some courier) : courier.courierId = courierId := by
  obtain ⟨row, hrow, hentity⟩ := Option.bind_eq_some_iff.mp h
  obtain ⟨name, _, hentity⟩ := bind_eq_ok_iff.mp (toOption_eq_some_iff.mp hentity)
  obtain ⟨contactInfo, _, hentity⟩ := bind_eq_ok_iff.mp hentity
  cases hentity
  have hid : row.courierId = courierId := Table.key_of_find? hrow
  exact hid

end Calls

/-- Looking a courier up leaves the tables as they are. -/
theorem db_of_newCourier? {delivery : Delivery} {dto : DeliveryUpdateDTO} {w w' : World}
    {courier : Option Courier} (h : newCourier? delivery dto w = some (courier, w')) :
    w'.db = w.db := by
  unfold newCourier? at h
  split at h
  · cases h
    rfl
  · split_ifs at h
    · cases h
      rfl
    · obtain ⟨_, _, hmoved⟩ := Option.map_eq_some_iff.mp h
      cases hmoved
      rfl

/-! ## Service methods -/

section Methods

variable {pg : Postgres} {w : World}

/-- A coroutine leaves what the `save` leaves that it reaches, if it reaches one. -/
def Stores {α : Type} (pg : Postgres) (save? : World → Option (Delivery × World))
    (p : ServiceProgram α) : Prop :=
  ∀ w, (p.run (Statement.act pg) w).2.db = w.db.afterSave pg (save? w)

theorem stores_raise {α : Type} (e : DeliveryError) :
    Stores pg (fun _ => none) (.raise e : ServiceProgram α) := fun _ => rfl

theorem stores_save (delivery : Delivery) :
    Stores pg (fun w => some (delivery, w)) (DeliveryRepository.save delivery) := by
  intro w
  simp only [DeliveryRepository.save, Coroutine.bind_eq, Coroutine.run_bind,
    Coroutine.run_perform, Statement.act, DeliveryDb.afterSave]
  cases (w.db.saveDelivery pg delivery w.now).1 <;> rfl

/-- A coroutine that goes on with the delivery that it reads. -/
theorem stores_getOrRaise_bind {α : Type} (deliveryId : UUID)
    (save? : Delivery → World → Option (Delivery × World)) {k : Delivery → ServiceProgram α}
    (hk : ∀ delivery, Stores pg (save? delivery) (k delivery)) :
    Stores pg (fun w => (w.db.delivery? deliveryId).bind fun delivery => save? delivery w.read)
      ((DeliveryService.getOrRaise deliveryId).bind k) := by
  intro w
  rw [Coroutine.run_bind]
  obtain ⟨delivery, hdelivery, hrun⟩ | ⟨hnone, e, hrun⟩ :=
    (loads_getDelivery pg deliveryId).run_eq (q := DeliveryService.getOrRaise deliveryId) rfl
      (Coroutine.refuses_raise _) w
  · simp only [hrun, hdelivery, Option.bind_some]
    exact hk delivery w.read
  · simp only [hrun, hnone, Option.bind_none]
    rfl

/-- An update of a delivery that is read stores it. -/
theorem stores_update (delivery : Delivery) :
    Stores pg (fun w => (w.db.delivery? delivery.deliveryId).map fun _ => (delivery, w.read))
      (DeliveryService.update delivery) := by
  intro w
  obtain ⟨_, hsome, hrun⟩ | ⟨hnone, e, hrun⟩ :=
    (loads_getDelivery pg delivery.deliveryId).run_eq (q := DeliveryService.update delivery) rfl
      (Coroutine.refuses_raise _) w
  · simp only [hrun, hsome, Option.map_some]
    exact stores_save delivery w.read
  · simp only [hrun, hnone, Option.map_none]
    rfl

/-- A start of a delivery that is read stores it, unless it has been delivered. -/
theorem stores_markAsInTransit (deliveryId : UUID) (now : DateTime) :
    Stores pg (fun w => (w.db.delivery? deliveryId).bind fun delivery =>
        if delivery.status = .delivered then none
        else some (delivery.updateStatus .inTransit now, w.read))
      (DeliveryService.markAsInTransit deliveryId now) := by
  refine stores_getOrRaise_bind deliveryId (fun delivery w =>
    if delivery.status = .delivered then none
    else some (delivery.updateStatus .inTransit now, w)) fun delivery => ?_
  split_ifs with hstatus
  · exact stores_raise _
  · exact stores_save _

/-- An update of a courier that is read stores it. -/
theorem db_updateCourier_eq_iff (backend : Backend) {courier : Courier}
    (h : (w.db.courier? courier.courierId).isSome) :
    ((CourierService.update backend.textArgument courier).run
        (Statement.act backend.pg) w).2.db = w.db ↔ ¬ SavesCourier backend courier w.read := by
  obtain ⟨_, _, hrun⟩ | ⟨hnone, _⟩ :=
    (loads_getCourier backend.pg courier.courierId).run_eq
      (q := CourierService.update backend.textArgument courier) rfl (Coroutine.refuses_raise _) w
  · rw [hrun, ← db_saveCourier_eq_iff]
    exact Iff.rfl
  · simp [hnone] at h

/-- The deletion of a delivery that is read removes it. -/
theorem run_deleteDelivery {deliveryId : UUID} (h : (w.db.delivery? deliveryId).isSome) :
    (inService (DeliveryService.delete deliveryId)).run (Statement.act pg) w =
      (.ok (), w.read.after (w.db.delete deliveryId)) := by
  obtain ⟨delivery, _, hrun⟩ | ⟨hnone, _⟩ := loads_getDelivery pg deliveryId w
  · simp only [DeliveryService.get, inService] at hrun
    simp only [DeliveryService.delete, inService, Coroutine.bind_eq, Coroutine.lift_bind,
      Coroutine.run_bind, hrun, DeliveryRepository.delete, Coroutine.run_lift_perform,
      Statement.act, act, Except.map, Database.db_read]
  · simp [hnone] at h

/-- The deletion of a courier that is read removes it, unless it has deliveries. -/
theorem run_deleteCourier {courierId : UUID} (h : (w.db.courier? courierId).isSome) :
    (CourierService.delete courierId).run (Statement.act pg) w =
      ((w.db.deleteCourier courierId).1, w.read.after (w.db.deleteCourier courierId).2) := by
  obtain ⟨courier, _, hrun⟩ | ⟨hnone, _⟩ := loads_getCourier pg courierId w
  · rw [CourierService.get] at hrun
    simp only [CourierService.delete, Coroutine.bind_eq, Coroutine.run_bind, hrun,
      CourierRepository.delete, Coroutine.run_perform, Statement.act, Database.db_read]
  · simp [hnone] at h

end Methods

section Handlers

variable {backend : Backend} {s : Served World} {α β : Type}

/-- A method of a service in a handler. -/
theorem run_service (p : ServiceProgram α) :
    (service p).run (apiAct backend) s = ((p.run (Statement.act backend.pg) s.world).1,
      { s with world := (p.run (Statement.act backend.pg) s.world).2 }) := by
  unfold apiAct service
  apply Handler.run_call
  · exact fun _ _ => congrFun Except.map_id _
  · exact fun _ _ => rfl

theorem loads_service {p : ServiceProgram (Option α)} {value? : World → Option α}
    {next : World → World} (h : p.Loads (Statement.act backend.pg) value? next) :
    (service p).Loads (apiAct backend) (fun s => value? s.world)
      fun s => { s with world := next s.world } := by
  unfold apiAct service
  refine Handler.loads_call ?_ ?_ h
  · exact fun _ _ => congrFun Except.map_id _
  · exact fun _ _ => rfl

theorem refuses_announce (domainEvent : DomainEvent) (draws : EventDraws) :
    (announce domainEvent draws).Refuses (apiAct backend) :=
  Handler.refuses_publishEvent _ _

/-- What a handler makes of its result has no effect. -/
theorem snd_handle {request : Request} {p : ApiProgram β} {respond : β → Response}
    (h : request.handler backend.textArgument = p.bind fun b => .ret (respond b)) :
    (request.handle backend s).2 = (p.run (apiAct backend) s).2 := by
  rw [Request.handle, h]
  exact Coroutine.snd_run_map p respond s

/-- A handler that looks something up first goes on with it or raises there. -/
theorem snd_handle_loads {request : Request} {p : ServiceProgram (Option α)}
    {value? : World → Option α} {k : Option α → ApiProgram β} {respond : β → Response}
    (h : request.handler backend.textArgument =
      ((service p).bind k).bind fun b => .ret (respond b))
    (hp : p.Loads (Statement.act backend.pg) value? Database.read)
    (hnone : (k none).Refuses (apiAct backend)) :
    (∃ a, value? s.world = some a ∧ (request.handle backend s).2 =
      ((k (some a)).run (apiAct backend) { s with world := s.world.read }).2) ∨
    (value? s.world = none ∧ (request.handle backend s).2 = { s with world := s.world.read }) := by
  rw [Request.handle, h]
  exact (loads_service hp).snd_run_map respond hnone s

/-- A handler that announces what it has stored. -/
theorem snd_announced (p : ServiceProgram α) {k : α → ApiProgram β}
    (hk : ∀ a, (k a).Idle (apiAct backend)) :
    (((service p).bind k).run (apiAct backend) s).2 =
      { s with world := (p.run (Statement.act backend.pg) s.world).2 } := by
  rw [Coroutine.run_bind_of_idle _ hk, run_service]

/-- A handler that looks something up first and raises whatever it finds. -/
theorem raises_handle_loads {request : Request} {p : ServiceProgram (Option α)}
    {k : Option α → ApiProgram β} {respond : β → Response}
    (h : request.handler backend.textArgument =
      ((service p).bind k).bind fun b => .ret (respond b))
    (hk : ∀ a s, ∃ e, ((k a).run (apiAct backend) s).1 = .error e) :
    ∃ e, (request.handle backend s).1 = .error e := by
  rw [Request.handle, h, Coroutine.run_bind, Coroutine.run_bind]
  cases ((service p).run (apiAct backend) s).1 with
  | error e => exact ⟨e, rfl⟩
  | ok a =>
    obtain ⟨e, he⟩ := hk a ((service p).run (apiAct backend) s).2
    exact ⟨e, by simp only [he]⟩

/-- The courier that an update moves a delivery to is looked up where it is another one. -/
theorem run_newCourier (backend : Backend) (s : Served World) (delivery : Delivery)
    (dto : DeliveryUpdateDTO) :
    (∃ courier w', newCourier? delivery dto s.world = some (courier, w') ∧ w'.db = s.world.db ∧
      (DeliveryRouter.newCourier delivery dto).run (apiAct backend) s =
        (.ok courier, { s with world := w' })) ∨
    (newCourier? delivery dto s.world = none ∧ ∃ e,
      (DeliveryRouter.newCourier delivery dto).run (apiAct backend) s =
        (.error e, { s with world := s.world.read })) := by
  unfold newCourier? DeliveryRouter.newCourier
  cases hid : dto.courierId with
  | none => exact .inl ⟨none, s.world, rfl, rfl, rfl⟩
  | some courierId =>
    by_cases hsame : courierId = delivery.courier.courierId
    · simp only [if_pos hsame]
      exact .inl ⟨none, s.world, rfl, rfl, rfl⟩
    · simp only [if_neg hsame, Coroutine.bind_eq, Coroutine.run_bind]
      rcases loads_service (loads_getCourier backend.pg courierId) s with
        ⟨courier, hcourier, hrun⟩ | ⟨hcourier, hrun | ⟨e, hrun⟩⟩
      · rw [hrun]
        exact .inl ⟨some courier, s.world.read, congrArg (Option.map _) hcourier, rfl, rfl⟩
      · rw [hrun]
        exact .inr ⟨congrArg (Option.map _) hcourier, _, rfl⟩
      · rw [hrun]
        exact .inr ⟨congrArg (Option.map _) hcourier, e, rfl⟩

/-- A handler that reads once more what it has stored, before it announces it, has the effect of
storing it. -/
theorem snd_announced_reread (p : ServiceProgram α) {deliveryId : UUID}
    {k : Option Delivery → ApiProgram β} (hk : ∀ d, (k d).Idle (apiAct backend)) :
    (((service p).bind fun _ => (service (DeliveryService.get deliveryId)).bind k).run
      (apiAct backend) s).2.world.db = (p.run (Statement.act backend.pg) s.world).2.db := by
  rw [Coroutine.run_bind, run_service]
  cases (p.run (Statement.act backend.pg) s.world).1 with
  | error e => rfl
  | ok a =>
    simp only [Coroutine.run_bind_of_idle _ hk, run_service]
    rcases loads_getDelivery backend.pg deliveryId (p.run (Statement.act backend.pg) s.world).2
      with ⟨d, _, hrun⟩ | ⟨_, hrun | ⟨e, hrun⟩⟩ <;> rw [hrun] <;> rfl

/-- The relation between worlds with the same tables. -/
def SameTables (w w' : World) : Prop := w'.db = w.db

/-- What the calls of a handler keep. -/
abbrev Respects (backend : Backend) (R : World → World → Prop) : HandlerCall Statement → Prop :=
  Handler.Respects DeliveryError.ofQueue backend.adapter (Statement.act backend.pg) R

theorem calls_service {R : World → World → Prop} {p : ServiceProgram α}
    (hp : p.Calls fun op => ∀ w, R w (Statement.act backend.pg op w).2) :
    (service p).Calls (Respects backend R) :=
  Handler.calls_call (fun _ _ => rfl) hp

/-- The handler of a `GET` route only reads. -/
theorem calls_handler_get {request : Request} (h : request.route.method = .get) :
    (request.handler backend.textArgument).Calls (Respects backend SameTables) := by
  cases request with
  | getCourier courierId =>
    refine ((calls_service ?_).bind fun courier => ?_).map _
    · refine (Coroutine.calls_perform.mpr fun w => rfl).found trivial fun row => ?_
      exact (Coroutine.calls_ofExcept _).map _
    · cases courier <;> trivial
  | listCouriers page =>
    exact ((calls_service ((Coroutine.calls_perform.mpr fun w => rfl).bind fun _ =>
      Coroutine.calls_ofExcept _)).map _).map _
  | getDelivery deliveryId =>
    have hget : (DeliveryRepository.get deliveryId).Calls fun op => ∀ db, (act op db).2 = db := by
      refine (Coroutine.calls_perform.mpr fun db => rfl).found trivial fun row => ?_
      exact (Coroutine.calls_ofExcept _).map _
    refine ((calls_service (hget.lift fun op hop w => hop w.db)).found (by trivial)
      fun delivery => ?_).map _
    exact Coroutine.calls_ofExcept _
  | listDeliveries page =>
    exact ((calls_service ((Coroutine.calls_perform.mpr fun w => rfl).bind fun _ =>
      Coroutine.calls_ofExcept _)).bind fun _ => Coroutine.calls_ofExcept _).map _
  | _ => cases h

/-- A `GET` request leaves the tables alone. -/
theorem db_handle_get {request : Request} (h : request.route.method = .get) :
    (request.handle backend s).2.world.db = s.world.db :=
  Handler.run_keeps (calls_handler_get h) s

end Handlers

/-! ## Requests -/

section Requests

variable (backend : Backend) (s : Served World)

namespace Request

theorem db_handle_createCourier_iff (dto : CourierCreateDTO) (courierId : UUID) :
    ((createCourier dto courierId).handle backend s).2.world.db = s.world.db ↔
      ¬ (createCourier dto courierId).Writes backend s.world := by
  rw [@snd_handle backend s _ (.createCourier dto courierId) _ _ rfl]
  simp only [CourierRouter.createCourier, Coroutine.bind_eq, Coroutine.pure_eq]
  cases hdto : CourierMapper.createDtoToEntity dto courierId with
  | error e =>
    refine iff_of_true rfl ?_
    rintro ⟨_, hok, _⟩
    cases hdto.symm.trans hok
  | ok courier =>
    rw [Coroutine.ofExcept_ok, Coroutine.ret_bind, snd_announced _ fun _ => Coroutine.idle_ret _]
    refine (db_saveCourier_eq_iff backend courier).trans
      (not_congr ⟨fun h => ⟨courier, hdto, h⟩, ?_⟩)
    rintro ⟨_, hok, h⟩
    cases hdto.symm.trans hok
    exact h

theorem db_handle_updateCourier_iff (courierId : UUID) (dto : CourierUpdateDTO) :
    ((updateCourier courierId dto).handle backend s).2.world.db = s.world.db ↔
      ¬ (updateCourier courierId dto).Writes backend s.world := by
  rcases @snd_handle_loads backend s _ _ (.updateCourier courierId dto) _ _ _ _ rfl
    (loads_getCourier backend.pg courierId) (Coroutine.refuses_raise _) with
    ⟨courier, hcourier, hrun⟩ | ⟨hcourier, hrun⟩
  · rw [hrun]
    cases hdto : CourierMapper.updateEntityFromDto courier dto with
    | error e =>
      simp only [hdto, Coroutine.ofExcept_error, Coroutine.bind_eq, Coroutine.raise_bind,
        Coroutine.run_raise]
      refine iff_of_true rfl ?_
      rintro ⟨_, _, hsome, hok, _⟩
      cases hcourier.symm.trans hsome
      cases hdto.symm.trans hok
    | ok new =>
      have hread : (s.world.read.db.courier? new.courierId).isSome := by
        rw [CourierMapper.updateEntityFromDto_eq_ok hdto, courierId_of_courier? hcourier]
        exact Option.isSome_iff_exists.mpr ⟨courier, hcourier⟩
      simp only [hdto, Coroutine.ofExcept_ok, Coroutine.bind_eq, Coroutine.pure_eq,
        Coroutine.ret_bind]
      rw [snd_announced _ fun _ => Coroutine.idle_ret _]
      refine (db_updateCourier_eq_iff backend hread).trans
        (not_congr ⟨fun h => ⟨courier, new, hcourier, hdto, h⟩, ?_⟩)
      rintro ⟨_, _, hsome, hok, h⟩
      cases hcourier.symm.trans hsome
      cases hdto.symm.trans hok
      exact h
  · rw [hrun]
    refine iff_of_true rfl ?_
    rintro ⟨_, _, hsome, _⟩
    cases hcourier.symm.trans hsome

/-- A courier that can be read is deleted unless there are deliveries of it, and no other is. -/
theorem db_handle_deleteCourier (courierId : UUID) :
    ((deleteCourier courierId).handle backend s).2.world.db =
      if (s.world.db.courier? courierId).isSome then (s.world.db.deleteCourier courierId).2
      else s.world.db := by
  rcases @snd_handle_loads backend s _ _ (.deleteCourier courierId) _ _ _ _ rfl
    (loads_getCourier backend.pg courierId) (Coroutine.refuses_raise _) with
    ⟨courier, hcourier, hrun⟩ | ⟨hcourier, hrun⟩
  · have hread : (s.world.read.db.courier? courierId).isSome :=
      Option.isSome_iff_exists.mpr ⟨courier, hcourier⟩
    rw [hrun, hcourier, run_service, run_deleteCourier hread]
    rfl
  · rw [hrun, hcourier]
    rfl

theorem db_handle_createDelivery (dto : DeliveryCreateDTO) (deliveryId : UUID) (now : Clock)
    (estimateNow : DateTime) (draws : EventDraws) :
    ((createDelivery dto deliveryId now estimateNow draws).handle backend s).2.world.db =
      s.world.db.afterSave backend.pg
        ((createDelivery dto deliveryId now estimateNow draws).saves? s.world) := by
  rcases @snd_handle_loads backend s _ _ (.createDelivery dto deliveryId now estimateNow draws)
    _ _ _ _ rfl (loads_getCourier backend.pg dto.courierId) (Coroutine.refuses_raise _) with
    ⟨courier, hcourier, hrun⟩ | ⟨hcourier, hrun⟩
  · rw [hrun]
    simp only [Coroutine.bind_eq, saves?, hcourier, Option.map_some]
    rw [snd_announced _ fun _ => ((refuses_announce _ _).bind _).idle]
    exact stores_save _ s.world.read
  · rw [hrun]
    simp only [saves?, hcourier, Option.map_none]
    rfl

theorem db_handle_updateDelivery (deliveryId : UUID) (dto : DeliveryUpdateDTO) (now : Clock)
    (estimateNow : DateTime) (draws : EventDraws) :
    ((updateDelivery deliveryId dto now estimateNow draws).handle backend s).2.world.db =
      s.world.db.afterSave backend.pg
        ((updateDelivery deliveryId dto now estimateNow draws).saves? s.world) := by
  rcases @snd_handle_loads backend s _ _ (.updateDelivery deliveryId dto now estimateNow draws)
    _ _ _ _ rfl (loads_getDelivery backend.pg deliveryId) (Coroutine.refuses_raise _) with
    ⟨delivery, hdelivery, hrun⟩ | ⟨hdelivery, hrun⟩
  · rw [hrun]
    simp only [Coroutine.bind_eq, saves?, hdelivery, Option.bind_some]
    rw [Coroutine.run_bind]
    rcases run_newCourier backend { s with world := s.world.read } delivery dto with
      ⟨courier, w', hnew, hdb, hcall⟩ | ⟨hnew, e, hcall⟩
    · have hread : w'.db.delivery? (DeliveryMapper.updateEntityFromDto delivery dto courier
          now).deliveryId = some delivery := by
        rw [hdb, DeliveryMapper.deliveryId_updateEntityFromDto, deliveryId_of_delivery? hdelivery]
        exact hdelivery
      have hidle : ∀ saved : Delivery, (if courier.isSome then
          (announce (.courierAssigned saved.deliveryId saved.courier.courierId saved.shipmentId
            estimateNow draws.occurredAt) draws).bind fun _ =>
              Coroutine.ofExcept (DeliveryMapper.entityToDto saved)
          else Coroutine.ofExcept (DeliveryMapper.entityToDto saved)).Idle (apiAct backend) := by
        intro saved
        cases courier with
        | none => exact Coroutine.idle_ofExcept _
        | some courier => exact ((refuses_announce _ _).bind _).idle
      have hstores := @stores_update backend.pg
        (DeliveryMapper.updateEntityFromDto delivery dto courier now) w'
      simp only [hcall, hnew, Option.map_some]
      rw [snd_announced _ hidle, hstores]
      simp only [hread]
      rfl
    · simp only [hcall, hnew, Option.map_none]
      rfl
  · rw [hrun]
    simp only [saves?, hdelivery, Option.bind_none]
    rfl

/-- A delivery that can be read is deleted, and no other is. -/
theorem db_handle_deleteDelivery (deliveryId : UUID) :
    ((deleteDelivery deliveryId).handle backend s).2.world.db =
      if (s.world.db.delivery? deliveryId).isSome then s.world.db.delete deliveryId
      else s.world.db := by
  rcases @snd_handle_loads backend s _ _ (.deleteDelivery deliveryId) _ _ _ _ rfl
    (loads_getDelivery backend.pg deliveryId) (Coroutine.refuses_raise _) with
    ⟨delivery, hdelivery, hrun⟩ | ⟨hdelivery, hrun⟩
  · have hread : (s.world.read.db.delivery? deliveryId).isSome :=
      Option.isSome_iff_exists.mpr ⟨delivery, hdelivery⟩
    rw [hrun, hdelivery, run_service, run_deleteDelivery hread]
    rfl
  · rw [hrun, hdelivery]
    rfl

theorem db_handle_markDeliveryInTransit (deliveryId : UUID) (now : DateTime)
    (draws : EventDraws) :
    ((markDeliveryInTransit deliveryId now draws).handle backend s).2.world.db =
      s.world.db.afterSave backend.pg
        ((markDeliveryInTransit deliveryId now draws).saves? s.world) := by
  rcases @snd_handle_loads backend s _ _ (.markDeliveryInTransit deliveryId now draws) _ _ _ _ rfl
    (loads_getDelivery backend.pg deliveryId) (Coroutine.refuses_raise _) with
    ⟨delivery, hdelivery, hrun⟩ | ⟨hdelivery, hrun⟩
  · have hread : s.world.read.db.delivery? deliveryId = some delivery := hdelivery
    have hstores := @stores_markAsInTransit backend.pg deliveryId now s.world.read
    rw [hrun]
    simp only [Coroutine.bind_eq, saves?, hdelivery, Option.bind_some]
    rw [snd_announced_reread, hstores]
    · simp only [hread]
      rfl
    · rintro (_ | saved)
      · exact Coroutine.idle_raise _
      · exact ((refuses_announce _ _).bind _).idle
  · rw [hrun]
    simp only [saves?, hdelivery, Option.bind_none]
    rfl

theorem db_handle_completeDelivery (deliveryId : UUID) (today : Date) (now : DateTime)
    (draws : EventDraws) :
    ((completeDelivery deliveryId today now draws).handle backend s).2.world.db =
      s.world.db.afterSave backend.pg
        ((completeDelivery deliveryId today now draws).saves? s.world) := by
  rcases @snd_handle_loads backend s _ _ (.completeDelivery deliveryId today now draws) _ _ _ _ rfl
    (loads_getDelivery backend.pg deliveryId) (Coroutine.refuses_raise _) with
    ⟨delivery, hdelivery, hrun⟩ | ⟨hdelivery, hrun⟩
  · have hread : s.world.read.db.delivery?
        (delivery.markDelivered (midnight today) now).deliveryId = some delivery := by
      have hid : (delivery.markDelivered (midnight today) now).deliveryId = delivery.deliveryId :=
        rfl
      rw [hid, deliveryId_of_delivery? hdelivery]
      exact hdelivery
    have hstores := @stores_update backend.pg
      (delivery.markDelivered (midnight today) now) s.world.read
    rw [hrun]
    simp only [Coroutine.bind_eq, saves?, hdelivery, Option.map_some]
    rw [snd_announced _ fun _ => ((refuses_announce _ _).bind _).idle, hstores]
    simp only [hread]
    rfl
  · rw [hrun]
    simp only [saves?, hdelivery, Option.map_none]
    rfl

/-- `save` is reached with the tables as they were. -/
theorem db_of_saves? {request : Request} {w w' : World} {delivery : Delivery}
    (h : request.saves? w = some (delivery, w')) : w'.db = w.db := by
  cases request with
  | createDelivery dto deliveryId now estimateNow draws =>
    obtain ⟨courier, _, hsaved⟩ := Option.map_eq_some_iff.mp h
    cases hsaved
    rfl
  | updateDelivery deliveryId dto now estimateNow draws =>
    obtain ⟨delivery', _, h⟩ := Option.bind_eq_some_iff.mp h
    obtain ⟨⟨courier, w''⟩, hnew, hsaved⟩ := Option.map_eq_some_iff.mp h
    cases hsaved
    have hdb := db_of_newCourier? hnew
    exact hdb
  | markDeliveryInTransit deliveryId now draws =>
    obtain ⟨delivery', _, h⟩ := Option.bind_eq_some_iff.mp h
    split_ifs at h
    cases h
    rfl
  | completeDelivery deliveryId today now draws =>
    obtain ⟨delivery', _, hsaved⟩ := Option.map_eq_some_iff.mp h
    cases hsaved
    rfl
  | _ => cases h

/-- What `save` leaves differs from what was there when it is reached and stores a new row. -/
theorem afterSave_saves?_eq_iff (request : Request) :
    s.world.db.afterSave backend.pg (request.saves? s.world) = s.world.db ↔
      ¬ ∃ delivery w, request.saves? s.world = some (delivery, w) ∧
        SavesDelivery backend.pg delivery w := by
  cases h : request.saves? s.world with
  | none => simp [DeliveryDb.afterSave]
  | some saved =>
    obtain ⟨delivery, w⟩ := saved
    have hdb := db_of_saves? h
    rw [DeliveryDb.afterSave, ← hdb, saveDelivery_eq_iff]
    simp

/-- A request changes the tables under its condition and under no other. -/
theorem db_handle_eq_iff (request : Request) :
    (request.handle backend s).2.world.db = s.world.db ↔ ¬ request.Writes backend s.world := by
  cases request with
  | createCourier => exact db_handle_createCourier_iff backend s _ _
  | updateCourier => exact db_handle_updateCourier_iff backend s _ _
  | deleteCourier courierId =>
    rw [db_handle_deleteCourier]
    split_ifs with hcourier
    · rw [DeliveryDb.deleteCourier]
      split_ifs with hunused
      · refine iff_of_false (fun hsame => ?_) (not_not.mpr ⟨hcourier, hunused⟩)
        have hgone := (s.world.db.couriers.removeWhere_key_eq_self_iff courierId).mp
          (congrArg DeliveryDb.couriers hsame)
        simp [DeliveryDb.courier?, hgone] at hcourier
      · exact iff_of_true rfl fun hwrites => hunused hwrites.2
    · exact iff_of_true rfl fun hwrites => hcourier hwrites.1
  | createDelivery =>
    rw [db_handle_createDelivery, afterSave_saves?_eq_iff]
    simp [saves?, Writes]
  | updateDelivery =>
    rw [db_handle_updateDelivery, afterSave_saves?_eq_iff]
    simp only [saves?, Writes, Option.bind_eq_some_iff, Option.map_eq_some_iff, Prod.mk.injEq,
      Prod.exists]
    grind
  | deleteDelivery deliveryId =>
    rw [db_handle_deleteDelivery]
    split_ifs with hdelivery
    · refine iff_of_false (fun hsame => ?_) (not_not.mpr hdelivery)
      have hgone := (s.world.db.deliveries.removeWhere_key_eq_self_iff deliveryId).mp
        (congrArg DeliveryDb.deliveries hsame)
      simp [DeliveryDb.delivery?, DeliveryDb.get, hgone] at hdelivery
    · exact iff_of_true rfl hdelivery
  | markDeliveryInTransit =>
    rw [db_handle_markDeliveryInTransit, afterSave_saves?_eq_iff]
    simp only [saves?, Writes, Option.bind_eq_some_iff]
    grind
  | completeDelivery =>
    rw [db_handle_completeDelivery, afterSave_saves?_eq_iff]
    simp only [saves?, Writes, Option.map_eq_some_iff, Prod.mk.injEq]
    grind
  | _ => exact iff_of_true (db_handle_get rfl) not_false

/-- A request whose handler announces an event raises. -/
theorem raises_of_eventType? {request : Request} (h : request.eventType?.isSome) :
    ∃ e, (request.handle backend s).1 = .error e := by
  cases request with
  | createDelivery dto deliveryId now estimateNow draws =>
    refine @raises_handle_loads backend s _ _ (.createDelivery dto deliveryId now estimateNow draws)
      _ _ _ rfl fun courier => ?_
    cases courier with
    | none => exact fun s => ⟨_, rfl⟩
    | some courier =>
      intro s
      simp only [Coroutine.bind_eq]
      exact Coroutine.run_bind_of_refuses _ (fun _ => (refuses_announce _ _).bind _) s
  | markDeliveryInTransit deliveryId now draws =>
    refine @raises_handle_loads backend s _ _ (.markDeliveryInTransit deliveryId now draws)
      _ _ _ rfl fun delivery => ?_
    cases delivery with
    | none => exact fun s => ⟨_, rfl⟩
    | some delivery =>
      intro s
      simp only [Coroutine.bind_eq, ← Coroutine.bind_assoc]
      refine Coroutine.run_bind_of_refuses _ (fun saved => ?_) s
      cases saved with
      | none => exact Coroutine.refuses_raise _
      | some saved => exact (refuses_announce _ _).bind _
  | completeDelivery deliveryId today now draws =>
    refine @raises_handle_loads backend s _ _ (.completeDelivery deliveryId today now draws)
      _ _ _ rfl fun delivery => ?_
    cases delivery with
    | none => exact fun s => ⟨_, rfl⟩
    | some delivery =>
      intro s
      simp only [Coroutine.bind_eq]
      exact Coroutine.run_bind_of_refuses _ (fun _ => (refuses_announce _ _).bind _) s
  | _ => cases h

end Request

end Requests

end SupplyChainTracker.Deliveries
