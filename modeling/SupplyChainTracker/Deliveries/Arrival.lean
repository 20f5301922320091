import SupplyChainTracker.Deliveries.Lifecycle

/-!
# The date of an arrival

`mark_delivered` writes the date and the status together, but the status is also written by itself.
A delivery has a date exactly when it has been delivered as long as no operation moves the status
alone across that line.
-/

namespace SupplyChainTracker.Deliveries

/-- A status of a delivery that has arrived. -/
def DeliveryStatus.Finished (status : DeliveryStatus) : Prop :=
  status = .delivered ∨ status = .confirmed

instance (status : DeliveryStatus) : Decidable status.Finished :=
  inferInstanceAs (Decidable (status = .delivered ∨ status = .confirmed))

/-- The date is set exactly when the status says that the delivery has arrived. -/
def Delivery.Dated (delivery : Delivery) : Prop :=
  delivery.actualArrival.isSome ↔ delivery.status.Finished

/-- The same of a row. -/
def DeliveryRow.Dated (row : DeliveryRow) : Prop :=
  row.actualArrival.isSome ↔
    row.status = DeliveryStatus.delivered.value ∨ row.status = DeliveryStatus.confirmed.value

/-- The same of every stored row. -/
def DeliveryDb.Dated (db : DeliveryDb) : Prop := ∀ row ∈ db.deliveries.rows, row.Dated

/-- A text that is a status is the value of that status. -/
theorem DeliveryStatus.value_of_ofValue? {text : String} {status : DeliveryStatus}
    (h : ofValue? text = some status) : status.value = text := by
  unfold ofValue? at h
  split_ifs at h with hassigned htransit hdelivered hconfirmed
  all_goals cases h
  · exact hassigned.symm
  · exact htransit.symm
  · exact hdelivered.symm
  · exact hconfirmed.symm

theorem DeliveryStatus.finished_iff_value (status : DeliveryStatus) :
    (status.value = delivered.value ∨ status.value = confirmed.value) ↔ status.Finished := by
  cases status <;> decide

section Dated

variable {db : DeliveryDb}

/-- The row that a delivery leaves is dated exactly when the delivery is. -/
theorem dated_deliveryTarget_iff (delivery : Delivery) (now : DateTime) :
    (db.deliveryTarget delivery now).Dated ↔ delivery.Dated := by
  have hstatus : (db.deliveryTarget delivery now).status = delivery.status.value := by
    unfold DeliveryDb.deliveryTarget
    split <;> rfl
  have harrival : (db.deliveryTarget delivery now).actualArrival = delivery.actualArrival := by
    unfold DeliveryDb.deliveryTarget
    split <;> rfl
  rw [DeliveryRow.Dated, hstatus, harrival, DeliveryStatus.finished_iff_value, Delivery.Dated]

/-- A delivery that is read from dated rows is dated. -/
theorem DeliveryDb.Dated.delivery? (h : db.Dated) {deliveryId : UUID} {delivery : Delivery}
    (hread : db.delivery? deliveryId = some delivery) : delivery.Dated := by
  obtain ⟨d, c, hfind, _, hentity⟩ := exists_row_of_delivery? hread
  obtain ⟨courier, status, _, hstatus, rfl⟩ := columns_of_rowToEntity hentity
  have hrow := h d (Table.mem_of_find? hfind)
  rwa [DeliveryRow.Dated, ← DeliveryStatus.value_of_ofValue? hstatus,
    DeliveryStatus.finished_iff_value] at hrow

/-- A `save` that the database accepts leaves dated rows exactly when it is given a dated
delivery. -/
theorem DeliveryDb.Dated.afterSave_iff (pg : Postgres) (delivery : Delivery) {w : World}
    (h : w.db.Dated) (haccepts : w.db.AcceptsDelivery pg delivery w.now) :
    (w.db.afterSave pg (some (delivery, w))).Dated ↔ delivery.Dated := by
  obtain ⟨_, db', hsave, _, hdeliveries⟩ | ⟨hrefuses, _⟩ :=
    saveDelivery_cases pg delivery w.now w.db
  · simp only [DeliveryDb.afterSave, hsave, DeliveryDb.Dated, hdeliveries, Table.mem_put]
    rw [← dated_deliveryTarget_iff delivery w.now]
    constructor
    · exact fun hafter => hafter _ (.inl rfl)
    · rintro htarget row (rfl | ⟨hrow, _⟩)
      · exact htarget
      · exact h row hrow
  · exact absurd haccepts hrefuses

/-- Rows that stay or go leave dated rows. -/
theorem DeliveryDb.Dated.of_find? {db' : DeliveryDb} (h : db.Dated)
    (hrows : ∀ deliveryId, db'.deliveries.find? deliveryId = none ∨
      db'.deliveries.find? deliveryId = db.deliveries.find? deliveryId) : db'.Dated := by
  intro row hrow
  have hfind := Table.find?_of_mem hrow
  obtain hgone | hsame := hrows row.deliveryId
  · cases hgone.symm.trans hfind
  · exact h row (Table.mem_of_find? (hsame.symm.trans hfind))

end Dated

/-- The status is not moved alone across the arrival. An operation that is not listed looks after
that itself. -/
def Operation.KeepsDate (db : DeliveryDb) : Operation → Prop
  | method (.create delivery) => delivery.Dated
  | method (.markAsInTransit deliveryId _) => db.status? deliveryId ≠ some .confirmed
  | request (.createDelivery dto _ _ _ _) => ¬ (dto.status.getD .assigned).Finished
  | request (.updateDelivery deliveryId dto _ _ _) => dto.actualArrival = none →
      ∀ status, dto.status = some status → ∀ stored, db.status? deliveryId = some stored →
        (status.Finished ↔ stored.Finished)
  | request (.markDeliveryInTransit deliveryId _ _) => db.status? deliveryId ≠ some .confirmed
  | _ => True

section Keeps

variable {w w' : World} {delivery : Delivery}

theorem dated_markDelivered (delivery : Delivery) (arrival now : DateTime) :
    (delivery.markDelivered arrival now).Dated :=
  iff_of_true rfl (.inl rfl)

/-- A dated delivery that has not been delivered stays dated when it is started exactly when it has
not been confirmed. -/
theorem dated_inTransit_iff {old : Delivery} (hold : old.Dated) (hdelivered : old.status ≠ .delivered)
    (now : DateTime) : (old.updateStatus .inTransit now).Dated ↔ old.status ≠ .confirmed := by
  have hstarted : ¬ DeliveryStatus.inTransit.Finished := by decide
  have hfinished : old.status.Finished ↔ old.status = .confirmed := or_iff_right hdelivered
  rw [Delivery.Dated, hfinished] at hold
  rw [Delivery.Dated, Delivery.status_updateStatus, iff_false_right hstarted]
  exact not_congr hold

/-- What a method gives to `save` is dated exactly when the method keeps the dates. -/
theorem dated_method_iff {method : Method} (hdb : w.db.Dated)
    (h : method.saves? w = some (delivery, w')) :
    delivery.Dated ↔ (Operation.method method).KeepsDate w.db := by
  cases method with
  | create saved =>
    cases h
    exact Iff.rfl
  | markAsReceived deliveryId =>
    obtain ⟨old, hold, h⟩ := Option.bind_eq_some_iff.mp h
    split_ifs at h
    cases h
    exact iff_of_true (hdb.delivery? hold) trivial
  | markAsReadyForDelivery deliveryId =>
    obtain ⟨old, hold, h⟩ := Option.bind_eq_some_iff.mp h
    cases h
    exact iff_of_true (hdb.delivery? hold) trivial
  | markAsInTransit deliveryId now =>
    obtain ⟨old, hold, h⟩ := Option.bind_eq_some_iff.mp h
    split_ifs at h with hdelivered
    cases h
    rw [dated_inTransit_iff (hdb.delivery? hold) hdelivered, Operation.KeepsDate,
      status?_of_delivery? hold, ne_eq, ne_eq, Option.some.injEq]
  | markAsDelivered deliveryId arrivalDate now =>
    obtain ⟨old, hold, h⟩ := Option.bind_eq_some_iff.mp h
    cases h
    exact iff_of_true (dated_markDelivered ..) trivial
  | markAsCompleted deliveryId now =>
    obtain ⟨old, hold, h⟩ := Option.bind_eq_some_iff.mp h
    split_ifs at h with hdelivered
    cases h
    have harrival := (hdb.delivery? hold).mpr (.inl (not_not.mp hdelivered))
    exact iff_of_true (iff_of_true harrival (.inr rfl)) trivial
  | reassignCourier deliveryId newCourier now =>
    obtain ⟨old, hold, h⟩ := Option.bind_eq_some_iff.mp h
    split_ifs at h
    cases h
    have hdated := hdb.delivery? hold
    exact iff_of_true hdated trivial

/-- An update sets the date that it brings and keeps the stored one without. -/
theorem actualArrival_updateEntityFromDto (entity : Delivery) (dto : DeliveryUpdateDTO)
    (newCourier : Option Courier) (now : Clock) :
    (DeliveryMapper.updateEntityFromDto entity dto newCourier now).actualArrival =
      (dto.actualArrival.map midnight).or entity.actualArrival := by
  unfold DeliveryMapper.updateEntityFromDto
  rcases dto with ⟨courierId, _ | status, estimatedArrival, _ | actualArrival⟩ <;> dsimp only <;>
    repeat' split
  all_goals simp_all [Delivery.markDelivered, Delivery.updateStatus]

/-- An update of a dated delivery leaves it dated exactly when it brings a date, or no status, or one
on the same side of the arrival. -/
theorem dated_updateEntityFromDto_iff {old : Delivery} (hold : old.Dated) (dto : DeliveryUpdateDTO)
    (newCourier : Option Courier) (now : Clock) :
    (DeliveryMapper.updateEntityFromDto old dto newCourier now).Dated ↔
      (dto.actualArrival = none → ∀ status, dto.status = some status →
        (status.Finished ↔ old.status.Finished)) := by
  rw [Delivery.Dated, actualArrival_updateEntityFromDto, status_updateEntityFromDto,
    Operation.newStatus?]
  cases harrival : dto.actualArrival with
  | some arrival =>
    exact iff_of_true (iff_of_true rfl (.inl rfl)) nofun
  | none =>
    cases hstatus : dto.status with
    | none => exact iff_of_true hold nofun
    | some status =>
      simp only [Option.map_none, Option.none_or, Option.isSome_none, Bool.false_eq_true, if_false,
        Option.getD_some, Option.some.injEq, forall_eq', forall_const]
      rw [Delivery.Dated] at hold
      rw [hold]
      exact Iff.comm

/-- What a handler gives to `save` is dated exactly when the request keeps the dates. -/
theorem dated_request_iff {request : Request} (hdb : w.db.Dated)
    (h : request.saves? w = some (delivery, w')) :
    delivery.Dated ↔ (Operation.request request).KeepsDate w.db := by
  cases request with
  | createDelivery dto deliveryId now estimateNow draws =>
    obtain ⟨courier, _, h⟩ := Option.map_eq_some_iff.mp h
    cases h
    exact iff_false_left nofun
  | updateDelivery deliveryId dto now estimateNow draws =>
    obtain ⟨old, hold, h⟩ := Option.bind_eq_some_iff.mp h
    obtain ⟨moved, _, h⟩ := Option.map_eq_some_iff.mp h
    cases h
    rw [dated_updateEntityFromDto_iff (hdb.delivery? hold), Operation.KeepsDate,
      status?_of_delivery? hold]
    simp only [Option.some.injEq, forall_eq']
  | markDeliveryInTransit deliveryId now draws =>
    obtain ⟨old, hold, h⟩ := Option.bind_eq_some_iff.mp h
    split_ifs at h with hdelivered
    cases h
    rw [dated_inTransit_iff (hdb.delivery? hold) hdelivered, Operation.KeepsDate,
      status?_of_delivery? hold, ne_eq, ne_eq, Option.some.injEq]
  | completeDelivery deliveryId today now draws =>
    obtain ⟨old, hold, h⟩ := Option.map_eq_some_iff.mp h
    cases h
    exact iff_of_true (dated_markDelivered ..) trivial
  | _ => cases h

end Keeps

/-- An operation leaves dated rows exactly when it keeps the dates or stores nothing. -/
theorem dated_operationStep_iff (backend : Backend) {s : Served World} (h : s.world.db.Dated)
    (op : Operation) : (operationStep backend op s).world.db.Dated ↔
      (op.Commits backend.pg s.world → op.KeepsDate s.world.db) := by
  obtain ⟨delivery, w, hsaves, hw, haccepts, hdb⟩ | ⟨hidle, hrows⟩ :=
    @operationStep_cases backend s op
  · have hcommits : op.Commits backend.pg s.world := ⟨delivery, w, hsaves, haccepts⟩
    have hdated : delivery.Dated ↔ op.KeepsDate s.world.db := by
      cases op with
      | method method => exact dated_method_iff h hsaves
      | request request => exact dated_request_iff h hsaves
    have hafter : w.db.Dated := hw ▸ h
    rw [hdb, hafter.afterSave_iff backend.pg delivery haccepts]
    simp only [hcommits, forall_const, hdated]
  · exact iff_of_true (h.of_find? hrows) fun hcommits => absurd hcommits hidle

/-- In a run from dated deliveries every delivery is dated throughout exactly when every operation
that stores a delivery keeps the dates. -/
theorem dated_throughout_iff (backend : Backend) (ops : List Operation) (s : Served World)
    (h : s.world.db.Dated) :
    Throughout (operationStep backend) (fun s => s.world.db.Dated) ops s ↔
      EachStep (operationStep backend)
        (fun s op => op.Commits backend.pg s.world → op.KeepsDate s.world.db) ops s := by
  have hstep : ∀ (s : Served World) op, True → True → s.world.db.Dated →
      ((operationStep backend op s).world.db.Dated ↔
        (op.Commits backend.pg s.world → op.KeepsDate s.world.db)) :=
    fun _ op _ _ hdated => dated_operationStep_iff backend hdated op
  exact throughout_iff_eachStep (fun _ _ _ _ => trivial) hstep trivial h fun _ _ => trivial

theorem dated_throughout_iff_sample :
    Throughout (operationStep lenientBackend) (fun s => s.world.db.Dated)
      [.request (.completeDelivery ⟨71⟩ 1 2 ⟨2, ⟨73⟩, 2⟩)] sampleUnderway := by
  refine (dated_throughout_iff lenientBackend _ sampleUnderway ?_).mpr
    ⟨fun _ => trivial, trivial⟩
  intro row hrow
  obtain rfl := List.mem_singleton.mp hrow
  exact iff_of_false (by decide) (by decide)

/-- An update that brings a status and no date. -/
def statusAlone : Operation :=
  .request (.updateDelivery ⟨71⟩ { status := some .delivered } (fun n => n) 0 ⟨0, ⟨73⟩, 0⟩)

/-- The creation of a delivery that has been delivered. -/
def lateCreation : Operation :=
  .request (.createDelivery
    { shipmentId := ⟨72⟩, courierId := ⟨70⟩, status := some .delivered } ⟨74⟩ (fun n => n) 0
    ⟨0, ⟨75⟩, 0⟩)

/-- Either of the two leaves a delivery that has been delivered without a date. -/
theorem delivered_without_date :
    sampleUnderway.world.db.Dated ∧
    ¬ Throughout (operationStep lenientBackend) (fun s => s.world.db.Dated) [statusAlone]
      sampleUnderway ∧
    ¬ Throughout (operationStep lenientBackend) (fun s => s.world.db.Dated) [lateCreation]
      sampleUnderway := by
  refine ⟨fun row hrow => ?_, fun h => ?_, fun h => ?_⟩
  · obtain rfl := List.mem_singleton.mp hrow
    exact iff_of_false (by decide) (by decide)
  · have hdated : ∀ row ∈ (operationStep lenientBackend statusAlone
        sampleUnderway).world.db.deliveries.rows, row.Dated := h.2
    have hrow := hdated _ (List.mem_singleton_self _)
    exact absurd (hrow.mpr (.inl rfl)) (by decide)
  · have hdated : ∀ row ∈ (operationStep lenientBackend lateCreation
        sampleUnderway).world.db.deliveries.rows, row.Dated := h.2
    have hrow := hdated _ (List.mem_cons_of_mem _ (List.mem_singleton_self _))
    exact absurd (hrow.mpr (.inl rfl)) (by decide)

/-- The date on which an instant falls. -/
def dateOf (instant : DateTime) : Date := instant.fdiv DateTimeText.microsecondsPerDay

/-- The constraint `ck_arrival_dates`. -/
def ckArrivalDates (row : DeliveryRow) : Option String :=
  match row.actualArrival with
  | none => none
  | some actualArrival =>
      if row.createdAt ≤ actualArrival then none else some "ck_arrival_dates"

/-- A date is not before an earlier instant exactly when it is a later date, or the instant is its
midnight. -/
theorem le_midnight_iff {created completed : DateTime} (h : created ≤ completed) :
    created ≤ midnight (dateOf completed) ↔
      dateOf created < dateOf completed ∨ created = midnight (dateOf created) := by
  have hfloor : ∀ c t : Int, c ≤ t → (c ≤ t / 86400000000 * 86400000000 ↔
      c / 86400000000 < t / 86400000000 ∨ c = c / 86400000000 * 86400000000) := by
    intro c t hct
    omega
  have hdate : ∀ instant : DateTime, dateOf instant = instant / 86400000000 := fun instant =>
    Int.fdiv_eq_ediv_of_nonneg instant (by decide)
  rw [hdate, hdate]
  exact hfloor created completed h

/-- A row passes when its date is set and not before its creation. -/
theorem ckArrivalDates_eq_none_iff {row : DeliveryRow} {actualArrival : DateTime}
    (h : row.actualArrival = some actualArrival) :
    ckArrivalDates row = none ↔ row.createdAt ≤ actualArrival := by
  rw [ckArrivalDates, h]
  dsimp only
  split_ifs with hle
  · exact iff_of_true rfl hle
  · exact iff_of_false nofun hle

/-- A delivery that is read is stored with its time of creation, under a courier that is stored. -/
theorem stored_of_delivery? {db : DeliveryDb} {deliveryId : UUID} {delivery : Delivery}
    (h : db.delivery? deliveryId = some delivery) :
    ∃ row, db.deliveries.find? deliveryId = some row ∧ row.createdAt = delivery.createdAt ∧
      (db.couriers.find? delivery.courier.courierId).isSome := by
  obtain ⟨d, c, hfind, hcourier, hentity⟩ := exists_row_of_delivery? h
  obtain ⟨courier, status, hid, _, rfl⟩ := columns_of_rowToEntity hentity
  have hc : c.courierId = d.courierId := Table.key_of_find? hcourier
  exact ⟨d, hfind, rfl, by simp only [hid, hc, hcourier, Option.isSome_some]⟩

/-- The row that completing a stored delivery leaves. -/
theorem deliveryTarget_markDelivered {db : DeliveryDb} {deliveryId : UUID} {delivery : Delivery}
    (h : db.delivery? deliveryId = some delivery) (arrival now updatedAt : DateTime) :
    let target := db.deliveryTarget (delivery.markDelivered arrival now) updatedAt
    target.deliveryId = deliveryId ∧ target.status = DeliveryStatus.delivered.value ∧
      target.actualArrival = some arrival ∧ target.createdAt = delivery.createdAt := by
  obtain ⟨row, hfind, hcreated, _⟩ := stored_of_delivery? h
  have hid := deliveryId_of_delivery? h
  have hstored : db.deliveries.find? (delivery.markDelivered arrival now).deliveryId = some row := by
    rw [Delivery.deliveryId_markDelivered, hid, hfind]
  simp only [DeliveryDb.deliveryTarget, hstored]
  exact ⟨hid, rfl, rfl, hcreated⟩

/-- A completion is accepted exactly when its date is not before the creation. -/
theorem acceptsDelivery_markDelivered_iff {pg : Postgres} (hpg : pg.refusesDelivery = ckArrivalDates)
    {db : DeliveryDb} {deliveryId : UUID} {delivery : Delivery}
    (h : db.delivery? deliveryId = some delivery) (arrival now updatedAt : DateTime) :
    db.AcceptsDelivery pg (delivery.markDelivered arrival now) updatedAt ↔
      delivery.createdAt ≤ arrival := by
  obtain ⟨_, _, harrival, hcreated⟩ := deliveryTarget_markDelivered h arrival now updatedAt
  obtain ⟨_, _, _, hcourier⟩ := stored_of_delivery? h
  have hproposed : ckArrivalDates (delivery.markDelivered arrival now).toRow = none ↔
      delivery.createdAt ≤ arrival := ckArrivalDates_eq_none_iff rfl
  rw [DeliveryDb.AcceptsDelivery, hpg, hproposed, ckArrivalDates_eq_none_iff harrival, hcreated]
  exact ⟨fun h => h.1, fun h => ⟨h, h, hcourier⟩⟩

/-- A delivery that can be read is completed, with a row that passes the constraint on its dates,
exactly when it has been created on an earlier date or at the midnight of the same. -/
theorem completion_passes_iff (backend : Backend)
    (hpg : backend.pg.refusesDelivery = ckArrivalDates) (s : Served World) (deliveryId : UUID)
    (delivery : Delivery) (hread : s.world.db.delivery? deliveryId = some delivery)
    (completed : DateTime) (hlater : delivery.createdAt ≤ completed) (now : DateTime)
    (draws : EventDraws) :
    (∃ row, ((Request.completeDelivery deliveryId (dateOf completed) now draws).handle backend
        s).2.world.db.deliveries.find? deliveryId = some row ∧
      row.status = DeliveryStatus.delivered.value ∧
      row.actualArrival = some (midnight (dateOf completed)) ∧ ckArrivalDates row = none) ↔
    dateOf delivery.createdAt < dateOf completed ∨
      delivery.createdAt = midnight (dateOf delivery.createdAt) := by
  have haccepts := acceptsDelivery_markDelivered_iff hpg hread (midnight (dateOf completed)) now
    s.world.read.read.now
  obtain ⟨hid, hstatus, harrival, hcreated⟩ := deliveryTarget_markDelivered hread
    (midnight (dateOf completed)) now s.world.read.read.now
  rw [← le_midnight_iff hlater, Request.db_handle_completeDelivery, Request.saves?, hread,
    Option.map_some, DeliveryDb.afterSave, Database.db_read, Database.db_read]
  obtain ⟨hyes, db', hsave, _, hdeliveries⟩ | ⟨hno, e, hsave⟩ := saveDelivery_cases backend.pg
    (delivery.markDelivered (midnight (dateOf completed)) now) s.world.read.read.now s.world.db
  · have hle := haccepts.mp hyes
    refine iff_of_true ⟨_, ?_, hstatus, harrival, ?_⟩ hle
    · rw [hsave, hdeliveries, ← hid, Table.find?_put_self]
    · rw [ckArrivalDates_eq_none_iff harrival, hcreated]
      exact hle
  · refine iff_of_false ?_ fun hle => hno (haccepts.mpr hle)
    obtain ⟨stored, hstored, hsame, _⟩ := stored_of_delivery? hread
    rintro ⟨row, hrow, _, harrival, hpasses⟩
    rw [hsave, hstored, Option.some.injEq] at hrow
    rw [ckArrivalDates_eq_none_iff harrival, ← hrow, hsame] at hpasses
    exact hno (haccepts.mpr hpasses)

/-- A database that checks the dates only. -/
def datedBackend : Backend :=
  { lenientBackend with pg := { lenientBackend.pg with refusesDelivery := ckArrivalDates } }

/-- A delivery created at midnight is completed at noon. -/
theorem completion_passes_iff_sample :
    ∃ row, ((Request.completeDelivery ⟨71⟩ (dateOf 43200000000) 43200000000
        ⟨43200000000, ⟨73⟩, 43200000000⟩).handle datedBackend
        sampleUnderway).2.world.db.deliveries.find? ⟨71⟩ = some row ∧
      row.status = DeliveryStatus.delivered.value ∧
      row.actualArrival = some (midnight (dateOf 43200000000)) ∧ ckArrivalDates row = none :=
  (completion_passes_iff datedBackend rfl sampleUnderway ⟨71⟩ _ rfl 43200000000 (by decide)
    43200000000 _).mpr (.inr (by decide))

/-- One delivery that has been created at ten o'clock. -/
def sampleMorning : Served World where
  world := {
    db := {
      couriers := ⟨[⟨⟨74⟩, "Mia", "mia@post", 0, 0⟩], by decide⟩
      deliveries := ⟨[⟨⟨71⟩, ⟨72⟩, ⟨74⟩, "in_transit", none, none, 36000000000, 36000000000⟩],
        by decide⟩
      courierOf := by decide }
    clock := fun n => n
    statements := 0 }
  queue := ⟨[], 0⟩

/-- Its completion at noon is refused, because the date of that day begins before ten o'clock. -/
theorem same_day_completion_refused :
    ((Request.completeDelivery ⟨71⟩ (dateOf 43200000000) 43200000000
        ⟨43200000000, ⟨73⟩, 43200000000⟩).handle datedBackend sampleMorning).1 =
      .error (.database "ck_arrival_dates") ∧
    ((Request.completeDelivery ⟨71⟩ (dateOf 43200000000) 43200000000
        ⟨43200000000, ⟨73⟩, 43200000000⟩).handle datedBackend
        sampleMorning).2.world.db.status? ⟨71⟩ = some .inTransit :=
  ⟨rfl, rfl⟩

end SupplyChainTracker.Deliveries
