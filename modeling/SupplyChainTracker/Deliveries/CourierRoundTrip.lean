import SupplyChainTracker.Deliveries.Lifecycle

/-!
# Couriers that cannot be stored

`save` passes the value objects of a courier on to asyncpg, which takes nothing but a `str` for a
text column. No courier is ever written: creations and updates raise and leave the table alone.
-/

namespace SupplyChainTracker.Deliveries

section RoundTrip

variable (pg : Postgres) (textArgument : CourierText → Except DeliveryError String)

/-- A text column takes no value object: none of them is a `str`. -/
def TakesTextsOnly : Prop := ∀ argument, ∃ e, textArgument argument = .error e

/-- A courier is returned with an id, a name and a contact. -/
def Courier.Is (courier : Courier) (courierId : UUID) (name contactInfo : String) : Prop :=
  courier.courierId = courierId ∧ courier.name.value = name ∧
    courier.contactInfo.value = contactInfo

/-- Later readings find the courier: `get` does, and so does `get_all`, which returns everything
when it is asked for enough. -/
structure Found (courierId : UUID) (name contactInfo : String) (w : World) : Prop where
  get : ∃ found w',
    (CourierService.get courierId).run (Statement.act pg) w = (.ok (some found), w') ∧
      found.Is courierId name contactInfo
  getAll : ∃ couriers w', (CourierService.getAll w.db.couriers.rows.length 0).run
      (Statement.act pg) w = (.ok couriers, w') ∧
    ∃ found ∈ couriers, found.Is courierId name contactInfo

/-- The creation of a courier succeeds and later readings find it. -/
def CreatedAndFound (name contactInfo : String) (courierId : UUID) (w : World) : Prop :=
  ∃ (dto : CourierCreateDTO) (entity created : Courier) (w' : World),
    dto.name = name ∧ dto.contactInfo = contactInfo ∧
    CourierMapper.createDtoToEntity dto courierId = .ok entity ∧
    (CourierService.create textArgument entity).run (Statement.act pg) w = (.ok created, w') ∧
    Found pg courierId name contactInfo w'

variable {textArgument}

/-- `save` raises before its statement. -/
theorem refuses_save (htexts : TakesTextsOnly textArgument) (courier : Courier) :
    (CourierRepository.save textArgument courier).Refuses (Statement.act pg) := by
  obtain ⟨e, he⟩ := htexts (.name courier.name)
  intro w
  refine ⟨e, ?_⟩
  simp only [CourierRepository.save, Coroutine.bind_eq, he, Coroutine.ofExcept_error,
    Coroutine.raise_bind, Coroutine.run_raise]

/-- An update loads the courier once more, and raises whatever it finds. -/
theorem run_update_of_textsOnly (htexts : TakesTextsOnly textArgument) (courier : Courier)
    (w : World) :
    ∃ e, (CourierService.update textArgument courier).run (Statement.act pg) w =
      (.error e, w.read) := by
  obtain ⟨found, _, hrun⟩ | ⟨_, e, hrun⟩ := (loads_getCourier pg courier.courierId).run_eq
    (q := CourierService.update textArgument courier) rfl (Coroutine.refuses_raise _) w
  · obtain ⟨e, he⟩ := refuses_save pg htexts courier w.read
    exact ⟨e, hrun.trans he⟩
  · exact ⟨e, hrun⟩

end RoundTrip

section Update

variable (backend : Backend)

/-- A request for an update is answered, and has changed exactly the given fields of the courier. -/
def UpdatesGiven (courierId : UUID) (dto : CourierUpdateDTO) (s : Served World) : Prop :=
  ∃ (returned : CourierDTO) (s' : Served World) (old new : CourierRow),
    (CourierRouter.updateCourier backend.textArgument courierId dto).run (apiAct backend) s =
      (.ok returned, s') ∧
    s.world.db.couriers.find? courierId = some old ∧
    s'.world.db.couriers.find? courierId = some new ∧
    new.name = dto.name.getD old.name ∧ new.contactInfo = dto.contactInfo.getD old.contactInfo

variable {backend}

/-- No update is answered. -/
theorem updateCourier_raises (htexts : TakesTextsOnly backend.textArgument) (courierId : UUID)
    (dto : CourierUpdateDTO) (s : Served World) :
    ∃ e, ((CourierRouter.updateCourier backend.textArgument courierId dto).run (apiAct backend)
      s).1 = .error e := by
  obtain ⟨courier, _, hrun⟩ | ⟨_, e, hrun⟩ :=
    (loads_service (loads_getCourier backend.pg courierId)).run_eq
      (q := CourierRouter.updateCourier backend.textArgument courierId dto) rfl
      (Coroutine.refuses_raise _) s
  · rw [hrun]
    cases hentity : CourierMapper.updateEntityFromDto courier dto with
    | error e => exact ⟨e, by simp [hentity, Coroutine.bind_eq]⟩
    | ok entity =>
      simp only [hentity, Coroutine.bind_eq, Coroutine.ofExcept_ok, Coroutine.ret_bind,
        Coroutine.run_bind, run_service]
      obtain ⟨e, he⟩ := run_update_of_textsOnly backend.pg htexts entity _
      exact ⟨e, by rw [he]⟩
  · exact ⟨e, by rw [hrun]⟩

end Update

/-- No courier makes the round trip: no creation succeeds, and no update does. -/
theorem no_courier_round_trips (backend : Backend)
    (htexts : TakesTextsOnly backend.textArgument) :
    (∀ (name contactInfo : String) (courierId : UUID) (w : World),
      ¬ CreatedAndFound backend.pg backend.textArgument name contactInfo courierId w) ∧
    ∀ (courierId : UUID) (dto : CourierUpdateDTO) (s : Served World),
      ¬ UpdatesGiven backend courierId dto s := by
  refine ⟨?_, ?_⟩
  · rintro name contactInfo courierId w ⟨dto, entity, created, w', _, _, _, hcreate, _⟩
    obtain ⟨e, he⟩ := refuses_save backend.pg htexts entity w
    cases he.symm.trans hcreate
  · rintro courierId dto s ⟨returned, s', _, _, hrun, _⟩
    obtain ⟨e, he⟩ := updateCourier_raises htexts courierId dto s
    rw [hrun] at he
    cases he

/-- A database that takes every row, behind asyncpg. -/
def strictBackend : Backend where
  pg := ⟨fun _ => none, fun _ => none, fun a b => decide (a ≤ b)⟩
  textArgument := fun
    | .name _ => .error (.external "expected str, got FullName")
    | .contactInfo _ => .error (.external "expected str, got ContactInfo")
  adapter := .memory

theorem takesTextsOnly_strictBackend : TakesTextsOnly strictBackend.textArgument
  | .name _ => ⟨_, rfl⟩
  | .contactInfo _ => ⟨_, rfl⟩

/-- A new courier. -/
def sampleCourierDto : CourierCreateDTO := ⟨"Ann Lee", "+49 30 1234", by decide⟩

/-- The new courier is not found, and one that is there already keeps its name. -/
theorem no_courier_round_trips_sample :
    ¬ CreatedAndFound strictBackend.pg strictBackend.textArgument "Ann Lee" "+49 30 1234" ⟨75⟩
        sampleUnderway.world ∧
      ¬ UpdatesGiven strictBackend ⟨70⟩ ⟨some "Eva", none, by decide⟩ sampleUnderway :=
  have h := no_courier_round_trips strictBackend takesTextsOnly_strictBackend
  ⟨h.1 _ _ _ _, h.2 _ _ _⟩

/-- Name and contact of the new courier are accepted, and its creation raises. -/
theorem accepted_courier_raises :
    (∃ entity, CourierMapper.createDtoToEntity sampleCourierDto ⟨75⟩ = .ok entity ∧
      (CourierService.create strictBackend.textArgument entity).run
        (Statement.act strictBackend.pg) sampleUnderway.world =
          (.error (.external "expected str, got FullName"), sampleUnderway.world)) ∧
    ¬ CreatedAndFound strictBackend.pg strictBackend.textArgument sampleCourierDto.name
      sampleCourierDto.contactInfo ⟨75⟩ sampleUnderway.world := by
  refine ⟨⟨_, rfl, rfl⟩, ?_⟩
  rintro ⟨dto, entity, created, w', _, _, _, hcreate, _⟩
  obtain ⟨e, he⟩ := refuses_save strictBackend.pg takesTextsOnly_strictBackend entity
    sampleUnderway.world
  cases he.symm.trans hcreate

end SupplyChainTracker.Deliveries
