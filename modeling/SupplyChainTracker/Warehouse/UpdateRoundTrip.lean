import SupplyChainTracker.Python.Call
import SupplyChainTracker.Python.Json
import SupplyChainTracker.Warehouse.Effects

/-!
# Updates of a warehouse

A location is stored as the JSON text of a `dict` and built again from it by keywords. An update
stores the warehouse with the given fields, and a later read finds that warehouse, unless the
resulting place has no country or no city: then the constructor of its location raises before
anything is stored.
-/

namespace SupplyChainTracker.Warehouse

/-- A value that is annotated as `str`. Locations of other values are not modelled. -/
def textOf : Json → Except InventoryError String
  | .str text => .ok text
  | value => .error (.typeError ("'" ++ value.typeName ++ "' object is not a str"))

/-- `Location(**items)`. -/
def locationOfKeywords (items : List (String × Json)) : Except InventoryError Location :=
  match items.find? fun item => item.1 ∉ ["country", "city", "address"] with
  | some item =>
      .error (.typeError (CallError.unexpectedKeyword "Location.__init__" item.1))
  | none =>
    match Json.lookup "country" items, Json.lookup "city" items with
    | none, none => .error (.typeError
        "Location.__init__() missing 2 required positional arguments: 'country' and 'city'")
    | none, some _ => .error (.typeError (CallError.missing "Location.__init__" "country"))
    | some _, none => .error (.typeError (CallError.missing "Location.__init__" "city"))
    | some country, some city => do
      let country ← textOf country
      let city ← textOf city
      let address ← textOf ((Json.lookup "address" items).getD (.str ""))
      (Location.of country city address).mapError .valueError

/-- The `dict` that `save` passes to `json.dumps`. -/
def keywordsOf (location : Location) : List (String × Json) :=
  [("country", .str location.country), ("city", .str location.city),
    ("address", .str location.address)]

/-- The text of a location, by `json.dumps` and `json.loads`; what the latter raises is a
`ValueError` with a message. -/
def LocationText.ofJson (dumps : Json → String) (loads : String → Except String Json) :
    LocationText where
  dumps location := dumps (.obj (keywordsOf location))
  loads text := do
    match ← (loads text).mapError InventoryError.valueError with
    | .obj items => locationOfKeywords items
    | value => .error (.typeError
        ("libs.value_objects.location.Location() argument after ** must be a mapping, not " ++
          value.typeName))

/-- The constructor returns a location of the given texts, and none without a country or a city. -/
theorem locationOf_eq_ok_iff {country city address : String} {location : Location} :
    Location.of country city address = .ok location ↔
      location.country = country ∧ location.city = city ∧ location.address = address := by
  unfold Location.of
  split_ifs with h
  · constructor
    · intro hok
      cases hok
      exact ⟨rfl, rfl, rfl⟩
    · rintro ⟨rfl, rfl, rfl⟩
      rfl
  · refine iff_of_false (fun hok => by cases hok) ?_
    rintro ⟨rfl, rfl, _⟩
    exact h location.nonempty

/-- The keywords of a location build it again. -/
theorem locationOfKeywords_keywordsOf (location : Location) :
    locationOfKeywords (keywordsOf location) = .ok location := by
  have hof : Location.of location.country location.city location.address = .ok location :=
    locationOf_eq_ok_iff.mpr ⟨rfl, rfl, rfl⟩
  simp [locationOfKeywords, keywordsOf, Json.lookup, textOf, bind, Except.bind, hof,
    Except.mapError]

/-- The text of a location is read as the location. -/
theorem loads_dumps {dumps : Json → String} {loads : String → Except String Json}
    {location : Location} (hjson : loads (dumps (.obj (keywordsOf location))) =
      .ok (.obj (keywordsOf location))) :
    (LocationText.ofJson dumps loads).loads ((LocationText.ofJson dumps loads).dumps location) =
      .ok location := by
  have hread := locationOfKeywords_keywordsOf location
  simp [LocationText.ofJson, hjson, Except.mapError, bind, Except.bind, hread]

/-- The fields that the DTO gives have the given values, and all others their previous ones. -/
structure Given (dto : WarehouseUpdateDTO) (old new : Warehouse) : Prop where
  warehouseId : new.warehouseId = old.warehouseId
  name : new.name = dto.name.getD old.name
  country : new.location.country = dto.country.getD old.location.country
  city : new.location.city = dto.city.getD old.location.city
  address : new.location.address = dto.address.getD old.location.address

/-- The resulting country or city is empty. -/
def NoPlace (dto : WarehouseUpdateDTO) (old : Warehouse) : Prop :=
  dto.country.getD old.location.country = "" ∨ dto.city.getD old.location.city = ""

instance (dto : WarehouseUpdateDTO) (old : Warehouse) : Decidable (NoPlace dto old) :=
  inferInstanceAs (Decidable (_ ∨ _))

/-- Without a given part of the location, it keeps its place. -/
theorem not_noPlace_of_not_given {dto : WarehouseUpdateDTO} {old : Warehouse}
    (h : ¬ (dto.country.isSome ∨ dto.city.isSome ∨ dto.address.isSome)) : ¬ NoPlace dto old := by
  simp only [not_or, Option.not_isSome_iff_eq_none] at h
  obtain ⟨hcountry, hcity, _⟩ := h
  rw [NoPlace, hcountry, hcity, not_or]
  exact old.location.nonempty

/-- The mapper raises without a place. -/
theorem updateEntityFromDto_of_noPlace {dto : WarehouseUpdateDTO} {old : Warehouse}
    (h : NoPlace dto old) :
    WarehouseMapper.updateEntityFromDto old dto =
      .error (.valueError "Country and city cannot be empty.") := by
  have hgiven := not_not.mp (mt not_noPlace_of_not_given (not_not.mpr h))
  have hempty : ¬ (dto.country.getD old.location.country ≠ "" ∧
      dto.city.getD old.location.city ≠ "") := by
    rcases h with h | h
    · exact fun hplace => hplace.1 h
    · exact fun hplace => hplace.2 h
  simp only [WarehouseMapper.updateEntityFromDto, if_pos hgiven, Location.of, dif_neg hempty]
  rfl

/-- Otherwise it returns the warehouse with the given fields. -/
theorem updateEntityFromDto_of_place {dto : WarehouseUpdateDTO} {old : Warehouse}
    (h : ¬ NoPlace dto old) :
    ∃ new, WarehouseMapper.updateEntityFromDto old dto = .ok new ∧ Given dto old new := by
  by_cases hgiven : dto.country.isSome ∨ dto.city.isSome ∨ dto.address.isSome
  · have hof : Location.of (dto.country.getD old.location.country)
        (dto.city.getD old.location.city) (dto.address.getD old.location.address) =
          .ok ⟨_, _, _, not_or.mp h⟩ := locationOf_eq_ok_iff.mpr ⟨rfl, rfl, rfl⟩
    simp only [WarehouseMapper.updateEntityFromDto, if_pos hgiven, hof]
    exact ⟨_, rfl, rfl, rfl, rfl, rfl, rfl⟩
  · simp only [WarehouseMapper.updateEntityFromDto, if_neg hgiven]
    simp only [not_or, Option.not_isSome_iff_eq_none] at hgiven
    obtain ⟨hcountry, hcity, haddress⟩ := hgiven
    exact ⟨_, rfl, rfl, rfl, by simp [hcountry], by simp [hcity], by simp [haddress]⟩

section Statements

variable {backend : Backend} {w : World} {warehouseId : UUID} {warehouse : Warehouse}

/-- A stored warehouse is found. -/
theorem run_getWarehouse (h : w.db.warehouse? backend.text warehouseId = some warehouse) :
    (WarehouseService.get backend.text warehouseId).run (Statement.act backend.pg) w =
      (.ok (some warehouse), w.read) := by
  obtain ⟨found, hfound, hrun⟩ | ⟨hnone, _⟩ :=
    loads_getWarehouse backend.pg backend.text warehouseId w
  · rw [hrun, Option.some.inj (hfound.symm.trans h)]
  · cases hnone.symm.trans h

/-- The row that the upsert of a warehouse leaves is read as the warehouse. -/
theorem rowToEntity_warehouseTarget
    (hreads : backend.text.loads (backend.text.dumps warehouse.location) = .ok warehouse.location)
    (now : DateTime) :
    WarehouseRepository.rowToEntity backend.text (w.db.warehouseTarget warehouse.warehouseId
      warehouse.name (backend.text.dumps warehouse.location) now) = .ok warehouse := by
  have hid := w.db.warehouseId_warehouseTarget warehouse.warehouseId warehouse.name
    (backend.text.dumps warehouse.location) now
  have hcolumns : (w.db.warehouseTarget warehouse.warehouseId warehouse.name
      (backend.text.dumps warehouse.location) now).name = warehouse.name ∧
      (w.db.warehouseTarget warehouse.warehouseId warehouse.name
        (backend.text.dumps warehouse.location) now).location =
          backend.text.dumps warehouse.location := by
    unfold InventoryDb.warehouseTarget
    split <;> exact ⟨rfl, rfl⟩
  simp only [WarehouseRepository.rowToEntity, hcolumns, hreads, hid]
  rfl

/-- An accepted `save` stores the warehouse, returns it and leaves all else alone. -/
theorem run_saveWarehouse
    (hreads : backend.text.loads (backend.text.dumps warehouse.location) = .ok warehouse.location)
    (haccepts : ∀ row, backend.pg.refusesWarehouse row = none) :
    ∃ db, (WarehouseRepository.save backend.text warehouse).run (Statement.act backend.pg) w =
        (.ok warehouse, w.after db) ∧
      db.warehouse? backend.text warehouse.warehouseId = some warehouse ∧
      (∀ other, warehouse.warehouseId ≠ other →
        db.warehouses.find? other = w.db.warehouses.find? other) ∧
      db.records = w.db.records := by
  have hentity := rowToEntity_warehouseTarget (w := w) hreads w.now
  have hid := w.db.warehouseId_warehouseTarget warehouse.warehouseId warehouse.name
    (backend.text.dumps warehouse.location) w.now
  simp only [WarehouseRepository.save, Coroutine.bind_eq, Coroutine.run_bind,
    Coroutine.run_perform, Statement.act, InventoryDb.saveWarehouse, haccepts,
    Coroutine.run_ofExcept, hentity]
  refine ⟨_, rfl, ?_, fun other hne => ?_, rfl⟩
  · have hfind := w.db.warehouses.find?_put_self (w.db.warehouseTarget warehouse.warehouseId
      warehouse.name (backend.text.dumps warehouse.location) w.now)
    rw [hid] at hfind
    rw [InventoryDb.warehouse?, hfind, Option.bind_some, hentity]
    rfl
  · exact Table.find?_put_of_ne _ _ (by rwa [hid])

end Statements

/-- An update stores and returns the warehouse with the given fields, leaves all else alone, and
later reads find that warehouse. -/
def StoresGiven (backend : Backend) (warehouseId : UUID) (dto : WarehouseUpdateDTO)
    (old : Warehouse) (s : Served World) : Prop :=
  ∃ new s', Given dto old new ∧
    (Request.updateWarehouse warehouseId dto).handle backend s =
      (.ok (.warehouse (WarehouseMapper.entityToDto new)), s') ∧
    s'.world.db.warehouse? backend.text warehouseId = some new ∧
    ((Request.getWarehouse warehouseId).handle backend s').1 =
      .ok (.warehouse (WarehouseMapper.entityToDto new)) ∧
    (∀ other, warehouseId ≠ other →
      s'.world.db.warehouses.find? other = s.world.db.warehouses.find? other) ∧
    s'.world.db.records = s.world.db.records

section Route

variable {backend : Backend} {s : Served World} {warehouseId : UUID} {old : Warehouse}
  {dto : WarehouseUpdateDTO}

/-- The route of a stored warehouse returns it. -/
theorem fst_handle_getWarehouse (h : s.world.db.warehouse? backend.text warehouseId = some old) :
    ((Request.getWarehouse warehouseId).handle backend s).1 =
      .ok (.warehouse (WarehouseMapper.entityToDto old)) := by
  simp only [Request.handle, Request.handler, WarehouseRouter.getWarehouse, Coroutine.bind_eq,
    Coroutine.run_bind, run_service, run_getWarehouse h]
  rfl

/-- Without a place, the route raises and stores nothing. -/
theorem handle_updateWarehouse_of_noPlace
    (h : s.world.db.warehouse? backend.text warehouseId = some old) (hplace : NoPlace dto old) :
    (Request.updateWarehouse warehouseId dto).handle backend s =
      (.error (.valueError "Country and city cannot be empty."),
        { s with world := s.world.read }) := by
  simp only [Request.handle, Request.handler, WarehouseRouter.updateWarehouse, Coroutine.bind_eq,
    Coroutine.run_bind, run_service, run_getWarehouse h, updateEntityFromDto_of_noPlace hplace,
    Coroutine.run_ofExcept]

/-- With a place, it stores the warehouse with the given fields. -/
theorem storesGiven_of_place
    (hreads : ∀ new, WarehouseMapper.updateEntityFromDto old dto = .ok new →
      backend.text.loads (backend.text.dumps new.location) = .ok new.location)
    (haccepts : ∀ row, backend.pg.refusesWarehouse row = none)
    (h : s.world.db.warehouse? backend.text warehouseId = some old) (hplace : ¬ NoPlace dto old) :
    StoresGiven backend warehouseId dto old s := by
  obtain ⟨new, hnew, hgiven⟩ := updateEntityFromDto_of_place hplace
  obtain rfl : new.warehouseId = warehouseId :=
    hgiven.warehouseId.trans (warehouseId_of_warehouse? h)
  have hagain : (WarehouseRepository.get backend.text new.warehouseId).run
      (Statement.act backend.pg) s.world.read = (.ok (some old), s.world.read.read) :=
    run_getWarehouse (w := s.world.read) h
  obtain ⟨db, hsave, hstored, hothers, hrecords⟩ :=
    run_saveWarehouse (w := s.world.read.read) (hreads new hnew) haccepts
  refine ⟨new, { s with world := s.world.read.read.after db }, hgiven, ?_, hstored,
    fst_handle_getWarehouse hstored, hothers, hrecords⟩
  simp only [Request.handle, Request.handler, WarehouseRouter.updateWarehouse, Coroutine.bind_eq,
    Coroutine.run_bind, run_service, run_getWarehouse h, hnew, Coroutine.run_ofExcept,
    WarehouseService.update, hagain, hsave]
  rfl

end Route

/-- An update of a stored warehouse raises exactly when the resulting place has no country or no
city, and stores nothing then; otherwise it stores what is given. -/
theorem updateWarehouse_raises_or_stores (dumps : Json → String)
    (loads : String → Except String Json) (backend : Backend)
    (htext : backend.text = LocationText.ofJson dumps loads)
    (haccepts : ∀ row, backend.pg.refusesWarehouse row = none) (s : Served World)
    (warehouseId : UUID) (old : Warehouse)
    (hold : s.world.db.warehouse? backend.text warehouseId = some old)
    (dto : WarehouseUpdateDTO)
    (hjson : ∀ new, WarehouseMapper.updateEntityFromDto old dto = .ok new →
      loads (dumps (.obj (keywordsOf new.location))) = .ok (.obj (keywordsOf new.location))) :
    ((∃ e, ((Request.updateWarehouse warehouseId dto).handle backend s).1 = .error e) ↔
      NoPlace dto old) ∧
    (NoPlace dto old →
      ((Request.updateWarehouse warehouseId dto).handle backend s).2.world.db = s.world.db) ∧
    (¬ NoPlace dto old → StoresGiven backend warehouseId dto old s) := by
  have hstores : ¬ NoPlace dto old → StoresGiven backend warehouseId dto old s :=
    storesGiven_of_place (fun new hnew => htext ▸ loads_dumps (hjson new hnew)) haccepts hold
  refine ⟨⟨fun hraises => ?_, fun hplace => ?_⟩, fun hplace => ?_, hstores⟩
  · by_contra hplace
    obtain ⟨e, he⟩ := hraises
    obtain ⟨new, s', _, hhandle, _⟩ := hstores hplace
    rw [hhandle] at he
    cases he
  · exact ⟨_, congrArg Prod.fst (handle_updateWarehouse_of_noPlace hold hplace)⟩
  · rw [handle_updateWarehouse_of_noPlace hold hplace]
    rfl

/-- The text of a pier in a city. -/
def pierText (city : String) : String :=
  "\x7b\"country\": \"Latvia\", \"city\": \"" ++ city ++ "\", \"address\": \"Pier 1\"\x7d"

/-- The pier of a city. -/
def pier (city : String) : Json :=
  .obj [("country", .str "Latvia"), ("city", .str city), ("address", .str "Pier 1")]

/-- `json.dumps` on the one value that is written. -/
def pierDumps (_ : Json) : String := pierText "Riga"

/-- `json.loads` on the two texts that are read. -/
def pierLoads (text : String) : Except String Json :=
  if text = pierText "Riga" then .ok (pier "Riga")
  else if text = pierText "Ventspils" then .ok (pier "Ventspils")
  else .error "Expecting value: line 1 column 1 (char 0)"

/-- A database that refuses no warehouse. -/
def pierBackend : Backend where
  pg := ⟨fun _ => none, fun a b => decide (a ≤ b)⟩
  text := LocationText.ofJson pierDumps pierLoads
  adapter := .memory

/-- A warehouse in Ventspils. -/
def pierServed : Served World where
  world := {
    db := {
      warehouses := ⟨[⟨⟨55⟩, "Harbour", pierText "Ventspils", 0, 0⟩], by simp⟩
      records := Table.empty
      warehouseOf := by simp }
    clock := fun n => n
    statements := 0 }
  queue := ⟨[], 0⟩

/-- The warehouse moves to Riga. -/
theorem updateWarehouse_raises_or_stores_pier :
    StoresGiven pierBackend ⟨55⟩ { city := some "Riga" }
      ⟨⟨55⟩, "Harbour", ⟨"Latvia", "Ventspils", "Pier 1", by decide⟩⟩ pierServed := by
  refine (updateWarehouse_raises_or_stores pierDumps pierLoads pierBackend rfl (fun _ => rfl)
    pierServed ⟨55⟩ _ ?_ _ fun new hnew => ?_).2.2 (by decide)
  · rfl
  · cases hnew
    rfl

end SupplyChainTracker.Warehouse
