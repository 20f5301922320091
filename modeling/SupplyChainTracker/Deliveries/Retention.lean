import SupplyChainTracker.Deliveries.Effects

/-!
# What a request keeps in the delivery service

Stored couriers and deliveries stay stored unless their deletion is requested. Every other
handler only executes statements after which each row is still there.
-/

namespace SupplyChainTracker.Deliveries

/-- Every stored courier and every stored delivery is still stored. -/
structure DeliveryDb.Kept (db db' : DeliveryDb) : Prop where
  couriers : db.couriers.Keeps db'.couriers
  deliveries : db.deliveries.Keeps db'.deliveries

/-- The condition under which a request deletes a row. -/
def Request.Deletes (w : World) : Request → Prop
  | deleteCourier courierId => (w.db.courier? courierId).isSome ∧
      ∀ d ∈ w.db.deliveries.rows, d.courierId ≠ courierId
  | deleteDelivery deliveryId => (w.db.delivery? deliveryId).isSome
  | _ => False

/-- The requests that may store a row. -/
def Request.Stores : Request → Prop
  | createCourier .. => True
  | updateCourier .. => True
  | createDelivery .. => True
  | updateDelivery .. => True
  | markDeliveryInTransit .. => True
  | completeDelivery .. => True
  | _ => False

/-- The statements that delete rows. -/
def Statement.Deletes : Statement → Prop
  | shared (.delete _) => True
  | deleteCourier _ => True
  | _ => False

section Handlers

variable {backend : Backend} {α : Type}

/-- The relation between worlds in which every stored row is still stored. -/
def KeepsRows (w w' : World) : Prop := w.db.Kept w'.db

theorem keepsRows_refl (w : World) : KeepsRows w w := ⟨.refl _, .refl _⟩

theorem KeepsRows.trans {w w' w'' : World} (h : KeepsRows w w') (h' : KeepsRows w' w'') :
    KeepsRows w w'' :=
  ⟨h.couriers.trans h'.couriers, h.deliveries.trans h'.deliveries⟩

/-- No statement but a deletion deletes a row. -/
theorem keepsRows_act {op : Statement} (hop : ¬ op.Deletes) (w : World) :
    KeepsRows w (Statement.act backend.pg op w).2 := by
  cases op with
  | shared op =>
    cases op with
    | get deliveryId => exact keepsRows_refl w
    | delete deliveryId => exact absurd trivial hop
  | saveDelivery delivery =>
    rcases saveDelivery_cases backend.pg delivery w.now w.db with
      ⟨_, db, hsave, hcouriers, hdeliveries⟩ | ⟨_, e, hsave⟩
    · simp only [Statement.act, hsave]
      refine ⟨?_, ?_⟩
      · rw [Database.db_after, hcouriers]
        exact .refl _
      · rw [Database.db_after, hdeliveries]
        exact Table.keeps_put _ _
    · simp only [Statement.act, hsave]
      exact keepsRows_refl w
  | saveCourier courierId name contactInfo =>
    simp only [Statement.act, DeliveryDb.saveCourier]
    split
    · exact keepsRows_refl w
    · exact ⟨Table.keeps_put _ _, .refl _⟩
  | deleteCourier courierId => exact absurd trivial hop
  | listDeliveries limit offset => exact keepsRows_refl w
  | getCourier courierId => exact keepsRows_refl w
  | listCouriers limit offset => exact keepsRows_refl w

/-- Each statement is one that deletes nothing. -/
def Deletionless (p : ServiceProgram α) : Prop := p.Calls fun op => ¬ op.Deletes

theorem deletionless_getCourier (courierId : UUID) :
    Deletionless (CourierService.get courierId) := by
  refine (Coroutine.calls_perform.mpr fun h => nomatch h).found trivial fun row => ?_
  exact (Coroutine.calls_ofExcept _).map _

theorem deletionless_saveCourier (textArgument : CourierText → Except DeliveryError String)
    (courier : Courier) : Deletionless (CourierRepository.save textArgument courier) :=
  (Coroutine.calls_ofExcept _).bind fun _ => (Coroutine.calls_ofExcept _).bind fun _ =>
    (Coroutine.calls_perform.mpr fun h => nomatch h).bind fun _ => Coroutine.calls_ofExcept _

theorem deletionless_getDelivery (deliveryId : UUID) :
    Deletionless (inService (DeliveryRepository.get deliveryId)) := by
  have hget : (DeliveryRepository.get deliveryId).Calls fun op =>
      ¬ (Statement.shared op).Deletes := by
    refine (Coroutine.calls_perform.mpr fun h => nomatch h).found trivial fun row => ?_
    exact (Coroutine.calls_ofExcept _).map _
  exact hget.lift fun _ hop => hop

theorem deletionless_saveDelivery (delivery : Delivery) :
    Deletionless (DeliveryRepository.save delivery) :=
  (Coroutine.calls_perform.mpr fun h => nomatch h).map _

theorem deletionless_updateDelivery (delivery : Delivery) :
    Deletionless (DeliveryService.update delivery) := by
  refine (deletionless_getDelivery _).found trivial fun existing => ?_
  exact deletionless_saveDelivery delivery

theorem deletionless_updateCourier (textArgument : CourierText → Except DeliveryError String)
    (courier : Courier) : Deletionless (CourierService.update textArgument courier) := by
  refine (deletionless_getCourier _).found trivial fun existing => ?_
  exact deletionless_saveCourier textArgument courier

theorem deletionless_markAsInTransit (deliveryId : UUID) (now : DateTime) :
    Deletionless (DeliveryService.markAsInTransit deliveryId now) := by
  refine ((deletionless_getDelivery deliveryId).bind fun existing => ?_).bind fun delivery => ?_
  · cases existing <;> trivial
  · split
    · trivial
    · exact deletionless_saveDelivery _

theorem keepsRows_service {p : ServiceProgram α} (hp : Deletionless p) :
    (service p).Calls (Respects backend KeepsRows) :=
  calls_service (hp.imp fun _ hop w => keepsRows_act hop w)

theorem keepsRows_announce (domainEvent : DomainEvent) (draws : EventDraws) :
    (announce domainEvent draws).Calls (Respects backend KeepsRows) :=
  Handler.calls_publishEvent keepsRows_refl _ _

theorem keepsRows_newCourier (delivery : Delivery) (dto : DeliveryUpdateDTO) :
    (DeliveryRouter.newCourier delivery dto).Calls (Respects backend KeepsRows) := by
  unfold DeliveryRouter.newCourier
  split
  · trivial
  · split_ifs
    · trivial
    · refine (keepsRows_service (deletionless_getCourier _)).bind fun courier => ?_
      cases courier <;> trivial

/-- A handler that may store a row keeps every row. -/
theorem keepsRows_handler {request : Request} (h : request.Stores) :
    (request.handler backend.textArgument).Calls (Respects backend KeepsRows) := by
  cases request with
  | createCourier dto courierId =>
    exact ((Coroutine.calls_ofExcept _).bind fun _ =>
      (keepsRows_service (deletionless_saveCourier _ _)).map _).map _
  | updateCourier courierId dto =>
    refine ((keepsRows_service (deletionless_getCourier _)).found (by trivial)
      fun courier => ?_).map _
    exact (Coroutine.calls_ofExcept _).bind fun _ =>
      (keepsRows_service (deletionless_updateCourier _ _)).map _
  | createDelivery dto deliveryId now estimateNow draws =>
    refine ((keepsRows_service (deletionless_getCourier _)).found (by trivial)
      fun courier => ?_).map _
    exact (keepsRows_service (deletionless_saveDelivery _)).bind fun _ =>
      (keepsRows_announce _ _).bind fun _ => Coroutine.calls_ofExcept _
  | updateDelivery deliveryId dto now estimateNow draws =>
    refine ((keepsRows_service (deletionless_getDelivery _)).found (by trivial)
      fun delivery => ?_).map _
    refine (keepsRows_newCourier delivery dto).bind fun courier =>
      (keepsRows_service (deletionless_updateDelivery _)).bind fun saved => ?_
    dsimp only
    split
    · exact (keepsRows_announce _ _).bind fun _ => Coroutine.calls_ofExcept _
    · exact Coroutine.calls_ofExcept _
  | markDeliveryInTransit deliveryId now draws =>
    refine ((keepsRows_service (deletionless_getDelivery _)).found (by trivial)
      fun delivery => ?_).map _
    refine (keepsRows_service (deletionless_markAsInTransit _ _)).bind fun _ =>
      (keepsRows_service (deletionless_getDelivery _)).bind fun saved => ?_
    cases saved with
    | none => trivial
    | some saved => exact (keepsRows_announce _ _).bind fun _ => Coroutine.calls_ofExcept _
  | completeDelivery deliveryId today now draws =>
    refine ((keepsRows_service (deletionless_getDelivery _)).found (by trivial)
      fun delivery => ?_).map _
    exact (keepsRows_service (deletionless_updateDelivery _)).bind fun _ =>
      (keepsRows_announce _ _).bind fun _ => Coroutine.calls_ofExcept _
  | _ => cases h

end Handlers

/-- A request keeps every stored row unless it deletes one. -/
theorem Request.kept_handle_iff (backend : Backend) (s : Served World) (request : Request) :
    s.world.db.Kept (request.handle backend s).2.world.db ↔ ¬ request.Deletes s.world := by
  by_cases hstores : request.Stores
  · refine iff_of_true (Handler.run_respects (R := KeepsRows) keepsRows_refl
      (fun _ _ _ => KeepsRows.trans) (keepsRows_handler hstores) s) ?_
    cases request <;> first | exact not_false | cases hstores
  · by_cases hdeletes : request.Deletes s.world
    · refine iff_of_false (fun hkept => ?_) (not_not.mpr hdeletes)
      cases request with
      | deleteCourier courierId =>
        obtain ⟨hread, hunused⟩ := hdeletes
        obtain ⟨courier, hcourier⟩ := Option.isSome_iff_exists.mp hread
        obtain ⟨row, hrow, _⟩ := Option.bind_eq_some_iff.mp hcourier
        rw [db_handle_deleteCourier, if_pos hread, DeliveryDb.deleteCourier,
          dif_pos hunused] at hkept
        exact Table.not_keeps_removeWhere (Option.isSome_iff_exists.mpr ⟨row, hrow⟩) hkept.couriers
      | deleteDelivery deliveryId =>
        have hread : (s.world.db.delivery? deliveryId).isSome := hdeletes
        obtain ⟨delivery, hdelivery⟩ := Option.isSome_iff_exists.mp hread
        obtain ⟨_, hjoined, _⟩ := Option.bind_eq_some_iff.mp hdelivery
        obtain ⟨row, hrow, _⟩ := Option.bind_eq_some_iff.mp hjoined
        rw [db_handle_deleteDelivery, if_pos hread] at hkept
        exact Table.not_keeps_removeWhere (Option.isSome_iff_exists.mpr ⟨row, hrow⟩)
          hkept.deliveries
      | _ => exact hdeletes
    · refine iff_of_true ?_ hdeletes
      have hsame : (request.handle backend s).2.world.db = s.world.db := by
        refine (db_handle_eq_iff backend s request).mpr fun hwrites => ?_
        cases request <;> first | exact hwrites | exact hdeletes hwrites | exact hstores trivial
      rw [hsame]
      exact keepsRows_refl s.world

end SupplyChainTracker.Deliveries
