import SupplyChainTracker.Shipments.Effects

/-!
# What a request keeps in the shipment service

A stored shipment stays stored whatever is requested, and a stored item does unless its
deletion is. Every other handler only makes calls after which each row is still there.
-/

namespace SupplyChainTracker.Shipments

/-- Every stored shipment and every stored item is still stored. -/
structure ShipmentDb.Kept (db db' : ShipmentDb) : Prop where
  shipments : db.shipments.Keeps db'.shipments
  items : db.items.Keeps db'.items

/-- The condition under which a request deletes an item. -/
def Request.Deletes (w : World) : Request → Prop
  | deleteItem itemId _ => (w.item? itemId).isSome
  | _ => False

/-- The requests that may store a row. -/
def Request.Stores : Request → Prop
  | createShipment .. => True
  | createItem .. => True
  | updateItem .. => True
  | increaseItemQuantity .. => True
  | decreaseItemQuantity .. => True
  | updateItemWeight .. => True
  | _ => False

section Handlers

variable {backend : Backend} {α : Type}

/-- The relation between worlds in which every stored row is still stored. -/
def KeepsRows (w w' : World) : Prop := w.db.Kept w'.db

theorem keepsRows_refl (w : World) : KeepsRows w w := ⟨.refl _, .refl _⟩

theorem KeepsRows.trans {w w' w'' : World} (h : KeepsRows w w') (h' : KeepsRows w' w'') :
    KeepsRows w w'' :=
  ⟨h.shipments.trans h'.shipments, h.items.trans h'.items⟩

/-- No call of the shipment repository but a deletion deletes a row. -/
theorem keepsRows_actShipment (op : ShipmentCall) (w : World) :
    KeepsRows w (ShipmentRepository.act backend.pg backend.textArgument op w).2 := by
  cases op with
  | save shipment =>
    simp only [ShipmentRepository.act]
    cases backend.textArgument shipment.origin with
    | error e => exact keepsRows_refl w
    | ok origin =>
      cases backend.textArgument shipment.destination with
      | error e => exact keepsRows_refl w
      | ok destination =>
        simp only [ShipmentDb.saveShipment]
        split
        · rename_i h
          split at h <;> cases h
          exact ⟨Table.keeps_put _ _, .refl _⟩
        · rename_i h
          split at h <;> cases h
          exact keepsRows_refl w
  | get shipmentId => exact keepsRows_refl w
  | getAll limit offset => exact keepsRows_refl w

/-- No call of the item repository but a deletion deletes a row. -/
theorem keepsRows_actItem {op : ItemCall} (hop : ∀ itemId, op ≠ .delete itemId) (w : World) :
    KeepsRows w (ItemRepository.act backend.pg op w).2 := by
  cases op with
  | save item =>
    by_cases haccepts : w.db.Accepts backend.pg item w.now
    · obtain ⟨db, hact, hshipments, hitems⟩ := ItemRepository.act_save_of_accepts haccepts
      rw [hact]
      refine ⟨?_, ?_⟩
      · rw [World.db_after, hshipments]
        exact .refl _
      · rw [World.db_after, hitems]
        exact Table.keeps_put _ _
    · obtain ⟨violated, hact⟩ := ItemRepository.act_save_of_not_accepts haccepts
      rw [hact]
      exact keepsRows_refl w
  | delete itemId => exact absurd rfl (hop itemId)
  | get itemId => exact keepsRows_refl w
  | getByShipment shipmentId => exact keepsRows_refl w
  | getAll => exact keepsRows_refl w

theorem keepsRows_shipmentService (p : ShipmentProgram α) :
    (shipmentService p).Calls (Respects backend KeepsRows) :=
  calls_shipmentService (Coroutine.calls_of_forall keepsRows_actShipment p)

theorem keepsRows_itemService {p : ItemProgram α}
    (hp : p.Calls fun op => ∀ itemId, op ≠ .delete itemId) :
    (itemService p).Calls (Respects backend KeepsRows) :=
  calls_itemService (hp.imp fun _ hop w => keepsRows_actItem hop w)

theorem keepsRows_announce (domainEvent : DomainEvent) (draws : EventDraws) :
    (announce domainEvent draws).Calls (Respects backend KeepsRows) :=
  Handler.calls_publishEvent keepsRows_refl _ _

/-- No method of the `ItemService` that loads, changes and saves an item deletes one. -/
theorem calls_modifyItem (itemId : UUID) (change : Item → Except ShipmentError Item) :
    (ItemService.modify itemId change).Calls fun op => ∀ itemId, op ≠ .delete itemId := by
  refine Coroutine.Calls.bind (Coroutine.calls_perform.mpr fun _ h => by cases h) fun item => ?_
  cases item with
  | none => trivial
  | some item =>
    exact (Coroutine.calls_ofExcept _).bind fun _ =>
      Coroutine.calls_perform.mpr fun _ h => by cases h

/-- A handler that deletes no item keeps every row. -/
theorem keepsRows_handler {request : Request} (h : request.Stores) :
    request.handler.Calls (Respects backend KeepsRows) := by
  have hsave : ∀ item, (ItemService.create item).Calls fun op => ∀ itemId, op ≠ .delete itemId :=
    fun item => Coroutine.calls_perform.mpr fun _ h => by cases h
  have hget : ∀ itemId, (ItemService.get itemId).Calls fun op => ∀ itemId, op ≠ .delete itemId :=
    fun itemId => Coroutine.calls_perform.mpr fun _ h => by cases h
  have hannounce : ∀ p : ItemProgram Item, (p.Calls fun op => ∀ itemId, op ≠ .delete itemId) →
      ∀ draws, (ItemsRouter.announceItem p draws).Calls (Respects backend KeepsRows) :=
    fun p hp draws => (keepsRows_itemService hp).bind fun _ => (keepsRows_announce _ _).map _
  cases request with
  | createShipment dto shipmentId now draws =>
    exact ((keepsRows_shipmentService _).bind fun _ => (keepsRows_announce _ _).map _).map _
  | createItem shipmentId dto itemId draws =>
    exact ((Coroutine.calls_ofExcept _).bind fun _ => (keepsRows_itemService (hsave _)).bind
      fun _ => (keepsRows_announce _ _).map _).map _
  | updateItem itemId dto draws =>
    refine ((keepsRows_itemService (hget _)).found (by trivial) fun item => ?_).map _
    refine (Coroutine.calls_ofExcept _).bind fun updated => ?_
    refine (keepsRows_itemService ?_).bind fun _ => (keepsRows_announce _ _).map _
    refine (hget _).bind fun existing => ?_
    cases existing with
    | none => trivial
    | some existing => exact hsave updated
  | increaseItemQuantity itemId amount draws =>
    refine (hannounce _ ?_ _).map _
    rw [ItemService.increaseQuantity_eq]
    exact calls_modifyItem _ _
  | decreaseItemQuantity itemId amount draws =>
    refine (hannounce _ ?_ _).map _
    rw [ItemService.decreaseQuantity_eq]
    exact calls_modifyItem _ _
  | updateItemWeight itemId newWeight draws =>
    refine (hannounce _ ?_ _).map _
    rw [ItemService.updateWeight_eq]
    exact calls_modifyItem _ _
  | _ => cases h

end Handlers

/-- A request keeps every stored row unless it deletes an item. -/
theorem Request.kept_handle_iff (backend : Backend) (s : Served World) (request : Request) :
    s.world.db.Kept (request.handle backend s).2.world.db ↔ ¬ request.Deletes s.world := by
  by_cases hstores : request.Stores
  · refine iff_of_true (Handler.run_respects (R := KeepsRows) keepsRows_refl
      (fun _ _ _ => KeepsRows.trans) (keepsRows_handler hstores) s) ?_
    cases request <;> first | exact not_false | cases hstores
  · by_cases hdeletes : request.Deletes s.world
    · refine iff_of_false (fun hkept => ?_) (not_not.mpr hdeletes)
      cases request with
      | deleteItem itemId draws =>
        have hpos : (s.world.item? itemId).isSome := hdeletes
        obtain ⟨item, hitem⟩ := Option.isSome_iff_exists.mp hpos
        rw [db_handle_deleteItem, if_pos hpos] at hkept
        exact Table.not_keeps_removeWhere (isSome_of_item? hitem) hkept.items
      | _ => exact hdeletes
    · refine iff_of_true ?_ hdeletes
      have hsame : (request.handle backend s).2.world.db = s.world.db := by
        refine (db_handle_eq_iff backend s request).mpr fun hwrites => ?_
        cases request <;> first | exact hwrites | exact hdeletes hwrites | exact hstores trivial
      rw [hsame]
      exact keepsRows_refl s.world

end SupplyChainTracker.Shipments
