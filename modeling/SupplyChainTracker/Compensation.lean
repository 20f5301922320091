import SupplyChainTracker.Core.Confluence
import SupplyChainTracker.Saga.Calls
import SupplyChainTracker.Warehouse.CommandWorker
import SupplyChainTracker.Deliveries.CommandWorker
import SupplyChainTracker.Shipments.CommandWorker

/-!
# Compensation across the services

The commands of a saga act on three separate stores, and each of them has an effect
that may be repeated and exchanged. So the stores end up the same however often and
in whatever order the commands arrive.
-/

namespace SupplyChainTracker.Compensation

open Warehouse (InventoryRow InventoryStatus WarehouseRow releaseWhere releaseWhere_releaseWhere)
open Deliveries (CourierRow DeliveryRow)
open Shipments (ShipmentRow ItemRow)
open Saga (SagaInstance)
open Saga.SagaCompensationWorker

/-- The stores of the three services. -/
structure Stores where
  inventory : Warehouse.InventoryDb
  deliveries : Deliveries.DeliveryDb
  shipments : Shipments.ShipmentDb

/-- A command on a topic, with the clock readings its handling takes. -/
structure Message where
  command : Command
  topic : String
  now : Clock

/-- The worker of the topic handles a message: whether no exception escapes, and the stores
afterwards. -/
def consume (m : Message) (s : Stores) : Bool × Stores :=
  if m.topic = Warehouse.WarehouseCommandWorker.commandTopic then
    let handled := (Warehouse.WarehouseCommandWorker.handleCommand m.command m.now).run Warehouse.act
      s.inventory
    (handled.1.isOk, { s with inventory := handled.2 })
  else if m.topic = Deliveries.DeliveryCommandWorker.commandTopic then
    let handled := (Deliveries.DeliveryCommandWorker.handleCommand m.command).run Deliveries.act s.deliveries
    (handled.1.isOk, { s with deliveries := handled.2 })
  else if m.topic = Shipments.ShipmentCommandWorker.commandTopic then
    let handled := (Shipments.ShipmentCommandWorker.handleCommand m.command).run Shipments.act s.shipments
    (handled.1.isOk, { s with shipments := handled.2 })
  else (true, s)

/-- The stores after messages, one handled after the other. -/
def consumeAll (messages : List Message) (s : Stores) : Stores :=
  messages.foldl (fun s m => (consume m s).2) s

/-- Every row that a handler may load can be read. -/
structure Stores.Loadable (s : Stores) : Prop where
  inventory : s.inventory.Loadable
  deliveries : s.deliveries.Loadable

/-- The compensating commands. -/
inductive Step : Type
  | unassignCourier
  | releaseInventory
  | cancelShipment
  deriving DecidableEq, Repr

/-- A message is one that the coordinator sends for a saga to have a step done. -/
def SentFor (saga : SagaInstance) (m : Message) : Step → Prop
  | .unassignCourier => ∃ reason commandId, (m.command, m.topic) ∈
      unassignCourier saga reason commandId
  | .releaseInventory => ∃ reason commandId, (m.command, m.topic) ∈
      releaseInventory saga reason commandId
  | .cancelShipment => ∃ reason commandId, (m.command, m.topic) ∈
      cancelShipment saga reason commandId

/-- What the stores contain, the update times of inventory records aside. -/
structure View where
  warehouses : List WarehouseRow
  records : List InventoryRow
  couriers : List CourierRow
  deliveries : List DeliveryRow
  shipments : List ShipmentRow
  items : List ItemRow

/-- The contents of the stores. -/
def Stores.view (s : Stores) : View where
  warehouses := s.inventory.warehouses.rows
  records := s.inventory.view
  couriers := s.deliveries.couriers.rows
  deliveries := s.deliveries.deliveries.rows
  shipments := s.shipments.shipments.rows
  items := s.shipments.items.rows

/-- What a step is for. -/
def effect (shipmentId deliveryId : UUID) : Step → View → View
  | .unassignCourier, v =>
      { v with deliveries := v.deliveries.filter fun d => d.deliveryId ≠ deliveryId }
  | .releaseInventory, v =>
      { v with records := releaseWhere (fun r => r.shipmentId = shipmentId) v.records }
  | .cancelShipment, v =>
      { v with
        shipments := v.shipments.filter fun s => s.shipmentId ≠ shipmentId
        items := v.items.filter fun i => i.shipmentId ≠ shipmentId }

/-- Steps may be repeated and exchanged. -/
theorem absorbing_effect (shipmentId deliveryId : UUID) :
    Absorbing (effect shipmentId deliveryId) where
  idem k v := by
    cases k with
    | unassignCourier => simp [effect, List.filter_filter]
    | releaseInventory =>
      simp only [effect]
      rw [releaseWhere_releaseWhere fun r => by simp]
      simp
    | cancelShipment => simp [effect, List.filter_filter]
  comm j k v := by cases j <;> cases k <;> rfl

/-- A message asks for one step only. -/
theorem SentFor.unique {saga : SagaInstance} {m : Message} {j k : Step} (hj : SentFor saga m j)
    (hk : SentFor saga m k) : j = k := by
  have htopic : ∀ {k}, SentFor saga m k → m.topic = match k with
      | .unassignCourier => Deliveries.DeliveryCommandWorker.commandTopic
      | .releaseInventory => Warehouse.WarehouseCommandWorker.commandTopic
      | .cancelShipment => Shipments.ShipmentCommandWorker.commandTopic := by
    intro k h
    cases k with
    | unassignCourier =>
      obtain ⟨reason, commandId, h⟩ := h
      obtain ⟨d, _, heq⟩ := List.mem_map.mp h
      exact (congrArg Prod.snd heq).symm
    | releaseInventory =>
      obtain ⟨reason, commandId, h⟩ := h
      obtain ⟨d, _, heq⟩ := List.mem_map.mp h
      exact (congrArg Prod.snd heq).symm
    | cancelShipment =>
      obtain ⟨reason, commandId, h⟩ := h
      exact congrArg Prod.snd (List.mem_singleton.mp h)
  have h := (htopic hj).symm.trans (htopic hk)
  cases j <;> cases k <;> first | rfl | exact absurd h (by decide)

/-- Handling a message of a saga lets no exception escape, leaves the rows readable and does the
step that the message is sent for. -/
theorem consume_sentFor {saga : SagaInstance} {deliveryId : UUID} {m : Message} {k : Step}
    {s : Stores} (hdl : saga.deliveryId = some deliveryId) (hsent : SentFor saga m k)
    (hload : s.Loadable) :
    (consume m s).1 = true ∧ (consume m s).2.Loadable ∧
      (consume m s).2.view = effect saga.shipmentId deliveryId k s.view := by
  obtain ⟨command, topic, now⟩ := m
  cases k with
  | unassignCourier =>
    obtain ⟨reason, commandId, h⟩ := hsent
    rw [unassignCourier, hdl] at h
    obtain ⟨rfl, rfl⟩ := Prod.mk.inj (List.mem_singleton.mp h)
    have hrun := Deliveries.run_handleCommand hload.deliveries
      (UnassignCourierCommand.create deliveryId saga.sagaId reason commandId) deliveryId rfl rfl
    simp only [consume, Warehouse.WarehouseCommandWorker.commandTopic,
      Deliveries.DeliveryCommandWorker.commandTopic, String.reduceEq, if_false, if_true, hrun]
    refine ⟨rfl, ⟨hload.inventory, hload.deliveries.delete deliveryId⟩, ?_⟩
    simp [Stores.view, effect, Deliveries.DeliveryDb.delete]
  | releaseInventory =>
    obtain ⟨reason, commandId, h⟩ := hsent
    obtain ⟨warehouseId, _, heq⟩ := List.mem_map.mp h
    obtain ⟨rfl, rfl⟩ := Prod.mk.inj heq
    obtain ⟨db', hrun, hreleases⟩ := Warehouse.run_handleCommand now hload.inventory
      (ReleaseInventoryCommand.create saga.shipmentId warehouseId [] saga.sagaId reason commandId)
      saga.shipmentId rfl rfl
    simp only [consume, Warehouse.WarehouseCommandWorker.commandTopic, if_true, hrun]
    refine ⟨rfl, ⟨hreleases.loadable hload.inventory, hload.deliveries⟩, ?_⟩
    simp only [Stores.view, effect, hreleases.warehouses, hreleases.view]
  | cancelShipment =>
    obtain ⟨reason, commandId, h⟩ := hsent
    obtain ⟨rfl, rfl⟩ := Prod.mk.inj (List.mem_singleton.mp h)
    have hrun := Shipments.run_handleCommand s.shipments
      (CancelShipmentCommand.create saga.shipmentId reason saga.sagaId commandId) saga.shipmentId
      rfl rfl
    simp only [consume, Warehouse.WarehouseCommandWorker.commandTopic,
      Deliveries.DeliveryCommandWorker.commandTopic, Shipments.ShipmentCommandWorker.commandTopic,
      String.reduceEq, if_false, if_true, hrun]
    refine ⟨rfl, ⟨hload.inventory, hload.deliveries⟩, ?_⟩
    simp [Stores.view, effect, Shipments.ShipmentDb.delete]

/-- The workers simulate the effects of the steps. -/
theorem simulates_consume {saga : SagaInstance} {deliveryId : UUID}
    (hdl : saga.deliveryId = some deliveryId) :
    Simulates (fun m s => (consume m s).2) (SentFor saga) Stores.Loadable Stores.view
      (effect saga.shipmentId deliveryId) where
  keeps hsent hload := (consume_sentFor hdl hsent hload).2.1
  view_step hsent hload := (consume_sentFor hdl hsent hload).2.2

/-- The contents after a compensation: the delivery and the shipment with its items are gone, and
the records of the shipment are back in `RECEIVED` unless they have been shipped. -/
def View.compensated (v : View) (shipmentId deliveryId : UUID) : View :=
  { v with
    deliveries := v.deliveries.filter fun d => d.deliveryId ≠ deliveryId
    shipments := v.shipments.filter fun s => s.shipmentId ≠ shipmentId
    items := v.items.filter fun i => i.shipmentId ≠ shipmentId
    records := v.records.map fun r =>
      if r.shipmentId = shipmentId ∧ r.status ≠ InventoryStatus.shipped.value then
        { r with status := InventoryStatus.received.value }
      else r }

/-- The three steps together compensate. -/
theorem effects_eq_compensated (shipmentId deliveryId : UUID) (v : View) :
    effects (effect shipmentId deliveryId)
        [.unassignCourier, .releaseInventory, .cancelShipment] v =
      v.compensated shipmentId deliveryId := by
  have hreleased : ∀ r : InventoryRow, (if r.shipmentId = shipmentId then r.released else r) =
      if r.shipmentId = shipmentId ∧ r.status ≠ InventoryStatus.shipped.value then
        { r with status := InventoryStatus.received.value } else r := by
    intro r
    by_cases hship : r.shipmentId = shipmentId <;>
      by_cases hst : r.status = InventoryStatus.shipped.value <;>
      simp [InventoryRow.released, hship, hst]
  simp only [effects, List.foldl_cons, List.foldl_nil, effect, View.compensated, releaseWhere,
    decide_eq_true_eq, hreleased]

/-- However often and in whatever order the commands of a saga arrive, as long as each arrives
once, no handler lets an exception escape and the stores end up compensated. -/
theorem compensated_of_all_sent (stores : Stores) (hload : stores.Loadable) (saga : SagaInstance)
    {deliveryId : UUID} (hdl : saga.deliveryId = some deliveryId) (messages : List Message)
    (hsent : ∀ m ∈ messages, ∃ k, SentFor saga m k) (hall : ∀ k, ∃ m ∈ messages, SentFor saga m k) :
    (∀ before m after, messages = before ++ m :: after →
      (consume m (consumeAll before stores)).1 = true) ∧
    (consumeAll messages stores).view = stores.view.compensated saga.shipmentId deliveryId := by
  have hsimulates := simulates_consume hdl
  constructor
  · rintro before m after rfl
    have hbefore : ∀ m' ∈ before, ∃ k, SentFor saga m' k := fun m' hm' =>
      hsent m' (List.mem_append_left _ hm')
    obtain ⟨k, hk⟩ := hsent m (List.mem_append_right _ (List.mem_cons_self ..))
    exact (consume_sentFor hdl hk (hsimulates.inv_foldl hbefore hload)).1
  · rw [← effects_eq_compensated]
    refine hsimulates.confluent (absorbing_effect _ _) SentFor.unique (fun m hm => ?_)
      (fun k _ => hall k) hload
    obtain ⟨k, hk⟩ := hsent m hm
    exact ⟨k, by cases k <;> simp, hk⟩

/-- The delivery, the shipment with one item and three records, one of them shipped and one of
another shipment. -/
def sampleStores : Stores where
  inventory := {
    warehouses := Table.empty.put ⟨⟨3⟩, "Main", "Harbour", 0, 0⟩
    records := ((Table.empty.put ⟨⟨31⟩, ⟨2⟩, ⟨3⟩, "stored", 0, 0⟩).put
      ⟨⟨32⟩, ⟨2⟩, ⟨3⟩, "shipped", 0, 0⟩).put ⟨⟨33⟩, ⟨8⟩, ⟨3⟩, "stored", 0, 0⟩
    warehouseOf := by decide }
  deliveries := {
    couriers := Table.empty.put ⟨⟨5⟩, "Ada", "ada@post", 0, 0⟩
    deliveries := Table.empty.put ⟨⟨4⟩, ⟨2⟩, ⟨5⟩, "assigned", none, none, 0, 0⟩
    courierOf := by decide }
  shipments := {
    shipments := Table.empty.put ⟨⟨2⟩, "Riga", "Oslo", "created", 0, 0⟩
    items := Table.empty.put ⟨⟨21⟩, ⟨2⟩, "crate", 1, 10, 0, 0⟩
    shipmentOf := by decide }

theorem loadable_sampleStores : sampleStores.Loadable where
  inventory := by
    have hrows : ∀ r ∈ sampleStores.inventory.records.rows,
        r.status = InventoryStatus.stored.value ∨ r.status = InventoryStatus.shipped.value := by
      decide
    exact fun r hr => (hrows r hr).elim (fun h => ⟨_, h⟩) (fun h => ⟨_, h⟩)
  deliveries := by
    intro d hd c hc
    obtain rfl := List.mem_singleton.mp hd
    cases hc
    exact ⟨_, rfl⟩

/-- The commands of the sample saga out of order, two of them twice. -/
def sampleMessages : List Message :=
  [⟨CancelShipmentCommand.create ⟨2⟩ .null ⟨1⟩ ⟨71⟩, "shipment.commands", fun n => n⟩,
    ⟨ReleaseInventoryCommand.create ⟨2⟩ ⟨3⟩ [] ⟨1⟩ .null ⟨72⟩, "inventory.commands", fun n => n⟩,
    ⟨CancelShipmentCommand.create ⟨2⟩ .null ⟨1⟩ ⟨71⟩, "shipment.commands", fun n => n⟩,
    ⟨UnassignCourierCommand.create ⟨4⟩ ⟨1⟩ .null ⟨73⟩, "delivery.commands", fun n => n⟩,
    ⟨ReleaseInventoryCommand.create ⟨2⟩ ⟨3⟩ [] ⟨1⟩ .null ⟨72⟩, "inventory.commands", fun n => n⟩]

theorem compensated_of_all_sent_sample :
    (∀ before m after, sampleMessages = before ++ m :: after →
      (consume m (consumeAll before sampleStores)).1 = true) ∧
    (consumeAll sampleMessages sampleStores).view = sampleStores.view.compensated ⟨2⟩ ⟨4⟩ := by
  have hcancel : ∀ now, SentFor Saga.sampleSaga
      ⟨CancelShipmentCommand.create ⟨2⟩ .null ⟨1⟩ ⟨71⟩, "shipment.commands", now⟩
      .cancelShipment := fun _ => ⟨.null, ⟨71⟩, List.mem_singleton.mpr rfl⟩
  have hrelease : ∀ now, SentFor Saga.sampleSaga
      ⟨ReleaseInventoryCommand.create ⟨2⟩ ⟨3⟩ [] ⟨1⟩ .null ⟨72⟩, "inventory.commands", now⟩
      .releaseInventory := fun _ => ⟨.null, ⟨72⟩, List.mem_singleton.mpr rfl⟩
  have hunassign : ∀ now, SentFor Saga.sampleSaga
      ⟨UnassignCourierCommand.create ⟨4⟩ ⟨1⟩ .null ⟨73⟩, "delivery.commands", now⟩
      .unassignCourier := fun _ => ⟨.null, ⟨73⟩, List.mem_singleton.mpr rfl⟩
  refine compensated_of_all_sent sampleStores loadable_sampleStores Saga.sampleSaga rfl
    sampleMessages (fun m hm => ?_) (fun k => ?_)
  · simp only [sampleMessages, List.mem_cons, List.not_mem_nil, or_false] at hm
    rcases hm with rfl | rfl | rfl | rfl | rfl
    · exact ⟨_, hcancel _⟩
    · exact ⟨_, hrelease _⟩
    · exact ⟨_, hcancel _⟩
    · exact ⟨_, hunassign _⟩
    · exact ⟨_, hrelease _⟩
  · cases k with
    | unassignCourier => exact ⟨_, by simp [sampleMessages], hunassign fun n => n⟩
    | releaseInventory => exact ⟨_, by simp [sampleMessages], hrelease fun n => n⟩
    | cancelShipment => exact ⟨_, by simp [sampleMessages], hcancel fun n => n⟩

end SupplyChainTracker.Compensation
