import SupplyChainTracker.Deliveries.Retention
import SupplyChainTracker.Shipments.Retention
import SupplyChainTracker.Warehouse.Retention

/-!
# The three services

The shipment, delivery and warehouse services side by side, each with its own tables and
its own event queue. A request concerns one of them, and what it writes and deletes
there is what it writes and deletes at all.
-/

namespace SupplyChainTracker.Services

open Shipments (ShipmentDb ShipmentError)
open Deliveries (DeliveryDb DeliveryError)
open Warehouse (InventoryDb InventoryError)

/-- The services with their queues. -/
structure System where
  shipments : Served Shipments.World
  deliveries : Served Deliveries.World
  warehouse : Served Warehouse.World

/-- What the services rest on. -/
structure Backend where
  shipments : Shipments.Backend
  deliveries : Deliveries.Backend
  warehouse : Warehouse.Backend

/-- The tables of the services. -/
structure Tables where
  shipments : ShipmentDb
  deliveries : DeliveryDb
  warehouse : InventoryDb

/-- The stored rows. -/
def System.tables (s : System) : Tables :=
  ⟨s.shipments.world.db, s.deliveries.world.db, s.warehouse.world.db⟩

/-- Every stored row is still stored. -/
structure Tables.Kept (t t' : Tables) : Prop where
  shipments : t.shipments.Kept t'.shipments
  deliveries : t.deliveries.Kept t'.deliveries
  warehouse : t.warehouse.Kept t'.warehouse

theorem Tables.Kept.refl (t : Tables) : t.Kept t :=
  ⟨⟨.refl _, .refl _⟩, ⟨.refl _, .refl _⟩, ⟨.refl _, .refl _⟩⟩

/-- A request to one of the services. -/
inductive Request : Type
  | shipments (request : Shipments.Request)
  | deliveries (request : Deliveries.Request)
  | warehouse (request : Warehouse.Request)

/-- What one of the services returns. -/
inductive Response : Type
  | shipments (response : Shipments.Response)
  | deliveries (response : Deliveries.Response)
  | warehouse (response : Warehouse.Response)

/-- What a handler of one of the services raises. -/
inductive Error : Type
  | shipments (e : ShipmentError)
  | deliveries (e : DeliveryError)
  | warehouse (e : InventoryError)
  deriving DecidableEq, Repr

namespace Request

/-- The route of a request. -/
def route : Request → Route
  | shipments request => request.route
  | deliveries request => request.route
  | warehouse request => request.route

/-- The type of the event with which a handler announces what it has stored. -/
def eventType? : Request → Option String
  | shipments request => request.eventType?
  | deliveries request => request.eventType?
  | warehouse request => request.eventType?

/-- The queue of the service that a request concerns. -/
def queue (s : System) : Request → EventQueue
  | shipments _ => s.shipments.queue
  | deliveries _ => s.deliveries.queue
  | warehouse _ => s.warehouse.queue

/-- Run the handler of a request. -/
def handle (backend : Backend) (s : System) : Request → Except Error Response × System
  | shipments request =>
      let result := request.handle backend.shipments s.shipments
      ((result.1.mapError Error.shipments).map Response.shipments,
        { s with shipments := result.2 })
  | deliveries request =>
      let result := request.handle backend.deliveries s.deliveries
      ((result.1.mapError Error.deliveries).map Response.deliveries,
        { s with deliveries := result.2 })
  | warehouse request =>
      let result := request.handle backend.warehouse s.warehouse
      ((result.1.mapError Error.warehouse).map Response.warehouse,
        { s with warehouse := result.2 })

/-- The condition under which a request changes the tables. -/
def Writes (backend : Backend) (s : System) : Request → Prop
  | shipments request => request.Writes backend.shipments s.shipments.world
  | deliveries request => request.Writes backend.deliveries s.deliveries.world
  | warehouse request => request.Writes backend.warehouse s.warehouse.world

/-- The condition under which a request deletes a row. -/
def Deletes (backend : Backend) (s : System) : Request → Prop
  | shipments request => request.Deletes s.shipments.world
  | deliveries request => request.Deletes s.deliveries.world
  | warehouse request => request.Deletes backend.warehouse.text s.warehouse.world

variable (backend : Backend) (s : System)

/-- A request changes the tables under its condition and under no other. -/
theorem tables_handle_eq_iff (request : Request) :
    (request.handle backend s).2.tables = s.tables ↔ ¬ request.Writes backend s := by
  cases request with
  | shipments request =>
    refine Iff.trans ⟨fun h => congrArg Tables.shipments h, fun h => ?_⟩
      (request.db_handle_eq_iff backend.shipments s.shipments)
    exact congrArg (fun db => Tables.mk db _ _) h
  | deliveries request =>
    refine Iff.trans ⟨fun h => congrArg Tables.deliveries h, fun h => ?_⟩
      (request.db_handle_eq_iff backend.deliveries s.deliveries)
    exact congrArg (fun db => Tables.mk _ db _) h
  | warehouse request =>
    refine Iff.trans ⟨fun h => congrArg Tables.warehouse h, fun h => ?_⟩
      (request.db_handle_eq_iff backend.warehouse s.warehouse)
    exact congrArg (fun db => Tables.mk _ _ db) h

/-- A request keeps every stored row unless it deletes one. -/
theorem kept_handle_iff (request : Request) :
    s.tables.Kept (request.handle backend s).2.tables ↔ ¬ request.Deletes backend s := by
  have hshipments := Shipments.keepsRows_refl s.shipments.world
  have hdeliveries := Deliveries.keepsRows_refl s.deliveries.world
  have hwarehouse := Warehouse.keepsRows_refl s.warehouse.world
  cases request with
  | shipments request =>
    exact Iff.trans ⟨Tables.Kept.shipments, fun h => ⟨h, hdeliveries, hwarehouse⟩⟩
      (request.kept_handle_iff backend.shipments s.shipments)
  | deliveries request =>
    exact Iff.trans ⟨Tables.Kept.deliveries, fun h => ⟨hshipments, h, hwarehouse⟩⟩
      (request.kept_handle_iff backend.deliveries s.deliveries)
  | warehouse request =>
    exact Iff.trans ⟨Tables.Kept.warehouse, fun h => ⟨hshipments, hdeliveries, h⟩⟩
      (request.kept_handle_iff backend.warehouse s.warehouse)

/-- A request whose handler announces an event raises. -/
theorem raises_of_eventType? {request : Request} (h : request.eventType?.isSome) :
    ∃ e, (request.handle backend s).1 = .error e := by
  cases request with
  | shipments request =>
    obtain ⟨e, he⟩ := Shipments.Request.raises_of_eventType? backend.shipments s.shipments h
    exact ⟨.shipments e, by simp only [handle, he]; rfl⟩
  | deliveries request =>
    obtain ⟨e, he⟩ := Deliveries.Request.raises_of_eventType? backend.deliveries s.deliveries h
    exact ⟨.deliveries e, by simp only [handle, he]; rfl⟩
  | warehouse request =>
    obtain ⟨e, he⟩ := Warehouse.Request.raises_of_eventType? backend.warehouse s.warehouse h
    exact ⟨.warehouse e, by simp only [handle, he]; rfl⟩

end Request

/-- An empty queue. -/
def emptyQueue : EventQueue := ⟨[], 0⟩

/-- A shipment with five crates, its delivery and its record in a warehouse. -/
def sampleSystem : System where
  shipments := ⟨Shipments.sampleWorld, emptyQueue⟩
  deliveries := {
    world := {
      db := {
        couriers := Table.empty.put ⟨⟨5⟩, "Ben", "ben@post", 0, 0⟩
        deliveries := Table.empty.put ⟨⟨4⟩, ⟨2⟩, ⟨5⟩, "assigned", none, none, 0, 0⟩
        courierOf := by decide }
      clock := fun n => n
      statements := 0 }
    queue := emptyQueue }
  warehouse := {
    world := {
      db := {
        warehouses := Table.empty.put ⟨⟨3⟩, "Main", "Latvia, Riga", 0, 0⟩
        records := Table.empty.put ⟨⟨31⟩, ⟨2⟩, ⟨3⟩, "stored", 0, 0⟩
        warehouseOf := by decide }
      clock := fun n => n
      statements := 0 }
    queue := emptyQueue }

/-- Databases that refuse nothing but a broken foreign key, and queues in memory. -/
def sampleBackend : Backend where
  shipments := ⟨Shipments.samplePostgres, fun place => .ok place.city, .memory⟩
  deliveries := {
    pg := ⟨fun _ => none, fun _ => none, fun a b => decide (a ≤ b)⟩
    textArgument := fun
      | .name name => .ok name.value
      | .contactInfo contactInfo => .ok contactInfo.value
    adapter := .memory }
  warehouse := {
    pg := ⟨fun _ => none, fun a b => decide (a ≤ b)⟩
    text := ⟨fun location => location.city, fun city => (Location.of "Latvia" city "").mapError
      .valueError⟩
    adapter := .memory }

end SupplyChainTracker.Services
