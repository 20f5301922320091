import SupplyChainTracker.Core.Async.Journal
import SupplyChainTracker.Deliveries.CommandWorker
import SupplyChainTracker.Services.System

/-!
# The checks on the status columns

The migrations of the shipment and the delivery service check the status columns against names in
capitals, whereas the repositories write the values of the enumerations. However requests and
commands interleave and whichever calls raise, no shipment and no delivery is ever stored.
-/

namespace SupplyChainTracker

open Coroutine (Performed)

/-- Handlers at work on a service, over its world and its queue, with the calls they have
performed. -/
abbrev Handlers (ι Op : Type) (Ans : Op → Type) (ε W : Type) : Type :=
  Config ι (HandlerCall Op) (HandlerCall.Ans Ans) ε Unit
    (Journal (HandlerCall Op) (HandlerCall.Ans Ans) ε (Served W))

/-- Handlers that have not made a call yet. -/
def Handlers.start {ι Op : Type} {Ans : Op → Type} {ε W : Type}
    (program : ι → Handler Op Ans ε Unit) (s : Served W) (faults : Nat → Option ε) :
    Handlers ι Op Ans ε W :=
  ⟨program, .start s faults, []⟩

section NoneStored

variable {ι Op Row : Type} {Ans : Op → Type} {ε α W : Type}

/-- The rows are among the first ones, and no call that would store one has returned. -/
structure NoneStored (rows : W → List Row) (stores : Op → Prop) (first w : W)
    (past : List (Performed Op Ans ε W)) : Prop where
  rows : ∀ row ∈ rows w, row ∈ rows first
  raised : ∀ call ∈ past, stores call.op → call.answer.isOk = false

/-- If every call that would store a row raises and no call leads to rows that were not there, no
row is stored in any run of any coroutines. -/
theorem exec_noneStored [DecidableEq ι] {act : (op : Op) → W → Except ε (Ans op) × W}
    {rows : W → List Row} {stores : Op → Prop}
    (hrows : ∀ op w, ∀ row ∈ rows (act op w).2, row ∈ rows w)
    (hraises : ∀ op w, stores op → (act op w).1.isOk = false) {sched : List ι}
    {c c' : Config ι Op Ans ε α (Journal Op Ans ε W)} (hc : c.world.entries = [])
    (h : c.exec (Journal.perform act) sched = some c') :
    NoneStored rows stores c.world.world c'.world.world c'.world.entries := by
  refine Journal.exec_of_act (NoneStored rows stores c.world.world) ?_ ?_ ⟨fun _ => id, ?_⟩ h
  · intro op e w entries hw
    refine ⟨hw.rows, fun call hcall hstores => ?_⟩
    rcases List.mem_append.mp hcall with hcall | hcall
    · exact hw.raised call hcall hstores
    · rw [List.mem_singleton.mp hcall]
      rfl
  · intro op w entries hw
    refine ⟨fun row hrow => hw.rows row (hrows op w row hrow), fun call hcall hstores => ?_⟩
    rcases List.mem_append.mp hcall with hcall | hcall
    · exact hw.raised call hcall hstores
    · obtain rfl := List.mem_singleton.mp hcall
      exact hraises op w hstores
  · rw [hc]
    exact nofun

end NoneStored

namespace Shipments

/-- `ck_shipment_status`. -/
def ckShipmentStatus (row : ShipmentRow) : Option String :=
  if row.status ∈ ["PENDING", "IN_TRANSIT", "DELIVERED", "CANCELLED", "DELAYED"] then none
  else some "ck_shipment_status"

/-- The database refuses at least the rows that `ck_shipment_status` refuses. -/
def Postgres.ChecksStatus (pg : Postgres) : Prop :=
  ∀ row, ckShipmentStatus row ≠ none → pg.refusesShipment row ≠ none

/-- Handling a request or a command. -/
inductive Work : Type
  | request (request : Request)
  | command (command : Command)

/-- What a piece of work does; the response of a request is dropped. -/
def Work.program : Work → ApiProgram Unit
  | .request r => r.handler.bind fun _ => .ret ()
  | .command c => deletion (ShipmentCommandWorker.handleCommand c)

/-- A call that would store a shipment. -/
def StoresShipment (op : HandlerCall RepositoryCall) : Prop :=
  ∃ shipment, op = .repository (.shipment (.save shipment))

section Checked

variable {pg : Postgres} (hpg : pg.ChecksStatus)

include hpg

/-- No status passes the check. -/
theorem refusesShipment_target (db : ShipmentDb) (shipment : Shipment)
    (origin destination : String) (now : DateTime) :
    ∃ violated, pg.refusesShipment (db.shipmentTarget shipment origin destination now) =
      some violated := by
  have hstatus : (db.shipmentTarget shipment origin destination now).status =
      shipment.status.value := by
    unfold ShipmentDb.shipmentTarget
    split <;> rfl
  refine Option.ne_none_iff_exists'.mp (hpg _ ?_)
  rw [ckShipmentStatus, hstatus, if_neg]
  · exact nofun
  · cases shipment.status <;> decide

/-- A save raises and leaves the tables alone. -/
theorem act_save_refused (textArgument : Place → Except ShipmentError String)
    (shipment : Shipment) (w : World) :
    (ShipmentRepository.act pg textArgument (.save shipment) w).1.isOk = false ∧
      (ShipmentRepository.act pg textArgument (.save shipment) w).2.db = w.db := by
  simp only [ShipmentRepository.act]
  cases textArgument shipment.origin with
  | error e => exact ⟨rfl, rfl⟩
  | ok origin =>
    cases textArgument shipment.destination with
    | error e => exact ⟨rfl, rfl⟩
    | ok destination =>
      obtain ⟨violated, hrefuses⟩ :=
        refusesShipment_target hpg w.db shipment origin destination w.now
      simp only [ShipmentDb.saveShipment, hrefuses]
      exact ⟨rfl, rfl⟩

end Checked

/-- The statements on items leave the shipments alone. -/
theorem shipments_item_act (pg : Postgres) (op : ItemCall) (w : World) :
    (ItemRepository.act pg op w).2.db.shipments = w.db.shipments := by
  cases op with
  | save item =>
    by_cases haccepts : w.db.Accepts pg item w.now
    · obtain ⟨db, hsave, hshipments, _⟩ := ItemRepository.act_save_of_accepts haccepts
      rw [hsave]
      exact hshipments
    · obtain ⟨violated, hsave⟩ := ItemRepository.act_save_of_not_accepts haccepts
      rw [hsave]
      rfl
  | delete itemId =>
    simp only [ItemRepository.act]
    split <;> rfl
  | get | getByShipment | getAll => rfl

section Runs

variable {backend : Backend} (hpg : backend.pg.ChecksStatus)

include hpg

/-- The shipments after a call were stored before it. -/
theorem shipments_act_subset (op : HandlerCall RepositoryCall) (s : Served World) :
    ∀ row ∈ (apiAct backend op s).2.world.db.shipments.rows, row ∈ s.world.db.shipments.rows := by
  cases op with
  | publishEvent call => exact fun _ => id
  | repository op =>
    cases op with
    | shipment op =>
      cases op with
      | save shipment =>
        obtain ⟨_, hdb⟩ := act_save_refused hpg backend.textArgument shipment s.world
        intro row hrow
        rwa [← hdb]
      | get | getAll => exact fun _ => id
    | delete op =>
      cases op with
      | delete shipmentId => exact fun _ hrow => List.mem_of_mem_filter hrow
    | item op =>
      intro row hrow
      rwa [← shipments_item_act backend.pg op s.world]

/-- However requests and commands interleave and whichever calls raise, no shipment is stored that
was not stored before, and no save of a shipment returns. -/
theorem shipments_noneStored {ι : Type} [DecidableEq ι] {work : ι → Work} {s : Served World}
    {faults : Nat → Option ShipmentError} {sched : List ι}
    {d : Handlers ι RepositoryCall RepositoryCall.Ans ShipmentError World}
    (h : (Handlers.start (fun i => (work i).program) s faults).exec
      (Journal.perform (apiAct backend)) sched = some d) :
    NoneStored (fun s : Served World => s.world.db.shipments.rows) StoresShipment s
      d.world.world d.world.entries := by
  refine exec_noneStored (shipments_act_subset hpg) ?_ rfl h
  rintro op s ⟨shipment, rfl⟩
  exact (act_save_refused hpg backend.textArgument shipment s.world).1

end Runs

end Shipments

namespace Deliveries

/-- `ck_delivery_status`. -/
def ckDeliveryStatus (row : DeliveryRow) : Option String :=
  if row.status ∈ ["ASSIGNED", "PICKED_UP", "IN_TRANSIT", "DELIVERED", "FAILED", "CANCELLED"] then
    none
  else some "ck_delivery_status"

/-- The database refuses at least the rows that `ck_delivery_status` refuses. -/
def Postgres.ChecksStatus (pg : Postgres) : Prop :=
  ∀ row, ckDeliveryStatus row ≠ none → pg.refusesDelivery row ≠ none

/-- Handling a request or a command. -/
inductive Work : Type
  | request (request : Request)
  | command (command : Command)

/-- What a piece of work does; the response of a request is dropped. -/
def Work.program (textArgument : CourierText → Except DeliveryError String) : Work → ApiProgram Unit
  | .request r => (r.handler textArgument).bind fun _ => .ret ()
  | .command c => service (inService (DeliveryCommandWorker.handleCommand c))

/-- A call that would store a delivery. -/
def StoresDelivery (op : HandlerCall Statement) : Prop :=
  ∃ delivery, op = .repository (.saveDelivery delivery)

/-- A save is refused: no status passes the check of the proposed row. -/
theorem saveDelivery_refused {pg : Postgres} (hpg : pg.ChecksStatus) (delivery : Delivery)
    (now : DateTime) (db : DeliveryDb) : ∃ e, db.saveDelivery pg delivery now = (.error e, db) := by
  have hcheck : ckDeliveryStatus delivery.toRow ≠ none := by
    rw [ckDeliveryStatus, if_neg]
    · exact nofun
    · change delivery.status.value ∉ _
      cases delivery.status <;> decide
  obtain ⟨violated, hrefuses⟩ := Option.ne_none_iff_exists'.mp (hpg _ hcheck)
  rw [DeliveryDb.saveDelivery, hrefuses]
  exact ⟨_, rfl⟩

section Runs

variable {backend : Backend} (hpg : backend.pg.ChecksStatus)

include hpg

/-- The deliveries after a call were stored before it. -/
theorem deliveries_act_subset (op : HandlerCall Statement) (s : Served World) :
    ∀ row ∈ (apiAct backend op s).2.world.db.deliveries.rows,
      row ∈ s.world.db.deliveries.rows := by
  cases op with
  | publishEvent call => exact fun _ => id
  | repository op =>
    cases op with
    | shared op =>
      cases op with
      | get deliveryId => exact fun _ => id
      | delete deliveryId => exact fun _ hrow => List.mem_of_mem_filter hrow
    | saveDelivery delivery =>
      obtain ⟨e, hsave⟩ := saveDelivery_refused hpg delivery s.world.now s.world.db
      intro row hrow
      simp only [apiAct, HandlerCall.act, Statement.act, hsave] at hrow
      exact hrow
    | saveCourier courierId name contactInfo =>
      simp only [apiAct, HandlerCall.act, Statement.act, DeliveryDb.saveCourier]
      split <;> exact fun _ => id
    | deleteCourier courierId =>
      simp only [apiAct, HandlerCall.act, Statement.act, DeliveryDb.deleteCourier]
      split <;> exact fun _ => id
    | listDeliveries | getCourier | listCouriers => exact fun _ => id

/-- However requests and commands interleave and whichever calls raise, no delivery is stored that
was not stored before, and no save of a delivery returns. -/
theorem deliveries_noneStored {ι : Type} [DecidableEq ι] {work : ι → Work} {s : Served World}
    {faults : Nat → Option DeliveryError} {sched : List ι}
    {d : Handlers ι Statement Statement.Ans DeliveryError World}
    (h : (Handlers.start (fun i => (work i).program backend.textArgument) s faults).exec
      (Journal.perform (apiAct backend)) sched = some d) :
    NoneStored (fun s : Served World => s.world.db.deliveries.rows) StoresDelivery s
      d.world.world d.world.entries := by
  refine exec_noneStored (deliveries_act_subset hpg) ?_ rfl h
  rintro op s ⟨delivery, rfl⟩
  obtain ⟨e, hsave⟩ := saveDelivery_refused hpg delivery s.world.now s.world.db
  simp only [apiAct, HandlerCall.act, Statement.act, hsave]
  rfl

end Runs

end Deliveries

namespace Services

/-- Under the migrations neither the shipment nor the delivery service ever stores what it is for:
however requests and commands interleave and whichever calls raise, every stored shipment and every
stored delivery was there from the start, an item can only belong to such a shipment, and no save
of a shipment or of a delivery returns. -/
theorem nothing_stored_under_status_checks {ι κ : Type} [DecidableEq ι] [DecidableEq κ]
    (backend : Backend) (hshipments : backend.shipments.pg.ChecksStatus)
    (hdeliveries : backend.deliveries.pg.ChecksStatus) (s : System)
    (shipmentWork : ι → Shipments.Work) (deliveryWork : κ → Deliveries.Work)
    (shipmentFaults : Nat → Option Shipments.ShipmentError)
    (deliveryFaults : Nat → Option Deliveries.DeliveryError) {shipmentSched : List ι}
    {deliverySched : List κ}
    {c : Handlers ι Shipments.RepositoryCall Shipments.RepositoryCall.Ans Shipments.ShipmentError
      Shipments.World}
    {d : Handlers κ Deliveries.Statement Deliveries.Statement.Ans Deliveries.DeliveryError
      Deliveries.World}
    (hc : (Handlers.start (fun i => (shipmentWork i).program) s.shipments shipmentFaults).exec
      (Journal.perform (Shipments.apiAct backend.shipments)) shipmentSched = some c)
    (hd : (Handlers.start (fun i => (deliveryWork i).program backend.deliveries.textArgument)
        s.deliveries deliveryFaults).exec
      (Journal.perform (Deliveries.apiAct backend.deliveries)) deliverySched = some d) :
    (∀ row ∈ c.world.world.world.db.shipments.rows, row ∈ s.tables.shipments.shipments.rows) ∧
    (∀ item ∈ c.world.world.world.db.items.rows,
      ∃ row ∈ s.tables.shipments.shipments.rows, row.shipmentId = item.shipmentId) ∧
    (∀ row ∈ d.world.world.world.db.deliveries.rows, row ∈ s.tables.deliveries.deliveries.rows) ∧
    (∀ call ∈ c.world.entries, Shipments.StoresShipment call.op → call.answer.isOk = false) ∧
    ∀ call ∈ d.world.entries, Deliveries.StoresDelivery call.op → call.answer.isOk = false := by
  have hs := Shipments.shipments_noneStored hshipments hc
  have hds := Deliveries.deliveries_noneStored hdeliveries hd
  refine ⟨hs.rows, fun item hitem => ?_, hds.rows, hs.raised, hds.raised⟩
  obtain ⟨row, hrow⟩ :=
    Option.isSome_iff_exists.mp (c.world.world.world.db.shipmentOf item hitem)
  exact ⟨row, hs.rows row (Table.mem_of_find? hrow), Table.key_of_find? hrow⟩

/-- The small system over databases with the two checks. -/
def checkedBackend : Backend :=
  { sampleBackend with
    shipments := { sampleBackend.shipments with
      pg := { sampleBackend.shipments.pg with refusesShipment := Shipments.ckShipmentStatus } }
    deliveries := { sampleBackend.deliveries with
      pg := { sampleBackend.deliveries.pg with refusesDelivery := Deliveries.ckDeliveryStatus } } }

/-- A request to create a shipment. -/
def sampleCreation : Shipments.Work :=
  .request (.createShipment ⟨⟨"Latvia", "Riga", ""⟩, ⟨"Norway", "Oslo", ""⟩, 20000⟩ ⟨9⟩
    (fun n => n) ⟨0, ⟨10⟩, 0⟩)

/-- A request to create a delivery. -/
def sampleAssignment : Deliveries.Work :=
  .request (.createDelivery ⟨⟨2⟩, ⟨5⟩, none, some .assigned⟩ ⟨11⟩ (fun n => n) 0 ⟨0, ⟨12⟩, 0⟩)

theorem nothing_stored_under_status_checks_sample : ∃ c d,
    (Handlers.start (fun _ : Unit => sampleCreation.program) sampleSystem.shipments
      Coroutine.noFaults).exec
      (Journal.perform (Shipments.apiAct checkedBackend.shipments)) [()] = some c ∧
    (Handlers.start (fun _ : Unit =>
        sampleAssignment.program checkedBackend.deliveries.textArgument)
      sampleSystem.deliveries Coroutine.noFaults).exec
      (Journal.perform (Deliveries.apiAct checkedBackend.deliveries)) [(), ()] = some d ∧
    ∀ row ∈ d.world.world.world.db.deliveries.rows,
      row ∈ sampleSystem.tables.deliveries.deliveries.rows := by
  have hc : ∃ c, (Handlers.start (fun _ : Unit => sampleCreation.program) sampleSystem.shipments
      Coroutine.noFaults).exec
      (Journal.perform (Shipments.apiAct checkedBackend.shipments)) [()] = some c := ⟨_, rfl⟩
  have hd : ∃ d, (Handlers.start (fun _ : Unit =>
        sampleAssignment.program checkedBackend.deliveries.textArgument)
      sampleSystem.deliveries Coroutine.noFaults).exec
      (Journal.perform (Deliveries.apiAct checkedBackend.deliveries)) [(), ()] = some d := ⟨_, rfl⟩
  obtain ⟨c, hc⟩ := hc
  obtain ⟨d, hd⟩ := hd
  exact ⟨c, d, hc, hd, (nothing_stored_under_status_checks checkedBackend (fun _ => id)
    (fun _ => id) sampleSystem (fun _ => sampleCreation) (fun _ => sampleAssignment) _ _
    hc hd).2.2.1⟩

end Services

end SupplyChainTracker
