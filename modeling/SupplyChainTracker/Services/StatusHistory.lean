import SupplyChainTracker.Core.Audit
import SupplyChainTracker.Services.StatusChecks

/-!
# The histories of statuses

Triggers of the shipment and the delivery service write a history row for every insert and for
every update that changes a status; deleting a shipment or a delivery drops its rows. However
requests and commands interleave and whichever calls raise, the rows of each shipment and of each
delivery are a history of its status. The checks on the statuses are left to the database.
-/

namespace SupplyChainTracker

/-- A row of `shipment_status_history` or `delivery_status_history`; its random id and the columns
that no trigger fills are left out. -/
structure HistoryRow where
  subjectId : UUID
  oldStatus : Option String
  newStatus : String
  changedAt : DateTime
  deriving DecidableEq, Repr

/-- The change that a row records. -/
def HistoryRow.change? (r : HistoryRow) : Option (Audit.Change String) :=
  some ⟨r.oldStatus, r.newStatus⟩

/-- The body of `log_shipment_status_change` and of `log_delivery_status_change`, by the statuses
of the old row, if there is one, and of the new row. -/
def logStatusChange (subjectId : UUID) (now : DateTime) : Option String → String → List HistoryRow
  | some old, new => if old ≠ new then [⟨subjectId, some old, new, now⟩] else []
  | none, new => [⟨subjectId, none, new, now⟩]

theorem change?_logStatusChange (subjectId : UUID) (now : DateTime) (old? : Option String)
    (new : String) : (logStatusChange subjectId now old? new).filterMap HistoryRow.change? =
      Audit.written old? new := by
  cases old? with
  | none => rfl
  | some old =>
    simp only [logStatusChange, Audit.written, Option.some.injEq]
    by_cases h : old = new
    · simp [h]
    · simp only [ne_eq, h, not_false_eq_true, if_true, if_false]
      rfl

theorem subjectId_of_mem_logStatusChange {subjectId : UUID} {now : DateTime} {old? : Option String}
    {new : String} {r : HistoryRow} (h : r ∈ logStatusChange subjectId now old? new) :
    r.subjectId = subjectId := by
  cases old? with
  | none => exact congrArg HistoryRow.subjectId (List.mem_singleton.mp h)
  | some old =>
    simp only [logStatusChange] at h
    split at h
    · exact congrArg HistoryRow.subjectId (List.mem_singleton.mp h)
    · cases h

/-- The rows are a history of the status of everything stored. -/
abbrev RecordsStatuses (rows : List HistoryRow) (status? : UUID → Option String) : Prop :=
  Audit.Records HistoryRow.subjectId HistoryRow.change? rows status?

/-- The history after a statement that has upserted a row; a refused one leaves the row as it was,
so that nothing has changed. -/
def historyAfterUpsert (history : List HistoryRow) (subjectId : UUID) (now : DateTime)
    (old? new? : Option String) : List HistoryRow :=
  match new? with
  | none => history
  | some new => history ++ logStatusChange subjectId now old? new

/-- An upsert keeps the history if it puts a status in the place of the old one, or is refused. -/
theorem RecordsStatuses.upsert {history : List HistoryRow} {status? status?' : UUID → Option String}
    (h : RecordsStatuses history status?) (subjectId : UUID) (now : DateTime)
    (hupsert : status?' = status? ∨
      ∃ new, status?' = Function.update status? subjectId (some new)) :
    RecordsStatuses
      (historyAfterUpsert history subjectId now (status? subjectId) (status?' subjectId))
      status?' := by
  have hchange : ∀ new, status?' subjectId = some new →
      (∀ id, id ≠ subjectId → status?' id = status? id) →
      RecordsStatuses (history ++ logStatusChange subjectId now (status? subjectId) new)
        status?' := by
    intro new hnew hother
    refine Audit.Records.append h (k := subjectId)
      (fun r hr => subjectId_of_mem_logStatusChange hr) ?_ hother
    rw [change?_logStatusChange, hnew]
    exact Audit.leads_written _ _
  rcases hupsert with rfl | ⟨new, rfl⟩
  · unfold historyAfterUpsert
    split
    · exact h
    · exact hchange _ ‹_› fun _ _ => rfl
  · rw [Function.update_self]
    exact hchange new (Function.update_self ..) fun id hne => Function.update_of_ne hne _ _

/-- A deletion keeps the history if it drops the rows. -/
theorem RecordsStatuses.delete {history : List HistoryRow} {status? status?' : UUID → Option String}
    (h : RecordsStatuses history status?) (subjectId : UUID)
    (hdelete : status?' = Function.update status? subjectId none) :
    RecordsStatuses (history.filter fun r => r.subjectId ≠ subjectId) status?' := by
  subst hdelete
  exact Audit.Records.forget h (Function.update_self ..) fun id hne => Function.update_of_ne hne _ _

/-- Tables with the history of statuses that the triggers write. -/
structure Tracked (W : Type) where
  world : W
  history : List HistoryRow

/-- Where every statement keeps the history, every run of any handlers does, whichever calls
raise. -/
theorem exec_recordsStatuses {ι Op : Type} {Ans : Op → Type} {ε W : Type} [DecidableEq ι]
    {act : (op : Op) → Tracked W → Except ε (Ans op) × Tracked W}
    (status? : W → UUID → Option String) {raise : QueueError → ε} {adapter : QueueAdapter}
    (hact : ∀ op t, RecordsStatuses t.history (status? t.world) →
      RecordsStatuses (act op t).2.history (status? (act op t).2.world))
    {sched : List ι} {c c' : Handlers ι Op Ans ε (Tracked W)}
    (hc : RecordsStatuses c.world.world.world.history (status? c.world.world.world.world))
    (h : c.exec (Journal.perform (HandlerCall.act raise adapter act)) sched = some c') :
    RecordsStatuses c'.world.world.world.history (status? c'.world.world.world.world) := by
  refine Journal.exec_of_act (fun (s : Served (Tracked W)) _ =>
    RecordsStatuses s.world.history (status? s.world.world)) (fun _ _ _ _ hs => hs) ?_ hc h
  intro op s _ hs
  cases op with
  | repository op => exact hact op s.world hs
  | publishEvent call => exact hs

namespace Shipments

/-- The stored status of a shipment. -/
def World.shipmentStatus? (w : World) (shipmentId : UUID) : Option String :=
  Audit.column ShipmentRow.status w.db.shipments shipmentId

/-- The answer to a call of a repository, with the triggers. -/
def RepositoryCall.tracked (backend : Backend) (op : RepositoryCall) (t : Tracked World) :
    Except ShipmentError op.Ans × Tracked World :=
  let result := op.act backend t.world
  (result.1, {
    world := result.2
    history := match op with
      | .shipment (.save saved) => historyAfterUpsert t.history saved.shipmentId t.world.now
          (t.world.shipmentStatus? saved.shipmentId) (result.2.shipmentStatus? saved.shipmentId)
      | .delete (.delete shipmentId) => t.history.filter fun r => r.subjectId ≠ shipmentId
      | _ => t.history })

/-- The answer to a call of a handler, with the triggers. -/
def trackedAct (backend : Backend) :=
  HandlerCall.act ShipmentError.ofQueue backend.adapter (RepositoryCall.tracked backend)

/-- A save leaves the statuses alone or replaces that of its shipment. -/
theorem shipmentStatus?_act_save (pg : Postgres)
    (textArgument : Place → Except ShipmentError String) (shipment : Shipment) (w : World) :
    (ShipmentRepository.act pg textArgument (.save shipment) w).2.shipmentStatus? =
      w.shipmentStatus? ∨
    ∃ new, (ShipmentRepository.act pg textArgument (.save shipment) w).2.shipmentStatus? =
      Function.update w.shipmentStatus? shipment.shipmentId (some new) := by
  simp only [ShipmentRepository.act]
  cases textArgument shipment.origin with
  | error e => exact .inl rfl
  | ok origin =>
    cases textArgument shipment.destination with
    | error e => exact .inl rfl
    | ok destination =>
      simp only [ShipmentDb.saveShipment]
      cases pg.refusesShipment (w.db.shipmentTarget shipment origin destination w.now) with
      | some violated => exact .inl rfl
      | none =>
        have hput := Audit.column_put ShipmentRow.status w.db.shipments
          (w.db.shipmentTarget shipment origin destination w.now)
        rw [ShipmentDb.shipmentId_shipmentTarget] at hput
        exact .inr ⟨_, hput⟩

/-- Every call of a repository keeps the history. -/
theorem recordsStatuses_tracked (backend : Backend) (op : RepositoryCall) {t : Tracked World}
    (h : RecordsStatuses t.history t.world.shipmentStatus?) :
    RecordsStatuses (op.tracked backend t).2.history
      (op.tracked backend t).2.world.shipmentStatus? := by
  cases op with
  | shipment op =>
    cases op with
    | save shipment =>
      exact h.upsert shipment.shipmentId t.world.now
        (shipmentStatus?_act_save backend.pg backend.textArgument shipment t.world)
    | get | getAll => exact h
  | delete op =>
    cases op with
    | delete shipmentId =>
      exact h.delete shipmentId (Audit.column_removeWhere ShipmentRow.status _ shipmentId)
  | item op =>
    have hsame : (ItemRepository.act backend.pg op t.world).2.shipmentStatus? =
        t.world.shipmentStatus? :=
      congrArg (Audit.column ShipmentRow.status) (shipments_item_act backend.pg op t.world)
    exact hsame ▸ h

end Shipments

namespace Deliveries

/-- The stored status of a delivery. -/
def World.deliveryStatus? (w : World) (deliveryId : UUID) : Option String :=
  Audit.column DeliveryRow.status w.db.deliveries deliveryId

/-- The answer to a statement, with the triggers. -/
def Statement.tracked (backend : Backend) (op : Statement) (t : Tracked World) :
    Except DeliveryError op.Ans × Tracked World :=
  let result := op.act backend.pg t.world
  (result.1, {
    world := result.2
    history := match op with
      | .saveDelivery saved => historyAfterUpsert t.history saved.deliveryId t.world.now
          (World.deliveryStatus? t.world saved.deliveryId)
          (World.deliveryStatus? result.2 saved.deliveryId)
      | .shared (.delete deliveryId) => t.history.filter fun r => r.subjectId ≠ deliveryId
      | _ => t.history })

/-- The answer to a call of a handler, with the triggers. -/
def trackedAct (backend : Backend) :=
  HandlerCall.act DeliveryError.ofQueue backend.adapter (Statement.tracked backend)

/-- Every statement keeps the history. -/
theorem recordsStatuses_tracked (backend : Backend) (op : Statement) {t : Tracked World}
    (h : RecordsStatuses t.history (World.deliveryStatus? t.world)) :
    RecordsStatuses (op.tracked backend t).2.history
      (World.deliveryStatus? (op.tracked backend t).2.world) := by
  cases op with
  | saveDelivery delivery =>
    refine h.upsert delivery.deliveryId t.world.now ?_
    have hcases := saveDelivery_cases backend.pg delivery t.world.now t.world.db
    simp only [Statement.act]
    rcases hcases with ⟨_, db', hsave, _, hdeliveries⟩ | ⟨_, e, hsave⟩
    · have hput := Audit.column_put DeliveryRow.status t.world.db.deliveries
        (t.world.db.deliveryTarget delivery t.world.now)
      rw [DeliveryDb.deliveryId_deliveryTarget, ← hdeliveries] at hput
      rw [hsave]
      exact .inr ⟨_, hput⟩
    · rw [hsave]
      exact .inl rfl
  | shared op =>
    cases op with
    | get deliveryId => exact h
    | delete deliveryId =>
      exact h.delete deliveryId (Audit.column_removeWhere DeliveryRow.status _ deliveryId)
  | saveCourier courierId name contactInfo =>
    have hsame : World.deliveryStatus? (Statement.act backend.pg
        (.saveCourier courierId name contactInfo) t.world).2 = World.deliveryStatus? t.world := by
      simp only [Statement.act, DeliveryDb.saveCourier]
      split <;> rfl
    exact hsame ▸ h
  | deleteCourier courierId =>
    have hsame : World.deliveryStatus? (Statement.act backend.pg
        (.deleteCourier courierId) t.world).2 = World.deliveryStatus? t.world := by
      simp only [Statement.act, DeliveryDb.deleteCourier]
      split <;> rfl
    exact hsame ▸ h
  | listDeliveries | getCourier | listCouriers => exact h

end Deliveries

namespace Services

/-- However requests and commands interleave and whichever calls raise, the history rows of every
shipment and of every delivery lead, one change after the other and from nothing, to its stored
status; of what is not stored there are none. -/
theorem histories_record_statuses {ι κ : Type} [DecidableEq ι] [DecidableEq κ] (backend : Backend)
    (shipmentWork : ι → Shipments.Work) (deliveryWork : κ → Deliveries.Work)
    (s : Served (Tracked Shipments.World)) (t : Served (Tracked Deliveries.World))
    (hs : RecordsStatuses s.world.history s.world.world.shipmentStatus?)
    (ht : RecordsStatuses t.world.history (Deliveries.World.deliveryStatus? t.world.world))
    (shipmentFaults : Nat → Option Shipments.ShipmentError)
    (deliveryFaults : Nat → Option Deliveries.DeliveryError) {shipmentSched : List ι}
    {deliverySched : List κ}
    {c : Handlers ι Shipments.RepositoryCall Shipments.RepositoryCall.Ans Shipments.ShipmentError
      (Tracked Shipments.World)}
    {d : Handlers κ Deliveries.Statement Deliveries.Statement.Ans Deliveries.DeliveryError
      (Tracked Deliveries.World)}
    (hc : (Handlers.start (fun i => (shipmentWork i).program) s shipmentFaults).exec
      (Journal.perform (Shipments.trackedAct backend.shipments)) shipmentSched = some c)
    (hd : (Handlers.start (fun i => (deliveryWork i).program backend.deliveries.textArgument) t
        deliveryFaults).exec
      (Journal.perform (Deliveries.trackedAct backend.deliveries)) deliverySched = some d) :
    RecordsStatuses c.world.world.world.history c.world.world.world.world.shipmentStatus? ∧
    RecordsStatuses d.world.world.world.history
      (Deliveries.World.deliveryStatus? d.world.world.world.world) :=
  ⟨exec_recordsStatuses Shipments.World.shipmentStatus?
      (fun op _ => Shipments.recordsStatuses_tracked backend.shipments op) hs hc,
    exec_recordsStatuses Deliveries.World.deliveryStatus?
      (fun op _ => Deliveries.recordsStatuses_tracked backend.deliveries op) ht hd⟩

/-- The shipment service before its first shipment. -/
def sampleShipments : Served (Tracked Shipments.World) :=
  ⟨⟨⟨⟨Table.empty, Table.empty, nofun⟩, fun n => n, 0⟩, []⟩, emptyQueue⟩

/-- The delivery service with one courier, before its first delivery. -/
def sampleDeliveries : Served (Tracked Deliveries.World) :=
  ⟨⟨⟨⟨Table.empty.put ⟨⟨5⟩, "Ben", "ben@post", 0, 0⟩, Table.empty, nofun⟩, fun n => n, 0⟩, []⟩,
    emptyQueue⟩

theorem histories_record_statuses_sample : ∃ c d,
    (Handlers.start (fun _ : Unit => sampleCreation.program) sampleShipments
      Coroutine.noFaults).exec
      (Journal.perform (Shipments.trackedAct sampleBackend.shipments)) [()] = some c ∧
    (Handlers.start (fun _ : Unit =>
        sampleAssignment.program sampleBackend.deliveries.textArgument) sampleDeliveries
      Coroutine.noFaults).exec
      (Journal.perform (Deliveries.trackedAct sampleBackend.deliveries)) [(), ()] = some d ∧
    RecordsStatuses c.world.world.world.history c.world.world.world.world.shipmentStatus? ∧
    RecordsStatuses d.world.world.world.history
      (Deliveries.World.deliveryStatus? d.world.world.world.world) := by
  have hc : ∃ c, (Handlers.start (fun _ : Unit => sampleCreation.program) sampleShipments
      Coroutine.noFaults).exec
      (Journal.perform (Shipments.trackedAct sampleBackend.shipments)) [()] = some c := ⟨_, rfl⟩
  have hd : ∃ d, (Handlers.start (fun _ : Unit =>
        sampleAssignment.program sampleBackend.deliveries.textArgument) sampleDeliveries
      Coroutine.noFaults).exec
      (Journal.perform (Deliveries.trackedAct sampleBackend.deliveries)) [(), ()] = some d :=
    ⟨_, rfl⟩
  obtain ⟨c, hc⟩ := hc
  obtain ⟨d, hd⟩ := hd
  exact ⟨c, d, hc, hd, histories_record_statuses sampleBackend (fun _ => sampleCreation)
    (fun _ => sampleAssignment) sampleShipments sampleDeliveries (fun _ => rfl) (fun _ => rfl) _ _
    hc hd⟩

end Services

end SupplyChainTracker
