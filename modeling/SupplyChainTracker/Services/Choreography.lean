import SupplyChainTracker.Compensation
import SupplyChainTracker.Saga.BadMessage
import SupplyChainTracker.Saga.Causes

/-!
# The choreography of a compensation

The coordinator publishes commands while the workers of the three services consume them, each
published command any number of times and in any order. What the stores lose is called for by
failure events of claimed sagas; once every published command has been consumed, the stores are
what handling each command once would have left, and every saga that has failed is compensated.
-/

namespace SupplyChainTracker.Compensation

open Saga (Call Claimed Constraints Justified Received SagaDb SagaError SagaInstance SagaStatus
  Task)
open Saga.SagaCompensationWorker
open Warehouse (InventoryRow InventoryStatus releaseWhere releaseWhere_releaseWhere)

/-- What a compensating command has done to the stores. -/
inductive Effect : Type
  | removeDelivery (deliveryId : UUID)
  | releaseRecords (shipmentId : UUID)
  | removeShipment (shipmentId : UUID)
  deriving DecidableEq, Repr

namespace Effect

/-- The contents after an effect. -/
def apply : Effect → View → View
  | removeDelivery deliveryId, v =>
      { v with deliveries := v.deliveries.filter fun d => d.deliveryId ≠ deliveryId }
  | releaseRecords shipmentId, v =>
      { v with records := releaseWhere (fun r => r.shipmentId = shipmentId) v.records }
  | removeShipment shipmentId, v =>
      { v with
        shipments := v.shipments.filter fun s => s.shipmentId ≠ shipmentId
        items := v.items.filter fun i => i.shipmentId ≠ shipmentId }

/-- An effect has taken place. -/
def Done : Effect → View → Prop
  | removeDelivery deliveryId, v => ∀ d ∈ v.deliveries, d.deliveryId ≠ deliveryId
  | releaseRecords shipmentId, v => ∀ r ∈ v.records, r.shipmentId = shipmentId →
      r.status = InventoryStatus.received.value ∨ r.status = InventoryStatus.shipped.value
  | removeShipment shipmentId, v => (∀ s ∈ v.shipments, s.shipmentId ≠ shipmentId) ∧
      ∀ i ∈ v.items, i.shipmentId ≠ shipmentId

/-- Releasing the records of two shipments, one after the other. -/
theorem releaseWhere_shipments (shipmentId other : UUID) (records : List InventoryRow) :
    releaseWhere (fun r => r.shipmentId = shipmentId)
        (releaseWhere (fun r => r.shipmentId = other) records) =
      releaseWhere (fun r => r.shipmentId = other ∨ r.shipmentId = shipmentId) records := by
  rw [releaseWhere_releaseWhere fun r => by simp]
  simp

/-- Effects may be repeated and exchanged, also those of different sagas. -/
theorem absorbing_apply : Absorbing apply where
  idem e v := by
    cases e with
    | removeDelivery deliveryId => simp [apply, List.filter_filter]
    | releaseRecords shipmentId => simp [apply, releaseWhere_shipments]
    | removeShipment shipmentId => simp [apply, List.filter_filter]
  comm e f v := by
    cases e <;> cases f <;>
      simp only [apply, List.filter_filter, Bool.and_comm, releaseWhere_shipments, or_comm]

/-- An effect has taken place right after it. -/
theorem done_apply (e : Effect) (v : View) : e.Done (e.apply v) := by
  cases e with
  | removeDelivery deliveryId => simp [Done, apply]
  | releaseRecords shipmentId =>
    intro r hr hship
    obtain ⟨r', _, rfl⟩ := List.mem_map.mp hr
    by_cases hs : r'.shipmentId = shipmentId
    · rw [if_pos (decide_eq_true hs), InventoryRow.released]
      split
      · exact .inr ‹_›
      · exact .inl rfl
    · rw [if_neg (by simpa using hs)] at hship
      exact absurd hship hs
  | removeShipment shipmentId => simp [Done, apply]

end Effect

/-- The contents that some effects leave: the rows that none of them is about stay as they are. -/
def after (es : List Effect) (v : View) : View where
  warehouses := v.warehouses
  records := releaseWhere (fun r => Effect.releaseRecords r.shipmentId ∈ es) v.records
  couriers := v.couriers
  deliveries := v.deliveries.filter fun d => Effect.removeDelivery d.deliveryId ∉ es
  shipments := v.shipments.filter fun s => Effect.removeShipment s.shipmentId ∉ es
  items := v.items.filter fun i => Effect.removeShipment i.shipmentId ∉ es

/-- Effects leave what none of them is about. -/
theorem effects_apply (es : List Effect) (v : View) : effects Effect.apply es v = after es v := by
  induction es generalizing v with
  | nil => simp [effects, after, releaseWhere]
  | cons e es ih =>
    change effects Effect.apply es (e.apply v) = _
    rw [ih]
    cases e with
    | removeDelivery deliveryId =>
      simp [after, Effect.apply, List.filter_filter, eq_comm, Bool.and_comm]
    | releaseRecords shipmentId =>
      have hrelease := releaseWhere_releaseWhere
        (p := fun r => r.shipmentId = shipmentId)
        (q := fun r => Effect.releaseRecords r.shipmentId ∈ es) (fun r => by simp) v.records
      simp [after, Effect.apply, hrelease]
    | removeShipment shipmentId =>
      simp [after, Effect.apply, List.filter_filter, eq_comm, Bool.and_comm]

/-- A command asks a worker for an effect: the coordinator sends it for a saga to that end. -/
def Asks (q : Command × String) : Effect → Prop
  | .removeDelivery deliveryId => ∃ saga : SagaInstance, ∃ reason commandId,
      saga.deliveryId = some deliveryId ∧ q ∈ unassignCourier saga reason commandId
  | .releaseRecords shipmentId => ∃ saga : SagaInstance, ∃ reason commandId,
      saga.shipmentId = shipmentId ∧ q ∈ releaseInventory saga reason commandId
  | .removeShipment shipmentId => ∃ saga : SagaInstance, ∃ reason commandId,
      saga.shipmentId = shipmentId ∧ q ∈ cancelShipment saga reason commandId

/-- What an event calls for in a saga. -/
def CalledFor (r : Received) (s : SagaInstance) : Effect → Prop
  | .removeDelivery deliveryId =>
      r.event.eventType = "delivery.failed" ∧ s.deliveryId = some deliveryId
  | .releaseRecords shipmentId =>
      r.event.eventType ∈ ["delivery.failed", "courier.unassigned"] ∧ s.warehouseId.isSome ∧
        s.shipmentId = shipmentId
  | .removeShipment shipmentId => r.event.eventType ∈ triggerTypes ∧ s.shipmentId = shipmentId

section Commands

variable {s : SagaInstance} {r : Received}

/-- Every command of a strategy asks for something that the event calls for. -/
theorem asks_of_mem_strategy {q : Command × String} (h : q ∈ strategy s r) :
    ∃ e, Asks q e ∧ CalledFor r s e := by
  have hunassign : ∀ reason commandId, r.event.eventType = "delivery.failed" →
      q ∈ unassignCourier s reason commandId → ∃ e, Asks q e ∧ CalledFor r s e := by
    intro reason commandId htype hq
    obtain ⟨d, hd, _⟩ := List.mem_map.mp hq
    have hdelivery : s.deliveryId = some d := Option.mem_toList.mp hd
    exact ⟨.removeDelivery d, ⟨s, reason, commandId, hdelivery, hq⟩, htype, hdelivery⟩
  have hrelease : ∀ reason commandId,
      r.event.eventType ∈ ["delivery.failed", "courier.unassigned"] →
      q ∈ releaseInventory s reason commandId → ∃ e, Asks q e ∧ CalledFor r s e := by
    intro reason commandId htype hq
    obtain ⟨w, hw, _⟩ := List.mem_map.mp hq
    have hwarehouse : s.warehouseId = some w := Option.mem_toList.mp hw
    exact ⟨.releaseRecords s.shipmentId, ⟨s, reason, commandId, rfl, hq⟩, htype,
      Option.isSome_iff_exists.mpr ⟨w, hwarehouse⟩, rfl⟩
  have hcancel : ∀ reason commandId, r.event.eventType ∈ triggerTypes →
      q ∈ cancelShipment s reason commandId → ∃ e, Asks q e ∧ CalledFor r s e :=
    fun reason commandId htype hq =>
      ⟨.removeShipment s.shipmentId, ⟨s, reason, commandId, rfl, hq⟩, htype, rfl⟩
  unfold strategy at h
  split at h
  · cases h
  · split_ifs at h with hfailed hunassigned hinsufficient
    · rcases List.mem_append.mp h with h | h
      · rcases List.mem_append.mp h with h | h
        · exact hunassign _ _ hfailed h
        · exact hrelease _ _ (by simp [hfailed]) h
      · exact hcancel _ _ (by simp [triggerTypes, hfailed]) h
    · rcases List.mem_append.mp h with h | h
      · exact hrelease _ _ (by simp [hunassigned]) h
      · exact hcancel _ _ (by simp [triggerTypes, hunassigned]) h
    · exact hcancel _ _ (by simp [triggerTypes, hinsufficient]) h
    · cases h

/-- An event of two of the types has the inventory released, if there is a warehouse. -/
theorem release_mem_strategy {reason : Json} (hreason : failureReason r.event = .ok reason)
    (htype : r.event.eventType ∈ ["delivery.failed", "courier.unassigned"])
    (hwarehouse : s.warehouseId.isSome) :
    ∃ reason commandId, ∃ q ∈ releaseInventory s reason commandId, q ∈ strategy s r := by
  obtain ⟨w, hw⟩ := Option.isSome_iff_exists.mp hwarehouse
  have hmem : ∀ reason commandId,
      (ReleaseInventoryCommand.create s.shipmentId w [] s.sagaId reason commandId,
        "inventory.commands") ∈ releaseInventory s reason commandId := fun _ _ =>
    List.mem_map.mpr ⟨w, Option.mem_toList.mpr hw, rfl⟩
  simp only [List.mem_cons, List.not_mem_nil, or_false] at htype
  rcases htype with htype | htype
  · refine ⟨.str "Delivery failed rollback", r.uuid4 1, _, hmem _ _, ?_⟩
    simp only [strategy, hreason, htype, if_true]
    exact List.mem_append_left _ (List.mem_append_right _ (hmem _ _))
  · refine ⟨.str "Courier unassigned rollback", r.uuid4 1, _, hmem _ _, ?_⟩
    simp only [strategy, hreason, htype, String.reduceEq, if_false, if_true]
    exact List.mem_append_left _ (hmem _ _)

/-- What an event calls for is asked for by some command of the strategy. -/
theorem exists_asks_of_calledFor {reason : Json} (hreason : failureReason r.event = .ok reason)
    {e : Effect} (h : CalledFor r s e) : ∃ q ∈ strategy s r, Asks q e := by
  cases e with
  | removeDelivery deliveryId =>
    obtain ⟨htype, hdelivery⟩ := h
    have hmem : (UnassignCourierCommand.create deliveryId s.sagaId reason (r.uuid4 0),
        "delivery.commands") ∈ unassignCourier s reason (r.uuid4 0) :=
      List.mem_map.mpr ⟨deliveryId, Option.mem_toList.mpr hdelivery, rfl⟩
    refine ⟨_, ?_, s, reason, r.uuid4 0, hdelivery, hmem⟩
    simp only [strategy, hreason, htype, if_true]
    exact List.mem_append_left _ (List.mem_append_left _ hmem)
  | releaseRecords shipmentId =>
    obtain ⟨htype, hwarehouse, rfl⟩ := h
    obtain ⟨reason, commandId, q, hq, hmem⟩ := release_mem_strategy hreason htype hwarehouse
    exact ⟨q, hmem, s, reason, commandId, rfl, hq⟩
  | removeShipment shipmentId =>
    obtain ⟨htype, rfl⟩ := h
    obtain ⟨reason, commandId, hmem⟩ := Saga.cancel_mem_strategy s hreason htype
    exact ⟨_, hmem, s, reason, commandId, rfl, List.mem_singleton.mpr rfl⟩

/-- The topic of a command that asks for an effect. -/
theorem topic_of_asks {q : Command × String} {e : Effect} (h : Asks q e) :
    q.2 = match e with
      | .removeDelivery _ => "delivery.commands"
      | .releaseRecords _ => "inventory.commands"
      | .removeShipment _ => "shipment.commands" := by
  cases e with
  | removeDelivery deliveryId =>
    obtain ⟨saga, reason, commandId, _, hq⟩ := h
    obtain ⟨d, _, rfl⟩ := List.mem_map.mp hq
    rfl
  | releaseRecords shipmentId =>
    obtain ⟨saga, reason, commandId, _, hq⟩ := h
    obtain ⟨w, _, rfl⟩ := List.mem_map.mp hq
    rfl
  | removeShipment shipmentId =>
    obtain ⟨saga, reason, commandId, _, hq⟩ := h
    exact congrArg Prod.snd (List.mem_singleton.mp hq)

/-- The id that an effect is about. -/
def Effect.id : Effect → UUID
  | .removeDelivery deliveryId => deliveryId
  | .releaseRecords shipmentId => shipmentId
  | .removeShipment shipmentId => shipmentId

/-- A command names the id that its effect is about. -/
theorem id_of_asks {q : Command × String} {e : Effect} (h : Asks q e) :
    q.1.payload.get? (if q.2 = "delivery.commands" then "delivery_id" else "shipment_id") =
      some (some (.str e.id.str)) := by
  cases e with
  | removeDelivery deliveryId =>
    obtain ⟨saga, reason, commandId, hsaga, hq⟩ := h
    rw [unassignCourier, hsaga] at hq
    obtain rfl := List.mem_singleton.mp hq
    rfl
  | releaseRecords shipmentId =>
    obtain ⟨saga, reason, commandId, rfl, hq⟩ := h
    obtain ⟨w, _, rfl⟩ := List.mem_map.mp hq
    rfl
  | removeShipment shipmentId =>
    obtain ⟨saga, reason, commandId, rfl, hq⟩ := h
    obtain rfl := List.mem_singleton.mp hq
    rfl

/-- A command asks for one effect. -/
theorem asks_unique {q : Command × String} {e f : Effect} (he : Asks q e) (hf : Asks q f) :
    e = f := by
  have hid := (id_of_asks he).symm.trans (id_of_asks hf)
  simp only [Option.some.injEq, Json.str.injEq] at hid
  have hids := congrArg UUID.parse hid
  rw [UUID.parse_str, UUID.parse_str] at hids
  have htopic := (topic_of_asks he).symm.trans (topic_of_asks hf)
  cases e <;> cases f <;> simp_all [Effect.id]

/-- Handling a message lets no exception escape, leaves the rows readable and has the effect that
the message asks for. -/
theorem consume_asks {m : Message} {e : Effect} {stores : Stores}
    (h : Asks (m.command, m.topic) e) (hload : stores.Loadable) :
    (consume m stores).1 = true ∧ (consume m stores).2.Loadable ∧
      (consume m stores).2.view = e.apply stores.view := by
  cases e with
  | removeDelivery deliveryId =>
    obtain ⟨saga, reason, commandId, hsaga, hq⟩ := h
    have hsent : SentFor saga m .unassignCourier := ⟨reason, commandId, hq⟩
    exact consume_sentFor hsaga hsent hload
  | releaseRecords shipmentId =>
    obtain ⟨saga, reason, commandId, rfl, hq⟩ := h
    -- the two steps about the shipment do not look at the delivery
    have hsent : SentFor { saga with deliveryId := some ⟨0⟩ } m .releaseInventory :=
      ⟨reason, commandId, hq⟩
    exact consume_sentFor rfl hsent hload
  | removeShipment shipmentId =>
    obtain ⟨saga, reason, commandId, rfl, hq⟩ := h
    have hsent : SentFor { saga with deliveryId := some ⟨0⟩ } m .cancelShipment :=
      ⟨reason, commandId, hq⟩
    exact consume_sentFor rfl hsent hload

/-- The workers simulate the effects that messages ask for. -/
theorem simulates_asks : Simulates (fun m s => (consume m s).2)
    (fun m => Asks (m.command, m.topic)) Stores.Loadable Stores.view Effect.apply where
  keeps hasks hload := (consume_asks hasks hload).2.1
  view_step hasks hload := (consume_asks hasks hload).2.2

end Commands

/-- The coordinator, the stores of the services, and the positions of the published commands that
have been consumed so far. -/
structure State (ι : Type) where
  coordinator : Config ι Call Call.Ans SagaError Unit (Journal Call Call.Ans SagaError Saga.World)
  stores : Stores
  consumed : List Nat

/-- One step of the system. -/
inductive Move (ι : Type) : Type
  /-- A task of the coordinator performs its next call. -/
  | call (i : ι)
  /-- The worker of its topic handles the command published at a position. -/
  | consume (position : Nat) (now : Clock)

namespace State

variable {ι : Type}

/-- The commands published so far. -/
def published (s : State ι) : List (Command × String) := s.coordinator.world.world.published

/-- Every published command has been consumed. -/
def Drained (s : State ι) : Prop := ∀ n < s.published.length, n ∈ s.consumed

instance (s : State ι) : Decidable s.Drained :=
  inferInstanceAs (Decidable (∀ n < s.published.length, n ∈ s.consumed))

/-- The calls of the coordinator's tasks so far. -/
def past (s : State ι) : Saga.Past := s.coordinator.world.entries

/-- Nothing has happened yet. -/
def start (tasks : ι → Task) (db : SagaDb) (faults : Nat → Option SagaError) (stores : Stores) :
    State ι := ⟨Saga.coordinator tasks db faults, stores, []⟩

variable [DecidableEq ι] (c : Constraints)

/-- A step; a task that has ended and a position without a command cannot be picked. -/
def step : Move ι → State ι → Option (State ι)
  | .call i, s => (s.coordinator.step (Journal.perform (Saga.act c)) i).map fun d =>
      { s with coordinator := d }
  | .consume position now, s => s.published[position]?.map fun q =>
      { s with
        stores := (consume ⟨q.1, q.2, now⟩ s.stores).2
        consumed := s.consumed ++ [position] }

/-- Steps one after the other. -/
def exec : List (Move ι) → State ι → Option (State ι)
  | [], s => some s
  | m :: moves, s => (s.step c m).bind (exec moves)

variable {c}

/-- What every step keeps holds at the end of every run. -/
theorem exec_of_step (inv : State ι → Prop)
    (hinv : ∀ s m s', inv s → s.step c m = some s' → inv s') {moves : List (Move ι)}
    {s s' : State ι} (hs : inv s) (h : s.exec c moves = some s') : inv s' := by
  induction moves generalizing s with
  | nil => exact Option.some.inj h ▸ hs
  | cons m moves ih =>
    obtain ⟨d, hd, h⟩ := Option.bind_eq_some_iff.mp h
    exact ih (hinv s m d hs hd) h

/-- How a state has come about from the first one: by a run of the coordinator, and by messages
that are the consumed commands. -/
structure Traced (c : Constraints) (first s : State ι) : Prop where
  coordinator : ∃ sched, first.coordinator.exec (Journal.perform (Saga.act c)) sched =
    some s.coordinator
  stores : ∃ messages : List Message, s.stores = consumeAll messages first.stores ∧
    (∀ m ∈ messages, (m.command, m.topic) ∈ s.published) ∧
    ∀ n ∈ s.consumed, ∃ m ∈ messages, s.published[n]? = some (m.command, m.topic)

/-- A step of a task only adds to what has been published. -/
theorem published_prefix_of_step {i : ι} {s : State ι}
    {d : Config ι Call Call.Ans SagaError Unit (Journal Call Call.Ans SagaError Saga.World)}
    (h : s.coordinator.step (Journal.perform (Saga.act c)) i = some d) :
    s.published <+: d.world.world.published := by
  obtain ⟨op, k, _, rfl⟩ := Config.step_cases h
  rcases s.coordinator.world.perform_cases (Saga.act c) op with
    ⟨e, _, hworld, _⟩ | ⟨_, hworld, _⟩
  · exact hworld ▸ List.prefix_refl _
  · exact hworld ▸ Saga.published_prefix c op _

/-- Every step leads from a traced state to a traced state. -/
theorem Traced.step {first s s' : State ι} {m : Move ι} (h : Traced c first s)
    (hstep : s.step c m = some s') : Traced c first s' := by
  obtain ⟨⟨sched, hsched⟩, messages, hstores, hsent, hconsumed⟩ := h
  cases m with
  | call i =>
    obtain ⟨d, hd, rfl⟩ := Option.map_eq_some_iff.mp hstep
    have hprefix := published_prefix_of_step hd
    refine ⟨⟨sched ++ [i], ?_⟩, messages, hstores, fun m hm => hprefix.subset (hsent m hm), ?_⟩
    · rw [Config.exec_append, hsched]
      simp only [Option.bind_some, Config.exec, hd]
    · intro n hn
      obtain ⟨m, hm, hget⟩ := hconsumed n hn
      obtain ⟨hlt, hget⟩ := List.getElem?_eq_some_iff.mp hget
      exact ⟨m, hm, (List.prefix_iff_getElem?.mp hprefix n hlt).trans (congrArg some hget)⟩
  | consume position now =>
    obtain ⟨q, hq, rfl⟩ := Option.map_eq_some_iff.mp hstep
    refine ⟨⟨sched, hsched⟩, messages ++ [⟨q.1, q.2, now⟩], ?_, ?_, ?_⟩
    · simp only [consumeAll, List.foldl_append, List.foldl_cons, List.foldl_nil]
      rw [hstores]
      rfl
    · intro m hm
      rcases List.mem_append.mp hm with hm | hm
      · exact hsent m hm
      · obtain rfl := List.mem_singleton.mp hm
        exact List.mem_of_getElem? hq
    · intro n hn
      rcases List.mem_append.mp hn with hn | hn
      · obtain ⟨m, hm, hget⟩ := hconsumed n hn
        exact ⟨m, List.mem_append_left _ hm, hget⟩
      · obtain rfl := List.mem_singleton.mp hn
        exact ⟨_, List.mem_append_right _ (List.mem_singleton.mpr rfl), hq⟩

theorem Traced.refl (tasks : ι → Task) (db : SagaDb) (faults : Nat → Option SagaError)
    (stores : Stores) : Traced c (start tasks db faults stores) (start tasks db faults stores) where
  coordinator := ⟨[], rfl⟩
  stores := ⟨[], rfl, nofun, nofun⟩

end State

section Runs

variable {ι : Type} [DecidableEq ι] {c : Constraints} {tasks : ι → Task} {db : SagaDb}
  {faults : Nat → Option SagaError} {stores : Stores} {moves : List (Move ι)} {s : State ι}

/-- Every state that a run reaches is traced. -/
theorem traced_of_exec (h : (State.start tasks db faults stores).exec c moves = some s) :
    State.Traced c (State.start tasks db faults stores) s :=
  State.exec_of_step (State.Traced c (State.start tasks db faults stores))
    (fun _ _ _ hs hstep => hs.step hstep) (State.Traced.refl tasks db faults stores) h

/-- The accounts of the coordinator are kept in every state that a run reaches. -/
theorem accounts_of_exec (h : (State.start tasks db faults stores).exec c moves = some s) :
    Saga.Accounts tasks db s.coordinator.world.world s.past := by
  obtain ⟨sched, hsched⟩ := (traced_of_exec h).coordinator
  exact Saga.exec_accounts c tasks db faults hsched

/-- Every published command asks for something that a failure event of a claimed saga calls
for. -/
theorem asks_of_published (h : (State.start tasks db faults stores).exec c moves = some s)
    {q : Command × String} (hq : q ∈ s.published) :
    ∃ e, Asks q e ∧ ∃ r saga, Claimed tasks s.past r saga ∧ CalledFor r saga e := by
  obtain ⟨r, saga, hclaimed, hmem⟩ := (accounts_of_exec h).published q hq
  obtain ⟨e, hasks, hcalled⟩ := asks_of_mem_strategy hmem
  exact ⟨e, hasks, r, saga, hclaimed, hcalled⟩

/-- The effects that have taken place: those of the consumed commands, and, once every command has
been consumed, those of all commands. -/
theorem effects_of_exec (hload : stores.Loadable)
    (h : (State.start tasks db faults stores).exec c moves = some s) :
    ∃ es : List Effect, s.stores.view = effects Effect.apply es stores.view ∧
      (∀ e ∈ es, ∃ q ∈ s.published, Asks q e) ∧
      (s.Drained → ∀ q ∈ s.published, ∀ e, Asks q e → e ∈ es) := by
  obtain ⟨messages, hstores, hsent, hconsumed⟩ := (traced_of_exec h).stores
  have hkinds : ∀ m ∈ messages, ∃ e, Asks (m.command, m.topic) e := fun m hm =>
    (asks_of_published h (hsent m hm)).imp fun _ he => he.1
  obtain ⟨es, hes, hall, hview⟩ := simulates_asks.view_foldl hkinds hload
  refine ⟨es, hstores ▸ hview, fun e he => ?_, fun hdrained q hq e he => ?_⟩
  · obtain ⟨m, hm, hasks⟩ := hes e he
    exact ⟨_, hsent m hm, hasks⟩
  · obtain ⟨n, hn, hget⟩ := List.mem_iff_getElem.mp hq
    obtain ⟨m, hm, hmget⟩ := hconsumed n (hdrained n hn)
    rw [List.getElem?_eq_getElem hn, hget] at hmget
    obtain ⟨f, hf, hasks⟩ := hall m hm
    rw [← Option.some.inj hmget] at hasks
    exact asks_unique he hasks ▸ hf

/-- The contents of the stores are what some effects leave, each of which is called for by a
failure event of a claimed saga. -/
theorem only_called_for_effects (hload : stores.Loadable)
    (h : (State.start tasks db faults stores).exec c moves = some s) :
    ∃ es : List Effect, s.stores.view = after es stores.view ∧
      ∀ e ∈ es, ∃ r saga, Claimed tasks s.past r saga ∧ CalledFor r saga e := by
  obtain ⟨es, hview, hes, _⟩ := effects_of_exec hload h
  refine ⟨es, hview.trans (effects_apply es _), fun e he => ?_⟩
  obtain ⟨q, hq, hasks⟩ := hes e he
  obtain ⟨f, hasks', hcause⟩ := asks_of_published h hq
  rw [asks_unique hasks hasks']
  exact hcause

/-- The commands published in a state, each as a message, in the order of their publication. -/
def State.messages (s : State ι) (now : Clock) : List Message :=
  s.published.map fun q => ⟨q.1, q.2, now⟩

/-- Once every published command has been consumed at least once, the contents of the stores are
what handling each command once in the order of publication leaves. -/
theorem drained_view_eq (hload : stores.Loadable)
    (h : (State.start tasks db faults stores).exec c moves = some s) (hdrained : s.Drained)
    (now : Clock) : s.stores.view = (consumeAll (s.messages now) stores).view := by
  obtain ⟨es, hview, hes, hall⟩ := effects_of_exec hload h
  have hpublished : ∀ m ∈ s.messages now, (m.command, m.topic) ∈ s.published := by
    intro m hm
    obtain ⟨q, hq, rfl⟩ := List.mem_map.mp hm
    exact hq
  rw [hview]
  refine (simulates_asks.confluent Effect.absorbing_apply asks_unique (fun m hm => ?_)
    (fun e he => ?_) hload).symm
  · obtain ⟨e, hasks, _⟩ := asks_of_published h (hpublished m hm)
    exact ⟨e, hall hdrained _ (hpublished m hm) e hasks, hasks⟩
  · obtain ⟨q, hq, hasks⟩ := hes e he
    exact ⟨_, List.mem_map.mpr ⟨q, hq, rfl⟩, hasks⟩

/-- A saga that has failed since the start has been claimed by the handler of an event, and once
every published command has been consumed, all that the event calls for in it has taken place. -/
theorem failed_saga_compensated (hload : stores.Loadable)
    (h : (State.start tasks db faults stores).exec c moves = some s) (hdrained : s.Drained)
    {sagaId : UUID}
    (hfirst : (Saga.World.initial db).status? sagaId ≠ some SagaStatus.failed.value)
    (hfailed : s.coordinator.world.world.status? sagaId = some SagaStatus.failed.value) :
    ∃ r saga, Claimed tasks s.past r saga ∧ saga.sagaId = sagaId ∧
      ∀ e, CalledFor r saga e → e.Done s.stores.view := by
  have hacc := accounts_of_exec h
  obtain ⟨r, saga, reason, hclaimed, hid, hreason, hsent⟩ :=
    (hacc.status sagaId .failed hfailed).resolve_left hfirst
  refine ⟨r, saga, hclaimed, hid, fun e he => ?_⟩
  obtain ⟨es, hview, _, hall⟩ := effects_of_exec hload h
  obtain ⟨q, hq, hasks⟩ := exists_asks_of_calledFor hreason he
  have hmem := hall hdrained q (hacc.sent q (hsent q hq)) e hasks
  -- an effect that has taken place would change nothing if it took place again
  rw [hview, ← Effect.absorbing_apply.absorb hmem]
  exact e.done_apply _

end Runs

/-- The handler of one `delivery.failed` event, its commands consumed out of order and one of them
twice. -/
def sampleMoves : List (Move Unit) :=
  List.replicate 8 (.call ()) ++ [2, 0, 1, 0].map fun position => .consume position fun n => n

/-- The sample saga before its failure event is handled. -/
def sampleStart : State Unit :=
  .start (fun _ => .handle (Saga.sampleEvent "delivery.failed")) Saga.sampleDb Coroutine.noFaults
    sampleStores

private theorem exists_sample_run : ∃ s, sampleStart.exec .leftAside sampleMoves = some s ∧
    s.Drained ∧ s.coordinator.world.world.status? ⟨1⟩ = some SagaStatus.failed.value :=
  ⟨_, rfl, by decide, rfl⟩

theorem only_called_for_effects_sample : ∃ s, sampleStart.exec .leftAside sampleMoves = some s ∧
    ∃ es : List Effect, s.stores.view = after es sampleStores.view ∧ ∀ e ∈ es, ∃ r saga,
      Claimed (fun _ : Unit => .handle (Saga.sampleEvent "delivery.failed")) s.past r saga ∧
        CalledFor r saga e := by
  obtain ⟨s, hs, _⟩ := exists_sample_run
  exact ⟨s, hs, only_called_for_effects loadable_sampleStores hs⟩

theorem drained_view_eq_sample : ∃ s, sampleStart.exec .leftAside sampleMoves = some s ∧
    s.Drained ∧ s.stores.view = (consumeAll (s.messages fun n => n) sampleStores).view := by
  obtain ⟨s, hs, hdrained, _⟩ := exists_sample_run
  exact ⟨s, hs, hdrained, drained_view_eq loadable_sampleStores hs hdrained fun n => n⟩

theorem failed_saga_compensated_sample : ∃ s, sampleStart.exec .leftAside sampleMoves = some s ∧
    s.Drained ∧ ∃ r saga,
      Claimed (fun _ : Unit => .handle (Saga.sampleEvent "delivery.failed")) s.past r saga ∧
        saga.sagaId = ⟨1⟩ ∧ ∀ e, CalledFor r saga e → e.Done s.stores.view := by
  obtain ⟨s, hs, hdrained, hfailed⟩ := exists_sample_run
  exact ⟨s, hs, hdrained,
    failed_saga_compensated loadable_sampleStores hs hdrained (by decide) hfailed⟩

end SupplyChainTracker.Compensation
