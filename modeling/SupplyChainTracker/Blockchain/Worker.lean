import SupplyChainTracker.Blockchain.Evolution

/-!
# The worker of the blockchain service

`BlockchainWorker.run` over the events that `consume_event` yields. The decoder has made the id of
an event's aggregate a `UUID` already, and `uuid.UUID` raises when it is given one, so that no
target event reaches the service.
-/

namespace SupplyChainTracker.Blockchain

/-- What `uuid.UUID` is given. -/
inductive HexArgument : Type
  | str (text : String)
  | uuid (id : UUID)

/-- `uuid.UUID(hex)`, which begins with `hex.replace`. -/
def HexArgument.parse : HexArgument → Except BlockchainError UUID
  | .str text =>
      match UUID.parse text with
      | some id => .ok id
      | none => .error (.valueError "badly formed hexadecimal UUID string")
  | .uuid _ => .error (.attributeError "'UUID' object has no attribute 'replace'")

/-- An event that the queue yields, with what the defaults of a record for it draw. -/
structure Yielded where
  event : Event
  recordId : UUID
  createdAt : DateTime

/-- `BlockchainWorker`; the default is `TARGET_EVENTS` of the settings. -/
structure BlockchainWorker where
  targetEvents : List String :=
    ["shipment.created", "shipment.updated", "delivery.completed", "inventory.released"]

namespace BlockchainWorker

variable (worker : BlockchainWorker)

/-- The body of the `try` in `run`. -/
def process (yielded : Yielded) : Program Unit := do
  let shipmentId ← Coroutine.ofExcept (HexArgument.uuid yielded.event.aggregateId).parse
  let _ ← BlockchainService.registerEvent shipmentId yielded.event.payload yielded.recordId
    yielded.createdAt
  return ()

/-- `run`, for the events that have been yielded. -/
def run : List Yielded → Program Unit
  | [] => .ret ()
  | yielded :: rest =>
      if yielded.event.eventType ∈ worker.targetEvents then
        ((process yielded).tryCatch fun _ => .ret ()).bind fun _ => run rest
      else run rest

end BlockchainWorker

/-- Each event at its first delivery. -/
def firstDeliveries : List Event → List Event
  | [] => []
  | event :: events =>
      event :: (firstDeliveries events).filter fun other => other.eventId ≠ event.eventId

/-- The events that are to be recorded. -/
def BlockchainWorker.targets (worker : BlockchainWorker) (yielded : List Yielded) : List Event :=
  firstDeliveries ((yielded.map Yielded.event).filter fun event =>
    event.eventType ∈ worker.targetEvents)

/-- The rows of a table that another one has not had. -/
def RecordDb.added (db db' : RecordDb) : List RecordRow :=
  db'.records.rows.filter fun row => db.records.find? row.recordId = none

/-- Since another world, one transaction has been sent for each of some events and one pending
record stored, with the event's payload and the id of its shipment, and nothing besides. -/
structure RecordedOnce (shipmentOf : Event → UUID) (events : List Event) (w w' : World) :
    Prop where
  sent : (w'.sent.map Prod.fst).Perm (w.sent.map Prod.fst ++ events.map Event.payload)
  stored : ((w.db.added w'.db).map fun row => (row.shipmentId, row.payload, row.status)).Perm
    (events.map fun event => (shipmentOf event, event.payload, BlockchainTxStatus.pending))

theorem firstDeliveries_eq_nil_iff (events : List Event) :
    firstDeliveries events = [] ↔ events = [] := by
  cases events <;> simp [firstDeliveries]

theorem BlockchainWorker.targets_eq_nil_iff (worker : BlockchainWorker)
    (yielded : List Yielded) :
    worker.targets yielded = [] ↔ ∀ y ∈ yielded, y.event.eventType ∉ worker.targetEvents := by
  rw [targets, firstDeliveries_eq_nil_iff, List.filter_eq_nil_iff, List.forall_mem_map]
  simp only [decide_eq_true_eq]

/-- A table has added nothing to itself. -/
theorem RecordDb.added_self (db : RecordDb) : db.added db = [] := by
  refine List.filter_eq_nil_iff.mpr fun row hrow hnone => ?_
  exact (db.records.find?_eq_none_iff _).mp (of_decide_eq_true hnone) row hrow rfl

/-- Where nothing has happened, there was nothing to record. -/
theorem recordedOnce_self_iff {shipmentOf : Event → UUID} {events : List Event} {w : World} :
    RecordedOnce shipmentOf events w w ↔ events = [] := by
  constructor
  · rintro ⟨_, hstored⟩
    rw [RecordDb.added_self, List.map_nil, List.nil_perm, List.map_eq_nil_iff] at hstored
    exact hstored
  · rintro rfl
    exact ⟨by simp, by simp [RecordDb.added_self]⟩

/-- No call is made for an event. -/
theorem BlockchainWorker.process_eq (yielded : Yielded) :
    process yielded =
      .raise (.attributeError "'UUID' object has no attribute 'replace'") := rfl

/-- No call is made at all. -/
theorem BlockchainWorker.run_eq (worker : BlockchainWorker) (yielded : List Yielded) :
    worker.run yielded = .ret () := by
  induction yielded with
  | nil => rfl
  | cons y rest ih =>
    rw [run, process_eq]
    split_ifs
    · exact ih
    · exact ih

/-- Every target event is recorded once exactly when no event is one. -/
theorem recorded_once_iff (worker : BlockchainWorker) (shipmentOf : Event → UUID)
    (yielded : List Yielded) (w : World) :
    RecordedOnce shipmentOf (worker.targets yielded) w ((worker.run yielded).run act w).2 ↔
      ∀ y ∈ yielded, y.event.eventType ∉ worker.targetEvents := by
  rw [worker.run_eq, Coroutine.run_ret, recordedOnce_self_iff, worker.targets_eq_nil_iff]

/-- A shipment has been created, and neither sent nor stored. -/
theorem created_unrecorded :
    ¬ RecordedOnce Event.aggregateId
      (BlockchainWorker.targets {} [⟨DomainEventConverter.toEvent
        (.shipmentCreated ⟨92⟩ "Oslo" "Riga" []) ⟨0, ⟨93⟩, 0⟩, ⟨94⟩, 0⟩])
      (World.start .empty verifyingGateway)
      ((BlockchainWorker.run {} [⟨DomainEventConverter.toEvent
        (.shipmentCreated ⟨92⟩ "Oslo" "Riga" []) ⟨0, ⟨93⟩, 0⟩, ⟨94⟩, 0⟩]).run act
        (World.start .empty verifyingGateway)).2 := by
  rintro ⟨hsent, _⟩
  exact absurd hsent.length_eq (by decide)

end SupplyChainTracker.Blockchain
