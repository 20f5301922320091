import SupplyChainTracker.Core.Async.Effect
import SupplyChainTracker.Core.Async.Lift
import SupplyChainTracker.Libs.Events
import SupplyChainTracker.Python.Call

/-!
# Publishing events

`publish_event` of the two queue adapters. Both take the topics as further positional
arguments, so a call that names a topic by a keyword raises before their bodies start.
A handler awaits the calls of its repositories and of the queue.
-/

namespace SupplyChainTracker

/-- The exceptions of `publish_event`. -/
inductive QueueError : Type
  | typeError (message : String)
  /-- aiokafka's `KafkaError`. -/
  | kafkaError (message : String)
  /-- Any other exception of the producer. -/
  | external (message : String)
  deriving DecidableEq, Repr

/-- `to_dict`. -/
def Event.toDict (event : Event) : Json := .obj [
  ("event_id", .str event.eventId.str),
  ("event_type", .str event.eventType),
  ("aggregate_id", .str event.aggregateId.str),
  ("aggregate_type", .str event.aggregateType),
  ("payload", event.payload),
  ("timestamp", .str (DateTimeText.isoformat event.timestamp)),
  ("correlation_id", match event.correlationId with
    | some correlationId => .str correlationId.str
    | none => .null)]

/-- A published message. -/
structure Message where
  topic : String
  key : String
  value : Json

/-- The messages of an event queue, in the order of their publication. -/
structure EventQueue where
  messages : List Message
  /-- How many sends the Kafka producer has attempted. -/
  attempts : Nat

namespace EventQueue

/-- A message is stored. -/
def append (q : EventQueue) (message : Message) : EventQueue :=
  { q with messages := q.messages ++ [message] }

/-- A send has been attempted. -/
def tried (q : EventQueue) : EventQueue := { q with attempts := q.attempts + 1 }

end EventQueue

/-- The producer of a `KafkaEventQueueAdapter`, started when the adapter is entered. -/
structure KafkaProducer where
  maxRetries : Nat := 5
  /-- What the attempts at `send_and_wait` raise, one after the other. -/
  sendAndWait : Nat → Option QueueError

/-- An event queue adapter. -/
inductive QueueAdapter : Type
  | memory
  | kafka (producer : KafkaProducer)

/-- The arguments of a call of `publish_event`. -/
structure PublishCall where
  event : Event
  topics : List String := []
  keywords : List (String × String) := []

namespace QueueAdapter

/-- The class of an adapter. -/
def className : QueueAdapter → String
  | memory => "InMemoryEventQueueAdapter"
  | kafka _ => "KafkaEventQueueAdapter"

/-- `_send_with_retry`, with the attempts that are left. -/
def sendWithRetry (producer : KafkaProducer) (message : Message) :
    Nat → EventQueue → Except QueueError Unit × EventQueue
  | 0, q => (.ok (), q)
  | left + 1, q =>
      match producer.sendAndWait q.attempts with
      | none => (.ok (), (q.append message).tried)
      | some (.kafkaError text) =>
          if left = 0 then (.error (.kafkaError text), q.tried)
          else sendWithRetry producer message left q.tried
      | some e => (.error e, q.tried)

/-- Publish one message. -/
def send : QueueAdapter → Message → EventQueue → Except QueueError Unit × EventQueue
  | memory, message, q => (.ok (), q.append message)
  | kafka producer, message, q => sendWithRetry producer message producer.maxRetries q

/-- The body of `publish_event`: one topic after the other. -/
def publishTo (adapter : QueueAdapter) (event : Event) :
    List String → EventQueue → Except QueueError Unit × EventQueue
  | [], q => (.ok (), q)
  | topic :: topics, q =>
      match adapter.send ⟨topic, event.aggregateId.str, event.toDict⟩ q with
      | (.ok (), q) => publishTo adapter event topics q
      | (.error e, q) => (.error e, q)

/-- `publish_event(self, event, *topics)`: no keyword fits the signature. -/
def publishEvent (adapter : QueueAdapter) (call : PublishCall) (q : EventQueue) :
    Except QueueError Unit × EventQueue :=
  match call.keywords with
  | [] => adapter.publishTo call.event call.topics q
  | (name, _) :: _ =>
      (.error (.typeError
        (if name = "self" ∨ name = "event" then
          CallError.multipleValues (adapter.className ++ ".publish_event") name
        else CallError.unexpectedKeyword (adapter.className ++ ".publish_event") name)), q)

/-- A topic that is passed by keyword is not published to. -/
theorem publishEvent_topic (adapter : QueueAdapter) (event : Event) (topic : String)
    (q : EventQueue) :
    adapter.publishEvent { event := event, keywords := [("topic", topic)] } q =
      (.error (.typeError (CallError.unexpectedKeyword
        (adapter.className ++ ".publish_event") "topic")), q) := rfl

/-- A topic that is passed by position is published to in memory. -/
theorem publishEvent_memory (event : Event) (topics : List String) (q : EventQueue) :
    memory.publishEvent { event := event, topics := topics } q =
      (.ok (), topics.foldl (fun q topic =>
        q.append ⟨topic, event.aggregateId.str, event.toDict⟩) q) := by
  change publishTo memory event topics q = _
  induction topics generalizing q with
  | nil => rfl
  | cons topic topics ih => exact ih _

end QueueAdapter

/-- A call that a handler awaits. -/
inductive HandlerCall (Op : Type) : Type
  | repository (op : Op)
  | publishEvent (call : PublishCall)

/-- What a call returns. -/
abbrev HandlerCall.Ans {Op : Type} (Ans : Op → Type) : HandlerCall Op → Type
  | repository op => Ans op
  | publishEvent _ => Unit

/-- A service together with its event queue. -/
structure Served (W : Type) where
  world : W
  queue : EventQueue

/-- The world of a service. -/
def Served.service {W : Type} : Lens (Served W) W where
  get := Served.world
  set s w := { s with world := w }
  get_set _ _ := rfl
  set_get _ := rfl
  set_set _ _ _ := rfl

/-- A handler over the repositories of a service. -/
abbrev Handler (Op : Type) (Ans : Op → Type) (ε α : Type) : Type :=
  Coroutine (HandlerCall Op) (HandlerCall.Ans Ans) ε α

section Handlers

variable {Op Part : Type} {Ans : Op → Type} {PartAns : Part → Type} {ε α W : Type}

/-- The answer to a call of a handler; what the queue raises is an exception of the service. -/
def HandlerCall.act (raise : QueueError → ε) (adapter : QueueAdapter)
    (act : (op : Op) → W → Except ε (Ans op) × W) :
    (op : HandlerCall Op) → Served W → Except ε (op.Ans Ans) × Served W
  | .repository op, s => ((act op s.world).1, { s with world := (act op s.world).2 })
  | .publishEvent call, s =>
      ((adapter.publishEvent call s.queue).1.mapError raise,
        { s with queue := (adapter.publishEvent call s.queue).2 })

namespace Handler

/-- Await a method of a service whose repository is among those of the handler. -/
def call (f : Part → Op) (back : (op : Part) → Ans (f op) → PartAns op)
    (p : Coroutine Part PartAns ε α) : Handler Op Ans ε α :=
  p.lift (fun op => HandlerCall.repository (f op)) back

/-- `await event_queue.publish_event(event, topic=…)`. -/
def publishEvent (event : Event) (topic : String) : Handler Op Ans ε Unit :=
  Coroutine.perform
    (HandlerCall.publishEvent { event := event, keywords := [("topic", topic)] })

variable {raise : QueueError → ε} {adapter : QueueAdapter}
  {act : (op : Op) → W → Except ε (Ans op) × W}

/-- A method of a service runs in the world of the service. -/
theorem run_call {part : (op : Part) → W → Except ε (PartAns op) × W} {f : Part → Op}
    {back : (op : Part) → Ans (f op) → PartAns op}
    (hans : ∀ op w, (act (f op) w).1.map (back op) = (part op w).1)
    (hnext : ∀ op w, (act (f op) w).2 = (part op w).2) (p : Coroutine Part PartAns ε α)
    (s : Served W) :
    (call f back p).run (HandlerCall.act raise adapter act) s =
      ((p.run part s.world).1, { s with world := (p.run part s.world).2 }) := by
  refine Coroutine.run_lift Served.service (fun op s => hans op s.world) (fun op s => ?_) p s
  have hworld := hnext op s.world
  simp only [HandlerCall.act, Served.service, hworld]

/-- A method of a service that looks something up does so in a handler. -/
theorem loads_call {part : (op : Part) → W → Except ε (PartAns op) × W} {f : Part → Op}
    {back : (op : Part) → Ans (f op) → PartAns op}
    (hans : ∀ op w, (act (f op) w).1.map (back op) = (part op w).1)
    (hnext : ∀ op w, (act (f op) w).2 = (part op w).2)
    {p : Coroutine Part PartAns ε (Option α)} {value? : W → Option α} {next : W → W}
    (h : p.Loads part value? next) :
    (call f back p).Loads (HandlerCall.act raise adapter act) (fun s => value? s.world)
      fun s => { s with world := next s.world } := by
  intro s
  rw [run_call hans hnext]
  rcases h s.world with ⟨a, ha, hrun⟩ | ⟨hnone, hrun | ⟨e, hrun⟩⟩
  · exact .inl ⟨a, ha, by rw [hrun]⟩
  · exact .inr ⟨hnone, .inl (by rw [hrun])⟩
  · exact .inr ⟨hnone, .inr ⟨e, by rw [hrun]⟩⟩

/-- No handler gets past the publication of an event. -/
theorem refuses_publishEvent (event : Event) (topic : String) :
    (publishEvent event topic).Refuses (HandlerCall.act raise adapter act) :=
  fun s => ⟨raise (.typeError (CallError.unexpectedKeyword
    (adapter.className ++ ".publish_event") "topic")), Coroutine.run_perform _ _ s⟩

variable (raise adapter act) in
/-- A call leads the world of the service only to related ones. -/
def Respects (R : W → W → Prop) (op : HandlerCall Op) : Prop :=
  ∀ s, R s.world (op.act raise adapter act s).2.world

variable {R : W → W → Prop}

/-- A method of a service whose calls respect a relation. -/
theorem calls_call {part : (op : Part) → W → Except ε (PartAns op) × W} {f : Part → Op}
    {back : (op : Part) → Ans (f op) → PartAns op} {p : Coroutine Part PartAns ε α}
    (hnext : ∀ op w, (act (f op) w).2 = (part op w).2)
    (hp : p.Calls fun op => ∀ w, R w (part op w).2) :
    (call f back p).Calls (Respects raise adapter act R) :=
  hp.lift fun op hop s => by
    have hworld := hop s.world
    rwa [← hnext] at hworld

/-- Publishing an event leaves the world of the service alone. -/
theorem calls_publishEvent (hrefl : ∀ w, R w w) (event : Event) (topic : String) :
    (publishEvent event topic : Handler Op Ans ε Unit).Calls (Respects raise adapter act R) :=
  Coroutine.calls_perform.mpr fun s => hrefl s.world

/-- A handler whose calls respect a relation respects it. -/
theorem run_respects (hrefl : ∀ w, R w w) (htrans : ∀ w w' w'', R w w' → R w' w'' → R w w'')
    {p : Handler Op Ans ε α} (hp : p.Calls (Respects raise adapter act R)) (s : Served W) :
    R s.world (p.run (HandlerCall.act raise adapter act) s).2.world :=
  Coroutine.Calls.run (R := fun s s' => R s.world s'.world) (fun s => hrefl s.world)
    (fun _ _ _ => htrans _ _ _) (fun _ hop => hop) hp s

/-- What each call of a handler leaves as it is, the handler leaves as it is. -/
theorem run_keeps {V : Type} {view : W → V} {p : Handler Op Ans ε α}
    (hp : p.Calls (Respects raise adapter act fun w w' => view w' = view w)) (s : Served W) :
    view (p.run (HandlerCall.act raise adapter act) s).2.world = view s.world :=
  run_respects (R := fun w w' => view w' = view w) (fun _ => rfl)
    (fun _ _ _ hfirst hsecond => hsecond.trans hfirst) hp s

end Handler

end Handlers

end SupplyChainTracker
