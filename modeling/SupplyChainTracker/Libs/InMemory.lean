import Mathlib.Logic.Function.Basic
import SupplyChainTracker.Libs.Wire

/-!
# `InMemoryEventQueueAdapter`

The messages and the running flags belong to the class, so all adapters of the process share
them. A consumer is a generator: between two of its suspension points, which are its yields and
its sleep, nothing else happens, and at them anything may.
-/

namespace SupplyChainTracker.InMemory

/-- Events and commands have a storage and consumers of their own. -/
inductive Kind : Type
  | event
  | command
  deriving DecidableEq, Repr

/-- What is published and yielded. -/
inductive Item (V T : Type) : Type
  | event (e : EventObject V T)
  | command (c : CommandObject V)

/-- The attributes of the class. -/
structure ClassState (V : Type) where
  /-- `_events_storage` and `_commands_storage`: the values of the messages of each topic. -/
  storage : Kind → String → List V
  /-- `_consumers_running`; a key that is not there is not running. -/
  running : Kind × Int → Bool

/-- How a generator came to its end. -/
inductive Ending : Type
  /-- It has been closed, or the task that drives it cancelled. -/
  | closed
  /-- It has found its flag cleared. -/
  | stopped
  | raised (e : PyError)
  deriving DecidableEq, Repr

/-- Where a generator is suspended. -/
inductive Point : Type
  | notStarted
  /-- At the `yield` for a topic: the next index of its `for`, the bound of that, and the topics
  that are left of the pass. -/
  | yielding (topic : String) (next stop : Nat) (rest : List String)
  /-- In `asyncio.sleep(0.1)`. -/
  | sleeping
  | finished (ending : Ending)
  deriving DecidableEq, Repr

/-- The generator has been started and has not come to its end. -/
def Point.live : Point → Bool
  | yielding .. | sleeping => true
  | notStarted | finished _ => false

/-- A generator of `consume_event` or `consume_command`. -/
structure Consumer (V T : Type) where
  kind : Kind
  topics : List String
  point : Point
  offsets : String → Nat
  /-- What it has yielded from the topics so far. -/
  yielded : List (String × Item V T)

/-- What the `for` loops of a generator come to next. -/
inductive Advance (V T : Type) : Type
  | yields (item : Item V T) (topic : String) (next stop : Nat) (rest : List String)
  /-- The pass is complete. -/
  | passed
  | raises (e : PyError)

section Model

variable {V T : Type} [PyData V] (time : DateTimeCodec T) (hash : List String → Int)

namespace Item

/-- The storage of an item. -/
def kind : Item V T → Kind
  | event _ => .event
  | command _ => .command

/-- The `value` that is stored for an item. -/
def value : Item V T → V
  | event e => e.toDict time
  | command c => c.toDict

end Item

/-- `from_dict` of either kind. -/
def decode : Kind → V → Except PyError (Item V T)
  | .event, value => (EventObject.fromDict time value).map .event
  | .command, value => (CommandObject.fromDict value).map .command

namespace ClassState

/-- `storage[topic].append(message)`. -/
def append (s : ClassState V) (kind : Kind) (topic : String) (value : V) : ClassState V :=
  let topics := Function.update (s.storage kind) topic (s.storage kind topic ++ [value])
  { s with storage := Function.update s.storage kind topics }

/-- `publish_event` and `publish_command`. -/
def publish (item : Item V T) (topics : List String) (s : ClassState V) : ClassState V :=
  topics.foldl (fun s topic => s.append item.kind topic (item.value time)) s

/-- `_consumers_running[consumer_key] = flag`. -/
def setRunning (s : ClassState V) (key : Kind × Int) (flag : Bool) : ClassState V :=
  { s with running := Function.update s.running key flag }

variable (s : ClassState V) (kind : Kind) (offsets : String → Nat)

/-- Decode a message of a topic and yield it. -/
def readMessage (topic : String) (i stop : Nat) (rest : List String) : Advance V T :=
  match (s.storage kind topic)[i]? with
  | none => .raises (.indexError "list index out of range")
  | some value =>
      match decode time kind value with
      | .ok item => .yields item topic (i + 1) stop rest
      | .error e => .raises e

/-- `for topic in topics`. -/
def forTopics : List String → Advance V T
  | [] => .passed
  | topic :: rest =>
      if offsets topic < (s.storage kind topic).length then
        s.readMessage time kind topic (offsets topic) (s.storage kind topic).length rest
      else forTopics rest

/-- `for i in range(next, stop)`, and the topics that are left then. -/
def forMessages (topic : String) (next stop : Nat) (rest : List String) : Advance V T :=
  if next < stop then s.readMessage time kind topic next stop rest
  else s.forTopics time kind offsets rest

end ClassState

namespace Consumer

/-- A generator that has not been started. -/
def create (kind : Kind) (topics : List String) : Consumer V T :=
  ⟨kind, topics, .notStarted, fun _ => 0, []⟩

/-- The `consumer_key`. -/
def key (c : Consumer V T) : Kind × Int := (c.kind, hash c.topics)

/-- What has been yielded from a topic. -/
def yieldedFrom (c : Consumer V T) (topic : String) : List (Item V T) :=
  (c.yielded.filter fun p => p.1 = topic).map Prod.snd

/-- `offsets[topic] += 1` and `yield`. -/
def yields (c : Consumer V T) (item : Item V T) (topic : String) (next stop : Nat)
    (rest : List String) : Consumer V T :=
  { c with
    point := .yielding topic next stop rest
    offsets := Function.update c.offsets topic (c.offsets topic + 1)
    yielded := c.yielded ++ [(topic, item)] }

/-- The `finally` block. -/
def finish (ending : Ending) (s : ClassState V) (c : Consumer V T) :
    ClassState V × Consumer V T :=
  (s.setRunning (c.key hash) false, { c with point := .finished ending })

/-- The `while` loop from its condition on, where a pass without a message ends in the sleep. -/
def turn (s : ClassState V) (c : Consumer V T) : ClassState V × Consumer V T :=
  if s.running (c.key hash) then
    match s.forTopics time c.kind c.offsets c.topics with
    | .yields item topic next stop rest => (s, c.yields item topic next stop rest)
    | .passed => (s, { c with point := .sleeping })
    | .raises e => c.finish hash (.raised e) s
  else c.finish hash .stopped s

/-- Run a generator to its next suspension point. After a message has been yielded, its pass
does not end in the sleep. -/
def resume (s : ClassState V) (c : Consumer V T) : ClassState V × Consumer V T :=
  match c.point with
  | .notStarted => c.turn time hash (s.setRunning (c.key hash) true)
  | .yielding topic next stop rest =>
      match s.forMessages time c.kind c.offsets topic next stop rest with
      | .yields item topic next stop rest => (s, c.yields item topic next stop rest)
      | .passed => c.turn time hash s
      | .raises e => c.finish hash (.raised e) s
  | .sleeping => c.turn time hash s
  | .finished _ => (s, c)

/-- Close a generator; the body of one that has not been started does not run. -/
def close (s : ClassState V) (c : Consumer V T) : ClassState V × Consumer V T :=
  match c.point with
  | .notStarted => (s, { c with point := .finished .closed })
  | .yielding .. | .sleeping => c.finish hash .closed s
  | .finished _ => (s, c)

end Consumer

/-- The class and any number of consumers, of whatever adapters. -/
structure World (κ V T : Type) where
  state : ClassState V
  consumers : κ → Consumer V T

/-- What happens in the process. -/
inductive Action (κ V T : Type) : Type
  | publish (item : Item V T) (topics : List String)
  | resume (k : κ)
  | close (k : κ)

variable {κ : Type} [DecidableEq κ]

namespace World

/-- A process in which nothing has been published and no generator started. -/
def start (calls : κ → Kind × List String) : World κ V T where
  state := ⟨fun _ _ => [], fun _ => false⟩
  consumers k := .create (calls k).1 (calls k).2

/-- A consumer after one of its steps. -/
def set (w : World κ V T) (k : κ) (r : ClassState V × Consumer V T) : World κ V T :=
  ⟨r.1, Function.update w.consumers k r.2⟩

/-- One step of the process. -/
def step : Action κ V T → World κ V T → World κ V T
  | .publish item topics, w => { w with state := w.state.publish time item topics }
  | .resume k, w => w.set k ((w.consumers k).resume time hash w.state)
  | .close k, w => w.set k ((w.consumers k).close hash w.state)

/-- The process after some steps. -/
def run (calls : κ → Kind × List String) (actions : List (Action κ V T)) : World κ V T :=
  actions.foldl (fun w action => w.step time hash action) (start calls)

end World

/-- What an action publishes to a topic. -/
def Action.published (kind : Kind) (topic : String) : Action κ V T → List (Item V T)
  | .publish item topics =>
      if item.kind = kind then (topics.filter fun t => t = topic).map fun _ => item else []
  | .resume _ | .close _ => []

/-- What has been published to a topic since the process started. -/
def published (actions : List (Action κ V T)) (kind : Kind) (topic : String) :
    List (Item V T) :=
  actions.flatMap (Action.published kind topic)

end Model

end SupplyChainTracker.InMemory
