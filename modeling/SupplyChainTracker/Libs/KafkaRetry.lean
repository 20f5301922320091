import Mathlib.Algebra.Field.Rat
import Mathlib.Tactic.Ring
import SupplyChainTracker.Core.Retry
import SupplyChainTracker.Libs.EventQueue

/-!
# Retries of the Kafka adapter

`_send_with_retry` with its sleeps, and the two methods that publish to one topic after the
other. The loop makes a send for every outcome up to the first acknowledged one or the limit, and
a topic is sent to only after all earlier ones have been acknowledged.
-/

namespace SupplyChainTracker

open Coroutine (perform)

/-- A call that the adapter awaits. -/
inductive ProducerCall : Type
  | sendAndWait (message : Message)
  | sleep (seconds : Rat)

/-- What a call returns. -/
abbrev ProducerCall.Ans : ProducerCall → Type
  | sendAndWait _ => Unit
  | sleep _ => Unit

/-- A coroutine of the adapter. -/
abbrev ProducerProgram : Type → Type := Coroutine ProducerCall ProducerCall.Ans QueueError

/-- A send and what it has raised. -/
structure Sent where
  message : Message
  error : Option QueueError

/-- The sends that have been made, and the time that has been slept. -/
structure ProducerLog where
  sent : List Sent
  slept : Rat

/-- The answer to a call; `outcome` is what one send after the other raises. -/
def ProducerCall.act (outcome : Nat → Option QueueError) :
    (op : ProducerCall) → ProducerLog → Except QueueError op.Ans × ProducerLog
  | .sendAndWait message, w =>
      (match outcome w.sent.length with
        | none => .ok ()
        | some e => .error e,
      { w with sent := w.sent ++ [⟨message, outcome w.sent.length⟩] })
  | .sleep seconds, w => (.ok (), { w with slept := w.slept + seconds })

/-- The `value` that `publish_command` builds. -/
def Command.toDict (command : Command) : Json := .obj [
  ("command_id", .str command.commandId.str),
  ("command_type", .str command.commandType),
  ("aggregate_id", .str command.aggregateId.str),
  ("payload", command.payload),
  ("correlation_id", match command.correlationId with
    | some correlationId => .str correlationId.str
    | none => .null)]

/-- The settings of a `KafkaEventQueueAdapter` about its retries. -/
structure RetrySettings where
  maxRetries : Nat := 5
  initialBackoff : Rat := 1 / 2

namespace RetrySettings

variable (adapter : RetrySettings)

/-- The `for` loop of `_send_with_retry`, over the attempts that are left. -/
def attempts (message : Message) : List Nat → ProducerProgram Unit
  | [] => .ret ()
  | attempt :: left => do
    let sent ← ((perform (ProducerCall.sendAndWait message)).bind fun _ => .ret true).tryCatch fun
      | .kafkaError text =>
          if attempt = adapter.maxRetries then .raise (.kafkaError text)
          else do
            perform (ProducerCall.sleep (adapter.initialBackoff * 2 ^ (attempt - 1)))
            return false
      | e => .raise e
    if sent then return () else attempts message left

/-- `_send_with_retry`. -/
def sendWithRetry (message : Message) : ProducerProgram Unit :=
  adapter.attempts message (List.range' 1 adapter.maxRetries)

/-- The loop of both methods that publish: one topic after the other. -/
def publishEach (key : String) (value : Json) : List String → ProducerProgram Unit
  | [] => .ret ()
  | topic :: topics => do
    adapter.sendWithRetry ⟨topic, key, value⟩
    publishEach key value topics

/-- `publish_event`. -/
def publishEvent (event : Event) (topics : List String) : ProducerProgram Unit :=
  adapter.publishEach event.aggregateId.str event.toDict topics

/-- `publish_command`. -/
def publishCommand (command : Command) (topics : List String) : ProducerProgram Unit :=
  adapter.publishEach command.aggregateId.str command.toDict topics

end RetrySettings

/-- The sends of a message from some attempt on. -/
def sentFrom (outcome : Nat → Option QueueError) (message : Message) (start count : Nat) :
    List Sent :=
  (List.range' start count).map fun i => ⟨message, outcome i⟩

section Message

variable {adapter : RetrySettings} {outcome : Nat → Option QueueError} {message : Message}

/-- What the loop does with one attempt. -/
theorem run_attempts_cons (attempt : Nat) (left : List Nat) (w : ProducerLog) :
    (adapter.attempts message (attempt :: left)).run (ProducerCall.act outcome) w =
      match outcome w.sent.length with
      | none => (.ok (), { w with sent := w.sent ++ [⟨message, none⟩] })
      | some (.kafkaError text) =>
          if attempt = adapter.maxRetries then (.error (.kafkaError text),
            { w with sent := w.sent ++ [⟨message, some (.kafkaError text)⟩] })
          else (adapter.attempts message left).run (ProducerCall.act outcome)
            { sent := w.sent ++ [⟨message, some (.kafkaError text)⟩]
              slept := w.slept + adapter.initialBackoff * 2 ^ (attempt - 1) }
      | some e => (.error e, { w with sent := w.sent ++ [⟨message, some e⟩] }) := by
  simp only [RetrySettings.attempts, Coroutine.bind_eq, Coroutine.pure_eq, Coroutine.run_bind,
    Coroutine.run_tryCatch, Coroutine.run_perform, ProducerCall.act]
  cases houtcome : outcome w.sent.length with
  | none => rfl
  | some e =>
    cases e with
    | kafkaError text =>
      dsimp only
      split_ifs
      · rfl
      · simp only [Coroutine.run_bind, Coroutine.run_perform, ProducerCall.act]
        rfl
    | typeError message => rfl
    | external message => rfl

/-- The outcomes of the sends are acknowledgements and `KafkaError`s. -/
def OnlyKafkaErrors (outcome : Nat → Option QueueError) : Prop :=
  ∀ i e, outcome i = some e → ∃ text, e = .kafkaError text

theorem sentFrom_succ (start count : Nat) : sentFrom outcome message start (count + 1) =
    ⟨message, outcome start⟩ :: sentFrom outcome message (start + 1) count := by
  rw [sentFrom, List.range'_succ, List.map_cons, sentFrom]

/-- The rest of the loop, by induction on the attempts that are left: each of them but the last
doubles the time that is slept. -/
theorem run_attempts (hkafka : OnlyKafkaErrors outcome) (message : Message) (left k : Nat)
    (hleft : k + (left + 1) = adapter.maxRetries) (w : ProducerLog) :
    ∃ count result,
      Retry.Ends (fun i => outcome (w.sent.length + i)) (left + 1) count result ∧
      (adapter.attempts message (List.range' (k + 1) (left + 1))).run (ProducerCall.act outcome) w =
        (result, {
          sent := w.sent ++ sentFrom outcome message w.sent.length count
          slept := w.slept + adapter.initialBackoff * (2 ^ (k + count - 1) - 2 ^ k) }) := by
  induction left generalizing k w with
  | zero =>
    rw [List.range'_one, run_attempts_cons]
    cases houtcome : outcome w.sent.length with
    | none =>
      refine ⟨1, .ok (), Retry.ends_of_success houtcome, ?_⟩
      simp [sentFrom, houtcome]
    | some e =>
      obtain ⟨text, rfl⟩ := hkafka _ e houtcome
      refine ⟨1, .error (.kafkaError text), Retry.ends_of_last houtcome, ?_⟩
      simp [sentFrom, houtcome, ← hleft]
  | succ left ih =>
    rw [List.range'_succ, run_attempts_cons]
    cases houtcome : outcome w.sent.length with
    | none =>
      refine ⟨1, .ok (), Retry.ends_of_success houtcome, ?_⟩
      simp [sentFrom, houtcome]
    | some e =>
      obtain ⟨text, rfl⟩ := hkafka _ e houtcome
      have hnext : ¬ k + 1 = adapter.maxRetries := by omega
      obtain ⟨count, result, hends, hrun⟩ := ih (k + 1) (by omega) {
        sent := w.sent ++ [⟨message, some (.kafkaError text)⟩]
        slept := w.slept + adapter.initialBackoff * 2 ^ (k + 1 - 1) }
      rw [List.length_append, List.length_singleton] at hends hrun
      refine ⟨count + 1, result, Retry.Ends.of_failure houtcome ?_, ?_⟩
      · simpa only [Nat.add_assoc, Nat.add_comm 1] using hends
      · dsimp only
        rw [if_neg hnext, hrun, sentFrom_succ, houtcome, List.append_assoc, List.singleton_append]
        have hcount : k + (count + 1) - 1 = k + 1 + count - 1 := by omega
        rw [hcount, Nat.add_sub_cancel]
        ring_nf

/-- The loop, in terms of the outcomes that are left for it. -/
theorem run_sendWithRetry (hretries : 1 ≤ adapter.maxRetries) (hkafka : OnlyKafkaErrors outcome)
    (message : Message) (w : ProducerLog) :
    ∃ count result,
      Retry.Ends (fun i => outcome (w.sent.length + i)) adapter.maxRetries count result ∧
      (adapter.sendWithRetry message).run (ProducerCall.act outcome) w =
        (result, {
          sent := w.sent ++ sentFrom outcome message w.sent.length count
          slept := w.slept + adapter.initialBackoff * (2 ^ (count - 1) - 1) }) := by
  obtain ⟨left, hleft⟩ := Nat.exists_eq_add_of_le' hretries
  have hrun := run_attempts hkafka message left 0 ((Nat.zero_add _).trans hleft.symm) w
  simpa only [RetrySettings.sendWithRetry, hleft, Nat.zero_add, pow_zero] using hrun

end Message

/-- `_send_with_retry` makes one send of the message for every outcome up to the first
acknowledged one or the limit, doubles its sleeps, and raises what the last send has raised if none
is acknowledged. -/
structure Retried (adapter : RetrySettings) (outcome : Nat → Option QueueError) (message : Message)
    (w : ProducerLog) (count : Nat) (r : Except QueueError Unit × ProducerLog) : Prop where
  count_eq : (count : ℕ∞) =
    min (Retry.firstSuccess fun i => outcome (w.sent.length + i)) adapter.maxRetries
  sent : r.2.sent = w.sent ++ sentFrom outcome message w.sent.length count
  slept : r.2.slept = w.slept + adapter.initialBackoff * (2 ^ (count - 1) - 1)
  returns : r.1 = .ok () ↔
    (Retry.firstSuccess fun i => outcome (w.sent.length + i)) ≤ adapter.maxRetries
  raises : adapter.maxRetries < (Retry.firstSuccess fun i => outcome (w.sent.length + i)) →
    ∃ e, outcome (w.sent.length + (adapter.maxRetries - 1)) = some e ∧ r.1 = .error e

theorem exists_retried {adapter : RetrySettings} {outcome : Nat → Option QueueError}
    (hretries : 1 ≤ adapter.maxRetries) (hkafka : OnlyKafkaErrors outcome) (message : Message)
    (w : ProducerLog) :
    ∃ count, Retried adapter outcome message w count
      ((adapter.sendWithRetry message).run (ProducerCall.act outcome) w) := by
  obtain ⟨count, result, hends, hrun⟩ := run_sendWithRetry hretries hkafka message w
  rw [hrun]
  exact ⟨count, hends.count_eq, rfl, rfl, hends.eq_ok_iff,
    fun hlt => hends.eq_error (not_le.mpr hlt)⟩

/-- One of the sends has been acknowledged. -/
def Acked (segment : List Sent) : Prop := ∃ sent ∈ segment, sent.error = none

/-- A method that publishes makes its sends topic by topic, those of each topic as
`_send_with_retry` makes them. Each topic but the last one that it gets to has been acknowledged,
and it returns exactly when all topics have been. -/
structure Published (adapter : RetrySettings) (outcome : Nat → Option QueueError)
    (message : String → Message) (topics : List String) (w : ProducerLog)
    (segments : List (List Sent)) (r : Except QueueError Unit × ProducerLog) : Prop where
  sent : r.2.sent = w.sent ++ segments.flatten
  topic : ∀ i segment, segments[i]? = some segment →
    ∃ topic, ∃ count : Nat, topics[i]? = some topic ∧
    (count : ℕ∞) = min (Retry.firstSuccess fun j =>
      outcome (w.sent.length + (segments.take i).flatten.length + j)) adapter.maxRetries ∧
    segment = sentFrom outcome (message topic)
      (w.sent.length + (segments.take i).flatten.length) count
  earlier : ∀ i segment, segments[i]? = some segment → i + 1 < segments.length → Acked segment
  returns : r.1 = .ok () ↔
    ∀ i < topics.length, ∃ segment, segments[i]? = some segment ∧ Acked segment

section Topics

variable {adapter : RetrySettings} {outcome : Nat → Option QueueError} {key : String}
  {value : Json}

/-- A loop has an acknowledged send exactly when it returns. -/
theorem acked_sentFrom_iff {message : Message} {start limit count : Nat}
    {result : Except QueueError Unit}
    (h : Retry.Ends (fun i => outcome (start + i)) limit count result) :
    Acked (sentFrom outcome message start count) ↔ result = .ok () := by
  have hacked : Acked (sentFrom outcome message start count) ↔
      ∃ i < count, outcome (start + i) = none := by
    simp only [Acked, sentFrom, List.mem_map, List.mem_range'_1]
    constructor
    · rintro ⟨_, ⟨i, ⟨hle, hlt⟩, rfl⟩, hnone⟩
      exact ⟨i - start, by omega, by rwa [Nat.add_sub_cancel' hle]⟩
    · rintro ⟨i, hi, hnone⟩
      exact ⟨_, ⟨start + i, by omega, rfl⟩, hnone⟩
  rw [hacked, h.eq_ok_iff]
  constructor
  · rintro ⟨i, hi, hnone⟩
    have hfirst : Retry.firstSuccess (fun i => outcome (start + i)) ≤ (i + 1 : Nat) :=
      Retry.firstSuccess_le hnone
    exact hfirst.trans (by exact_mod_cast hi.trans_le h.le)
  · intro hle
    rcases h.last with ⟨hnone, _⟩ | ⟨_, e, _, herror⟩
    · exact ⟨count - 1, Nat.sub_lt h.pos Nat.one_pos, hnone⟩
    · cases (h.eq_ok_iff.mpr hle).symm.trans herror

/-- No topics are left. -/
theorem published_nil (message : String → Message) (w : ProducerLog) :
    Published adapter outcome message [] w [] (.ok (), w) where
  sent := by simp
  topic i segment h := by simp at h
  earlier i segment h := by simp at h
  returns := by simp

variable {message : String → Message} {topic : String} {topics : List String} {w w' : ProducerLog}
  {count : Nat}

/-- The first topic is not acknowledged. -/
theorem published_failed {e : QueueError}
    (hends : Retry.Ends (fun i => outcome (w.sent.length + i)) adapter.maxRetries count (.error e))
    (hsent : w'.sent = w.sent ++ sentFrom outcome (message topic) w.sent.length count) :
    Published adapter outcome message (topic :: topics) w
      [sentFrom outcome (message topic) w.sent.length count] (.error e, w') where
  sent := by simpa using hsent
  topic i segment h := by
    cases i with
    | zero =>
      obtain rfl := Option.some.inj h
      exact ⟨topic, count, rfl, by simpa using hends.count_eq, by simp⟩
    | succ i => cases h
  earlier i segment _ hi := by simp at hi
  returns := by
    refine iff_of_false (fun h => by cases h) fun h => ?_
    obtain ⟨segment, hsegment, hacked⟩ := h 0 (Nat.succ_pos _)
    obtain rfl := Option.some.inj hsegment
    cases (acked_sentFrom_iff hends).mp hacked

/-- The first topic is acknowledged. -/
theorem Published.cons {segments : List (List Sent)} {r : Except QueueError Unit × ProducerLog}
    (h : Published adapter outcome message topics w' segments r)
    (hends : Retry.Ends (fun i => outcome (w.sent.length + i)) adapter.maxRetries count (.ok ()))
    (hsent : w'.sent = w.sent ++ sentFrom outcome (message topic) w.sent.length count) :
    Published adapter outcome message (topic :: topics) w
      (sentFrom outcome (message topic) w.sent.length count :: segments) r where
  sent := by rw [h.sent, hsent, List.flatten_cons, List.append_assoc]
  topic i segment hi := by
    cases i with
    | zero =>
      obtain rfl := Option.some.inj hi
      exact ⟨topic, count, rfl, by simpa using hends.count_eq, by simp⟩
    | succ i =>
      have hlater := h.topic i segment hi
      rw [hsent, List.length_append] at hlater
      simpa only [List.getElem?_cons_succ, List.take_succ_cons, List.flatten_cons,
        List.length_append, Nat.add_assoc] using hlater
  earlier i segment hi hlt := by
    cases i with
    | zero =>
      obtain rfl := Option.some.inj hi
      exact (acked_sentFrom_iff hends).mpr rfl
    | succ i => exact h.earlier i segment hi (Nat.lt_of_succ_lt_succ hlt)
  returns := by
    rw [h.returns]
    constructor
    · intro hall i hi
      cases i with
      | zero => exact ⟨_, rfl, (acked_sentFrom_iff hends).mpr rfl⟩
      | succ i => exact hall i (Nat.lt_of_succ_lt_succ hi)
    · exact fun hall i hi => hall (i + 1) (Nat.succ_lt_succ hi)

/-- The rest of the topics, by induction on them. -/
theorem exists_published (hretries : 1 ≤ adapter.maxRetries) (hkafka : OnlyKafkaErrors outcome)
    (topics : List String) (w : ProducerLog) :
    ∃ segments, Published adapter outcome (fun topic => ⟨topic, key, value⟩) topics w segments
      ((adapter.publishEach key value topics).run (ProducerCall.act outcome) w) := by
  induction topics generalizing w with
  | nil => exact ⟨[], published_nil _ w⟩
  | cons topic topics ih =>
    obtain ⟨count, result, hends, hrun⟩ := run_sendWithRetry hretries hkafka ⟨topic, key, value⟩ w
    simp only [RetrySettings.publishEach, Coroutine.bind_eq, Coroutine.run_bind, hrun]
    cases result with
    | error e => exact ⟨_, published_failed hends rfl⟩
    | ok _ =>
      obtain ⟨segments, hrest⟩ := ih _
      exact ⟨_, hrest.cons hends rfl⟩

end Topics

/-- The loops of the adapter keep what is said of them, whatever the Kafka client answers. -/
theorem kafka_retries (adapter : RetrySettings) (hretries : 1 ≤ adapter.maxRetries)
    (outcome : Nat → Option QueueError) (hkafka : OnlyKafkaErrors outcome) (w : ProducerLog) :
    (∀ message, ∃ count, Retried adapter outcome message w count
      ((adapter.sendWithRetry message).run (ProducerCall.act outcome) w)) ∧
    (∀ (event : Event) topics, ∃ segments, Published adapter outcome
      (fun topic => ⟨topic, event.aggregateId.str, event.toDict⟩) topics w segments
        ((adapter.publishEvent event topics).run (ProducerCall.act outcome) w)) ∧
    ∀ (command : Command) topics, ∃ segments, Published adapter outcome
      (fun topic => ⟨topic, command.aggregateId.str, command.toDict⟩) topics w segments
        ((adapter.publishCommand command topics).run (ProducerCall.act outcome) w) :=
  ⟨fun message => exists_retried hretries hkafka message w,
    fun _ topics => exists_published hretries hkafka topics w,
    fun _ topics => exists_published hretries hkafka topics w⟩

/-- A client that fails once. -/
def flakyOutcome : Nat → Option QueueError
  | 0 => some (.kafkaError "KafkaTimeoutError")
  | _ + 1 => none

theorem kafka_retries_flaky :
    ∃ count, Retried {} flakyOutcome ⟨"saga.events", "1", .null⟩ ⟨[], 0⟩ count
      ((RetrySettings.sendWithRetry {} ⟨"saga.events", "1", .null⟩).run
        (ProducerCall.act flakyOutcome) ⟨[], 0⟩) := by
  refine (kafka_retries {} (by decide) flakyOutcome (fun i e h => ?_) ⟨[], 0⟩).1 _
  cases i with
  | zero => exact ⟨_, (Option.some.inj h).symm⟩
  | succ i => cases h

/-- The queue behind a producer holds the messages that have been acknowledged. -/
def ProducerLog.queue (w : ProducerLog) : EventQueue where
  messages := (w.sent.filter fun sent => sent.error.isNone).map Sent.message
  attempts := w.sent.length

section Queue

variable {adapter : RetrySettings} (producer : KafkaProducer)

theorem run_attempts_queue (message : Message) (left k : Nat)
    (hleft : k + left = adapter.maxRetries) (w : ProducerLog) :
    ((adapter.attempts message (List.range' (k + 1) left)).run
        (ProducerCall.act producer.sendAndWait) w).1 =
      (QueueAdapter.sendWithRetry producer message left w.queue).1 ∧
    ((adapter.attempts message (List.range' (k + 1) left)).run
        (ProducerCall.act producer.sendAndWait) w).2.queue =
      (QueueAdapter.sendWithRetry producer message left w.queue).2 := by
  induction left generalizing k w with
  | zero => exact ⟨rfl, rfl⟩
  | succ left ih =>
    have hattempts : w.queue.attempts = w.sent.length := rfl
    rw [List.range'_succ, run_attempts_cons, QueueAdapter.sendWithRetry, hattempts]
    cases houtcome : producer.sendAndWait w.sent.length with
    | none => exact ⟨rfl, by simp [ProducerLog.queue, EventQueue.append, EventQueue.tried]⟩
    | some e =>
      cases e with
      | kafkaError text =>
        dsimp only
        by_cases hlast : left = 0
        · rw [if_pos (by omega), if_pos hlast]
          exact ⟨rfl, by simp [ProducerLog.queue, EventQueue.tried]⟩
        · rw [if_neg (by omega), if_neg hlast]
          have hnext := ih (k + 1) (by omega) {
            sent := w.sent ++ [⟨message, some (.kafkaError text)⟩]
            slept := w.slept + adapter.initialBackoff * 2 ^ (k + 1 - 1) }
          have hqueue : ProducerLog.queue {
              sent := w.sent ++ [⟨message, some (.kafkaError text)⟩]
              slept := w.slept + adapter.initialBackoff * 2 ^ (k + 1 - 1) } = w.queue.tried := by
            simp [ProducerLog.queue, EventQueue.tried]
          rwa [hqueue] at hnext
      | typeError text => exact ⟨rfl, by simp [ProducerLog.queue, EventQueue.tried]⟩
      | external text => exact ⟨rfl, by simp [ProducerLog.queue, EventQueue.tried]⟩

/-- The queue of the handlers is this adapter without its sleeps. -/
theorem run_publishEvent_queue (hretries : adapter.maxRetries = producer.maxRetries)
    (event : Event) (topics : List String) (w : ProducerLog) :
    ((adapter.publishEvent event topics).run (ProducerCall.act producer.sendAndWait) w).1 =
      ((QueueAdapter.kafka producer).publishTo event topics w.queue).1 ∧
    ((adapter.publishEvent event topics).run
        (ProducerCall.act producer.sendAndWait) w).2.queue =
      ((QueueAdapter.kafka producer).publishTo event topics w.queue).2 := by
  induction topics generalizing w with
  | nil => exact ⟨rfl, rfl⟩
  | cons topic topics ih =>
    obtain ⟨hresult, hqueue⟩ := run_attempts_queue producer
      ⟨topic, event.aggregateId.str, event.toDict⟩ adapter.maxRetries 0 (Nat.zero_add _) w
    simp only [RetrySettings.publishEvent, RetrySettings.publishEach, RetrySettings.sendWithRetry,
      Coroutine.bind_eq, Coroutine.run_bind, QueueAdapter.publishTo, QueueAdapter.send,
      ← hretries] at ih ⊢
    rw [← Prod.mk.eta (p := QueueAdapter.sendWithRetry producer _ _ _), ← hresult, ← hqueue]
    cases ((adapter.attempts ⟨topic, event.aggregateId.str, event.toDict⟩
        (List.range' (0 + 1) adapter.maxRetries)).run
          (ProducerCall.act producer.sendAndWait) w).1 with
    | error e => exact ⟨rfl, rfl⟩
    | ok _ => exact ih _

end Queue

end SupplyChainTracker
