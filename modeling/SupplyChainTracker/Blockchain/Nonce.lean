import SupplyChainTracker.Blockchain.Record
import SupplyChainTracker.Core.Async.Interleaving

/-!
# Nonces

Instances of the service that share one Redis and one account. A nonce is handed out by one
atomic increment, but a resync overwrites the counter with what it has read of the chain before.
As long as no resync writes a value below a nonce that is still in use, the nonces in use differ.
-/

namespace SupplyChainTracker.Blockchain.Nonce

open Coroutine (perform)

/-- `tx_params`: the items in which transactions differ, with the payload that `data` encodes. -/
structure Transaction where
  nonce : Int
  gasPrice : Int
  payload : Json

/-- A call of Redis or of the node. -/
inductive Call : Type
  | getTransactionCount
  | set (value : Int)
  | incr
  | gasPrice
  /-- The attribute `rawTransaction` of what has been signed, and its sending. -/
  | sendRawTransaction (tx : Transaction)

/-- What a call returns. -/
abbrev Call.Ans : Call → Type
  | getTransactionCount => Int
  | set _ => Unit
  | incr => Int
  | gasPrice => Int
  | sendRawTransaction _ => String

/-- A coroutine of an instance. -/
abbrev Program : Type → Type := Coroutine Call Call.Ans BlockchainError

/-- What becomes of a transaction whose nonce the node has not accepted before. -/
inductive Reply : Type
  | accept (txHash : String)
  /-- An error that the node answers. -/
  | reject (message : String)
  /-- Any other exception, of the signing, the connection or the node. -/
  | fail (message : String) (arrived : Bool)

/-- What the code relies on of the versions of its libraries. -/
structure Libraries where
  /-- What eth-account signs has the attribute `rawTransaction`, which version 0.13 has renamed. -/
  hasRawTransaction : Bool
  /-- web3 raises a `ValueError` for an error that the node answers; from version 7 on it raises a
  `Web3RPCError`, which is none. -/
  raisesValueError : Bool

/-- What web3 raises for an error that the node answers. -/
def Libraries.nodeError (libraries : Libraries) (message : String) : BlockchainError :=
  if libraries.raisesValueError then .valueError message else .external message

/-- The exception where what has been signed has no attribute `rawTransaction`. -/
def noRawTransaction : BlockchainError :=
  .attributeError "'SignedTransaction' object has no attribute 'rawTransaction'"

/-- What the outside makes of one call after the other. -/
structure Environment where
  libraries : Libraries
  /-- The pending count, as far as the node has accepted nonces. -/
  transactionCount : Nat → List Int → Except BlockchainError Int
  gasPrice : Nat → Except BlockchainError Int
  send : Nat → Reply
  /-- The message with which the node rejects a nonce that it has accepted before. -/
  rejection : Nat → String
  /-- The exception that a call of Redis raises. -/
  raises : Nat → Option BlockchainError

/-- The counter in Redis, and what the node knows. -/
structure World where
  counter : Option Int
  /-- The nonces that the node has accepted. -/
  accepted : List Int
  /-- The nonces that have been handed out, one for each transaction that is not rejected. -/
  live : List Int
  environment : Environment
  /-- How many calls have been made. -/
  calls : Nat

namespace World

/-- A world in which no nonce has been handed out. -/
def start (counter : Option Int) (accepted : List Int) (environment : Environment) : World where
  counter := counter
  accepted := accepted
  live := []
  environment := environment
  calls := 0

/-- A call has been made. -/
def called (w : World) : World := { w with calls := w.calls + 1 }

/-- What `INCR` makes of the counter; a missing key counts as zero. -/
def next (w : World) : Int := w.counter.getD 0 + 1

/-- The node has accepted a nonce. -/
def accept (w : World) (nonce : Int) : World := { w with accepted := w.accepted ++ [nonce] }

/-- The node has rejected the transaction of a nonce. -/
def reject (w : World) (nonce : Int) : World := { w with live := w.live.erase nonce }

end World

/-- The effect of a call. -/
def act : (op : Call) → World → Except BlockchainError op.Ans × World
  | .getTransactionCount, w => (w.environment.transactionCount w.calls w.accepted, w.called)
  | .set value, w =>
      match w.environment.raises w.calls with
      | some e => (.error e, w.called)
      | none => (.ok (), { w.called with counter := some value })
  | .incr, w =>
      match w.environment.raises w.calls with
      | some e => (.error e, w.called)
      | none => (.ok w.next, { w.called with counter := some w.next, live := w.live ++ [w.next] })
  | .gasPrice, w => (w.environment.gasPrice w.calls, w.called)
  | .sendRawTransaction tx, w =>
      if w.environment.libraries.hasRawTransaction = false then (.error noRawTransaction, w.called)
      else if tx.nonce ∈ w.accepted then
        (.error (w.environment.libraries.nodeError (w.environment.rejection w.calls)),
          w.called.reject tx.nonce)
      else
        match w.environment.send w.calls with
        | .accept txHash => (.ok txHash, w.called.accept tx.nonce)
        | .reject message =>
            (.error (w.environment.libraries.nodeError message), w.called.reject tx.nonce)
        | .fail message arrived =>
            (.error (.external message), if arrived then w.called.accept tx.nonce else w.called)

namespace RedisNonceManager

/-- `sync_from_chain`. -/
def syncFromChain : Program Int := do
  let onChainNonce ← perform Call.getTransactionCount
  let _ ← perform (Call.set (onChainNonce - 1))
  return onChainNonce

/-- `get_next_nonce`. -/
def getNextNonce : Program Int := perform Call.incr

end RedisNonceManager

namespace Web3BlockchainGateway

/-- `_execute_tx`. -/
def executeTx (payload : Json) (gasPrice : Int) : Program String := do
  let nonce ← RedisNonceManager.getNextNonce
  perform (Call.sendRawTransaction ⟨nonce, gasPrice, payload⟩)

/-- The lower-cased message names the nonce or a replacement. -/
def NamesNonce (message : String) : Prop :=
  "nonce".toList <:+: message.toLower.toList ∨ "replacement".toList <:+: message.toLower.toList

instance (message : String) : Decidable (NamesNonce message) :=
  inferInstanceAs (Decidable (_ ∨ _))

/-- `send_transaction`. -/
def sendTransaction (payload : Json) : Program String := do
  let gasPrice ← perform Call.gasPrice
  (executeTx payload gasPrice).tryCatch fun
    | .valueError message =>
        if NamesNonce message then do
          let _ ← RedisNonceManager.syncFromChain
          executeTx payload gasPrice
        else .raise (.valueError message)
    | e => .raise e

end Web3BlockchainGateway

/-- An instance: a resync at start-up, then one transaction after the other. -/
def service (payloads : List Json) : Program Unit := do
  let _ ← RedisNonceManager.syncFromChain
  Coroutine.inTurn Web3BlockchainGateway.sendTransaction payloads

/-- Any number of instances before their start. -/
def services {κ : Type} (payloads : κ → List Json) (counter : Option Int) (accepted : List Int)
    (environment : Environment) : Config κ Call Call.Ans BlockchainError Unit World where
  threads k := service (payloads k)
  world := World.start counter accepted environment
  trace := []

/-- No nonce in use is above the counter, and they differ. -/
structure Ahead (w : World) : Prop where
  nodup : w.live.Nodup
  bounded : ∀ nonce ∈ w.live, ∃ value, w.counter = some value ∧ nonce ≤ value

/-- A resync writes no value below a nonce in use. -/
def Resyncs (w : World) : Call → Prop
  | .set value => ∀ nonce ∈ w.live, nonce ≤ value
  | _ => True

section Steps

variable {w : World}

theorem next_of_counter {value : Int} (h : w.counter = some value) : w.next = value + 1 := by
  rw [World.next, h, Option.getD_some]

/-- An increment that does not raise. -/
theorem act_incr (h : w.environment.raises w.calls = none) :
    (act .incr w).2 =
      { w.called with counter := some w.next, live := w.live ++ [w.next] } := by
  simp only [act, h]

theorem Ahead.called (h : Ahead w) : Ahead w.called := ⟨h.nodup, h.bounded⟩

theorem Ahead.accept (h : Ahead w) (nonce : Int) : Ahead (w.accept nonce) := ⟨h.nodup, h.bounded⟩

theorem Ahead.reject (h : Ahead w) (nonce : Int) : Ahead (w.reject nonce) where
  nodup := h.nodup.erase nonce
  bounded other hother := h.bounded other (List.mem_of_mem_erase hother)

/-- What is handed out next is above every nonce in use. -/
theorem Ahead.lt_next (h : Ahead w) {nonce : Int} (hnonce : nonce ∈ w.live) : nonce < w.next := by
  obtain ⟨value, hvalue, hle⟩ := h.bounded nonce hnonce
  rw [next_of_counter hvalue]
  omega

/-- An increment hands out a nonce that is not in use. -/
theorem Ahead.incr (h : Ahead w) : Ahead (act .incr w).2 := by
  cases hraises : w.environment.raises w.calls with
  | some e =>
    simp only [act, hraises]
    exact h.called
  | none =>
    rw [act_incr hraises]
    refine ⟨?_, fun nonce hnonce => ⟨w.next, rfl, ?_⟩⟩
    · refine List.nodup_append.mpr ⟨h.nodup, List.nodup_singleton _, ?_⟩
      intro nonce hnonce other hother
      rw [List.mem_singleton.mp hother]
      exact (h.lt_next hnonce).ne
    · rcases List.mem_append.mp hnonce with hbefore | hnew
      · exact (h.lt_next hbefore).le
      · exact (List.mem_singleton.mp hnew).le

/-- A resync keeps the counter ahead when it writes no value below a nonce in use. -/
theorem Ahead.set (h : Ahead w) {value : Int} (hvalue : ∀ nonce ∈ w.live, nonce ≤ value) :
    Ahead (act (.set value) w).2 := by
  simp only [act]
  cases w.environment.raises w.calls with
  | some e => exact h.called
  | none => exact ⟨h.nodup, fun nonce hnonce => ⟨value, rfl, hvalue nonce hnonce⟩⟩

/-- A transaction is accepted, rejected or lost; none of it moves the counter. -/
theorem Ahead.send (h : Ahead w) (tx : Transaction) : Ahead (act (.sendRawTransaction tx) w).2 := by
  simp only [act]
  split_ifs with hsigned hold
  · exact h.called
  · exact h.called.reject tx.nonce
  · rcases w.environment.send w.calls with txHash | message | ⟨message, arrived⟩
    · exact h.called.accept tx.nonce
    · exact h.called.reject tx.nonce
    · cases arrived
      · exact h.called
      · exact h.called.accept tx.nonce

/-- Every call keeps the counter ahead unless it is a resync to below a nonce in use. -/
theorem Ahead.act (h : Ahead w) {op : Call} (hop : Resyncs w op) :
    Ahead (Nonce.act op w).2 := by
  cases op with
  | getTransactionCount => exact h.called
  | gasPrice => exact h.called
  | incr => exact h.incr
  | set value => exact h.set hop
  | sendRawTransaction tx => exact h.send tx

/-- The condition on resyncs is not too strong: where the counter is below a nonce in use, that nonce
is handed out again after as many increments as it lies above the counter. -/
theorem handed_out_again {value nonce : Int} {k : Nat} (hcounter : w.counter = some value)
    (hlive : nonce ∈ w.live) (hraises : ∀ n, w.environment.raises n = none)
    (hnonce : nonce = value + k + 1) :
    ¬ ((fun w => (Nonce.act .incr w).2)^[k + 1] w).live.Nodup := by
  induction k generalizing w value with
  | zero =>
    have hsame : w.next = nonce := by
      rw [next_of_counter hcounter]
      omega
    rw [Function.iterate_one, act_incr (hraises w.calls), hsame]
    intro hnodup
    have hdisjoint := (List.nodup_append.mp hnodup).2.2
    exact hdisjoint nonce hlive nonce (List.mem_singleton.mpr rfl) rfl
  | succ k ih =>
    rw [Function.iterate_succ_apply, act_incr (hraises w.calls)]
    refine ih (congrArg some (next_of_counter hcounter)) (List.mem_append_left _ hlive) hraises ?_
    push_cast at hnonce
    omega

end Steps

section Runs

variable {κ : Type} [DecidableEq κ]

/-- In every run in which no resync writes a value below a nonce in use, the nonces in use
differ. -/
theorem nonces_differ (payloads : κ → List Json) (counter : Option Int) (accepted : List Int)
    (environment : Environment) (sched : List κ)
    {c : Config κ Call Call.Ans BlockchainError Unit World}
    (hresyncs : (services payloads counter accepted environment).Guarded act
      (fun c _ op => Resyncs c.world op) sched)
    (h : (services payloads counter accepted environment).exec act sched = some c) :
    c.world.live.Nodup := by
  have hstart : Ahead (World.start counter accepted environment) :=
    ⟨List.nodup_nil, fun nonce hnonce => absurd hnonce List.not_mem_nil⟩
  have hahead : Ahead c.world := Config.exec_of_step (fun c => Ahead c.world)
    (fun c i op k hc _ hop => hc.act hop) hstart hresyncs h
  exact hahead.nodup

end Runs

/-- web3 6, with an eth-account before 0.13. -/
def web3v6 : Libraries := ⟨true, true⟩

/-- A node that accepts every nonce once, from zero on, and counts what it has accepted. -/
def countingNode : Environment where
  libraries := web3v6
  transactionCount _ accepted := .ok accepted.length
  gasPrice _ := .ok 30
  send n := .accept ("0xc" ++ toString n)
  rejection _ := "nonce too low"
  raises _ := none

/-- Two instances, each with one payload to send. -/
def onePayloadEach : Bool → List Json := fun _ => [.obj []]

/-- The second instance starts when the first has finished its transaction. -/
theorem nonces_differ_sample :
    ∃ c, (services onePayloadEach none [] countingNode).exec act
        [false, false, false, false, false, true, true, true, true] = some c ∧
      c.world.live = [0, 1] ∧ c.world.live.Nodup := by
  refine ⟨_, rfl, rfl, ?_⟩
  refine nonces_differ onePayloadEach none [] countingNode
    [false, false, false, false, false, true, true, true, true] ?_ rfl
  exact ⟨trivial, fun nonce hnonce => absurd hnonce List.not_mem_nil, trivial, trivial, trivial,
    trivial, fun nonce hnonce => (List.mem_singleton.mp hnonce).le, trivial, trivial, trivial⟩

/-- The second instance starts while the first holds a nonce that it has not sent yet: both hold
the same one. -/
theorem nonce_shared :
    ∃ c, (services onePayloadEach none [] countingNode).exec act
        [false, false, false, false, true, true, true, true] = some c ∧
      c.world.live = [0, 0] ∧ ¬ c.world.live.Nodup :=
  ⟨_, rfl, rfl, by decide⟩

end SupplyChainTracker.Blockchain.Nonce
