import SupplyChainTracker.Blockchain.Record
import SupplyChainTracker.Core.Async.Coroutine
import SupplyChainTracker.Libs.Events

/-!
# The blockchain service

`BlockchainService` over the calls that it awaits. The environment decides what the gateway
answers and which calls raise; the world keeps what has come of the calls.
-/

namespace SupplyChainTracker.Blockchain

open Coroutine (perform)

/-- A receipt: the items of its `dict`, each missing or not `None`. -/
structure Receipt where
  status : Option String := none
  confirmations : Option Int := none
  blockNumber : Option Int := none
  gasUsed : Option Int := none
  /-- An ISO text. -/
  timestamp : Option String := none

/-- `receipt[key]`. -/
def Receipt.item {α : Type} (key : String) : Option α → Except BlockchainError α
  | some value => .ok value
  | none => .error (.keyError key)

/-- `BlockchainVerified`. -/
structure BlockchainVerified where
  recordId : UUID
  shipmentId : UUID
  transactionHash : String
  verifiedAt : DateTime
  confirmations : Int

namespace BlockchainVerified

/-- Its event type in `_EVENT_TYPE_MAP`. -/
def eventType : String := "blockchain.verified"

/-- `DomainEventConverter.to_event`; the time is naive, as the gateways write theirs. -/
def toEvent (event : BlockchainVerified) (draws : EventDraws) : Event where
  eventType := eventType
  aggregateId := event.recordId
  aggregateType := "blockchain_record"
  payload := .obj [
    ("record_id", .str event.recordId.str),
    ("shipment_id", .str event.shipmentId.str),
    ("transaction_hash", .str event.transactionHash),
    ("verified_at", .str (DateTimeText.isoformatNaive event.verifiedAt)),
    ("confirmations", .int event.confirmations)]
  eventId := draws.eventId
  timestamp := draws.timestamp

end BlockchainVerified

/-- A call of the gateway, the repository or the queue. -/
inductive Call : Type
  | sendTransaction (payload : Json)
  | getReceipt (txHash : String)
  | save (record : BlockchainRecord)
  | getPendingRecords (limit : Nat)
  | publishEvent (event : Event) (topics : List String)

/-- What a call returns. -/
abbrev Call.Ans : Call → Type
  | sendTransaction _ => String
  | getReceipt _ => Option Receipt
  | save _ => RecordRow
  | getPendingRecords _ => List RecordRow
  | publishEvent _ _ => Unit

/-- A coroutine of the blockchain service. -/
abbrev Program : Type → Type := Coroutine Call Call.Ans BlockchainError

/-- What the outside makes of one call after the other. -/
structure Environment where
  sendTransaction : Nat → Except BlockchainError String
  getReceipt : Nat → Except BlockchainError (Option Receipt)
  /-- The exception that a call of the repository or the queue raises. -/
  raises : Nat → Option BlockchainError

/-- The table, and what the gateway and the queue have been told and have answered. -/
structure World where
  db : RecordDb
  /-- The payloads that the gateway has accepted, with the hashes of their transactions. -/
  sent : List (Json × String)
  /-- The receipts that the gateway has returned, by the hashes that they were asked for. -/
  receipts : List (String × Receipt)
  published : List Event
  /-- The events whose publication has raised. -/
  unpublished : List Event
  environment : Environment
  /-- How many calls have been made. -/
  calls : Nat

namespace World

/-- A world in which nothing has been called. -/
def start (db : RecordDb) (environment : Environment) : World where
  db := db
  sent := []
  receipts := []
  published := []
  unpublished := []
  environment := environment
  calls := 0

/-- A call has been made. -/
def called (w : World) : World := { w with calls := w.calls + 1 }

/-- What the next call raises if it is one of the repository or the queue. -/
def raises (w : World) : Option BlockchainError := w.environment.raises w.calls

end World

/-- The effect of a call. -/
def act : (op : Call) → World → Except BlockchainError op.Ans × World
  | .sendTransaction payload, w =>
      match w.environment.sendTransaction w.calls with
      | .ok txHash => (.ok txHash, { w.called with sent := w.sent ++ [(payload, txHash)] })
      | .error e => (.error e, w.called)
  | .getReceipt txHash, w =>
      match w.environment.getReceipt w.calls with
      | .ok (some receipt) =>
          (.ok (some receipt), { w.called with receipts := w.receipts ++ [(txHash, receipt)] })
      | .ok none => (.ok none, w.called)
      | .error e => (.error e, w.called)
  | .save record, w =>
      match w.raises with
      | some e => (.error e, w.called)
      | none => ((w.db.save record).1, { w.called with db := (w.db.save record).2 })
  | .getPendingRecords limit, w =>
      match w.raises with
      | some e => (.error e, w.called)
      | none => (.ok (w.db.pendingRecords limit), w.called)
  | .publishEvent event _, w =>
      match w.raises with
      | some e => (.error e, { w.called with unpublished := w.unpublished ++ [event] })
      | none => (.ok (), { w.called with published := w.published ++ [event] })

namespace BlockchainRepository

/-- `save`. -/
def save (record : BlockchainRecord) : Program BlockchainRecord := do
  let row ← perform (Call.save record)
  Coroutine.ofExcept (rowToEntity row)

/-- `get_pending_records`. -/
def getPendingRecords (limit : Nat) : Program (List BlockchainRecord) := do
  let rows ← perform (Call.getPendingRecords limit)
  Coroutine.ofExcept (rows.mapM rowToEntity)

end BlockchainRepository

/-- `BlockchainService`, with `datetime.fromisoformat`. -/
structure BlockchainService where
  requiredConfirmations : Int := 6
  fromisoformat : String → Except BlockchainError DateTime

namespace BlockchainService

/-- `register_event`, with what the defaults of its record draw. -/
def registerEvent (shipmentId : UUID) (payload : Json) (recordId : UUID) (createdAt : DateTime) :
    Program String := do
  let txHash ← perform (Call.sendTransaction payload)
  let record : BlockchainRecord := {
    shipmentId := shipmentId
    txHash := txHash
    payload := payload
    status := .pending
    recordId := recordId
    createdAt := createdAt }
  let _ ← BlockchainRepository.save record
  return txHash

variable (service : BlockchainService)

/-- `_confirm_transaction`, with what the defaults of its event draw. -/
def confirmTransaction (record : BlockchainRecord) (receipt : Receipt) (draws : EventDraws) :
    Program Unit := do
  let blockNumber ← Coroutine.ofExcept (Receipt.item "block_number" receipt.blockNumber)
  let gasUsed ← Coroutine.ofExcept (Receipt.item "gas_used" receipt.gasUsed)
  let text ← Coroutine.ofExcept (Receipt.item "timestamp" receipt.timestamp)
  let timestamp ← Coroutine.ofExcept (service.fromisoformat text)
  let record := record.confirm blockNumber gasUsed timestamp
  let _ ← BlockchainRepository.save record
  let event : BlockchainVerified := {
    recordId := record.recordId
    shipmentId := record.shipmentId
    transactionHash := record.txHash
    verifiedAt := timestamp
    confirmations := service.requiredConfirmations }
  perform (Call.publishEvent (event.toEvent draws) ["blockchain_events"])

/-- `_fail_transaction`. -/
def failTransaction (record : BlockchainRecord) (reason : String) : Program Unit := do
  let _ ← BlockchainRepository.save (record.fail reason)
  return ()

/-- The body of `update_confirmation`. -/
def examine (record : BlockchainRecord) (draws : EventDraws) : Program Unit := do
  let receipt ← perform (Call.getReceipt record.txHash)
  match receipt with
  | none => return ()
  | some receipt =>
    if receipt.status = some "failed" then failTransaction record "Transaction reverted on chain"
    else if receipt.status = some "success" ∧
        service.requiredConfirmations ≤ receipt.confirmations.getD 0 then
      confirmTransaction service record receipt draws
    else return ()

/-- `update_confirmation`, which lets no exception escape. -/
def updateConfirmation (record : BlockchainRecord) (draws : EventDraws) : Program Unit :=
  (service.examine record draws).tryCatch fun _ => return ()

end BlockchainService

end SupplyChainTracker.Blockchain
