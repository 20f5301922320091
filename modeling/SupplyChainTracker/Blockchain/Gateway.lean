import SupplyChainTracker.Blockchain.Service
import SupplyChainTracker.Core.Rollback

/-!
# Receipts of a node

`Web3BlockchainGateway.get_receipt` puts a receipt together from three calls of a node, whose chain
goes on while they are made: blocks are added, and the last ones may be replaced.
-/

namespace SupplyChainTracker.Blockchain

open Coroutine (perform)

/-- A transaction of a block, as far as its receipt tells. -/
structure Included where
  txHash : String
  /-- Missing in the receipts of old chains. -/
  status : Option Int
  gasUsed : Int
  deriving DecidableEq, Repr

/-- A block. -/
structure Block where
  timestamp : Int
  transactions : List Included
  deriving DecidableEq, Repr

/-- The receipt that a node has of a transaction. -/
structure TxReceipt where
  blockNumber : Nat
  status : Option Int
  gasUsed : Int
  deriving DecidableEq, Repr

/-- The receipt of a transaction that a block includes. -/
def Block.receipt? (txHash : String) (p : Block × Nat) : Option TxReceipt :=
  (p.1.transactions.find? fun t => t.txHash = txHash).map fun t => ⟨p.2, t.status, t.gasUsed⟩

/-- The receipt of a transaction that a chain includes. -/
def receiptOf? (chain : List Block) (txHash : String) : Option TxReceipt :=
  chain.zipIdx.findSome? (Block.receipt? txHash)

/-- The exceptions that end a query of the node. -/
inductive NodeError : Type
  | transactionNotFound
  | keyError (key : String)
  /-- Any other exception, of the node, the connection or the clock. -/
  | external (message : String)
  deriving DecidableEq, Repr

/-- A call of the node. -/
inductive NodeCall : Type
  | getTransactionReceipt (txHash : String)
  | getBlock (number : Nat)
  | blockNumber

/-- What a call of the node returns. -/
abbrev NodeCall.Ans : NodeCall → Type
  | getTransactionReceipt _ => TxReceipt
  | getBlock _ => Block
  | blockNumber => Int

/-- A coroutine over a node. -/
abbrev NodeProgram : Type → Type := Coroutine NodeCall NodeCall.Ans NodeError

/-- What a node with some chain answers. -/
def NodeCall.reply (chain : List Block) : (op : NodeCall) → Except NodeError op.Ans
  | .getTransactionReceipt txHash =>
      match receiptOf? chain txHash with
      | some receipt => .ok receipt
      | none => .error .transactionNotFound
  | .getBlock number =>
      match chain[number]? with
      | some block => .ok block
      | none => .error (.external "BlockNotFound")
  | .blockNumber => .ok (chain.length - 1)

/-- A node over time, and the connection to it. -/
structure Node where
  /-- The chain at each instant. -/
  chain : Nat → List Block
  /-- The instants at which the calls of one query after the other are answered. -/
  instant : Nat → Nat → Nat
  /-- The exceptions that the calls of one query after the other raise. -/
  fault : Nat → Nat → Option NodeError

/-- The answer to a call of a query, by how many of its calls have been answered before. -/
def Node.act (node : Node) (query : Nat) (op : NodeCall) (made : Nat) :
    Except NodeError op.Ans × Nat :=
  (op.reply (node.chain (node.instant query made)), made + 1)

/-- `Web3BlockchainGateway`, with `datetime.fromtimestamp` in the time zone of the host. -/
structure Web3BlockchainGateway where
  fromtimestamp : Int → Except NodeError DateTime

/-- `receipt["status"]`. -/
def TxReceipt.statusItem (receipt : TxReceipt) : Except NodeError Int :=
  match receipt.status with
  | some status => .ok status
  | none => .error (.keyError "status")

namespace Web3BlockchainGateway

variable (gateway : Web3BlockchainGateway)

/-- The body of `get_receipt`. -/
def fetchReceipt (txHash : String) : NodeProgram (Option Receipt) := do
  let receipt ← perform (NodeCall.getTransactionReceipt txHash)
  let block ← perform (NodeCall.getBlock receipt.blockNumber)
  let latestBlock ← perform NodeCall.blockNumber
  let confirmations := latestBlock - receipt.blockNumber
  let timestamp ← Coroutine.ofExcept (gateway.fromtimestamp block.timestamp)
  let status ← Coroutine.ofExcept receipt.statusItem
  return some {
    blockNumber := some receipt.blockNumber
    confirmations := some confirmations
    timestamp := some (DateTimeText.isoformatNaive timestamp)
    status := some (if status = 1 then "success" else "failed")
    gasUsed := some receipt.gasUsed }

/-- `get_receipt`, which lets no exception escape. -/
def getReceipt (txHash : String) : NodeProgram (Option Receipt) :=
  (gateway.fetchReceipt txHash).tryCatch fun
    | .transactionNotFound => return none
    | .keyError _ | .external _ => return none

end Web3BlockchainGateway

/-- The exceptions of the node as those of the service. -/
def NodeError.toBlockchainError : NodeError → BlockchainError
  | transactionNotFound => .external "TransactionNotFound"
  | keyError key => .keyError key
  | external message => .external message

/-- The receipt that a query returns. -/
def Node.answer (node : Node) (gateway : Web3BlockchainGateway) (query : Nat) (txHash : String) :
    Except BlockchainError (Option Receipt) :=
  ((gateway.getReceipt txHash).runWith (node.act query) (node.fault query) 0).1.mapError
    NodeError.toBlockchainError

/-- The receipt that is made of what the calls of a query return. -/
structure Node.Reports (node : Node) (gateway : Web3BlockchainGateway) (query : Nat)
    (txHash : String) (receipt : Receipt) (txReceipt : TxReceipt) (status : Int) : Prop where
  included : receiptOf? (node.chain (node.instant query 0)) txHash = some txReceipt
  txStatus : txReceipt.status = some status
  blockNumber : receipt.blockNumber = some (txReceipt.blockNumber : Int)
  confirmations : receipt.confirmations =
    some (((node.chain (node.instant query 2)).length : Int) - 1 - txReceipt.blockNumber)
  status : receipt.status = some (if status = 1 then "success" else "failed")
  gasUsed : receipt.gasUsed = some txReceipt.gasUsed
  timestamp : ∃ block timestamp,
    (node.chain (node.instant query 1))[txReceipt.blockNumber]? = some block ∧
      gateway.fromtimestamp block.timestamp = .ok timestamp ∧
      receipt.timestamp = some (DateTimeText.isoformatNaive timestamp)

theorem included_of_reply {chain : List Block} {txHash : String} {txReceipt : TxReceipt}
    (h : (NodeCall.getTransactionReceipt txHash).reply chain = .ok txReceipt) :
    receiptOf? chain txHash = some txReceipt := by
  simp only [NodeCall.reply] at h
  split at h
  · cases h
    assumption
  · cases h

theorem block_of_reply {chain : List Block} {number : Nat} {block : Block}
    (h : (NodeCall.getBlock number).reply chain = .ok block) : chain[number]? = some block := by
  simp only [NodeCall.reply] at h
  split at h
  · cases h
    assumption
  · cases h

theorem TxReceipt.status_of_item {receipt : TxReceipt} {status : Int}
    (h : receipt.statusItem = .ok status) : receipt.status = some status := by
  unfold statusItem at h
  split at h
  · cases h
    assumption
  · cases h

/-- A query returns nothing, or what the node reports. -/
theorem Node.answer_cases (node : Node) (gateway : Web3BlockchainGateway) (query : Nat)
    (txHash : String) :
    node.answer gateway query txHash = .ok none ∨
      ∃ receipt txReceipt status, node.answer gateway query txHash = .ok (some receipt) ∧
        node.Reports gateway query txHash receipt txReceipt status := by
  have hanswer : node.answer gateway query txHash = .ok
      (((gateway.fetchReceipt txHash).runWith (node.act query) (node.fault query) 0).1.toOption.getD
        none) := by
    rw [answer, Web3BlockchainGateway.getReceipt,
      Coroutine.runWith_tryCatch_ret (node.act query) fun e => by cases e <;> rfl]
    rfl
  rw [hanswer]
  cases hbody : ((gateway.fetchReceipt txHash).runWith (node.act query) (node.fault query) 0).1 with
  | error e => exact .inl rfl
  | ok result =>
    obtain ⟨txReceipt, hincluded, hbody⟩ := Coroutine.runWith_perform_bind _ hbody
    obtain ⟨block, hblock, hbody⟩ := Coroutine.runWith_perform_bind _ hbody
    obtain ⟨latestBlock, hlatest, hbody⟩ := Coroutine.runWith_perform_bind _ hbody
    obtain ⟨timestamp, htimestamp, hbody⟩ := Coroutine.runWith_ofExcept_bind _ hbody
    obtain ⟨status, hstatus, hbody⟩ := Coroutine.runWith_ofExcept_bind _ hbody
    cases hbody
    cases hlatest
    refine .inr ⟨_, txReceipt, status, rfl, ?_, ?_, rfl, rfl, rfl, rfl, block, timestamp, ?_,
      htimestamp, rfl⟩
    · exact included_of_reply hincluded
    · exact TxReceipt.status_of_item hstatus
    · exact block_of_reply hblock

/-- A query whose calls are answered returns what the node reports. -/
theorem Node.answer_of_included {node : Node} {gateway : Web3BlockchainGateway} {query : Nat}
    {txHash : String} {txReceipt : TxReceipt} {status : Int} {block : Block} {timestamp : DateTime}
    (hfault : ∀ made, node.fault query made = none)
    (hincluded : receiptOf? (node.chain (node.instant query 0)) txHash = some txReceipt)
    (hstatus : txReceipt.status = some status)
    (hblock : (node.chain (node.instant query 1))[txReceipt.blockNumber]? = some block)
    (htimestamp : gateway.fromtimestamp block.timestamp = .ok timestamp) :
    node.answer gateway query txHash = .ok (some {
      blockNumber := some txReceipt.blockNumber
      confirmations :=
        some (((node.chain (node.instant query 2)).length : Int) - 1 - txReceipt.blockNumber)
      timestamp := some (DateTimeText.isoformatNaive timestamp)
      status := some (if status = 1 then "success" else "failed")
      gasUsed := some txReceipt.gasUsed }) := by
  simp only [answer, Web3BlockchainGateway.getReceipt, Web3BlockchainGateway.fetchReceipt,
    Coroutine.bind_eq, perform, Coroutine.await_bind, Coroutine.runWith, act, hfault,
    Coroutine.answer_none, NodeCall.reply, hincluded, hblock, TxReceipt.statusItem, hstatus,
    htimestamp, Coroutine.ofExcept_ok, Coroutine.ret_bind, Coroutine.await_tryCatch]
  rfl

end SupplyChainTracker.Blockchain
