import SupplyChainTracker.Blockchain.Announcement
import SupplyChainTracker.Blockchain.Gateway

/-!
# Confirmed transactions are final

The monitor over the gateway to a node whose last blocks may be replaced. A query asks for the
receipt first and for the height last; the blocks that are added in between count as confirmations
although they may not build on the block of the receipt. A transaction whose record is stored as
confirmed stays in the chain, as long as the required confirmations make up for both.
-/

namespace SupplyChainTracker.Blockchain

/-- At most `depth` blocks at the end of the chain get replaced at a time, and at most `gap` blocks
are added while a query is answered. -/
structure Node.Regular (node : Node) (depth gap : Nat) : Prop where
  history : Rollback.History depth node.chain
  ordered : ∀ query, Monotone (node.instant query)
  gap : ∀ query, (node.chain (node.instant query 2)).length ≤
    (node.chain (node.instant query 0)).length + gap

/-- From a query on, the chain includes a transaction that has succeeded, in the same block. -/
def Node.Lasting (node : Node) (query : Nat) (txHash : String) : Prop :=
  ∃ txReceipt, txReceipt.status = some 1 ∧
    ∀ m, node.instant query 0 ≤ m → receiptOf? (node.chain m) txHash = some txReceipt

theorem Block.number_of_receipt? (txHash : String) (p : Block × Nat) (r : TxReceipt)
    (h : Block.receipt? txHash p = some r) : r.blockNumber = p.2 := by
  obtain ⟨t, _, rfl⟩ := Option.map_eq_some_iff.mp h
  rfl

/-- A chain includes a transaction in one of its blocks. -/
theorem blockNumber_lt {chain : List Block} {txHash : String} {r : TxReceipt}
    (h : receiptOf? chain txHash = some r) : r.blockNumber < chain.length := by
  obtain ⟨p, hp, hr⟩ := List.exists_of_findSome?_eq_some h
  rw [Block.number_of_receipt? txHash p r hr]
  exact List.snd_lt_of_mem_zipIdx hp

/-- A receipt with enough confirmations is about a transaction that lasts. -/
theorem Node.Regular.lasting {node : Node} {depth gap : Nat} (hnode : node.Regular depth gap)
    {required : Int} (henough : depth = 0 ∨ (depth + gap : Int) ≤ required)
    {gateway : Web3BlockchainGateway} {query : Nat} {txHash : String} {receipt : Receipt}
    (hanswer : node.answer gateway query txHash = .ok (some receipt))
    (hfinal : receipt.Final required) : node.Lasting query txHash := by
  obtain hnone | ⟨receipt', txReceipt, status, hsome, hreports⟩ :=
    node.answer_cases gateway query txHash
  · cases hnone.symm.trans hanswer
  · cases hsome.symm.trans hanswer
    obtain ⟨hstatus, hconfirmations⟩ := hfinal
    have hone : status = 1 := by
      rw [hreports.status] at hstatus
      by_contra hne
      simp [hne] at hstatus
    rw [hreports.confirmations, Option.getD_some] at hconfirmations
    refine ⟨txReceipt, hone ▸ hreports.txStatus, fun m hm => ?_⟩
    have hlt := blockNumber_lt hreports.included
    have hgap := hnode.gap query
    have hdeep : txReceipt.blockNumber + depth < (node.chain (node.instant query 0)).length := by
      omega
    exact hnode.history.findSome?_eq (Block.number_of_receipt? txHash) hreports.included hdeep hm

/-- A node that replaces as many blocks as it may while a query is answered, and adds as many. -/
def replacingNode (txHash : String) (depth gap : Nat) : Node where
  chain
    | 0 => ⟨0, [⟨txHash, some 1, 21000⟩]⟩ :: List.replicate (depth - 1) ⟨0, []⟩
    | _ + 1 => List.replicate (depth + gap) ⟨0, []⟩
  instant _ made := min made 1
  fault _ _ := none

theorem regular_replacingNode (txHash : String) {depth : Nat} (hdepth : 0 < depth) (gap : Nat) :
    (replacingNode txHash depth gap).Regular depth gap where
  history
    | 0 => by
      refine ⟨?_, ?_⟩
      · have hnone : ((replacingNode txHash depth gap).chain 0).length - depth = 0 := by
          simp only [replacingNode, List.length_cons, List.length_replicate]
          omega
        rw [hnone, List.take_zero]
        exact List.nil_prefix
      · simp only [replacingNode, List.length_cons, List.length_replicate]
        omega
    | _ + 1 => Rollback.replaces_of_prefix depth (List.prefix_refl _)
  ordered _ := fun _ _ h => min_le_min_right 1 h
  gap _ := by
    change (List.replicate (depth + gap) _).length ≤
      (_ :: List.replicate (depth - 1) _).length + gap
    simp only [List.length_cons, List.length_replicate]
    omega

/-- The replaced block has the receipt, the new ones the confirmations. -/
theorem answer_replacingNode (txHash : String) {depth : Nat} (hdepth : 0 < depth) (gap : Nat) :
    (replacingNode txHash depth gap).answer ⟨fun _ => .ok 0⟩ 0 txHash = .ok (some {
      blockNumber := some 0
      confirmations := some ((depth + gap : Nat) - 1 - 0)
      timestamp := some (DateTimeText.isoformatNaive 0)
      status := some "success"
      gasUsed := some 21000 }) := by
  have hincluded : receiptOf? ((replacingNode txHash depth gap).chain 0) txHash =
      some ⟨0, some 1, 21000⟩ := by
    simp [replacingNode, receiptOf?, Block.receipt?]
  have hblock : ((replacingNode txHash depth gap).chain 1)[0]? = some ⟨0, []⟩ := by
    simp [replacingNode, hdepth]
  have hlength : ((replacingNode txHash depth gap).chain 1).length = depth + gap :=
    List.length_replicate
  rw [← hlength]
  exact Node.answer_of_included (fun _ => rfl) hincluded rfl hblock rfl

theorem not_lasting_replacingNode (txHash : String) (depth gap : Nat) :
    ¬ (replacingNode txHash depth gap).Lasting 0 txHash := by
  rintro ⟨txReceipt, _, hlasting⟩
  have hone := hlasting 1 (by simp [replacingNode])
  obtain ⟨⟨block, number⟩, hmem, hr⟩ := List.exists_of_findSome?_eq_some hone
  have hblock : block = ⟨0, []⟩ := List.eq_of_mem_replicate (List.fst_mem_of_mem_zipIdx hmem)
  rw [hblock] at hr
  cases hr

/-- Confirmations vouch for a transaction on every regular node exactly if no block is ever
replaced, or if there are enough of them for the blocks that may be replaced and for those that are
added during a query. What lasts is the receipt with its block number; that the block itself is the
same is not spoken of. -/
theorem lasting_iff (depth gap : Nat) (required : Int) :
    (∀ (node : Node) (gateway : Web3BlockchainGateway) (query : Nat) (txHash : String)
      (receipt : Receipt), node.Regular depth gap →
        node.answer gateway query txHash = .ok (some receipt) → receipt.Final required →
          node.Lasting query txHash) ↔
      depth = 0 ∨ (depth + gap : Int) ≤ required := by
  constructor
  · intro h
    by_contra hfew
    obtain ⟨hdepth, hfew⟩ := not_or.mp hfew
    have hpos : 0 < depth := Nat.pos_of_ne_zero hdepth
    refine not_lasting_replacingNode "0x" depth gap
      (h _ _ 0 "0x" _ (regular_replacingNode "0x" hpos gap) (answer_replacingNode "0x" hpos gap)
        ⟨rfl, ?_⟩)
    simp only [Option.getD_some]
    omega
  · exact fun henough _ _ _ _ _ hnode hanswer hfinal => hnode.lasting henough hanswer hfinal

/-- The world in which a call is answered: a receipt is what the gateway makes of the answers of the
node, whose next query it is. -/
def World.asking (w : World) (gateway : Web3BlockchainGateway) (node : Node) : Call → World
  | .getReceipt txHash => { w with
      environment := { w.environment with
        getReceipt := fun query => node.answer gateway query txHash } }
  | _ => w

/-- The effect of a call with the gateway to a node. -/
def nodeAct (gateway : Web3BlockchainGateway) (node : Node) (op : Call) (w : World) :
    Except BlockchainError op.Ans × World :=
  act op (w.asking gateway node op)

section Steps

variable {w : World} {op : Call}

/-- The answers of the node are all that is added to a world. -/
theorem asking_eq (gateway : Web3BlockchainGateway) (node : Node) (op : Call) (w : World) :
    ∃ environment, w.asking gateway node op = { w with environment := environment } := by
  cases op <;> exact ⟨_, rfl⟩

theorem calls_act (op : Call) (w : World) : (act op w).2.calls = w.calls + 1 := by
  cases op with
  | sendTransaction payload =>
    simp only [act]
    split <;> rfl
  | getReceipt txHash =>
    simp only [act]
    split <;> rfl
  | save record =>
    simp only [act]
    split <;> rfl
  | getPendingRecords limit =>
    simp only [act]
    split <;> rfl
  | publishEvent event topics =>
    simp only [act]
    split <;> rfl

/-- A receipt has been there before or has just been returned. -/
theorem mem_receipts_act {p : String × Receipt} (h : p ∈ (act op w).2.receipts) :
    p ∈ w.receipts ∨
      op = .getReceipt p.1 ∧ w.environment.getReceipt w.calls = .ok (some p.2) := by
  cases op with
  | getReceipt txHash =>
    simp only [act] at h
    split at h
    · rename_i receipt hreceipt
      rcases List.mem_append.mp h with h | h
      · exact .inl h
      · obtain rfl := List.mem_singleton.mp h
        exact .inr ⟨rfl, hreceipt⟩
    · exact .inl h
    · exact .inl h
  | sendTransaction payload =>
    simp only [act] at h
    split at h <;> exact .inl h
  | save record =>
    simp only [act] at h
    split at h <;> exact .inl h
  | getPendingRecords limit =>
    simp only [act] at h
    split at h <;> exact .inl h
  | publishEvent event topics =>
    simp only [act] at h
    split at h <;> exact .inl h

/-- An event has been published before or has just been. -/
theorem mem_published_act {event : Event} (h : event ∈ (act op w).2.published) :
    event ∈ w.published ∨ ∃ topics, op = .publishEvent event topics := by
  by_cases hop : ∃ event' topics, op = .publishEvent event' topics
  · obtain ⟨event', topics, rfl⟩ := hop
    obtain ⟨_, hp, _⟩ | ⟨_, hp, _⟩ := act_publish_cases event' topics w
    · rw [hp] at h
      rcases List.mem_append.mp h with h | h
      · exact .inl h
      · exact .inr ⟨topics, by rw [List.mem_singleton.mp h]⟩
    · exact .inl (hp ▸ h)
  · have hquiet := unannounced_act (w := w) op fun event' topics heq =>
      hop ⟨event', topics, heq⟩
    exact .inl (hquiet.1 ▸ h)

variable {κ : Type} {registrations : κ → Registration} {st : Option κ → Holding} {required : Int}
  {db : RecordDb}

/-- A record that a call makes confirmed is verified. -/
theorem Sound.confirmedSince_act (h : Sound required registrations st w) {i : Option κ}
    (hmay : (protocol required registrations i).may (st i) op) {id : UUID}
    (hsince : ConfirmedSince db (act op w).2 id) :
    ConfirmedSince db w id ∨ (act op w).2.Verified required id := by
  cases op with
  | sendTransaction payload =>
    exact .inl ((confirmedSince_congr (db_sendTransaction payload w) id).mp hsince)
  | getReceipt txHash =>
    exact .inl ((confirmedSince_congr (db_getReceipt txHash w) id).mp hsince)
  | getPendingRecords limit =>
    exact .inl ((confirmedSince_congr (db_getPendingRecords limit w) id).mp hsince)
  | publishEvent event topics =>
    exact .inl ((confirmedSince_congr (db_publishEvent event topics w) id).mp hsince)
  | save record =>
    rcases act_save_cases record w with ⟨e, _, hdb⟩ | ⟨_, _, hput⟩
    · exact .inl ((confirmedSince_congr hdb id).mp hsince)
    by_cases hid : record.recordId = id
    · subst hid
      obtain ⟨⟨row', hrow', hconfirmed⟩, _⟩ := hsince
      rw [hput, ← w.db.recordId_target record, Table.find?_put_self] at hrow'
      cases hrow'
      have hvalue : (w.db.target record).status = record.status.value := by
        unfold RecordDb.target
        split <;> rfl
      rw [hvalue] at hconfirmed
      have hstatus : record.status = .confirmed := by
        revert hconfirmed
        cases record.status <;> simp [TransactionStatus.value]
      cases i with
      | none => exact .inr (h.verified_save hmay hstatus hput)
      | some k =>
        obtain ⟨_, _, txHash, hrow⟩ := hmay
        have hpending := congrArg RecordRow.status hrow
        rw [show record.toRow.status = record.status.value from rfl, hconfirmed] at hpending
        cases hpending
    · refine .inl ?_
      rw [ConfirmedSince, find?_act_save hid] at hsince
      exact hsince

end Steps

section Runs

variable {κ : Type} {registrations : κ → Registration} {gateway : Web3BlockchainGateway}
  {node : Node} {required : Int} {db : RecordDb} {st : Option κ → Holding} {w : World}

/-- Receipts are answers of the node, and what has been confirmed or published is verified. -/
structure Vouched (gateway : Web3BlockchainGateway) (node : Node) (required : Int)
    (registrations : κ → Registration) (db : RecordDb) (st : Option κ → Holding) (w : World) :
    Prop where
  sound : Sound required registrations st w
  answered : ∀ p ∈ w.receipts, ∃ query < w.calls,
    node.answer gateway query p.1 = .ok (some p.2)
  confirmed : ∀ id, ConfirmedSince db w id → w.Verified required id
  published : ∀ event ∈ w.published, w.Verified required event.aggregateId

theorem vouched_start {monitor : ConfirmationMonitor} (hfresh : FreshIds registrations db)
    (environment : Environment) :
    Vouched gateway node monitor.service.requiredConfirmations registrations db
      (fun _ => Holding.initial) (World.start db environment) where
  sound := sound_start hfresh environment
  answered := nofun
  confirmed := by
    rintro id ⟨⟨row, hrow, hconfirmed⟩, hfirst⟩
    exact absurd hconfirmed (hfirst row hrow)
  published := nofun

/-- What is verified by answers of a regular node lasts. -/
theorem Vouched.lasting (h : Vouched gateway node required registrations db st w)
    {depth gap : Nat} (hnode : node.Regular depth gap)
    (henough : depth = 0 ∨ (depth + gap : Int) ≤ required) {id : UUID}
    (hverified : w.Verified required id) :
    ∃ row, w.db.records.find? id = some row ∧ row.status = .confirmed ∧
      ∃ query < w.calls, node.Lasting query row.txHash := by
  obtain ⟨row, hrow, hconfirmed, receipt, hmem, hfinal⟩ := hverified
  obtain ⟨query, hquery, hanswer⟩ := h.answered _ hmem
  exact ⟨row, hrow, hconfirmed, query, hquery, hnode.lasting henough hanswer hfinal⟩

variable [DecidableEq κ]

/-- Every call keeps it so. -/
theorem Vouched.step (hinjective : Function.Injective fun k => (registrations k).recordId)
    (h : Vouched gateway node required registrations db st w) {i : Option κ} {op : Call}
    (hmay : (protocol required registrations i).may (st i) op) :
    Vouched gateway node required registrations db
      (Function.update st i
        ((protocol required registrations i).next (st i) op (nodeAct gateway node op w).1))
      (nodeAct gateway node op w).2 := by
  have hreceipt : ∀ p : String × Receipt, op = .getReceipt p.1 →
      (w.asking gateway node op).environment.getReceipt w.calls =
        node.answer gateway w.calls p.1 := by
    rintro p rfl
    rfl
  unfold nodeAct
  obtain ⟨environment, hasking⟩ := asking_eq gateway node op w
  rw [hasking] at hreceipt ⊢
  have hsound : Sound required registrations st { w with environment := environment } :=
    ⟨h.sound.read, h.sound.saved, h.sound.seen, h.sound.fresh⟩
  have hmono : ∀ id, w.Verified required id →
      (act op { w with environment := environment }).2.Verified required id := fun id hid =>
    World.Verified.mono (w := { w with environment := environment }) hid
      (hsound.changes hmay).evolves (receipts_act op _)
  refine ⟨hsound.step hinjective hmay, fun p hp => ?_, fun id hsince => ?_, fun event hevent => ?_⟩
  · rw [calls_act]
    rcases mem_receipts_act hp with hp | ⟨hop, hp⟩
    · obtain ⟨query, hquery, hanswer⟩ := h.answered p hp
      exact ⟨query, Nat.lt_succ_of_lt hquery, hanswer⟩
    · exact ⟨w.calls, Nat.lt_succ_self _, (hreceipt p hop).symm.trans hp⟩
  · rcases hsound.confirmedSince_act hmay hsince with hbefore | hverified
    · exact hmono id (h.confirmed id hbefore)
    · exact hverified
  · rcases mem_published_act hevent with hbefore | ⟨topics, rfl⟩
    · exact hmono _ (h.published event hbefore)
    · cases i with
      | none =>
        obtain ⟨row, hheld⟩ := hmay
        exact hmono _ (h.sound.saved _ row hheld)
      | some k => exact hmay.elim

/-- The monitor beside any registrations, over the gateway to a node that replaces at most `depth`
blocks at a time and adds at most `gap` blocks during a query: a transaction whose record has been
stored as confirmed, or that has been announced, is in the chain for good. -/
theorem confirmed_final (gateway : Web3BlockchainGateway) {node : Node} {depth gap : Nat}
    (hnode : node.Regular depth gap) (monitor : ConfirmationMonitor)
    (henough : depth = 0 ∨ (depth + gap : Int) ≤ monitor.service.requiredConfirmations)
    (passes : List Pass) (registrations : κ → Registration) {db : RecordDb}
    (environment : Environment) (hfresh : FreshIds registrations db) {sched : List (Option κ)}
    {d : Config (Option κ) Call Call.Ans BlockchainError Unit World}
    (h : (monitored monitor passes registrations db environment).exec (nodeAct gateway node)
      sched = some d) :
    (∀ id row, d.world.db.records.find? id = some row → row.status = .confirmed →
      (∀ old, db.records.find? id = some old → old.status ≠ .confirmed) →
      ∃ query < d.world.calls, node.Lasting query row.txHash) ∧
    ∀ event ∈ d.world.published, ∃ row,
      d.world.db.records.find? event.aggregateId = some row ∧ row.status = .confirmed ∧
        ∃ query < d.world.calls, node.Lasting query row.txHash := by
  obtain ⟨st, _, hvouched⟩ := Config.exec_conforms
    (fun st w _ =>
      Vouched gateway node monitor.service.requiredConfirmations registrations db st w)
    (fun st w tr i op hi hmay =>
      ⟨by cases i <;> exact expectedRows_act op _, hi.step hfresh.injective hmay⟩)
    _ (conforms_monitored passes db environment) (vouched_start hfresh environment) h
  constructor
  · intro id row hrow hconfirmed hfirst
    obtain ⟨row', hrow', _, hlasting⟩ := hvouched.lasting hnode henough
      (hvouched.confirmed id ⟨⟨row, hrow, hconfirmed⟩, hfirst⟩)
    cases hrow.symm.trans hrow'
    exact hlasting
  · exact fun event hevent => hvouched.lasting hnode henough (hvouched.published event hevent)

end Runs

/-- A node that has included the first transaction eight blocks ago. -/
def sampleNode : Node where
  chain _ := ⟨1714557600, [⟨"0xa0", some 1, 21000⟩]⟩ :: List.replicate 8 ⟨1714557612, []⟩
  instant _ made := made
  fault _ _ := none

/-- A registration and then a pass of the monitor. -/
theorem confirmed_final_sample :
    ∃ d, (monitored sampleMonitor samplePasses sampleRegistration .empty verifyingGateway).exec
        (nodeAct ⟨fun seconds => .ok (seconds * 1000000)⟩ sampleNode)
        [some (), some (), none, none, none, none] = some d ∧
      (d.world.db.records.find? ⟨81⟩).map RecordRow.status = some .confirmed ∧
      d.world.published.length = 1 ∧
      ∀ event ∈ d.world.published, ∃ row,
        d.world.db.records.find? event.aggregateId = some row ∧ row.status = .confirmed ∧
          ∃ query < d.world.calls, sampleNode.Lasting query row.txHash := by
  have hnode : sampleNode.Regular 2 4 :=
    ⟨fun _ => Rollback.replaces_of_prefix 2 (List.prefix_refl _), fun _ _ _ h => h,
      fun _ => Nat.le_add_right _ _⟩
  have hrun : ∃ d, (monitored sampleMonitor samplePasses sampleRegistration .empty
        verifyingGateway).exec (nodeAct ⟨fun seconds => .ok (seconds * 1000000)⟩ sampleNode)
        [some (), some (), none, none, none, none] = some d ∧
      (d.world.db.records.find? ⟨81⟩).map RecordRow.status = some .confirmed ∧
      d.world.published.length = 1 := ⟨_, rfl, rfl, rfl⟩
  obtain ⟨d, hd, hconfirmed, hpublished⟩ := hrun
  exact ⟨d, hd, hconfirmed, hpublished,
    (confirmed_final _ hnode sampleMonitor (.inr (by decide)) samplePasses sampleRegistration
      verifyingGateway ⟨fun _ _ _ => rfl, fun _ => rfl⟩ hd).2⟩

end SupplyChainTracker.Blockchain
