import SupplyChainTracker.Blockchain.Announcement
import SupplyChainTracker.Blockchain.Recording

/-!
# The mock gateway

`MockBlockchainGateway` takes the place of a node. Its receipts have no status, and its hashes are
those of the payloads. A monitor over it settles no record, and of payloads with one hash only the
first is recorded.
-/

namespace SupplyChainTracker.Blockchain

/-- `MockBlockchainGateway`, with `str` of a payload, the `hash` of the interpreter and
`datetime.utcnow`. -/
structure MockBlockchainGateway where
  str : Json → String
  hash : String → Int
  utcnow : Nat → DateTime

namespace MockBlockchainGateway

variable (mock : MockBlockchainGateway)

/-- The hash that `send_transaction` returns. -/
def txHash (payload : Json) : String :=
  "0xmock" ++ String.ofList (Nat.toDigits 16 (mock.hash (mock.str payload) % 2 ^ 32).toNat)

/-- The receipt that `get_receipt` returns. -/
def receipt (call : Nat) : Receipt where
  blockNumber := some 123456
  confirmations := some 6
  timestamp := some (DateTimeText.isoformatNaive (mock.utcnow call))

end MockBlockchainGateway

/-- The world in which a call is answered by the mock. -/
def World.mocking (w : World) (mock : MockBlockchainGateway) : Call → World
  | .sendTransaction payload => { w with
      environment := { w.environment with
        sendTransaction := fun _ => .ok (mock.txHash payload) } }
  | .getReceipt _ => { w with
      environment := { w.environment with
        getReceipt := fun call => .ok (some (mock.receipt call)) } }
  | _ => w

/-- The effect of a call with the mock gateway. -/
def mockAct (mock : MockBlockchainGateway) (op : Call) (w : World) :
    Except BlockchainError op.Ans × World :=
  act op (w.mocking mock op)

/-- What the mock answers. -/
def MockBlockchainGateway.Answers (mock : MockBlockchainGateway) :
    (op : Call) → Except BlockchainError op.Ans → Prop
  | .sendTransaction payload, r => r = .ok (mock.txHash payload)
  | .getReceipt _, r => ∀ receipt, r = .ok (some receipt) → receipt.status = none
  | _, _ => True

/-- The monitor may only look. -/
def watching (mock : MockBlockchainGateway) : Protocol Call Call.Ans BlockchainError Bool where
  may _
    | .getPendingRecords _ | .getReceipt _ => True
    | _ => False
  expects := mock.Answers
  next inserted _ _ := inserted

/-- A call of `register_event` may insert its record once. -/
def inserting (mock : MockBlockchainGateway) (registration : Registration) :
    Protocol Call Call.Ans BlockchainError Bool where
  may inserted
    | .sendTransaction payload => payload = registration.payload
    | .save record => inserted = false ∧
        record = registration.record (mock.txHash registration.payload)
    | _ => False
  expects := mock.Answers
  next
    | _, .save _, _ => true
    | inserted, _, _ => inserted

section Programs

variable {mock : MockBlockchainGateway}

/-- A receipt without a status leaves a task nothing to do. -/
theorem watching_updateConfirmation (service : BlockchainService) (record : BlockchainRecord)
    (draws : EventDraws) (inserted : Bool) :
    (service.updateConfirmation record draws).Keeps (watching mock) (fun _ _ => True) inserted := by
  refine Coroutine.Keeps.tryCatch ⟨trivial, fun r hr => ?_⟩
  rcases r with e | (_ | receipt)
  · trivial
  · trivial
  · have hstatus : receipt.status = none := hr receipt rfl
    simp [hstatus]

/-- A pass of the monitor only looks. -/
theorem watching_pass (monitor : ConfirmationMonitor) (p : Pass) (inserted : Bool) :
    (monitor.pass p).Keeps (watching mock) (fun _ _ => True) inserted := by
  refine Coroutine.Keeps.tryCatch (Coroutine.Keeps.bind (Coroutine.Keeps.bind ⟨trivial, ?_⟩))
  intro r _
  cases r with
  | error e => trivial
  | ok rows =>
    simp only [Coroutine.keeps_ofExcept]
    cases rows.mapM rowToEntity with
    | error e => trivial
    | ok records =>
      refine Coroutine.Keeps.mono ?_ (Coroutine.Keeps.gather_steady (fun _ _ _ => rfl) p.picks ?_)
      · intro result _ _
        cases result <;> trivial
      · intro task htask
        obtain ⟨record, _, rfl⟩ := List.mem_map.mp htask
        exact watching_updateConfirmation monitor.service record _ inserted

/-- The monitor only looks. -/
theorem watching_run (monitor : ConfirmationMonitor) (passes : List Pass) (inserted : Bool) :
    (monitor.run passes).Keeps (watching mock) (fun _ _ => True) inserted := by
  induction passes generalizing inserted with
  | nil => trivial
  | cons p passes ih =>
    refine Coroutine.Keeps.bind (Coroutine.Keeps.mono ?_ (watching_pass monitor p inserted))
    intro r s _
    cases r with
    | ok _ => exact ih s
    | error e => trivial

/-- A call of `register_event` inserts the record with the hash that the mock has returned. -/
theorem inserting_program (registration : Registration) :
    registration.program.Keeps (inserting mock registration) (fun _ _ => True) false := by
  have hregister : (BlockchainService.registerEvent registration.shipmentId registration.payload
      registration.recordId registration.createdAt).Keeps (inserting mock registration)
      (fun _ _ => True) false := by
    refine ⟨rfl, ?_⟩
    rintro _ rfl
    refine ⟨⟨rfl, rfl⟩, fun r _ => ?_⟩
    cases r with
    | error e => trivial
    | ok row =>
      simp only [Coroutine.ofExcept_ok, Coroutine.ret_bind]
      cases rowToEntity row <;> trivial
  refine Coroutine.Keeps.bind (Coroutine.Keeps.mono ?_ hregister)
  intro r s _
  cases r <;> trivial

end Programs

section Runs

variable {κ : Type} {mock : MockBlockchainGateway} {registrations : κ → Registration}
  {db : RecordDb} {st : Option κ → Bool} {w : World}

/-- The protocol of each participant over the mock. -/
def mockProtocol (mock : MockBlockchainGateway) (registrations : κ → Registration) :
    Option κ → Protocol Call Call.Ans BlockchainError Bool
  | none => watching mock
  | some k => inserting mock (registrations k)

/-- The row that a registration inserts over the mock. -/
def mockRow (mock : MockBlockchainGateway) (registration : Registration) : RecordRow :=
  (registration.record (mock.txHash registration.payload)).toRow

/-- The table has the rows of before and new rows of registrations, and nothing is published. -/
structure Unsettled (mock : MockBlockchainGateway) (registrations : κ → Registration)
    (db : RecordDb) (st : Option κ → Bool) (w : World) : Prop where
  kept : ∀ id old, db.records.find? id = some old → w.db.records.find? id = some old
  new : ∀ id row, w.db.records.find? id = some row → db.records.find? id = some row ∨
    ∃ k, row = mockRow mock (registrations k)
  fresh : ∀ k, st (some k) = false → w.db.records.find? (registrations k).recordId = none
  quiet : w.published = []

/-- The mock answers as it is expected to. -/
theorem answers_mockAct (mock : MockBlockchainGateway) (op : Call) (w : World) :
    mock.Answers op (mockAct mock op w).1 := by
  cases op with
  | sendTransaction payload => rfl
  | getReceipt txHash =>
    intro receipt hreceipt
    cases hreceipt
    rfl
  | save record => trivial
  | getPendingRecords limit => trivial
  | publishEvent event topics => trivial

theorem unsettled_start (hfresh : FreshIds registrations db) (environment : Environment) :
    Unsettled mock registrations db (fun _ => false) (World.start db environment) where
  kept _ _ := id
  new _ _ := .inl
  fresh k _ := hfresh.new k
  quiet := rfl

/-- A call that neither saves nor publishes. -/
theorem Unsettled.step_quiet (h : Unsettled mock registrations db st w) {w' : World}
    (hdb : w'.db = w.db) (hpublished : w'.published = w.published) :
    Unsettled mock registrations db st w' := by
  refine ⟨?_, ?_, ?_, hpublished.trans h.quiet⟩
  · exact hdb ▸ h.kept
  · exact hdb ▸ h.new
  · exact hdb ▸ h.fresh

/-- What a `save` of a registration leaves of the table. -/
theorem Unsettled.put (hinjective : Function.Injective fun k => (registrations k).recordId)
    (hfresh : FreshIds registrations db) (h : Unsettled mock registrations db st w) {k : κ}
    {w' : World} (hput : w'.db.records = w.db.records.put (mockRow mock (registrations k)))
    (hpublished : w'.published = w.published) {st' : Option κ → Bool} (hinserted : st' (some k))
    (hothers : ∀ k', k' ≠ k → st' (some k') = st (some k')) :
    Unsettled mock registrations db st' w' where
  kept id old hold := by
    have hne : (mockRow mock (registrations k)).recordId ≠ id := by
      rintro rfl
      cases (hfresh.new k).symm.trans hold
    rw [hput, Table.find?_put_of_ne _ _ hne]
    exact h.kept id old hold
  new id row hrow := by
    rw [hput] at hrow
    by_cases hid : (mockRow mock (registrations k)).recordId = id
    · subst hid
      rw [Table.find?_put_self] at hrow
      exact .inr ⟨k, (Option.some.inj hrow).symm⟩
    · rw [Table.find?_put_of_ne _ _ hid] at hrow
      exact h.new id row hrow
  fresh k' hk' := by
    have hne : k' ≠ k := by
      rintro rfl
      rw [hinserted] at hk'
      cases hk'
    have hid : (mockRow mock (registrations k)).recordId ≠ (registrations k').recordId :=
      fun heq => hne (hinjective heq.symm)
    rw [hput, Table.find?_put_of_ne _ _ hid]
    exact h.fresh k' (hothers k' hne ▸ hk')
  quiet := hpublished.trans h.quiet

theorem mockProtocol_monitored (mock : MockBlockchainGateway) (monitor : ConfirmationMonitor)
    (passes : List Pass) (registrations : κ → Registration) (db : RecordDb)
    (environment : Environment) :
    (monitored monitor passes registrations db environment).Conforms
      (mockProtocol mock registrations) (fun _ _ _ => True) fun _ => false := by
  rintro (_ | k)
  · exact Coroutine.Keeps.mono (fun _ _ _ _ _ => trivial) (watching_run monitor passes false)
  · exact Coroutine.Keeps.mono (fun _ _ _ _ _ => trivial) (inserting_program (registrations k))

variable [DecidableEq κ]

/-- Every call keeps it so. -/
theorem Unsettled.step (hinjective : Function.Injective fun k => (registrations k).recordId)
    (hfresh : FreshIds registrations db) (h : Unsettled mock registrations db st w) {i : Option κ}
    {op : Call} (hmay : (mockProtocol mock registrations i).may (st i) op) :
    Unsettled mock registrations db
      (Function.update st i
        ((mockProtocol mock registrations i).next (st i) op (mockAct mock op w).1))
      (mockAct mock op w).2 := by
  cases i with
  | none =>
    have hsame : Function.update st none (st none) = st := Function.update_eq_self _ _
    cases op with
    | getReceipt txHash => exact hsame.symm ▸ h.step_quiet rfl rfl
    | getPendingRecords limit =>
      refine hsame.symm ▸ h.step_quiet (db_getPendingRecords limit w) ?_
      exact (unannounced_act (.getPendingRecords limit) (by simp)).1
    | sendTransaction | save | publishEvent => exact hmay.elim
  | some k =>
    cases op with
    | sendTransaction payload =>
      have hsame : Function.update st (some k) (st (some k)) = st := Function.update_eq_self _ _
      exact hsame.symm ▸ h.step_quiet rfl rfl
    | save record =>
      obtain ⟨hinserted, rfl⟩ := hmay
      have hnew := h.fresh k hinserted
      have hpublished := (unannounced_act (w := w)
        (.save ((registrations k).record (mock.txHash (registrations k).payload))) (by simp)).1
      have hothers : ∀ k', k' ≠ k → Function.update st (some k) true (some k') = st (some k') :=
        fun k' hne => Function.update_of_ne (by simpa using hne) _ _
      obtain ⟨e, _, hdb⟩ | ⟨_, _, hput⟩ := act_save_cases
        ((registrations k).record (mock.txHash (registrations k).payload)) w
      · have hquiet := h.step_quiet hdb hpublished
        refine ⟨hquiet.kept, hquiet.new, fun k' hk' => hquiet.fresh k' ?_, hquiet.quiet⟩
        by_cases hne : k' = k
        · subst hne
          rw [Function.update_self] at hk'
          cases hk'
        · exact hothers k' hne ▸ hk'
      · rw [RecordDb.target_of_find?_none hnew] at hput
        exact h.put hinjective hfresh hput hpublished (Function.update_self ..) hothers
    | getReceipt | getPendingRecords | publishEvent => exact hmay.elim

/-- The monitor beside any registrations over the mock gateway: what has been stored stays as it
is, new records are pending with the hashes of their payloads, one record for one hash, and nothing
is announced. -/
theorem mock_never_settles (mock : MockBlockchainGateway) (monitor : ConfirmationMonitor)
    (passes : List Pass) (registrations : κ → Registration) {db : RecordDb}
    (environment : Environment) (hfresh : FreshIds registrations db) {sched : List (Option κ)}
    {d : Config (Option κ) Call Call.Ans BlockchainError Unit World}
    (h : (monitored monitor passes registrations db environment).exec (mockAct mock) sched =
      some d) :
    (∀ id old, db.records.find? id = some old → d.world.db.records.find? id = some old) ∧
    (∀ id row, d.world.db.records.find? id = some row → db.records.find? id = some row ∨
      ∃ k, row = mockRow mock (registrations k)) ∧
    (∀ k k', mock.txHash (registrations k).payload = mock.txHash (registrations k').payload →
      d.world.db.records.find? (registrations k).recordId ≠ none →
      d.world.db.records.find? (registrations k').recordId ≠ none → k = k') ∧
    d.world.published = [] := by
  obtain ⟨st, _, hunsettled⟩ := Config.exec_conforms
    (fun st w _ => Unsettled mock registrations db st w)
    (fun st w tr i op hi hmay =>
      ⟨by cases i <;> exact answers_mockAct mock op w, hi.step hfresh.injective hfresh hmay⟩)
    _ (mockProtocol_monitored mock monitor passes registrations db environment)
    (unsettled_start hfresh environment) h
  have hstored : ∀ k, d.world.db.records.find? (registrations k).recordId ≠ none →
      mockRow mock (registrations k) ∈ d.world.db.records.rows := by
    intro k hk
    obtain ⟨row, hrow⟩ := Option.ne_none_iff_exists'.mp hk
    have hid := Table.key_of_find? hrow
    rcases hunsettled.new _ row hrow with hold | ⟨k', rfl⟩
    · cases (hfresh.new k).symm.trans hold
    · rw [← hfresh.injective hid]
      exact Table.mem_of_find? hrow
  refine ⟨hunsettled.kept, hunsettled.new, fun k k' hhash hk hk' => ?_, hunsettled.quiet⟩
  exact hfresh.injective (d.world.db.txHashUnique _ (hstored k hk) _ (hstored k' hk') hhash)

end Runs

/-- A mock whose hashes are all the same. -/
def sampleMock : MockBlockchainGateway where
  str _ := "{}"
  hash _ := -1
  utcnow _ := 0

/-- Two events with one payload. -/
def samplePair (second : Bool) : Registration := ⟨⟨80⟩, .obj [], cond second ⟨82⟩ ⟨81⟩, 0⟩

/-- Two registrations and then a pass of the monitor. -/
theorem mock_never_settles_sample :
    ∃ d, (monitored sampleMonitor samplePasses samplePair .empty verifyingGateway).exec
        (mockAct sampleMock)
        [some false, some false, some true, some true, none, none] = some d ∧
      d.world.sent.length = 2 ∧ d.world.db.records.rows.length = 1 ∧ d.world.published = [] := by
  have hrun : ∃ d, (monitored sampleMonitor samplePasses samplePair .empty
        verifyingGateway).exec (mockAct sampleMock)
        [some false, some false, some true, some true, none, none] = some d ∧
      d.world.sent.length = 2 ∧ d.world.db.records.rows.length = 1 := ⟨_, rfl, rfl, rfl⟩
  obtain ⟨d, hd, hsent, hrows⟩ := hrun
  have hfresh : FreshIds samplePair .empty :=
    ⟨fun k k' h => by revert h; cases k <;> cases k' <;> simp [samplePair], fun _ => rfl⟩
  exact ⟨d, hd, hsent, hrows,
    (mock_never_settles _ sampleMonitor samplePasses samplePair verifyingGateway hfresh
      hd).2.2.2⟩

end SupplyChainTracker.Blockchain
