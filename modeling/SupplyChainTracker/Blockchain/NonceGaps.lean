import Mathlib.Data.List.Nodup
import SupplyChainTracker.Blockchain.Nonce
import SupplyChainTracker.Core.Async.Lift
import SupplyChainTracker.Core.Run

/-!
# Gaps between nonces

One instance that sends one transaction after the other. A nonce is used up before the node has
answered, and only a `ValueError` that names the nonce leads to a resync: after any other failure
the counter is ahead of the chain. The accepted nonces stay without a gap as long as no transaction
is accepted at its first attempt in such a state; what has been signed without an attribute
`rawTransaction` is not sent at all.
-/

namespace SupplyChainTracker.Blockchain.Nonce

/-- The pending count of a chain with `first` transactions before the accepted ones: a nonce above a
gap does not count. -/
def pendingCount (first : Int) (accepted : List Int) : Int :=
  first + ((List.range (accepted.length + 1)).findIdx fun k : Nat => first + k ∉ accepted)

/-- The accepted nonces, in order of acceptance, start at `first` and leave no gap. -/
def InOrder (first : Int) (accepted : List Int) : Prop :=
  accepted = (List.range accepted.length).map fun k : Nat => first + k

section Pending

variable {first : Int} {accepted : List Int}

/-- Not every candidate has been accepted. -/
theorem exists_not_mem (first : Int) (accepted : List Int) :
    ∃ k ∈ List.range (accepted.length + 1), first + (k : Int) ∉ accepted := by
  by_contra hall
  push Not at hall
  have hnodup : ((List.range (accepted.length + 1)).map fun k : Nat => first + k).Nodup :=
    List.nodup_range.map fun i j hij => by simpa using hij
  have hsub : ((List.range (accepted.length + 1)).map fun k : Nat => first + k) ⊆ accepted := by
    intro nonce hnonce
    obtain ⟨k, hk, rfl⟩ := List.mem_map.mp hnonce
    exact hall k hk
  have hlength := (List.subperm_of_subset hnodup hsub).length_le
  simp only [List.length_map, List.length_range] at hlength
  omega

/-- The pending count is the first nonce from `first` on that has not been accepted. -/
theorem pendingCount_spec (first : Int) (accepted : List Int) :
    first ≤ pendingCount first accepted ∧ pendingCount first accepted ∉ accepted ∧
      ∀ nonce, first ≤ nonce → nonce < pendingCount first accepted → nonce ∈ accepted := by
  obtain ⟨k, hk, hfree⟩ := exists_not_mem first accepted
  have hlt := List.findIdx_lt_length_of_exists (p := fun k : Nat => first + k ∉ accepted)
    ⟨k, hk, by simpa using hfree⟩
  have hfound := List.findIdx_getElem (w := hlt)
  rw [List.getElem_range] at hfound
  refine ⟨Int.le_add_of_nonneg_right (Int.natCast_nonneg _), of_decide_eq_true hfound, ?_⟩
  intro nonce hle hnonce
  obtain ⟨j, rfl⟩ : ∃ j : Nat, nonce = first + j := ⟨(nonce - first).toNat, by omega⟩
  have hj := Int.ofNat_lt.mp (Int.lt_of_add_lt_add_left hnonce)
  have hbefore := List.not_of_lt_findIdx hj
  rw [List.getElem_range] at hbefore
  simpa using hbefore

theorem InOrder.mem_iff (h : InOrder first accepted) (nonce : Int) :
    nonce ∈ accepted ↔ first ≤ nonce ∧ nonce < first + accepted.length := by
  rw [h, List.mem_map]
  simp only [List.mem_range, List.length_map, List.length_range]
  constructor
  · rintro ⟨k, hk, rfl⟩
    omega
  · rintro ⟨hle, hlt⟩
    exact ⟨(nonce - first).toNat, by omega, by omega⟩

/-- Without a gap every accepted nonce counts. -/
theorem pendingCount_of_inOrder (h : InOrder first accepted) :
    pendingCount first accepted = first + accepted.length := by
  obtain ⟨hle, hfree, hbelow⟩ := pendingCount_spec first accepted
  rw [h.mem_iff] at hfree
  have hnext : first + accepted.length ∉ accepted := by
    rw [h.mem_iff]
    omega
  have hnot := mt (hbelow (first + accepted.length) (by omega)) hnext
  omega

/-- Appending a nonce leaves no gap exactly when it is the next one. -/
theorem inOrder_append_iff (h : InOrder first accepted) (nonce : Int) :
    InOrder first (accepted ++ [nonce]) ↔ nonce = first + accepted.length := by
  rw [InOrder, List.length_append, List.length_singleton, List.range_succ, List.map_append, ← h,
    List.map_singleton, List.append_right_inj]
  exact ⟨List.singleton_inj.mp, fun h => h ▸ rfl⟩

/-- Without a gap there was none before. -/
theorem InOrder.of_append {later : List Int} (h : InOrder first (accepted ++ later)) :
    InOrder first accepted := by
  have htake := congrArg (List.take accepted.length) h
  rw [List.take_left', ← List.map_take, List.take_range, List.length_append,
    Nat.min_eq_left (Nat.le_add_right ..)] at htake
  · exact htake
  · rfl

end Pending

open RedisNonceManager Web3BlockchainGateway

/-- A node that counts pending transactions up to the first gap, with Redis in reach. -/
def gapNode (libraries : Libraries) (first : Int) (gasPrice : Nat → Except BlockchainError Int)
    (send : Nat → Reply) (rejection : Nat → String) : Environment where
  libraries := libraries
  transactionCount _ accepted := .ok (pendingCount first accepted)
  gasPrice := gasPrice
  send := send
  rejection := rejection
  raises _ := none

/-- What a transaction leaves. -/
def sendStep (payload : Json) (w : World) : World := ((sendTransaction payload).run act w).2

/-- What a resync leaves. -/
def synced (w : World) : World := (syncFromChain.run act w).2

/-- A transaction that is sent, and that the node accepts at its first attempt, finds the counter
where a resync would put it. -/
def InStep (first : Int) (w : World) (_ : Json) : Prop :=
  ∀ gasPrice txHash, w.environment.gasPrice w.calls = .ok gasPrice →
    w.environment.libraries.hasRawTransaction = true →
    w.environment.send (w.calls + 2) = .accept txHash →
    w.counter = some (pendingCount first w.accepted - 1)

/-- No gap, and a counter that is not behind. -/
structure NoGap (first : Int) (w : World) : Prop where
  inOrder : InOrder first w.accepted
  counter : ∃ value, w.counter = some value ∧ first + w.accepted.length ≤ value + 1

/-- The node stays the same, and takes back no nonce that it has accepted. -/
structure Grows (w w' : World) : Prop where
  environment : w'.environment = w.environment
  accepted : w.accepted <+: w'.accepted

theorem act_grows (op : Call) (w : World) : Grows w (act op w).2 := by
  cases op with
  | getTransactionCount => exact ⟨rfl, List.prefix_refl _⟩
  | gasPrice => exact ⟨rfl, List.prefix_refl _⟩
  | incr =>
    simp only [act]
    cases w.environment.raises w.calls <;> exact ⟨rfl, List.prefix_refl _⟩
  | set value =>
    simp only [act]
    cases w.environment.raises w.calls <;> exact ⟨rfl, List.prefix_refl _⟩
  | sendRawTransaction tx =>
    simp only [act]
    split_ifs with hsigned hold
    · exact ⟨rfl, List.prefix_refl _⟩
    · exact ⟨rfl, List.prefix_refl _⟩
    · rcases w.environment.send w.calls with txHash | message | ⟨message, arrived⟩
      · exact ⟨rfl, List.prefix_append ..⟩
      · exact ⟨rfl, List.prefix_refl _⟩
      · cases arrived
        · exact ⟨rfl, List.prefix_refl _⟩
        · exact ⟨rfl, List.prefix_append ..⟩

theorem run_grows {α : Type} (p : Program α) (w : World) : Grows w (p.run act w).2 :=
  Coroutine.Calls.run (fun _ => ⟨rfl, List.prefix_refl _⟩)
    (fun _ _ _ h h' => ⟨h'.environment.trans h.environment, h.accepted.trans h'.accepted⟩)
    (fun op _ w => act_grows op w) (Coroutine.calls_of_forall (fun _ => trivial) p) w

section Sending

variable {first : Int} {w : World} {payload : Json}

/-- A transaction that has taken its nonce is sent once. -/
theorem run_executeTx (hraises : w.environment.raises w.calls = none) (gasPrice : Int) :
    (executeTx payload gasPrice).run act w =
      act (.sendRawTransaction ⟨w.next, gasPrice, payload⟩) (act .incr w).2 := by
  simp only [executeTx, getNextNonce, Coroutine.bind_eq, Coroutine.run_bind, Coroutine.run_perform,
    act, hraises]

/-- A resync that reads the pending count writes what is one below. -/
theorem run_syncFromChain {count : Int}
    (hcount : w.environment.transactionCount w.calls w.accepted = .ok count)
    (hraises : w.environment.raises (w.calls + 1) = none) :
    syncFromChain.run act w =
      (.ok count, { w.called.called with counter := some (count - 1) }) := by
  simp only [syncFromChain, Coroutine.bind_eq, Coroutine.run_bind, Coroutine.run_perform, act,
    hcount]
  simp only [World.called, hraises]
  rfl

/-- With a counter that is not behind, no accepted nonce is handed out again. -/
theorem NoGap.next_not_mem (h : NoGap first w) : w.next ∉ w.accepted := by
  obtain ⟨value, hvalue, hle⟩ := h.counter
  rw [next_of_counter hvalue, h.inOrder.mem_iff]
  omega

/-- An attempt of a transaction is sent and accepted. -/
def Accepts (w : World) (txHash : String) : Prop :=
  w.environment.libraries.hasRawTransaction = true ∧
    w.environment.send (w.calls + 1) = .accept txHash

/-- What an attempt to send leaves: its nonce is accepted, or used up for nothing. -/
inductive Attempt (w : World) : Except BlockchainError String × World → Prop
  | accepted (txHash : String) (w' : World) (hsend : Accepts w txHash)
      (haccepted : w'.accepted = w.accepted ++ [w.next]) (hcounter : w'.counter = some w.next) :
      Attempt w (.ok txHash, w')
  | refused (e : BlockchainError) (w' : World) (hsend : ∀ txHash, ¬ Accepts w txHash)
      (haccepted : w'.accepted = w.accepted) (hcounter : w'.counter = some w.next) :
      Attempt w (.error e, w')

/-- Where an error means that the node has not accepted the transaction, sending one with a fresh
nonce is an attempt. -/
theorem attempt_send {u : World} (henvironment : u.environment = w.environment)
    (hcalls : u.calls = w.calls + 1) (haccepted : u.accepted = w.accepted)
    (hcounter : u.counter = some w.next) (hfresh : w.next ∉ w.accepted)
    (hsend : ∀ message, w.environment.send (w.calls + 1) ≠ .fail message true) (gasPrice : Int) :
    Attempt w (act (.sendRawTransaction ⟨w.next, gasPrice, payload⟩) u) := by
  rw [act, henvironment]
  by_cases hsigned : w.environment.libraries.hasRawTransaction = false
  · rw [if_pos hsigned]
    exact .refused _ _ (fun _ h => by simp [h.1] at hsigned) haccepted hcounter
  · have hhas : w.environment.libraries.hasRawTransaction = true := by simpa using hsigned
    rw [if_neg hsigned, haccepted, if_neg hfresh, hcalls]
    cases hreply : w.environment.send (w.calls + 1) with
    | accept txHash =>
      exact .accepted txHash _ ⟨hhas, hreply⟩ (congrArg (· ++ _) haccepted) hcounter
    | reject message =>
      exact .refused _ _ (fun _ h => by cases hreply.symm.trans h.2) haccepted hcounter
    | fail message arrived =>
      cases arrived with
      | false => exact .refused _ _ (fun _ h => by cases hreply.symm.trans h.2) haccepted hcounter
      | true => exact absurd hreply (hsend message)

theorem attempt_executeTx (h : NoGap first w) (hraises : w.environment.raises w.calls = none)
    (hsend : ∀ message, w.environment.send (w.calls + 1) ≠ .fail message true) (gasPrice : Int) :
    Attempt w ((executeTx payload gasPrice).run act w) := by
  rw [run_executeTx hraises, act_incr hraises]
  refine attempt_send ?_ ?_ ?_ ?_ h.next_not_mem hsend gasPrice <;> rfl

/-- An attempt leaves no gap, unless it takes another nonce than the next one and the node accepts
it. -/
theorem NoGap.attempt_cases (h : NoGap first w) {r : Except BlockchainError String × World}
    (hattempt : Attempt w r) :
    ((∀ txHash, Accepts w txHash → w.next = first + w.accepted.length) ∧ NoGap first r.2) ∨
      ((∃ txHash, Accepts w txHash) ∧
        w.next ≠ first + w.accepted.length ∧ ¬ InOrder first r.2.accepted) := by
  obtain ⟨value, hvalue, hle⟩ := h.counter
  have hnext := next_of_counter hvalue
  cases hattempt with
  | accepted txHash w' hsend haccepted hcounter =>
    have hplace := inOrder_append_iff h.inOrder w.next
    rw [← haccepted] at hplace
    by_cases hnonce : w.next = first + w.accepted.length
    · refine .inl ⟨fun _ _ => hnonce, hplace.mpr hnonce, w.next, hcounter, ?_⟩
      rw [haccepted, List.length_append, List.length_singleton, hnonce]
      push_cast
      omega
    · exact .inr ⟨⟨txHash, hsend⟩, hnonce, fun hafter => hnonce (hplace.mp hafter)⟩
  | refused e w' hsend haccepted hcounter =>
    refine .inl ⟨fun txHash h => absurd h (hsend txHash), ?_, w.next, hcounter, ?_⟩
    · rw [haccepted]
      exact h.inOrder
    · rw [haccepted]
      omega

theorem NoGap.called (h : NoGap first w) : NoGap first w.called := ⟨h.inOrder, h.counter⟩

/-- A resync puts the counter right below the next nonce. -/
theorem InOrder.synced (h : InOrder first w.accepted)
    (hcount : w.environment.transactionCount w.calls w.accepted =
      .ok (pendingCount first w.accepted))
    (hraises : w.environment.raises (w.calls + 1) = none) :
    NoGap first (synced w) ∧ (synced w).next = first + (synced w).accepted.length := by
  rw [Nonce.synced, run_syncFromChain hcount hraises, pendingCount_of_inOrder h]
  refine ⟨⟨h, _, rfl, ?_⟩, ?_⟩
  · exact (Int.sub_add_cancel _ 1).ge
  · exact Int.sub_add_cancel _ 1

end Sending

section Gaps

variable {libraries : Libraries} {first : Int} {gasPrice : Nat → Except BlockchainError Int}
  {send : Nat → Reply} {rejection : Nat → String} {w : World}

/-- The counter is where a resync would put it exactly when the nonce to be handed out is the next
one. -/
theorem NoGap.counter_iff (h : NoGap first w) :
    w.counter = some (pendingCount first w.accepted - 1) ↔ w.next = first + w.accepted.length := by
  obtain ⟨value, hvalue, -⟩ := h.counter
  rw [pendingCount_of_inOrder h.inOrder, next_of_counter hvalue, hvalue, Option.some.injEq]
  omega

/-- An attempt of an instance whose errors mean that nothing has been accepted. -/
theorem NoGap.attempt (hsend : ∀ n message, send n ≠ .fail message true)
    (hnode : w.environment = gapNode libraries first gasPrice send rejection) (h : NoGap first w)
    (payload : Json) (price : Int) : Attempt w ((executeTx payload price).run act w) := by
  refine attempt_executeTx h ?_ (fun message => ?_) price
  · rw [hnode]
    rfl
  · rw [hnode]
    exact hsend _ message

/-- The second attempt, after a resync, leaves no gap whatever the node answers. -/
theorem NoGap.resend (hsend : ∀ n message, send n ≠ .fail message true)
    (hnode : w.environment = gapNode libraries first gasPrice send rejection) (h : NoGap first w)
    (payload : Json) (price : Int) :
    NoGap first ((syncFromChain.bind fun _ => executeTx payload price).run act w).2 := by
  have hcount : w.environment.transactionCount w.calls w.accepted =
      .ok (pendingCount first w.accepted) := by
    rw [hnode]
    rfl
  have hraises : w.environment.raises (w.calls + 1) = none := by
    rw [hnode]
    rfl
  obtain ⟨hsynced, hnext⟩ := h.inOrder.synced hcount hraises
  have hsame := (run_grows syncFromChain w).environment.trans hnode
  rw [Coroutine.run_bind, run_syncFromChain hcount hraises]
  rw [Nonce.synced, run_syncFromChain hcount hraises] at hsynced hnext
  rw [run_syncFromChain hcount hraises] at hsame
  rcases hsynced.attempt_cases (hsynced.attempt hsend hsame payload price) with h | h
  · exact h.2
  · exact absurd hnext h.2.1

/-- A transaction leaves no gap where it is in step with the chain, should the node accept it at its
first attempt, and a gap elsewhere. -/
theorem sendStep_cases (hsend : ∀ n message, send n ≠ .fail message true)
    (hnode : w.environment = gapNode libraries first gasPrice send rejection) (h : NoGap first w)
    (payload : Json) :
    (InStep first w payload ∧ NoGap first (sendStep payload w)) ∨
      (¬ InStep first w payload ∧ ¬ InOrder first (sendStep payload w).accepted) := by
  rw [sendStep, sendTransaction, Coroutine.bind_eq, Coroutine.run_bind, Coroutine.run_perform]
  simp only [act]
  cases hgas : w.environment.gasPrice w.calls with
  | error e =>
    refine .inl ⟨fun _ _ hok => ?_, h.called⟩
    cases hgas.symm.trans hok
  | ok price =>
    have hcalled : w.called.environment = gapNode libraries first gasPrice send rejection := hnode
    have hattempt := h.called.attempt hsend hcalled payload price
    have hcases := h.called.attempt_cases hattempt
    have hafter := (run_grows (executeTx payload price) w.called).environment.trans hcalled
    simp only [Coroutine.run_tryCatch]
    generalize (executeTx payload price).run act w.called = r at hattempt hcases hafter
    cases hattempt with
    | accepted txHash w' haccept haccepted hcounter =>
      rcases hcases with ⟨hplace, hkept⟩ | ⟨-, hplace, hgap⟩
      · exact .inl ⟨fun _ _ _ _ _ => h.counter_iff.mpr (hplace txHash haccept), hkept⟩
      · exact .inr ⟨fun hstep =>
          hplace (h.counter_iff.mp (hstep price txHash hgas haccept.1 haccept.2)), hgap⟩
    | refused e w' hrefused haccepted hcounter =>
      have hkept : NoGap first w' := by
        rcases hcases with ⟨-, hkept⟩ | ⟨⟨txHash, haccept⟩, -⟩
        · exact hkept
        · exact absurd haccept (hrefused txHash)
      refine .inl ⟨fun _ txHash _ hsigned haccept => absurd ⟨hsigned, haccept⟩ (hrefused txHash), ?_⟩
      -- Only an error that names the nonce is followed by a resync.
      cases e with
      | valueError message =>
        by_cases hnames : NamesNonce message
        · simp only [if_pos hnames]
          exact hkept.resend hsend hafter payload price
        · simp only [if_neg hnames]
          exact hkept
      | _ => exact hkept

/-- One transaction after the other leaves no gap exactly when every transaction that the node
accepts at its first attempt is in step with the chain. -/
theorem inOrder_inTurn_iff (hsend : ∀ n message, send n ≠ .fail message true)
    (payloads : List Json) (hnode : w.environment = gapNode libraries first gasPrice send rejection)
    (h : NoGap first w) :
    InOrder first ((Coroutine.inTurn sendTransaction payloads).run act w).2.accepted ↔
      EachStep sendStep (InStep first) payloads w := by
  have hrun : ∀ payloads w, ((Coroutine.inTurn sendTransaction payloads).run act w).2 =
      payloads.foldl (fun w payload => sendStep payload w) w :=
    fun payloads w => congrArg Prod.snd (Coroutine.run_inTurn act sendTransaction payloads w)
  rw [hrun]
  induction payloads generalizing w with
  | nil => exact iff_of_true h.inOrder trivial
  | cons payload payloads ih =>
    have hgrows := run_grows (Coroutine.inTurn sendTransaction payloads) (sendStep payload w)
    rw [hrun] at hgrows
    rcases sendStep_cases hsend hnode h payload with ⟨hstep, hkept⟩ | ⟨hstep, hgap⟩
    · have hsame := (run_grows (sendTransaction payload) w).environment.trans hnode
      exact (ih hsame hkept).trans (and_iff_right hstep).symm
    · obtain ⟨later, hlater⟩ := hgrows.accepted
      refine iff_of_false (fun hinOrder => hgap ?_) fun heach => hstep heach.1
      have hbefore : InOrder first ((sendStep payload w).accepted ++ later) := by
        rw [hlater]
        exact hinOrder
      exact hbefore.of_append

/-- An account whose counter has just been synchronised sends one transaction after the other: the
accepted nonces leave no gap from the pending count on exactly when no transaction is accepted at
its first attempt with the counter ahead of the chain. -/
theorem no_gaps_iff_inStep (libraries : Libraries) (first : Int)
    (gasPrice : Nat → Except BlockchainError Int) (send : Nat → Reply) (rejection : Nat → String)
    (counter : Option Int) (payloads : List Json)
    (hsend : ∀ n message, send n ≠ .fail message true) :
    let start := World.start counter [] (gapNode libraries first gasPrice send rejection)
    InOrder first ((service payloads).run act start).2.accepted ↔
      EachStep sendStep (InStep first) payloads (synced start) := by
  intro start
  have hcount : start.environment.transactionCount start.calls start.accepted =
      .ok (pendingCount first start.accepted) := rfl
  have hempty : InOrder first start.accepted := rfl
  have hsynced := (hempty.synced hcount rfl).1
  have hrun : ((service payloads).run act start).2 =
      ((Coroutine.inTurn sendTransaction payloads).run act (synced start)).2 := by
    rw [service, Coroutine.bind_eq, Coroutine.run_bind, synced, run_syncFromChain hcount rfl]
  rw [hrun]
  exact inOrder_inTurn_iff hsend payloads (run_grows syncFromChain start).environment hsynced

/-- A call accepts nothing where what has been signed has no attribute `rawTransaction`. -/
theorem accepted_act (op : Call) (hsigned : w.environment.libraries.hasRawTransaction = false) :
    (act op w).2.accepted = w.accepted := by
  cases op with
  | getTransactionCount => rfl
  | gasPrice => rfl
  | incr =>
    simp only [act]
    cases w.environment.raises w.calls <;> rfl
  | set value =>
    simp only [act]
    cases w.environment.raises w.calls <;> rfl
  | sendRawTransaction tx =>
    simp only [act, if_pos hsigned]
    rfl

/-- With such an eth-account the node never accepts anything. -/
theorem accepted_run {α : Type} (p : Program α)
    (hsigned : w.environment.libraries.hasRawTransaction = false) :
    (p.run act w).2.accepted = w.accepted := by
  induction p generalizing w with
  | ret a => rfl
  | raise e => rfl
  | await op k ih =>
    have hsame := (act_grows op w).environment
    rw [Coroutine.run_await, ih _ (hsame ▸ hsigned), accepted_act op hsigned]

end Gaps

/-- The sixth call, an attempt of the second transaction, is lost on the way, and the next attempt
comes with a nonce that is too high. -/
def lossyNode (n : Nat) : Reply :=
  if n = 7 then .fail "connection reset" false
  else if n = 10 then .reject "nonce too high"
  else .accept "0xab"

/-- The resync of the third transaction closes what the second has left open. -/
theorem no_gaps_iff_inStep_sample :
    let start := World.start none []
      (gapNode web3v6 5 (fun _ => .ok 30) lossyNode fun _ => "nonce too low")
    ((service [.obj [], .obj [], .obj []]).run act start).2.accepted = [5, 6] ∧
      EachStep sendStep (InStep 5) [.obj [], .obj [], .obj []] (synced start) := by
  refine ⟨by decide +kernel, ?_⟩
  refine (no_gaps_iff_inStep web3v6 5 (fun _ => .ok 30) lossyNode (fun _ => "nonce too low") none
    [.obj [], .obj [], .obj []] fun n message => ?_).mp (by unfold InOrder; decide +kernel)
  unfold lossyNode
  split_ifs <;> exact fun h => nomatch h

/-- A transaction that is lost on its way to the node uses up its nonce, and the next one is
accepted above the gap. -/
theorem lost_transaction_leaves_gap :
    let start := World.start none [] (gapNode web3v6 5
      (fun _ => .ok 30) (fun n => if n = 4 then .fail "connection reset" false else .accept "0xab")
      fun _ => "nonce too low")
    ((service [.obj [], .obj []]).run act start).2.accepted = [6] ∧
      ¬ InOrder 5 ((service [.obj [], .obj []]).run act start).2.accepted := by
  unfold InOrder
  decide

end SupplyChainTracker.Blockchain.Nonce
