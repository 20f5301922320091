import Mathlib.Data.List.Induction
import SupplyChainTracker.Core.Table

/-!
# The nonces of the database

`get_next_nonce` of migration 002 counts the calls for a wallet on a network in the table
`nonce_state`. The table is looked up by address and network, but its primary key is the address
alone, so a wallet is counted on the network of its first call only.
-/

namespace SupplyChainTracker.Blockchain

/-- The exceptions of PostgreSQL that the function lets through. -/
inductive NonceStateError : Type
  /-- `value too long for type character varying(limit)`. -/
  | valueTooLong (limit : Nat)
  /-- `duplicate key value violates unique constraint`. -/
  | uniqueViolation (constraint : String)
  /-- `bigint out of range`. -/
  | bigintOutOfRange
  deriving DecidableEq

/-- A row of `nonce_state` without the time of its last update, which nothing reads. The check
`ck_nonce` is its type. -/
structure NonceRow where
  address : String
  currentNonce : Nat
  network : String
  deriving DecidableEq

/-- `nonce_state`. The primary key implies `UNIQUE(address, network)`. -/
abbrev NonceState : Type := Table String NonceRow NonceRow.address

/-- The greatest `BIGINT`. -/
def maxBigint : Nat := 9223372036854775807

/-- Assign a text to a `VARCHAR(limit)` column: blanks beyond the limit are cut off, other
characters beyond it are refused. -/
def varcharColumn (limit : Nat) (text : String) : Except NonceStateError String :=
  if text.length ≤ limit then .ok text
  else if (text.toList.drop limit).all fun c => c = ' ' then
    .ok (String.ofList (text.toList.take limit))
  else .error (.valueTooLong limit)

namespace NonceState

variable (state : NonceState)

/-- `SELECT ... FOR UPDATE`. -/
def select (walletAddress blockchainNetwork : String) : Option NonceRow :=
  state.rows.find? fun r => r.address = walletAddress ∧ r.network = blockchainNetwork

/-- `INSERT INTO nonce_state`. The columns are assigned before the index of the primary key is
searched. -/
def insert (walletAddress blockchainNetwork : String) (currentNonce : Nat) :
    Except NonceStateError NonceState := do
  let address ← varcharColumn 42 walletAddress
  let network ← varcharColumn 50 blockchainNetwork
  if (state.find? address).isSome then throw (.uniqueViolation "nonce_state_pkey")
  return state.put ⟨address, currentNonce, network⟩

/-- `UPDATE nonce_state` of the row that was selected. -/
def increment (row : NonceRow) : Except NonceStateError NonceState :=
  if row.currentNonce + 1 ≤ maxBigint then
    .ok (state.put { row with currentNonce := row.currentNonce + 1 })
  else .error .bigintOutOfRange

/-- `get_next_nonce`. The lengths of its parameter types are not enforced. -/
def getNextNonce (walletAddress blockchainNetwork : String) :
    Except NonceStateError (Nat × NonceState) :=
  match state.select walletAddress blockchainNetwork with
  | none => do
      let state ← state.insert walletAddress blockchainNetwork 1
      return (0, state)
  | some row => do
      let state ← state.increment row
      return (row.currentNonce, state)

/-- A call in a transaction of its own, which is rolled back if the function raises. -/
def call (wallet : String × String) : Except NonceStateError Nat × NonceState :=
  match state.getNextNonce wallet.1 wallet.2 with
  | .ok (nonce, state) => (.ok nonce, state)
  | .error error => (.error error, state)

/-- The table after calls on an empty one. -/
def after (calls : List (String × String)) : NonceState :=
  calls.foldl (fun state wallet => (state.call wallet).2) Table.empty

theorem varcharColumn_eq_self_iff {limit : Nat} {text : String} :
    varcharColumn limit text = .ok text ↔ text.length ≤ limit := by
  unfold varcharColumn
  by_cases hle : text.length ≤ limit
  · simp [hle]
  · refine iff_of_false (fun h => hle ?_) hle
    rw [if_neg hle] at h
    split at h
    · have htext : String.ofList (text.toList.take limit) = text := Except.ok.inj h
      rw [← htext, String.length_ofList, List.length_take]
      exact Nat.min_le_left ..
    · cases h

/-- What a column stores fits it. -/
theorem length_le_of_varcharColumn {limit : Nat} {text stored : String}
    (h : varcharColumn limit text = .ok stored) : stored.length ≤ limit := by
  unfold varcharColumn at h
  split at h
  · rename_i hle
    cases h
    exact hle
  · split at h
    · cases h
      rw [String.length_ofList, List.length_take]
      exact Nat.min_le_left ..
    · cases h

/-- What a column stores it stores unchanged. -/
theorem varcharColumn_idem {limit : Nat} {text stored : String}
    (h : varcharColumn limit text = .ok stored) : varcharColumn limit stored = .ok stored :=
  varcharColumn_eq_self_iff.mpr (length_le_of_varcharColumn h)

section Select

variable {state : NonceState} {walletAddress blockchainNetwork : String} {row : NonceRow}

theorem select_eq_some_iff :
    state.select walletAddress blockchainNetwork = some row ↔
      row ∈ state.rows ∧ row.address = walletAddress ∧ row.network = blockchainNetwork := by
  constructor
  · intro h
    exact ⟨List.mem_of_find?_eq_some h, by simpa using List.find?_some h⟩
  · rintro ⟨hrow, haddress, hnetwork⟩
    cases h : state.select walletAddress blockchainNetwork with
    | none =>
      have hnone := List.find?_eq_none.mp h row hrow
      simp [haddress, hnetwork] at hnone
    | some other =>
      have hother : other.address = walletAddress ∧ other.network = blockchainNetwork := by
        simpa using List.find?_some h
      rw [state.eq_of_key_eq (List.mem_of_find?_eq_some h) hrow (hother.1.trans haddress.symm)]

/-- A row that is found is counted up. -/
theorem call_of_select (h : state.select walletAddress blockchainNetwork = some row) :
    state.call (walletAddress, blockchainNetwork) =
      if row.currentNonce + 1 ≤ maxBigint then
        (.ok row.currentNonce, state.put { row with currentNonce := row.currentNonce + 1 })
      else (.error .bigintOutOfRange, state) := by
  by_cases hbound : row.currentNonce + 1 ≤ maxBigint
  · simp only [call, getNextNonce, h, increment, if_pos hbound]
    rfl
  · simp only [call, getNextNonce, h, increment, if_neg hbound]
    rfl

/-- Where no row is found, one is inserted. -/
theorem call_of_not_select (h : state.select walletAddress blockchainNetwork = none) :
    state.call (walletAddress, blockchainNetwork) =
      match state.insert walletAddress blockchainNetwork 1 with
      | .ok state => (.ok 0, state)
      | .error error => (.error error, state) := by
  simp only [call, getNextNonce, h]
  cases state.insert walletAddress blockchainNetwork 1 <;> rfl

/-- A row is inserted if its texts can be stored and no row has its address. -/
theorem insert_eq_ok_iff {currentNonce : Nat} {state' : NonceState} :
    state.insert walletAddress blockchainNetwork currentNonce = .ok state' ↔
      ∃ address network, varcharColumn 42 walletAddress = .ok address ∧
        varcharColumn 50 blockchainNetwork = .ok network ∧ state.find? address = none ∧
        state' = state.put ⟨address, currentNonce, network⟩ := by
  unfold insert
  cases varcharColumn 42 walletAddress with
  | error error => exact iff_of_false (fun h => by cases h) (by simp)
  | ok address =>
    cases varcharColumn 50 blockchainNetwork with
    | error error => exact iff_of_false (fun h => by cases h) (by simp)
    | ok network =>
      cases hfind : state.find? address with
      | none =>
        simp only [bind, Except.bind, Option.isSome_none, Bool.false_eq_true, if_false, pure,
          Except.pure, Except.ok.injEq, exists_and_left, exists_eq_left', hfind, true_and]
        exact eq_comm
      | some row =>
        refine iff_of_false (fun h => by simp [bind, Except.bind, hfind, throw, throwThe,
          MonadExceptOf.throw] at h) ?_
        rintro ⟨address', network', haddress, -, hnone, -⟩
        cases haddress
        rw [hfind] at hnone
        cases hnone

end Select

/-- A call can be counted after others: its texts can be stored, no other wallet and network has
been stored under its address, it finds its own row if it has one, and its count is no greater
than a `BIGINT`. -/
structure Counted (before : List (String × String)) (wallet : String × String) : Prop where
  address : ∃ address, varcharColumn 42 wallet.1 = .ok address
  network : ∃ network, varcharColumn 50 wallet.2 = .ok network
  alone : ∀ other ∈ before, varcharColumn 42 other.1 = varcharColumn 42 wallet.1 → other = wallet
  again : wallet ∈ before → wallet.1.length ≤ 42 ∧ wallet.2.length ≤ 50
  bound : before.count wallet < maxBigint

/-- The row of a wallet and network after some calls. -/
structure RowOf (before : List (String × String)) (wallet : String × String) (row : NonceRow) :
    Prop where
  address : varcharColumn 42 wallet.1 = .ok row.address
  network : varcharColumn 50 wallet.2 = .ok row.network
  currentNonce : row.currentNonce = before.count wallet

/-- The table has one row for each wallet and network that has been called for, and these have
different addresses. -/
structure Tracks (before : List (String × String)) (state : NonceState) : Prop where
  wallet : ∀ row ∈ state.rows, ∃ wallet ∈ before, RowOf before wallet row
  row : ∀ wallet ∈ before, ∃ row ∈ state.rows, RowOf before wallet row
  inj : ∀ wallet ∈ before, ∀ other ∈ before,
    varcharColumn 42 other.1 = varcharColumn 42 wallet.1 → other = wallet

section Step

variable {before : List (String × String)} {state : NonceState} {wallet : String × String}
  {row : NonceRow}

/-- A wallet and network that fit their columns are found again. -/
theorem Tracks.select_of_fits (h : Tracks before state) (hmem : wallet ∈ before)
    (haddress : wallet.1.length ≤ 42) (hnetwork : wallet.2.length ≤ 50) :
    ∃ row, state.select wallet.1 wallet.2 = some row := by
  obtain ⟨row, hrow, hof⟩ := h.row wallet hmem
  have haddress' := hof.address
  have hnetwork' := hof.network
  rw [varcharColumn_eq_self_iff.mpr haddress] at haddress'
  rw [varcharColumn_eq_self_iff.mpr hnetwork] at hnetwork'
  exact ⟨row, select_eq_some_iff.mpr ⟨hrow, (Except.ok.inj haddress').symm,
    (Except.ok.inj hnetwork').symm⟩⟩

/-- A call that finds a row is answered as the count is exactly if it is the row of its wallet and
network and the count can go on. -/
theorem Tracks.answer_of_select (h : Tracks before state)
    (hselect : state.select wallet.1 wallet.2 = some row) :
    (state.call wallet).1 = .ok (before.count wallet) ↔ Counted before wallet := by
  obtain ⟨hrow, haddress, hnetwork⟩ := select_eq_some_iff.mp hselect
  obtain ⟨other, hother, hof⟩ := h.wallet row hrow
  have hfits : varcharColumn 42 wallet.1 = .ok wallet.1 := by
    rw [← haddress]
    exact varcharColumn_idem hof.address
  have hfits' : varcharColumn 50 wallet.2 = .ok wallet.2 := by
    rw [← hnetwork]
    exact varcharColumn_idem hof.network
  have hsame : varcharColumn 42 other.1 = varcharColumn 42 wallet.1 := by
    rw [hof.address, haddress, hfits]
  rw [call_of_select hselect]
  by_cases heq : other = wallet
  · subst heq
    have hbound : row.currentNonce + 1 ≤ maxBigint ↔ before.count other < maxBigint := by
      rw [hof.currentNonce, Nat.succ_le_iff]
    by_cases hlt : before.count other < maxBigint
    · rw [if_pos (hbound.mpr hlt)]
      refine iff_of_true (congrArg Except.ok hof.currentNonce) ?_
      exact ⟨⟨_, hfits⟩, ⟨_, hfits'⟩, h.inj other hother, fun _ =>
        ⟨varcharColumn_eq_self_iff.mp hfits, varcharColumn_eq_self_iff.mp hfits'⟩, hlt⟩
    · rw [if_neg fun hle => hlt (hbound.mp hle)]
      exact iff_of_false (fun h => by cases h) fun hcounted => hlt hcounted.bound
  · -- The row was inserted for another wallet and network, so it does not start at zero.
    refine iff_of_false (fun hanswer => ?_) fun hcounted => heq (hcounted.alone other hother hsame)
    have hpos : 0 < row.currentNonce := by
      rw [hof.currentNonce]
      exact List.count_pos_iff.mpr hother
    have hzero : before.count wallet = 0 :=
      List.count_eq_zero.mpr fun hmem => heq (h.inj wallet hmem other hother hsame)
    rw [hzero] at hanswer
    split at hanswer
    · have hnonce : row.currentNonce = 0 := Except.ok.inj hanswer
      omega
    · cases hanswer

/-- A call that finds no row is answered as the count is exactly if a row can be inserted. -/
theorem Tracks.answer_of_not_select (h : Tracks before state)
    (hselect : state.select wallet.1 wallet.2 = none) :
    (state.call wallet).1 = .ok (before.count wallet) ↔ Counted before wallet := by
  rw [call_of_not_select hselect]
  have hagain : wallet ∈ before → ¬ (wallet.1.length ≤ 42 ∧ wallet.2.length ≤ 50) := by
    rintro hmem ⟨haddress, hnetwork⟩
    obtain ⟨row, hrow⟩ := h.select_of_fits hmem haddress hnetwork
    rw [hselect] at hrow
    cases hrow
  cases hinsert : state.insert wallet.1 wallet.2 1 with
  | error error =>
    refine iff_of_false (fun hanswer => by cases hanswer) fun hcounted => ?_
    obtain ⟨address, haddress⟩ := hcounted.address
    obtain ⟨network, hnetwork⟩ := hcounted.network
    have hfind : state.find? address = none := by
      refine (state.find?_eq_none_iff address).mpr fun row hrow hkey => ?_
      obtain ⟨other, hother, hof⟩ := h.wallet row hrow
      have heq : other = wallet :=
        hcounted.alone other hother (by rw [hof.address, hkey, haddress])
      rw [heq] at hother
      exact hagain hother (hcounted.again hother)
    rw [insert_eq_ok_iff.mpr ⟨address, network, haddress, hnetwork, hfind, rfl⟩] at hinsert
    cases hinsert
  | ok state' =>
    obtain ⟨address, network, haddress, hnetwork, hfind, -⟩ := insert_eq_ok_iff.mp hinsert
    have hnew : ∀ other ∈ before, varcharColumn 42 other.1 ≠ varcharColumn 42 wallet.1 := by
      intro other hother hsame
      obtain ⟨row, hrow, hof⟩ := h.row other hother
      rw [haddress, hof.address] at hsame
      exact (state.find?_eq_none_iff address).mp hfind row hrow (Except.ok.inj hsame)
    have hnotMem : wallet ∉ before := fun hmem => hnew wallet hmem rfl
    have hzero : before.count wallet = 0 := List.count_eq_zero.mpr hnotMem
    refine iff_of_true (congrArg Except.ok hzero.symm) ⟨⟨_, haddress⟩, ⟨_, hnetwork⟩,
      fun other hother hsame => absurd hsame (hnew other hother),
      fun hmem => absurd hmem hnotMem, ?_⟩
    rw [hzero]
    decide

/-- A call is answered with the number of the calls before it exactly if it can be counted. -/
theorem Tracks.answer_iff (h : Tracks before state) (wallet : String × String) :
    (state.call wallet).1 = .ok (before.count wallet) ↔ Counted before wallet := by
  cases hselect : state.select wallet.1 wallet.2 with
  | some row => exact h.answer_of_select hselect
  | none => exact h.answer_of_not_select hselect

/-- A call that can be counted stores the next count under its address. -/
theorem Tracks.call_of_counted (h : Tracks before state) (hcounted : Counted before wallet) :
    ∃ address network, varcharColumn 42 wallet.1 = .ok address ∧
      varcharColumn 50 wallet.2 = .ok network ∧
      (state.call wallet).2 = state.put ⟨address, before.count wallet + 1, network⟩ := by
  have hanswer := (h.answer_iff wallet).mpr hcounted
  cases hselect : state.select wallet.1 wallet.2 with
  | some row =>
    obtain ⟨hrow, haddress, hnetwork⟩ := select_eq_some_iff.mp hselect
    obtain ⟨other, hother, hof⟩ := h.wallet row hrow
    have heq : other = wallet := by
      refine hcounted.alone other hother ?_
      rw [hof.address, ← haddress, varcharColumn_idem hof.address]
    subst heq
    have hbound : row.currentNonce + 1 ≤ maxBigint := by
      rw [hof.currentNonce]
      exact hcounted.bound
    refine ⟨row.address, row.network, hof.address, hof.network, ?_⟩
    rw [call_of_select hselect, if_pos hbound, ← hof.currentNonce]
  | none =>
    rw [call_of_not_select hselect] at hanswer ⊢
    cases hinsert : state.insert wallet.1 wallet.2 1 with
    | error error =>
      rw [hinsert] at hanswer
      cases hanswer
    | ok state' =>
      rw [hinsert] at hanswer
      have hzero : 0 = before.count wallet := Except.ok.inj hanswer
      obtain ⟨address, network, haddress, hnetwork, -, rfl⟩ := insert_eq_ok_iff.mp hinsert
      exact ⟨address, network, haddress, hnetwork, by rw [← hzero]⟩

/-- A call that can be counted leaves a table with one row more, or one count. -/
theorem Tracks.call (h : Tracks before state) (hcounted : Counted before wallet) :
    Tracks (before ++ [wallet]) (state.call wallet).2 := by
  obtain ⟨address, network, haddress, hnetwork, hcall⟩ := h.call_of_counted hcounted
  have hnew : RowOf (before ++ [wallet]) wallet ⟨address, before.count wallet + 1, network⟩ :=
    ⟨haddress, hnetwork, by simp⟩
  have hold : ∀ other row, other ≠ wallet → RowOf before other row →
      RowOf (before ++ [wallet]) other row := by
    intro other row hne hof
    refine ⟨hof.address, hof.network, ?_⟩
    have hzero : [wallet].count other = 0 := List.count_eq_zero.mpr (by simpa using hne)
    rw [hof.currentNonce, List.count_append, hzero, Nat.add_zero]
  rw [hcall]
  refine ⟨fun row hrow => ?_, fun other hother => ?_, ?_⟩
  · rcases (state.mem_put _ row).mp hrow with rfl | ⟨hrow, hkey⟩
    · exact ⟨wallet, by simp, hnew⟩
    · obtain ⟨other, hother, hof⟩ := h.wallet row hrow
      refine ⟨other, by simp [hother], hold other row ?_ hof⟩
      rintro rfl
      exact hkey (Except.ok.inj (hof.address.symm.trans haddress))
  · by_cases heq : other = wallet
    · subst heq
      exact ⟨_, (state.mem_put _ _).mpr (.inl rfl), hnew⟩
    · have hmem : other ∈ before := by simpa [heq] using hother
      obtain ⟨row, hrow, hof⟩ := h.row other hmem
      refine ⟨row, (state.mem_put _ row).mpr (.inr ⟨hrow, fun hkey => heq ?_⟩),
        hold other row heq hof⟩
      refine hcounted.alone other hmem ?_
      rw [hof.address, haddress, hkey]
  · simp only [List.mem_append, List.mem_singleton]
    rintro first (hfirst | rfl) second (hsecond | rfl) hsame
    · exact h.inj first hfirst second hsecond hsame
    · exact (hcounted.alone first hfirst hsame.symm).symm
    · exact hcounted.alone second hsecond hsame
    · rfl

end Step

/-- A condition on every call of a sequence and the calls before it. -/
def EachCall (Q : List (String × String) → String × String → Prop)
    (calls : List (String × String)) : Prop :=
  ∀ before wallet rest, calls = before ++ wallet :: rest → Q before wallet

theorem eachCall_concat_iff {Q : List (String × String) → String × String → Prop}
    {calls : List (String × String)} {wallet : String × String} :
    EachCall Q (calls ++ [wallet]) ↔ EachCall Q calls ∧ Q calls wallet := by
  constructor
  · intro h
    refine ⟨fun before other rest hcalls => ?_, h calls wallet [] rfl⟩
    exact h before other (rest ++ [wallet]) (by rw [hcalls, List.append_assoc, List.cons_append])
  · rintro ⟨h, hlast⟩ before other rest hcalls
    rcases List.eq_nil_or_concat rest with rfl | ⟨rest, last, rfl⟩
    · obtain ⟨rfl, hsame⟩ := List.append_inj' hcalls rfl
      obtain rfl : wallet = other := by simpa using hsame
      exact hlast
    · have hsplit : calls ++ [wallet] = (before ++ other :: rest) ++ [last] := by
        simpa using hcalls
      exact h before other rest (List.append_inj' hsplit rfl).1

theorem after_concat (calls : List (String × String)) (wallet : String × String) :
    after (calls ++ [wallet]) = ((after calls).call wallet).2 := by
  simp only [after, List.foldl_append, List.foldl_cons, List.foldl_nil]

/-- As long as every call can be counted, the table has the counts. -/
theorem tracks_after {calls : List (String × String)} (h : EachCall Counted calls) :
    Tracks calls (after calls) := by
  induction calls using List.reverseRecOn with
  | nil => exact ⟨by simp [after], by simp, by simp⟩
  | append_singleton calls wallet ih =>
    obtain ⟨hcalls, hcounted⟩ := eachCall_concat_iff.mp h
    rw [after_concat]
    exact (ih hcalls).call hcounted

/-- The calls of a sequence on an empty table are all answered with the number of earlier calls
for the same wallet and network exactly if all of them can be counted. -/
theorem getNextNonce_gapless_iff (calls : List (String × String)) :
    EachCall (fun before wallet => ((after before).call wallet).1 = .ok (before.count wallet))
      calls ↔ EachCall Counted calls := by
  induction calls using List.reverseRecOn with
  | nil =>
    refine iff_of_true ?_ ?_ <;>
    · intro before wallet rest h
      simp at h
  | append_singleton calls wallet ih =>
    rw [eachCall_concat_iff, eachCall_concat_iff, ih]
    exact and_congr_right fun hcalls => (tracks_after hcalls).answer_iff wallet

/-- A wallet that has been used on one network gets no nonce on another one. -/
theorem getNextNonce_second_network :
    ¬ ∀ calls, EachCall
      (fun before wallet => ((after before).call wallet).1 = .ok (before.count wallet)) calls := by
  intro h
  have hsecond := h [("0x52908400098527886E0F7030069857D2E4169EE7", "ethereum"),
    ("0x52908400098527886E0F7030069857D2E4169EE7", "polygon")] [_] _ [] rfl
  have hraises : ((after [("0x52908400098527886E0F7030069857D2E4169EE7", "ethereum")]).call
      ("0x52908400098527886E0F7030069857D2E4169EE7", "polygon")).1 =
        .error (.uniqueViolation "nonce_state_pkey") := by decide +kernel
  cases hraises.symm.trans hsecond

end NonceState

end SupplyChainTracker.Blockchain
