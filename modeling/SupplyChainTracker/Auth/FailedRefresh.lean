import Mathlib.Data.Set.Insert
import SupplyChainTracker.Auth.Flow

/-!
# A refresh that raises

A rotation revokes the presented token before it loads the user and stores the new token, and each
statement is committed by itself. What raises after the revocation costs the caller the token, and
nothing else is lost.
-/

namespace SupplyChainTracker.Auth

/-- The hashes that `get_valid` accepts at a time. -/
def AuthDb.accepted (db : AuthDb) (now : DateTime) : Set String :=
  {tokenHash | (db.getValid tokenHash now).isSome}

/-- A hash that has been revoked is no longer accepted, and every other one as before. -/
theorem AuthDb.accepted_revoke (db : AuthDb) (tokenHash : String) (now : DateTime) :
    (db.revoke tokenHash).accepted now = db.accepted now \ {tokenHash} := by
  ext other
  by_cases hother : other = tokenHash
  · subst hother
    have hrevoked : (db.revoke other).getValid other now = none := by
      cases hfind : db.tokens.find? other with
      | none =>
        rw [AuthDb.revoke_of_none hfind]
        simp [AuthDb.getValid, hfind]
      | some t => simp [AuthDb.getValid, AuthDb.find?_revoke_self hfind]
    simp [accepted, hrevoked]
  · have hsame : (db.revoke tokenHash).getValid other now = db.getValid other now := by
      rw [AuthDb.getValid, AuthDb.find?_revoke_of_ne db (Ne.symm hother), AuthDb.getValid]
    simp [accepted, hsame, hother]

/-- The effect of a statement where the users of some ids can no longer be found. -/
def actWithout (gone : UUID → Bool) (refuses : User → Option String) :
    (op : Call) → World → Except AuthError op.Ans × World
  | .getById userId, w =>
      if gone userId then (.ok none, (act refuses (.getById userId) w).2)
      else act refuses (.getById userId) w
  | op, w => act refuses op w

section Raises

variable (lib : Libraries) (settings : Settings) (refuses : User → Option String)
  (gone : UUID → Bool) (rawToken : String) (draws : TokenDraws)

/-- A rotation from one of its points on. -/
def runFrom (s : RefreshPoint) (faults : Nat → Option AuthError) (w : World) :
    Except AuthError (String × String) × World :=
  (refreshProg lib settings rawToken draws s).runWith (actWithout gone refuses) faults w

variable {lib settings refuses gone rawToken draws}

/-- A rotation that has ended leaves everything as it is. -/
theorem runFrom_halt (result : Except AuthError (String × String))
    (faults : Nat → Option AuthError) (w : World) :
    runFrom lib settings refuses gone rawToken draws (.halt result) faults w = (result, w) := by
  cases result <;> rfl

/-- From a point at which it makes a call, a rotation goes on where the answer leads. -/
theorem runFrom_call {s : RefreshPoint} {op : Call} {next : Except AuthError op.Ans → RefreshPoint}
    (h : refreshChart lib settings rawToken draws s = .call op next)
    (faults : Nat → Option AuthError) (w : World) :
    runFrom lib settings refuses gone rawToken draws s faults w =
      runFrom lib settings refuses gone rawToken draws
        (next (Coroutine.answer (actWithout gone refuses) (faults 0) op w).1)
        (fun n => faults (n + 1))
        (Coroutine.answer (actWithout gone refuses) (faults 0) op w).2 := by
  have hprog := follows_refresh lib settings rawToken draws s
  rw [h] at hprog
  rw [runFrom, hprog]
  rfl

/-- A new token that cannot be stored leaves the tables as they are. -/
theorem db_of_raise_store (user : User) (faults : Nat → Option AuthError) {w w' : World}
    {e : AuthError}
    (h : runFrom lib settings refuses gone rawToken draws (.store user) faults w = (.error e, w')) :
    w'.db = w.db := by
  rw [runFrom_call rfl] at h
  cases hfault : faults 0 with
  | some fault =>
    simp only [hfault, Coroutine.answer_some, runFrom_halt] at h
    cases h
    rfl
  | none =>
    simp only [hfault, Coroutine.answer_none, actWithout, act, execute] at h
    rcases w.db.saveToken_cases ⟨w.tokenIds w.statements, user.userId, lib.sha256 draws.rawToken,
      draws.refreshAt + days settings.refreshTokenExpireDays, false, w.now⟩ with
      ⟨e', hrefused, _⟩ | ⟨db', hstored, _⟩
    · simp only [hrefused, runFrom_halt] at h
      cases h
      rfl
    · simp only [hstored, runFrom_halt] at h
      cases h

/-- After the revocation a rotation that raises writes nothing. -/
theorem db_of_raise_load (record : RefreshToken) (faults : Nat → Option AuthError) {w w' : World}
    {e : AuthError}
    (h : runFrom lib settings refuses gone rawToken draws (.load record) faults w =
      (.error e, w')) : w'.db = w.db := by
  rw [runFrom_call rfl] at h
  cases hfault : faults 0 with
  | some fault =>
    simp only [hfault, Coroutine.answer_some, loadNext, runFrom_halt] at h
    cases h
    rfl
  | none =>
    simp only [hfault, Coroutine.answer_none, actWithout, act, execute] at h
    by_cases hgone : gone record.userId
    · simp only [hgone, if_true, loadNext, runFrom_halt] at h
      cases h
      rfl
    · simp only [hgone, Bool.false_eq_true, if_false] at h
      cases huser : w.db.users.find? record.userId with
      | none =>
        simp only [huser, loadNext, runFrom_halt] at h
        cases h
        rfl
      | some user =>
        simp only [huser, loadNext] at h
        have hdb := db_of_raise_store user _ h
        exact hdb

/-- From the revocation on, a rotation that raises leaves the tables as they are if the revocation
itself raises, and otherwise with the token revoked. -/
theorem db_of_raise_revoke (record : RefreshToken) (faults : Nat → Option AuthError)
    {w w' : World} {e : AuthError}
    (h : runFrom lib settings refuses gone rawToken draws (.revoke record) faults w =
      (.error e, w')) :
    w'.db = if (faults 0).isSome then w.db else w.db.revoke (lib.sha256 rawToken) := by
  rw [runFrom_call rfl] at h
  cases hfault : faults 0 with
  | some fault =>
    simp only [hfault, Coroutine.answer_some, runFrom_halt] at h
    cases h
    rfl
  | none =>
    simp only [hfault, Coroutine.answer_none, actWithout, act, execute] at h
    have hdb := db_of_raise_load record _ h
    exact hdb

/-- What a rotation that raises leaves of the tables. -/
theorem db_of_raise (faults : Nat → Option AuthError) {w w' : World} {e : AuthError}
    (h : (AuthService.refresh lib settings rawToken draws).runWith (actWithout gone refuses) faults
      w = (.error e, w')) :
    w'.db =
      if (faults 0).isSome ∨ w.db.getValid (lib.sha256 rawToken) w.now = none ∨ (faults 1).isSome
      then w.db else w.db.revoke (lib.sha256 rawToken) := by
  have hlook : runFrom lib settings refuses gone rawToken draws .look faults w = (.error e, w') := h
  rw [runFrom_call rfl] at hlook
  cases hfault : faults 0 with
  | some fault =>
    simp only [hfault, Coroutine.answer_some, lookNext, runFrom_halt] at hlook
    cases hlook
    rfl
  | none =>
    simp only [hfault, Coroutine.answer_none, actWithout, act, execute] at hlook
    cases hvalid : w.db.getValid (lib.sha256 rawToken) w.now with
    | none =>
      simp only [hvalid, lookNext, runFrom_halt] at hlook
      cases hlook
      simp
    | some record =>
      simp only [hvalid, lookNext] at hlook
      have hdb := db_of_raise_revoke record _ hlook
      simpa using hdb

/-- A refresh that raises leaves every accepted token accepted where the token was not valid or its
lookup or its revocation raised; otherwise just the presented token, which was accepted before, is
accepted no longer. -/
theorem accepted_after_failed_refresh (lib : Libraries) (settings : Settings)
    (refuses : User → Option String) (gone : UUID → Bool) (rawToken : String) (draws : TokenDraws)
    (faults : Nat → Option AuthError) (w w' : World) (e : AuthError)
    (h : (AuthService.refresh lib settings rawToken draws).runWith (actWithout gone refuses) faults
      w = (.error e, w')) :
    if (faults 0).isSome ∨ w.db.getValid (lib.sha256 rawToken) w.now = none ∨ (faults 1).isSome
    then ∀ now, w'.db.accepted now = w.db.accepted now
    else lib.sha256 rawToken ∈ w.db.accepted w.now ∧
      ∀ now, w'.db.accepted now = w.db.accepted now \ {lib.sha256 rawToken} := by
  have hdb := db_of_raise faults h
  split_ifs at hdb ⊢ with hearly
  · intro now
    rw [hdb]
  · rw [not_or, not_or] at hearly
    refine ⟨Option.isSome_iff_ne_none.mpr hearly.2.1, fun now => ?_⟩
    rw [hdb, AuthDb.accepted_revoke]

end Raises

/-- Storing the new token fails. -/
theorem accepted_after_failed_refresh_sample :
    sampleLibraries.sha256 "r0" ∈ sampleWorld.db.accepted sampleWorld.now ∧
      ∀ now, ((AuthService.refresh sampleLibraries {} "r0" ⟨0, "r1", 0⟩).runWith
          (actWithout (fun _ => false) fun _ => none)
          (Coroutine.faultAt 3 (.external "connection lost")) sampleWorld).2.db.accepted now =
        sampleWorld.db.accepted now \ {sampleLibraries.sha256 "r0"} :=
  accepted_after_failed_refresh sampleLibraries {} (fun _ => none) (fun _ => false) "r0"
    ⟨0, "r1", 0⟩ (Coroutine.faultAt 3 (.external "connection lost")) sampleWorld _
    (.external "connection lost") rfl

/-- The caller of a refresh that cannot store the new token, or that does not find its user, is left
without a token. -/
theorem failed_refresh_costs_token :
    (∃ w', (AuthService.refresh sampleLibraries {} "r0" ⟨0, "r1", 0⟩).runWith
        (actWithout (fun _ => false) fun _ => none)
        (Coroutine.faultAt 3 (.external "connection lost")) sampleWorld =
          (.error (.external "connection lost"), w') ∧
      w'.db.accepted 0 ≠ sampleWorld.db.accepted 0) ∧
    ∃ w', (AuthService.refresh sampleLibraries {} "r0" ⟨0, "r1", 0⟩).runWith
        (actWithout (fun _ => true) fun _ => none) Coroutine.noFaults sampleWorld =
          (.error (.userNotFound "User not found"), w') ∧
      w'.db.accepted 0 ≠ sampleWorld.db.accepted 0 := by
  have hbefore : sampleLibraries.sha256 "r0" ∈ sampleWorld.db.accepted 0 := by
    rw [AuthDb.accepted, Set.mem_ofPred_eq]
    decide
  refine ⟨⟨_, rfl, fun hsame => ?_⟩, ⟨_, rfl, fun hsame => ?_⟩⟩
  all_goals
    rw [← hsame, AuthDb.accepted, Set.mem_ofPred_eq] at hbefore
    exact absurd hbefore (by decide)

end SupplyChainTracker.Auth
