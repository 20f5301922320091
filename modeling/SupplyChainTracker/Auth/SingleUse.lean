import SupplyChainTracker.Auth.Flow

/-!
# One refresh token presented by many callers

Looking a token up and revoking it are two statements, and revoking does not ask
whether the token was still valid. Of the callers that found the token before it
was revoked each returns a pair; when no caller looks between the lookup and the
revocation of another, only one does.
-/

namespace SupplyChainTracker.Auth

section Presenters

variable {ι : Type} (lib : Libraries) (settings : Settings) (rawToken : String)
  (draws : ι → TokenDraws)

/-- Callers that are about to present the same token. -/
def presenters (w : World) : Config ι Call Call.Ans AuthError (String × String) World where
  threads := fun i => AuthService.refresh lib settings rawToken (draws i)
  world := w
  trace := []

/-- A lookup that will find the token is not made while another caller is about to revoke it. -/
def NotBetween (c : Config ι Call Call.Ans AuthError (String × String) World) (_ : ι)
    (op : Call) : Prop :=
  op = Call.getValid (lib.sha256 rawToken) →
    (c.world.db.getValid (lib.sha256 rawToken) c.world.now).isSome →
      ∀ j resume, c.threads j ≠ .await (Call.revoke (lib.sha256 rawToken)) resume

end Presenters

/-- Whether a caller has found the token and has not been stopped since. -/
def RefreshPoint.holds : RefreshPoint → Bool
  | .look => false
  | .halt (.error _) => false
  | _ => true

/-- What the row of the presented hash is at each point of a caller. -/
def TokenAt (tokenHash : String) (db : AuthDb) : RefreshPoint → Prop
  | .look => True
  | .revoke _ => (db.tokens.find? tokenHash).isSome
  | .halt (.error _) => True
  | _ => ∃ t, db.tokens.find? tokenHash = some t ∧ t.revoked = true

/-- A holder is about to revoke the token or has revoked it. -/
theorem TokenAt.of_holds {tokenHash : String} {db : AuthDb} {s : RefreshPoint}
    (h : TokenAt tokenHash db s) (hs : s.holds) :
    (∃ record, s = .revoke record) ∨
      ∃ t, db.tokens.find? tokenHash = some t ∧ t.revoked = true := by
  cases s with
  | look => cases hs
  | revoke record => exact .inl ⟨record, rfl⟩
  | load record => exact .inr h
  | store user => exact .inr h
  | halt r =>
    cases r with
    | error e => cases hs
    | ok p => exact .inr h

/-- At most one caller holds the token, and it is revoked once its holder has revoked it. -/
structure OneHolder {ι : Type} (tokenHash : String) (st : ι → RefreshPoint) (db : AuthDb) :
    Prop where
  unique : ∀ i j, (st i).holds → (st j).holds → i = j
  token : ∀ i, TokenAt tokenHash db (st i)

section Step

variable {ι : Type} [DecidableEq ι] {tokenHash : String} {st : ι → RefreshPoint} {db db' : AuthDb}

theorem TokenAt.of_not_holds {s : RefreshPoint} (h : s.holds = false) :
    TokenAt tokenHash db s := by
  cases s with
  | look => trivial
  | halt r =>
    cases r with
    | error e => trivial
    | ok p => cases h
  | revoke record => cases h
  | load record => cases h
  | store user => cases h

/-- The holder moves on, whatever it does to the tables. -/
theorem OneHolder.advance (h : OneHolder tokenHash st db) {i : ι} (hi : (st i).holds)
    {s : RefreshPoint} (hs : TokenAt tokenHash db' s) :
    OneHolder tokenHash (Function.update st i s) db' := by
  have hother : ∀ j, j ≠ i → (st j).holds = false := fun j hj =>
    Bool.eq_false_iff.mpr fun hh => hj (h.unique j i hh hi)
  constructor
  · intro j k hj hk
    by_cases hji : j = i
    · by_cases hki : k = i
      · exact hji.trans hki.symm
      · rw [Function.update_of_ne hki, hother k hki] at hk
        cases hk
    · rw [Function.update_of_ne hji, hother j hji] at hj
      cases hj
  · intro j
    by_cases hji : j = i
    · subst hji
      rwa [Function.update_self]
    · rw [Function.update_of_ne hji]
      exact .of_not_holds (hother j hji)

/-- A caller is turned away. -/
theorem OneHolder.turnAway (h : OneHolder tokenHash st db) (i : ι) {s : RefreshPoint}
    (hs : s.holds = false) : OneHolder tokenHash (Function.update st i s) db := by
  constructor
  · intro j k hj hk
    by_cases hji : j = i
    · subst hji
      rw [Function.update_self, hs] at hj
      cases hj
    · by_cases hki : k = i
      · subst hki
        rw [Function.update_self, hs] at hk
        cases hk
      · rw [Function.update_of_ne hji] at hj
        rw [Function.update_of_ne hki] at hk
        exact h.unique j k hj hk
  · intro j
    by_cases hji : j = i
    · subst hji
      rw [Function.update_self]
      exact .of_not_holds hs
    · rw [Function.update_of_ne hji]
      exact h.token j

/-- A caller finds the token that nobody holds. -/
theorem OneHolder.find (h : OneHolder tokenHash st db) (hfree : ∀ j, (st j).holds = false) (i : ι)
    {record : RefreshToken} (hrecord : db.tokens.find? tokenHash = some record) :
    OneHolder tokenHash (Function.update st i (.revoke record)) db := by
  constructor
  · intro j k hj hk
    by_cases hji : j = i
    · by_cases hki : k = i
      · exact hji.trans hki.symm
      · rw [Function.update_of_ne hki, hfree k] at hk
        cases hk
    · rw [Function.update_of_ne hji, hfree j] at hj
      cases hj
  · intro j
    by_cases hji : j = i
    · subst hji
      rw [Function.update_self, TokenAt, hrecord]
      rfl
    · rw [Function.update_of_ne hji]
      exact h.token j

end Step

section Run

variable {ι : Type} [DecidableEq ι] (lib : Libraries) (settings : Settings)
  (refuses : User → Option String) (rawToken : String) (draws : ι → TokenDraws)

/-- Each allowed call leaves the token with one holder. -/
theorem OneHolder.step {st : ι → RefreshPoint} {w : World} {tr : List (ι × Call)} {i : ι}
    {op : Call} {next : Except AuthError op.Ans → RefreshPoint}
    (h : OneHolder (lib.sha256 rawToken) st w.db)
    (hn : refreshChart lib settings rawToken (draws i) (st i) = .call op next)
    (hallowed : NotBetween lib rawToken
      ⟨fun j => refreshProg lib settings rawToken (draws j) (st j), w, tr⟩ i op) :
    OneHolder (lib.sha256 rawToken) (Function.update st i (next (act refuses op w).1))
      (act refuses op w).2.db := by
  have htoken := h.token i
  cases hs : st i with
  | look =>
    rw [hs] at hn
    cases hn
    simp only [act, execute]
    cases hv : w.db.getValid (lib.sha256 rawToken) w.now with
    | none => exact h.turnAway i rfl
    | some record =>
      obtain ⟨hfind, hrev, _⟩ := AuthDb.getValid_eq_some_iff.mp hv
      refine h.find (fun j => ?_) i hfind
      by_contra hj
      rcases (h.token j).of_holds (by simpa using hj) with ⟨r, hr⟩ | ⟨t, ht, htrue⟩
      · exact hallowed rfl (by rw [hv]; rfl) j _
          (congrArg (refreshProg lib settings rawToken (draws j)) hr)
      · cases hfind.symm.trans ht
        rw [hrev] at htrue
        cases htrue
  | revoke record =>
    rw [hs] at hn htoken
    cases hn
    obtain ⟨t, ht⟩ := Option.isSome_iff_exists.mp htoken
    exact h.advance (by rw [hs]; rfl) ⟨_, AuthDb.find?_revoke_self ht, rfl⟩
  | load record =>
    rw [hs] at hn htoken
    cases hn
    refine h.advance (by rw [hs]; rfl) ?_
    simp only [act, execute]
    cases w.db.users.find? record.userId with
    | none => trivial
    | some user => exact htoken
  | store user =>
    rw [hs] at hn htoken
    cases hn
    refine h.advance (by rw [hs]; rfl) ?_
    obtain ⟨t, ht, hrev⟩ := htoken
    simp only [act, execute]
    rcases w.db.saveToken_cases ⟨w.tokenIds w.statements, user.userId, lib.sha256
        (draws i).rawToken, (draws i).refreshAt + days settings.refreshTokenExpireDays, false,
        w.now⟩ with ⟨e, he, _⟩ | ⟨db', hok, hnew, hput, _⟩
    · rw [he]
      trivial
    · rw [hok]
      refine ⟨t, ?_, hrev⟩
      rw [hput, Table.find?_put_of_ne _ _ ?_, ht]
      intro heq
      rw [show lib.sha256 (draws i).rawToken = lib.sha256 rawToken from heq, ht] at hnew
      cases hnew
  | halt r =>
    rw [hs] at hn
    cases hn

/-- When no caller looks the token up between the lookup and the revocation of another, at most one
caller returns a pair. -/
theorem single_use_of_notBetween (w : World) (sched : List ι)
    {c : Config ι Call Call.Ans AuthError (String × String) World}
    (hal : (presenters lib settings rawToken draws w).Guarded (act refuses)
      (NotBetween lib rawToken) sched)
    (h : (presenters lib settings rawToken draws w).exec (act refuses) sched = some c) :
    ∀ i j p q, c.threads i = .ret p → c.threads j = .ret q → i = j := by
  obtain ⟨st, hst, hinv⟩ := Config.exec_guarded_invariant
    (fun i => follows_refresh lib settings rawToken (draws i))
    (fun st w _ => OneHolder (lib.sha256 rawToken) st w.db)
    (fun st w tr i op next hi hn hallowed =>
      hi.step lib settings refuses rawToken draws hn hallowed)
    (fun _ => .look) rfl ⟨fun _ _ hi => (nomatch hi), fun _ => trivial⟩ hal h
  have hholds : ∀ i p, c.threads i = .ret p → (st i).holds := by
    intro i p hi
    have hhalt := (follows_refresh lib settings rawToken (draws i)).chart_of_ofExcept
      (s := st i) (r := .ok p) ((congrFun hst i).symm.trans hi)
    generalize st i = s at hhalt
    cases s with
    | halt r =>
      cases hhalt
      rfl
    | _ => cases hhalt
  intro i j p q hi hj
  exact hinv.unique i j (hholds i p hi) (hholds j q hj)

end Run

/-- The draws of two callers. -/
def sampleDraws : Bool → TokenDraws
  | false => ⟨0, "r1", 0⟩
  | true => ⟨0, "r2", 0⟩

/-- Two callers one after the other: the first returns a pair, the second does not. -/
theorem single_use_of_notBetween_sample :
    ∃ c, (presenters sampleLibraries {} "r0" sampleDraws sampleWorld).exec (act fun _ => none)
        [false, false, false, false, true] = some c ∧
      c.threads false = .ret (operatorToken, "r1") ∧ ∀ q, c.threads true ≠ .ret q := by
  refine ⟨_, rfl, rfl, fun q hq => ?_⟩
  have h := single_use_of_notBetween sampleLibraries {} (fun _ => none) "r0" sampleDraws sampleWorld
    [false, false, false, false, true] ?_ rfl false true _ q rfl hq
  · cases h
  · refine ⟨fun _ _ j resume h => ?_, fun h => ?_, fun h => ?_, fun h => ?_, fun _ h => ?_, trivial⟩
    · cases j <;> cases h
    · cases h
    · cases h
    · cases h
    · exact absurd h (by decide)

/-- Two callers that both look before either revokes both return a pair. -/
theorem single_use_fails :
    ∃ c, (presenters sampleLibraries {} "r0" sampleDraws sampleWorld).exec (act fun _ => none)
        [false, true, false, true, false, true, false, true] = some c ∧
      c.threads false = .ret (operatorToken, "r1") ∧
      c.threads true = .ret (operatorToken, "r2") :=
  ⟨_, rfl, rfl, rfl⟩

end SupplyChainTracker.Auth
