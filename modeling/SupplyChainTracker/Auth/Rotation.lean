import SupplyChainTracker.Auth.Flow

/-!
# Runs of logins and rotations

A log of what was asked and answered says to whom a token was issued, until when it is
valid and whether it has been used. The rows of the token table say the same, so a
rotation goes through exactly for a token that the log shows as issued, unexpired and
unused.
-/

namespace SupplyChainTracker.Auth

/-- The operations of a run. -/
inductive TokenOp : Type
  | createRefreshToken (user : User)
  | refresh (rawToken : String)

/-- An operation with the time at which it takes place and the token drawn for it. -/
structure Attempt where
  op : TokenOp
  time : DateTime
  drawn : String

/-- What an operation returns: a login returns no access token here. -/
structure Tokens where
  access : Option String
  refresh : String

/-- An operation of the past with its outcome. -/
structure Entry where
  attempt : Attempt
  result : Except AuthError Tokens

/-- The tables and the log, the latest entry first. -/
structure Run where
  world : World
  log : List Entry

section Runs

variable (lib : Libraries) (settings : Settings) (refuses : User → Option String)

/-- The operation of an attempt, whose clock readings are all the same. -/
def Attempt.program (a : Attempt) : Program Tokens :=
  match a.op with
  | .createRefreshToken user => do
      let raw ← AuthService.createRefreshToken lib settings user a.drawn a.time
      return ⟨none, raw⟩
  | .refresh rawToken => do
      let pair ← AuthService.refresh lib settings rawToken ⟨a.time, a.drawn, a.time⟩
      return ⟨some pair.1, pair.2⟩

/-- The outcome of an attempt, during which the database reads the same clock. -/
def Attempt.outcome (a : Attempt) (w : World) : Except AuthError Tokens × World :=
  (a.program lib settings).run (act refuses) { w with clock := fun _ => a.time }

/-- Carry an attempt out and log it. -/
def Run.step (s : Run) (a : Attempt) : Run where
  world := (a.outcome lib settings refuses s.world).2
  log := ⟨a, (a.outcome lib settings refuses s.world).1⟩ :: s.log

/-- Carry attempts out one after the other. -/
def runAll (attempts : List Attempt) (w : World) : Run :=
  attempts.foldl (Run.step lib settings refuses) ⟨w, []⟩

/-- To whom and until when the log says that a token was issued: a login issues to its user, a
rotation to the user of the presented token. -/
def issued? : List Entry → String → Option (UUID × DateTime)
  | [], _ => none
  | e :: older, raw =>
      match e.result with
      | .error _ => issued? older raw
      | .ok tokens =>
          if tokens.refresh = raw then
            match e.attempt.op with
            | .createRefreshToken user =>
                some (user.userId, e.attempt.time + days settings.refreshTokenExpireDays)
            | .refresh presented => (issued? older presented).map fun issue =>
                (issue.1, e.attempt.time + days settings.refreshTokenExpireDays)
          else issued? older raw

/-- A rotation of the token has succeeded. -/
def Used (log : List Entry) (raw : String) : Prop :=
  ∃ e ∈ log, e.attempt.op = .refresh raw ∧ ∃ tokens, e.result = .ok tokens

/-- The texts that attempts draw or present. -/
def texts (attempts : List Attempt) : Set String :=
  {s | ∃ a ∈ attempts, a.drawn = s ∨ a.op = .refresh s}

end Runs

section Outcomes

variable {lib : Libraries} {settings : Settings} {refuses : User → Option String}

/-- The row of a token issued by an attempt. -/
structure Issues (lib : Libraries) (settings : Settings) (a : Attempt) (userId : UUID)
    (row : RefreshToken) : Prop where
  tokenHash : row.tokenHash = lib.sha256 a.drawn
  userId : row.userId = userId
  expiresAt : row.expiresAt = a.time + days settings.refreshTokenExpireDays
  revoked : row.revoked = false

/-- A login is refused without effect, or stores a token for its user. -/
theorem outcome_login (user : User) (time : DateTime) (drawn : String) (w : World) :
    let a : Attempt := ⟨.createRefreshToken user, time, drawn⟩
    (∃ e, (a.outcome lib settings refuses w).1 = .error e ∧
      (a.outcome lib settings refuses w).2.db = w.db) ∨
    ((a.outcome lib settings refuses w).1 = .ok ⟨none, drawn⟩ ∧
      (a.outcome lib settings refuses w).2.db.users = w.db.users ∧
      ∃ row, Issues lib settings a user.userId row ∧
        (a.outcome lib settings refuses w).2.db.tokens = w.db.tokens.put row) := by
  intro a
  simp only [a, Attempt.outcome, Attempt.program, AuthService.createRefreshToken,
    RefreshTokenRepository.save, Coroutine.bind_eq, Coroutine.run_bind, Coroutine.run_perform, act,
    execute]
  rcases w.db.saveToken_cases ⟨w.tokenIds w.statements, user.userId, lib.sha256 drawn,
      time + days settings.refreshTokenExpireDays, false, time⟩ with
    ⟨e, he, _⟩ | ⟨db', hok, _, hput, husers⟩
  · refine .inl ⟨e, ?_⟩
    simp [World.now, he]
  · refine .inr ?_
    simp only [World.now, hok, Coroutine.pure_eq, Coroutine.run_ret]
    exact ⟨trivial, husers, _, ⟨rfl, rfl, rfl, rfl⟩, hput⟩

/-- A rotation of a token that is not valid has no effect; one of a valid token revokes it and
stores a new one for the same user, if the new hash is not stored yet. -/
theorem outcome_refresh (raw : String) (time : DateTime) (drawn : String) {w : World}
    (hnew : w.db.tokens.find? (lib.sha256 drawn) = none) :
    let a : Attempt := ⟨.refresh raw, time, drawn⟩
    (w.db.getValid (lib.sha256 raw) time = none ∧
      (∃ e, (a.outcome lib settings refuses w).1 = .error e) ∧
      (a.outcome lib settings refuses w).2.db = w.db) ∨
    ∃ record user row, w.db.getValid (lib.sha256 raw) time = some record ∧
      w.db.users.find? record.userId = some user ∧ Issues lib settings a record.userId row ∧
      (a.outcome lib settings refuses w).1 =
        .ok ⟨some (AuthService.createAccessToken lib settings user time), drawn⟩ ∧
      (a.outcome lib settings refuses w).2.db.users = w.db.users ∧
      (a.outcome lib settings refuses w).2.db.tokens =
        (w.db.tokens.put { record with revoked := true }).put row := by
  intro a
  cases hv : w.db.getValid (lib.sha256 raw) time with
  | none =>
    refine .inl ⟨rfl, ?_⟩
    simp [a, Attempt.outcome, Attempt.program, AuthService.refresh, RefreshTokenRepository.getValid,
      Coroutine.run_bind, act, execute, World.now, hv]
  | some record =>
    obtain ⟨hfind, _, _⟩ := AuthDb.getValid_eq_some_iff.mp hv
    obtain ⟨user, huser⟩ := Option.isSome_iff_exists.mp
      (w.db.userOf record (Table.mem_of_find? hfind))
    have huid : user.userId = record.userId := Table.key_of_find? huser
    have hhash : record.tokenHash = lib.sha256 raw := Table.key_of_find? hfind
    have hne : lib.sha256 raw ≠ lib.sha256 drawn := by
      intro heq
      rw [← heq, hfind] at hnew
      cases hnew
    have hnew' : (w.db.revoke (lib.sha256 raw)).tokens.find? (lib.sha256 drawn) = none :=
      (AuthDb.find?_revoke_of_ne w.db hne).trans hnew
    have huser' : (w.db.revoke (lib.sha256 raw)).users.find? user.userId = some user := by
      rw [AuthDb.users_revoke, huid, huser]
    refine .inr ⟨record, user, ⟨w.tokenIds (w.statements + 1 + 1 + 1), user.userId,
      lib.sha256 drawn, time + days settings.refreshTokenExpireDays, false, time⟩, rfl, huser,
      ⟨rfl, huid, rfl, rfl⟩, ?_⟩
    simp only [a, Attempt.outcome, Attempt.program, AuthService.refresh,
      RefreshTokenRepository.getValid, RefreshTokenRepository.revoke, UserRepository.getById,
      AuthService.createRefreshToken, RefreshTokenRepository.save, Coroutine.bind_eq,
      Coroutine.run_bind, Coroutine.run_perform, act, execute, World.now, hv,
      AuthDb.users_revoke, huser, Coroutine.pure_eq, Coroutine.run_ret, Option.map_some,
      rowToEntity_eq]
    rcases (w.db.revoke (lib.sha256 raw)).saveToken_cases
        ⟨w.tokenIds (w.statements + 1 + 1 + 1), user.userId, lib.sha256 drawn,
          time + days settings.refreshTokenExpireDays, false, time⟩ with
      ⟨e, _, hstored | hmissing⟩ | ⟨db', hok, _, hput, husers⟩
    · rw [hnew'] at hstored
      cases hstored
    · rw [huser'] at hmissing
      cases hmissing
    · rw [hok]
      refine ⟨rfl, husers.trans (AuthDb.users_revoke _ _), ?_⟩
      rw [hput, AuthDb.tokens_revoke_of_some hfind]

end Outcomes

section Log

variable {settings : Settings} {log : List Entry} {a : Attempt} {raw : String}

/-- The texts that the attempts of a log have drawn. -/
def drawn (log : List Entry) : List String := log.map fun e => e.attempt.drawn

theorem used_error (e : AuthError) : Used (⟨a, .error e⟩ :: log) raw ↔ Used log raw := by
  simp [Used]

theorem issued?_of_ne {tokens : Tokens} (h : tokens.refresh ≠ raw) :
    issued? settings (⟨a, .ok tokens⟩ :: log) raw = issued? settings log raw := by
  simp [issued?, h]

theorem used_login (user : User) (time : DateTime) (new : String)
    (r : Except AuthError Tokens) :
    Used (⟨⟨.createRefreshToken user, time, new⟩, r⟩ :: log) raw ↔ Used log raw := by
  simp [Used]

theorem used_refresh (presented : String) (time : DateTime) (new : String) (tokens : Tokens) :
    Used (⟨⟨.refresh presented, time, new⟩, .ok tokens⟩ :: log) raw ↔
      raw = presented ∨ Used log raw := by
  simp [Used, eq_comm]

end Log

/-- The rows are those of the issued tokens, revoked once they are among the used ones. -/
structure Ledger (lib : Libraries) (settings : Settings) (log : List Entry) (used : String → Prop)
    (tokens : Table String RefreshToken RefreshToken.tokenHash) : Prop where
  row : ∀ raw userId expiresAt, issued? settings log raw = some (userId, expiresAt) →
    ∃ t, tokens.find? (lib.sha256 raw) = some t ∧ t.userId = userId ∧
      t.expiresAt = expiresAt ∧ (t.revoked = true ↔ used raw)
  issued : ∀ tokenHash t, tokens.find? tokenHash = some t →
    ∃ raw, tokenHash = lib.sha256 raw ∧ (issued? settings log raw).isSome
  drawn : ∀ raw, (issued? settings log raw).isSome → raw ∈ drawn log
  used : ∀ raw, used raw → (issued? settings log raw).isSome

namespace Ledger

variable {lib : Libraries} {settings : Settings} {log : List Entry} {used used' : String → Prop}
  {tokens : Table String RefreshToken RefreshToken.tokenHash} {S : Set String}

theorem congr (h : Ledger lib settings log used tokens) (hused : ∀ raw, used' raw ↔ used raw) :
    Ledger lib settings log used' tokens := by
  obtain rfl : used' = used := funext fun raw => propext (hused raw)
  exact h

/-- Before the first attempt there is nothing. -/
theorem start (hempty : tokens.rows = []) :
    Ledger lib settings [] (Used []) tokens where
  row raw userId expiresAt hi := by cases hi
  issued tokenHash t ht := by
    have hmem := Table.mem_of_find? ht
    rw [hempty] at hmem
    cases hmem
  drawn raw hi := by cases hi
  used raw hu := by
    obtain ⟨e, he, _⟩ := hu
    cases he

/-- A refused attempt issues nothing. -/
theorem refused (h : Ledger lib settings log used tokens) (a : Attempt) (e : AuthError) :
    Ledger lib settings (⟨a, .error e⟩ :: log) used tokens where
  row := h.row
  issued := h.issued
  drawn raw hi := List.mem_cons_of_mem _ (h.drawn raw hi)
  used := h.used

section Texts

variable (h : Ledger lib settings log used tokens) (hinj : Set.InjOn lib.sha256 S)
  (hdrawn : ∀ s ∈ Auth.drawn log, s ∈ S)

include h hinj hdrawn

/-- A stored hash is the hash of one issued token. -/
theorem issued_of_find? {raw : String} (hraw : raw ∈ S) {t : RefreshToken}
    (ht : tokens.find? (lib.sha256 raw) = some t) :
    issued? settings log raw = some (t.userId, t.expiresAt) ∧ (t.revoked = true ↔ used raw) := by
  obtain ⟨raw', heq, hissued⟩ := h.issued _ t ht
  obtain rfl : raw = raw' := hinj hraw (hdrawn raw' (h.drawn raw' hissued)) heq
  obtain ⟨⟨userId, expiresAt⟩, hi⟩ := Option.isSome_iff_exists.mp hissued
  obtain ⟨t', ht', rfl, rfl, hrev⟩ := h.row raw userId expiresAt hi
  cases ht.symm.trans ht'
  exact ⟨hi, hrev⟩

/-- The hash of a text that has not been drawn is not stored. -/
theorem find?_eq_none {new : String} (hS : new ∈ S) (hnew : new ∉ Auth.drawn log) :
    tokens.find? (lib.sha256 new) = none := by
  cases ht : tokens.find? (lib.sha256 new) with
  | none => rfl
  | some t =>
    obtain ⟨hissued, _⟩ := h.issued_of_find? hinj hdrawn hS ht
    exact absurd (h.drawn new (by rw [hissued]; rfl)) hnew

/-- Revoking a stored token puts it among the used ones. -/
theorem mark {raw : String} (hraw : raw ∈ S) {t : RefreshToken}
    (ht : tokens.find? (lib.sha256 raw) = some t) :
    Ledger lib settings log (fun s => s = raw ∨ used s)
      (tokens.put { t with revoked := true }) := by
  have hhash : t.tokenHash = lib.sha256 raw := Table.key_of_find? ht
  obtain ⟨hissued, _⟩ := h.issued_of_find? hinj hdrawn hraw ht
  constructor
  · intro raw' userId expiresAt hi
    by_cases heq : raw' = raw
    · subst heq
      obtain ⟨rfl, rfl⟩ := Prod.mk.inj (Option.some.inj (hissued.symm.trans hi))
      refine ⟨{ t with revoked := true }, ?_, rfl, rfl, by simp⟩
      rw [← hhash]
      exact Table.find?_put_self tokens { t with revoked := true }
    · obtain ⟨t', ht', hu, he, hrev⟩ := h.row raw' userId expiresAt hi
      refine ⟨t', ?_, hu, he, by simp [heq, hrev]⟩
      rw [Table.find?_put_of_ne, ht']
      rw [hhash]
      exact fun hh => heq
        (hinj hraw (hdrawn raw' (h.drawn raw' (by rw [hi]; rfl))) hh).symm
  · intro tokenHash t' ht'
    by_cases heq : t.tokenHash = tokenHash
    · exact ⟨raw, heq.symm.trans hhash, by rw [hissued]; rfl⟩
    · rw [Table.find?_put_of_ne tokens { t with revoked := true } heq] at ht'
      exact h.issued tokenHash t' ht'
  · exact h.drawn
  · rintro raw' (rfl | hu)
    · rw [hissued]
      rfl
    · exact h.used raw' hu

/-- A new token is stored with the row that the log will show. -/
theorem issue {a : Attempt} (access : Option String) (hS : a.drawn ∈ S)
    (hnew : a.drawn ∉ Auth.drawn log) {userId : UUID} {row : RefreshToken}
    (hrow : Issues lib settings a userId row)
    (hself : issued? settings (⟨a, .ok ⟨access, a.drawn⟩⟩ :: log) a.drawn =
      some (userId, a.time + days settings.refreshTokenExpireDays)) :
    Ledger lib settings (⟨a, .ok ⟨access, a.drawn⟩⟩ :: log) used (tokens.put row) := by
  have hunused : ¬ used a.drawn := fun hu => hnew (h.drawn a.drawn (h.used a.drawn hu))
  constructor
  · intro raw userId' expiresAt hi
    by_cases hraw : a.drawn = raw
    · subst hraw
      obtain ⟨rfl, rfl⟩ := Prod.mk.inj (Option.some.inj (hself.symm.trans hi))
      refine ⟨row, ?_, hrow.userId, hrow.expiresAt, ?_⟩
      · rw [← hrow.tokenHash]
        exact Table.find?_put_self ..
      · simp [hrow.revoked, hunused]
    · rw [issued?_of_ne hraw] at hi
      obtain ⟨t, ht, hu, he, hrev⟩ := h.row raw userId' expiresAt hi
      refine ⟨t, ?_, hu, he, hrev⟩
      rw [Table.find?_put_of_ne, ht]
      rw [hrow.tokenHash]
      exact fun heq => hraw (hinj hS (hdrawn raw (h.drawn raw (by rw [hi]; rfl))) heq)
  · intro tokenHash t ht
    by_cases heq : row.tokenHash = tokenHash
    · exact ⟨a.drawn, heq.symm.trans hrow.tokenHash, by rw [hself]; rfl⟩
    · rw [Table.find?_put_of_ne _ _ heq] at ht
      obtain ⟨raw, hhash, hissued⟩ := h.issued tokenHash t ht
      refine ⟨raw, hhash, ?_⟩
      rwa [issued?_of_ne]
      rintro rfl
      exact hnew (h.drawn _ hissued)
  · intro raw hissued
    by_cases hraw : a.drawn = raw
    · exact hraw ▸ List.mem_cons_self ..
    · rw [issued?_of_ne hraw] at hissued
      exact List.mem_cons_of_mem _ (h.drawn raw hissued)
  · intro raw hu
    rw [issued?_of_ne]
    · exact h.used raw hu
    · rintro rfl
      exact hunused hu

end Texts

end Ledger

section Runs

variable {lib : Libraries} {settings : Settings} {refuses : User → Option String} {S : Set String}

/-- An attempt that draws a new text keeps the table and the log in step. -/
theorem Ledger.step {s : Run} (h : Ledger lib settings s.log (Used s.log) s.world.db.tokens)
    (hinj : Set.InjOn lib.sha256 S) (hdrawn : ∀ t ∈ Auth.drawn s.log, t ∈ S) {a : Attempt}
    (hS : ∀ t, a.drawn = t ∨ a.op = .refresh t → t ∈ S) (hnew : a.drawn ∉ Auth.drawn s.log) :
    Ledger lib settings (s.step lib settings refuses a).log
      (Used (s.step lib settings refuses a).log)
      (s.step lib settings refuses a).world.db.tokens := by
  have hSnew := hS a.drawn (.inl rfl)
  obtain ⟨op, time, new⟩ := a
  cases op with
  | createRefreshToken user =>
    rcases @outcome_login lib settings refuses user time new
      s.world with ⟨e, he, hdb⟩ | ⟨hok, _, row, hrow, hput⟩
    · simp only [Run.step, he, hdb]
      exact (h.refused _ e).congr fun raw => used_error e
    · simp only [Run.step, hok, hput]
      exact (h.issue hinj hdrawn (a := ⟨.createRefreshToken user, time, new⟩) none hSnew hnew hrow
        (by simp [issued?])).congr fun raw => used_login user time new _
  | refresh presented =>
    rcases @outcome_refresh lib settings refuses presented time
        new _ (h.find?_eq_none hinj hdrawn hSnew hnew) with
      ⟨_, ⟨e, he⟩, hdb⟩ | ⟨record, user, row, hv, _, hrow, hok, _, hput⟩
    · simp only [Run.step, he, hdb]
      exact (h.refused _ e).congr fun raw => used_error e
    · obtain ⟨hfind, _, _⟩ := AuthDb.getValid_eq_some_iff.mp hv
      have hpresented := hS presented (.inr rfl)
      obtain ⟨hissued, _⟩ := h.issued_of_find? hinj hdrawn hpresented hfind
      simp only [Run.step, hok, hput]
      exact ((h.mark hinj hdrawn hpresented hfind).issue hinj hdrawn
        (a := ⟨.refresh presented, time, new⟩) _ hSnew hnew hrow
        (by simp [issued?, hissued])).congr fun raw => used_refresh presented time new _

theorem runAll_concat (attempts : List Attempt) (a : Attempt) (w : World) :
    runAll lib settings refuses (attempts ++ [a]) w =
      (runAll lib settings refuses attempts w).step lib settings refuses a := by
  rw [runAll, List.foldl_append]
  rfl

/-- The log lists the attempts, the latest first. -/
theorem drawn_runAll (attempts : List Attempt) (w : World) :
    drawn (runAll lib settings refuses attempts w).log = (attempts.map Attempt.drawn).reverse := by
  induction attempts using List.reverseRecOn with
  | nil => rfl
  | append_singleton attempts a ih =>
    rw [runAll_concat, List.map_append, List.reverse_append, ← ih]
    rfl

/-- The table and the log stay in step. -/
theorem ledger_runAll {w : World} (hempty : w.db.tokens.rows = []) {attempts : List Attempt}
    (hnodup : (attempts.map Attempt.drawn).Nodup) (hinj : Set.InjOn lib.sha256 S)
    (hS : texts attempts ⊆ S) :
    Ledger lib settings (runAll lib settings refuses attempts w).log
      (Used (runAll lib settings refuses attempts w).log)
      (runAll lib settings refuses attempts w).world.db.tokens := by
  induction attempts using List.reverseRecOn with
  | nil => exact .start hempty
  | append_singleton attempts a ih =>
    rw [List.map_append, List.nodup_append] at hnodup
    obtain ⟨hnodup, _, hdisjoint⟩ := hnodup
    have hlast : a ∈ attempts ++ [a] := List.mem_append_right _ (List.mem_singleton_self a)
    have hearlier := ih hnodup fun t ⟨b, hb, ht⟩ => hS ⟨b, List.mem_append_left _ hb, ht⟩
    rw [runAll_concat]
    refine hearlier.step hinj (fun t ht => ?_) (fun t ht => hS ⟨a, hlast, ht⟩) ?_
    · rw [drawn_runAll, List.mem_reverse, List.mem_map] at ht
      obtain ⟨b, hb, rfl⟩ := ht
      exact hS ⟨b, List.mem_append_left _ hb, .inl rfl⟩
    · rw [drawn_runAll, List.mem_reverse]
      exact fun hmem => hdisjoint _ hmem _ (List.mem_singleton_self _) rfl

/-- After any run a rotation succeeds exactly for a token that an earlier login or rotation issued,
that has not expired and that no earlier rotation has used. Its access token then names the user
the token was issued to with the user's stored role, and the new token is stored for that user. -/
theorem refresh_ok_iff (w : World) (hempty : w.db.tokens.rows = []) (past : List Attempt)
    (raw : String) (time : DateTime) (new : String)
    (hdrawn : ((past ++ [Attempt.mk (.refresh raw) time new]).map Attempt.drawn).Nodup)
    (hinj : Set.InjOn lib.sha256 (texts (past ++ [Attempt.mk (.refresh raw) time new]))) :
    let before := runAll lib settings refuses past w
    let outcome := (Attempt.mk (.refresh raw) time new).outcome lib settings refuses before.world
    ((∃ tokens, outcome.1 = .ok tokens) ↔
      (∃ userId expiresAt, issued? settings before.log raw = some (userId, expiresAt) ∧
        time < expiresAt) ∧ ¬ Used before.log raw) ∧
    ∀ tokens, outcome.1 = .ok tokens →
      ∃ userId expiresAt user, issued? settings before.log raw = some (userId, expiresAt) ∧
        before.world.db.users.find? userId = some user ∧
        tokens.access = some (lib.jose.encode ⟨user.username, user.role,
          time + settings.jwtAccessTokenExpireMinutes * 60 * 1000000⟩ settings.jwtSecretKey
          settings.jwtAlgorithm) ∧
        tokens.refresh = new ∧
        ∃ row, outcome.2.db.tokens.find? (lib.sha256 new) = some row ∧ row.userId = userId := by
  intro before outcome
  have hlast : (Attempt.mk (.refresh raw) time new) ∈ past ++ [Attempt.mk (.refresh raw) time new] :=
    List.mem_append_right _ (List.mem_singleton_self _)
  have htexts : texts past ⊆ texts (past ++ [Attempt.mk (.refresh raw) time new]) := by
    rintro t ⟨b, hb, ht⟩
    exact ⟨b, List.mem_append_left _ hb, ht⟩
  rw [List.map_append, List.nodup_append] at hdrawn
  have hledger := @ledger_runAll lib settings refuses _ _ hempty _ hdrawn.1 hinj
    htexts
  have hS : ∀ t ∈ drawn before.log, t ∈ texts (past ++ [Attempt.mk (.refresh raw) time new]) := by
    intro t ht
    rw [drawn_runAll, List.mem_reverse, List.mem_map] at ht
    obtain ⟨b, hb, rfl⟩ := ht
    exact ⟨b, List.mem_append_left _ hb, .inl rfl⟩
  have hnew : new ∉ drawn before.log := by
    rw [drawn_runAll, List.mem_reverse]
    exact fun hmem => hdrawn.2.2 _ hmem _ (List.mem_singleton_self _) rfl
  have hfresh := hledger.find?_eq_none hinj hS ⟨_, hlast, .inl rfl⟩ hnew
  have hraw : raw ∈ texts (past ++ [Attempt.mk (.refresh raw) time new]) := ⟨_, hlast, .inr rfl⟩
  rcases @outcome_refresh lib settings refuses raw time new _ hfresh with
    ⟨hv, ⟨e, he⟩, _⟩ | ⟨record, user, row, hv, huser, hrow, hok, _, hput⟩
  · have hfail : ∀ tokens, outcome.1 ≠ .ok tokens := by
      intro tokens hok
      cases he.symm.trans hok
    refine ⟨⟨fun ⟨tokens, hok⟩ => absurd hok (hfail tokens), ?_⟩,
      fun tokens hok => absurd hok (hfail tokens)⟩
    rintro ⟨⟨userId, expiresAt, hissued, hlt⟩, hunused⟩
    obtain ⟨t, ht, _, rfl, hrev⟩ := hledger.row raw userId expiresAt hissued
    have hvalid : before.world.db.getValid (lib.sha256 raw) time = some t :=
      AuthDb.getValid_eq_some_iff.mpr
        ⟨ht, Bool.eq_false_iff.mpr fun h => hunused (hrev.mp h), hlt⟩
    cases hv.symm.trans hvalid
  · obtain ⟨hfind, hrev, hlt⟩ := AuthDb.getValid_eq_some_iff.mp hv
    obtain ⟨hissued, hused⟩ := hledger.issued_of_find? hinj hS hraw hfind
    have hunused : ¬ Used before.log raw := by
      rw [← hused, hrev]
      exact Bool.false_ne_true
    refine ⟨iff_of_true ⟨_, hok⟩ ⟨⟨_, _, hissued, hlt⟩, hunused⟩, fun tokens htokens => ?_⟩
    cases hok.symm.trans htokens
    refine ⟨record.userId, record.expiresAt, user, hissued, huser, rfl, rfl, row, ?_, hrow.userId⟩
    rw [show outcome.2.db.tokens = _ from hput, ← hrow.tokenHash]
    exact Table.find?_put_self ..

end Runs

/-- The sample user without a token. -/
def sampleUsers : World where
  db := { sampleWorld.db with
    tokens := Table.empty
    userOf := by decide }
  clock := fun _ => 0
  tokenIds := fun n => ⟨Fin.ofNat _ n⟩
  statements := 0

/-- A login and a rotation. -/
def samplePast : List Attempt :=
  [⟨.createRefreshToken sampleUser, 0, "r0"⟩, ⟨.refresh "r0", 0, "r1"⟩]

theorem injOn_sha256_sample : Set.InjOn sampleLibraries.sha256
    (texts (samplePast ++ [⟨.refresh "r1", 0, "r2"⟩])) := by
  have hmem : ∀ s ∈ texts (samplePast ++ [⟨.refresh "r1", 0, "r2"⟩]),
      s = "r0" ∨ s = "r1" ∨ s = "r2" := by
    rintro s ⟨a, ha, hs⟩
    simp only [samplePast, List.cons_append, List.nil_append, List.mem_cons, List.not_mem_nil,
      or_false] at ha
    rcases ha with rfl | rfl | rfl <;> rcases hs with hs | hs <;> cases hs <;> simp
  intro s hs t ht h
  rcases hmem s hs with rfl | rfl | rfl <;> rcases hmem t ht with rfl | rfl | rfl <;>
    first | rfl | exact absurd h (by decide)

/-- The token of the rotation is accepted, and the user is named with the stored role. -/
theorem refresh_ok_iff_sample :
    ∃ tokens, ((Attempt.mk (.refresh "r1") 0 "r2").outcome sampleLibraries {} (fun _ => none)
        (runAll sampleLibraries {} (fun _ => none) samplePast sampleUsers).world).1 = .ok tokens ∧
      tokens.access = some operatorToken := by
  have h := @refresh_ok_iff sampleLibraries {} (fun _ => none)
    sampleUsers rfl samplePast "r1" 0 "r2" (by decide) injOn_sha256_sample
  have hunused : ¬ Used (runAll sampleLibraries {} (fun _ => none) samplePast sampleUsers).log
      "r1" := by
    rintro ⟨e, he, hop, _⟩
    rcases List.mem_cons.mp he with rfl | he
    · exact absurd (TokenOp.refresh.inj hop) (by decide)
    · obtain rfl := List.mem_singleton.mp he
      cases hop
  obtain ⟨tokens, hok⟩ := h.1.mpr ⟨⟨⟨1⟩, _, rfl, by decide⟩, hunused⟩
  obtain ⟨userId, expiresAt, user, hissued, huser, haccess, _⟩ := h.2 tokens hok
  cases hissued
  cases huser
  exact ⟨tokens, hok, haccess⟩

end SupplyChainTracker.Auth
