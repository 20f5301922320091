import SupplyChainTracker.Auth.Roles
import SupplyChainTracker.Core.Async.Journal

/-!
# Sessions are rooted in passwords

Registrations, logins and rotations interleaved in any way, any call of which may raise. The tokens
that a request returns go back, through rotations, to a login with the password of one user. That
user stays as it was registered, and it is whom `/auth/me` reports for the access token.
-/

namespace SupplyChainTracker.Auth

open Coroutine (Grants)

variable {ι : Type}

/-- The id that a registration draws for its user. -/
def AuthRequest.drawnId? : AuthRequest → Option UUID
  | register _ draws => some draws.userId
  | _ => none

/-- The ids that registrations draw are distinct and not in use. -/
structure FreshUsers (requests : ι → AuthRequest) (db : AuthDb) : Prop where
  distinct : ∀ i j userId, (requests i).drawnId? = some userId →
    (requests j).drawnId? = some userId → i = j
  new : ∀ i userId, (requests i).drawnId? = some userId → db.users.find? userId = none

section Roots

variable (lib : Libraries) (requests : ι → AuthRequest) (db : AuthDb)

/-- A registration has asked for a user, with the hash of the password it gives. -/
def Requested (user : User) : Prop :=
  ∃ i body draws, requests i = .register body draws ∧
    user = body.user draws user.hashedPassword ∧
    lib.bcrypt.hashpw body.password draws.salt = .ok user.hashedPassword

/-- A refresh token of a user has been there from the start, or has been issued to a login with the
user's password or in exchange for such a token. -/
inductive Rooted (user : User) : String → Prop
  | stored (t : RefreshToken) (ht : t ∈ db.tokens.rows) (huser : user.userId = t.userId) :
      Rooted user t.tokenHash
  | login (i : ι) (password : String) (draws : TokenDraws)
      (hrequest : requests i = .token user.username password draws)
      (hverified : lib.bcrypt.checkpw password user.hashedPassword = .ok true) :
      Rooted user (lib.sha256 draws.rawToken)
  | refresh (i : ι) (body : RefreshRequest) (draws : TokenDraws)
      (hrequest : requests i = .refresh body draws)
      (hrooted : Rooted user (lib.sha256 body.refreshToken)) :
      Rooted user (lib.sha256 draws.rawToken)

end Roots

/-- What a request has found or issued. -/
inductive Standing : Type
  | nothing
  /-- It has looked up a user. -/
  | found (user : User)
  /-- It has looked up the row of the presented token. -/
  | holds (record : RefreshToken)
  /-- It has stored a token of the user that it had looked up. -/
  | issued (user : User) (tokenHash : String)
  /-- It has stored a user. -/
  | registered

/-- A token has been stored. -/
def Standing.issue (tokenHash : String) : Standing → Standing
  | found user => .issued user tokenHash
  | s => s

/-- What an answer adds. -/
def Standing.next (s : Standing) : (op : Call) → Except AuthError op.Ans → Standing
  | .getByUsername _, .ok (some user) => .found user
  | .getById _, .ok (some user) => .found user
  | .getValid _, .ok (some record) => .holds record
  | .saveUser _, .ok _ => .registered
  | .saveToken _ tokenHash _, .ok _ => s.issue tokenHash
  | _, _ => s

section Requests

variable (lib : Libraries) (settings : Settings)

/-- The calls that a request may make next. -/
def AuthRequest.May : AuthRequest → Standing → Call → Prop
  | register body draws, s, .saveUser user => s = .nothing ∧
      user = body.user draws user.hashedPassword ∧
      lib.bcrypt.hashpw body.password draws.salt = .ok user.hashedPassword
  | register .., s, .getByUsername _ => s = .nothing
  | register .., s, .getByEmail _ => s = .nothing
  | token username .., _, .getByUsername name => name = username
  | token username password draws, .found user, .saveToken userId tokenHash _ =>
      userId = user.userId ∧ user.username = username ∧
        lib.bcrypt.checkpw password user.hashedPassword = .ok true ∧
        tokenHash = lib.sha256 draws.rawToken
  | refresh body _, _, .getValid tokenHash => tokenHash = lib.sha256 body.refreshToken
  | refresh .., .holds _, .revoke _ => True
  | refresh .., .holds record, .getById userId => userId = record.userId
  | refresh _ draws, .found user, .saveToken userId tokenHash _ =>
      userId = user.userId ∧ tokenHash = lib.sha256 draws.rawToken
  | _, _, _ => False

/-- What a lookup by name is expected to return. -/
def Named : (op : Call) → Except AuthError op.Ans → Prop
  | .getByUsername name, r => ∀ user, r = .ok (some user) → user.username = name
  | _, _ => True

/-- A call that raises tells nothing. -/
theorem named_error (op : Call) (e : AuthError) : Named op (.error e) := by
  cases op with
  | getByUsername name => exact fun _ h => by cases h
  | _ => trivial

@[simp] theorem Standing.next_error (s : Standing) (op : Call) (e : AuthError) :
    s.next op (.error e) = s := by
  cases op <;> rfl

/-- The protocol of a request. -/
def AuthRequest.protocol (request : AuthRequest) : Protocol Call Call.Ans AuthError Standing where
  may := request.May lib
  expects := Named
  next := Standing.next

/-- The tokens that a request returns are those it has issued for a user. -/
def ReturnsIssued (response : AuthResponse) (s : Standing) : Prop :=
  ∀ tokens, response = .tokens tokens → ∃ user issuedAt,
    s = .issued user (lib.sha256 tokens.refreshToken) ∧
      tokens.accessToken = AuthService.createAccessToken lib settings user issuedAt

variable {lib} {settings}

/-- A registration stores the user that its body asks for. -/
theorem grants_register (body : RegisterRequest) (draws : RegisterDraws) :
    (body.run lib draws).Grants ((AuthRequest.register body draws).protocol lib)
      (fun _ _ => True) .nothing := by
  refine (follows_register lib body draws).keeps (t := .username) (fun
    | .username, s => s = .nothing
    | .email, s => s = .nothing
    | .store user, s => (AuthRequest.register body draws).May lib s (.saveUser user)
    | .halt _, _ => True) ?_ (fun _ _ _ _ _ _ _ => trivial) rfl
  rintro (_ | _ | user | result) s op next hs hcall
  · cases hcall
    refine ⟨hs, ?_⟩
    rintro (e | _ | user) _
    · trivial
    · exact hs
    · trivial
  · cases hcall
    refine ⟨hs, ?_⟩
    rintro (e | _ | user) _
    · trivial
    · simp only [emailNext]
      cases hhash : lib.bcrypt.hashpw body.password draws.salt with
      | error message => trivial
      | ok hashedPassword => exact ⟨hs, rfl, hhash⟩
    · trivial
  · cases hcall
    exact ⟨hs, fun _ _ => trivial⟩
  · cases hcall

/-- A rotation issues tokens for the user of the row that it has looked up. -/
theorem grants_refresh (body : RefreshRequest) (draws : TokenDraws) :
    (AuthService.refresh lib settings body.refreshToken draws).Grants
      ((AuthRequest.refresh body draws).protocol lib) (fun tokens s => ∃ user issuedAt,
        s = .issued user (lib.sha256 tokens.2) ∧
          tokens.1 = AuthService.createAccessToken lib settings user issuedAt) .nothing := by
  refine (follows_refresh lib settings body.refreshToken draws).keeps (t := .look) (fun
    | .look, _ => True
    | .revoke record, s => s = .holds record
    | .load record, s => s = .holds record
    | .store user, s => s = .found user
    | .halt result, s => ∀ tokens, result = .ok tokens → ∃ user issuedAt,
        s = .issued user (lib.sha256 tokens.2) ∧
          tokens.1 = AuthService.createAccessToken lib settings user issuedAt) ?_ ?_ trivial
  · rintro (_ | record | record | user | result) s op next hs hcall
    · cases hcall
      refine ⟨rfl, ?_⟩
      rintro (e | _ | record) _
      · exact fun _ h => by cases h
      · exact fun _ h => by cases h
      · rfl
    · cases hcall
      obtain rfl := hs
      refine ⟨trivial, ?_⟩
      rintro (e | _) _
      · exact fun _ h => by cases h
      · rfl
    · cases hcall
      obtain rfl := hs
      refine ⟨rfl, ?_⟩
      rintro (e | _ | user) _
      · exact fun _ h => by cases h
      · exact fun _ h => by cases h
      · rfl
    · cases hcall
      obtain rfl := hs
      refine ⟨⟨rfl, rfl⟩, ?_⟩
      rintro (e | _) _
      · exact fun _ h => by cases h
      · rintro tokens h
        cases h
        exact ⟨user, draws.accessAt, rfl, rfl⟩
    · cases hcall
  · rintro (_ | record | record | user | result) s r hs hhalt
    · cases hhalt
    · cases hhalt
    · cases hhalt
    · cases hhalt
    · cases hhalt
      exact hs

/-- A login issues tokens for the user whose password it has. -/
theorem grants_login (username password : String) (draws : TokenDraws) :
    (AuthRouter.login lib settings username password draws).Grants
      ((AuthRequest.token username password draws).protocol lib)
      (fun tokens => ReturnsIssued lib settings (.tokens tokens)) .nothing := by
  refine Grants.bind (Q := fun user s => s = .found user ∧ user.username = username ∧
    lib.bcrypt.checkpw password user.hashedPassword = .ok true) (Grants.tryCatch ?_ ?_) ?_
  · refine ⟨rfl, ?_⟩
    rintro (e | _ | user) hnamed
    · exact Coroutine.grants_raise e _
    · exact Coroutine.grants_raise _ _
    · refine Grants.bind (Q := fun verified s => s = .found user ∧
        lib.bcrypt.checkpw password user.hashedPassword = .ok verified) ?_ ?_
      · change (ofBcrypt (lib.bcrypt.checkpw password user.hashedPassword)).Grants _ _ _
        cases lib.bcrypt.checkpw password user.hashedPassword with
        | error message => exact Coroutine.grants_raise _ _
        | ok verified => exact (Coroutine.grants_ret _ _).mpr ⟨rfl, rfl⟩
      · rintro (_ | _) s ⟨rfl, hverified⟩
        · exact Coroutine.grants_raise _ _
        · exact (Coroutine.grants_ret _ _).mpr ⟨rfl, hnamed user rfl, hverified⟩
  · rintro (_ | _ | _ | _ | _ | _) <;> exact ⟨_, rfl⟩
  · rintro user s ⟨rfl, hname, hverified⟩
    refine ⟨⟨rfl, hname, hverified, rfl⟩, ?_⟩
    rintro (e | _) _
    · exact Coroutine.grants_raise e _
    · refine (Coroutine.grants_ret _ _).mpr fun tokens h => ?_
      cases h
      exact ⟨user, draws.accessAt, rfl, rfl⟩

/-- Every request keeps to its protocol. -/
theorem grants_program (request : AuthRequest) :
    (request.program lib settings).Grants (request.protocol lib) (ReturnsIssued lib settings)
      .nothing := by
  cases request with
  | register body draws =>
    refine Grants.bind (Q := fun _ _ => True) (Grants.bind (Q := fun _ _ => True)
      (Grants.tryCatch (grants_register body draws) ?_) fun _ _ _ =>
        (Coroutine.grants_ret _ _).mpr trivial) fun _ _ _ =>
        (Coroutine.grants_ret _ _).mpr fun _ h => by cases h
    rintro (_ | _ | _ | _ | _ | _) <;> exact ⟨_, rfl⟩
  | token username password draws =>
    exact Grants.bind (grants_login username password draws) fun _ _ h =>
      (Coroutine.grants_ret _ _).mpr h
  | refresh body draws =>
    refine Grants.bind (Q := fun tokens => ReturnsIssued lib settings (.tokens tokens))
      (Grants.bind (Grants.tryCatch (grants_refresh body draws) ?_) ?_) fun _ _ h =>
        (Coroutine.grants_ret _ _).mpr h
    · rintro (_ | _ | _ | _ | _ | _) <;> exact ⟨_, rfl⟩
    · rintro tokens s ⟨user, issuedAt, hs, haccess⟩
      refine (Coroutine.grants_ret _ _).mpr fun response h => ?_
      cases h
      exact ⟨user, issuedAt, hs, haccess⟩

end Requests

section Steps

variable (lib : Libraries) (requests : ι → AuthRequest) (db : AuthDb)

/-- What the tables show of what a request has found or issued: a rotation has found the user in
whom the presented token is rooted. -/
def Shown (request : AuthRequest) (users : List User) : Standing → Prop
  | .found user => user ∈ users ∧ ∀ body draws, request = .refresh body draws →
      Rooted lib requests db user (lib.sha256 body.refreshToken)
  | .holds record => ∃ user ∈ users, user.userId = record.userId ∧
      ∀ body draws, request = .refresh body draws →
        Rooted lib requests db user (lib.sha256 body.refreshToken)
  | .issued user tokenHash => user ∈ users ∧ Rooted lib requests db user tokenHash
  | .nothing | .registered => True

/-- Users stay as they were stored, and every token is rooted in one of them. -/
structure Rooting (st : ι → Standing) (now : AuthDb) : Prop where
  kept : ∀ user ∈ db.users.rows, user ∈ now.users.rows
  users : ∀ user ∈ now.users.rows, user ∈ db.users.rows ∨ Requested lib requests user
  tokens : ∀ t ∈ now.tokens.rows, ∃ user ∈ now.users.rows, user.userId = t.userId ∧
    Rooted lib requests db user t.tokenHash
  unused : ∀ i userId, (requests i).drawnId? = some userId → st i ≠ .registered →
    now.users.find? userId = none
  shown : ∀ i, Shown lib requests db (requests i) now.users.rows (st i)

variable {lib} {requests} {db} {st : ι → Standing} {now now' : AuthDb} {i : ι}

theorem rooting_start (hfresh : FreshUsers requests db) :
    Rooting lib requests db (fun _ => .nothing) db where
  kept _ hu := hu
  users _ hu := .inl hu
  tokens t ht := by
    obtain ⟨user, hfind⟩ := Option.isSome_iff_exists.mp (db.userOf t ht)
    have huser := Table.key_of_find? hfind
    exact ⟨user, Table.mem_of_find? hfind, huser, .stored t ht huser⟩
  unused i userId hdrawn _ := hfresh.new i userId hdrawn
  shown _ := trivial

/-- More users do not change what has been shown. -/
theorem Shown.mono {request : AuthRequest} {users users' : List User} {s : Standing}
    (h : Shown lib requests db request users s) (hsub : users ⊆ users') :
    Shown lib requests db request users' s := by
  cases s with
  | nothing => trivial
  | found user => exact ⟨hsub h.1, h.2⟩
  | holds record =>
    obtain ⟨user, hu, huser⟩ := h
    exact ⟨user, hsub hu, huser⟩
  | issued user tokenHash => exact ⟨hsub h.1, h.2⟩
  | registered => trivial

variable [DecidableEq ι]

/-- A registration that may still make a call has stored nothing. -/
theorem AuthRequest.May.nothing {request : AuthRequest} {s : Standing} {op : Call} {userId : UUID}
    (h : request.May lib s op) (hdrawn : request.drawnId? = some userId) : s = .nothing := by
  cases request with
  | register body draws =>
    cases op with
    | saveUser user => exact h.1
    | getByUsername name => exact h
    | getByEmail email => exact h
    | getById userId => exact h.elim
    | saveToken userId tokenHash expiresAt => exact h.elim
    | getValid tokenHash => exact h.elim
    | revoke tokenHash => exact h.elim
  | token username password draws => cases hdrawn
  | refresh body draws => cases hdrawn

/-- A call that leaves the users alone keeps the invariant if the tokens afterwards are rooted. -/
theorem Rooting.keep_users (h : Rooting lib requests db st now) {op : Call}
    (hmay : (requests i).May lib (st i) op) (husers : now'.users = now.users)
    (htokens : ∀ t ∈ now'.tokens.rows, ∃ user ∈ now.users.rows, user.userId = t.userId ∧
      Rooted lib requests db user t.tokenHash) {s : Standing}
    (hs : Shown lib requests db (requests i) now.users.rows s) :
    Rooting lib requests db (Function.update st i s) now' where
  kept := husers ▸ h.kept
  users := husers ▸ h.users
  tokens := husers ▸ htokens
  unused j userId hdrawn hj := by
    rw [husers]
    refine h.unused j userId hdrawn ?_
    by_cases hji : j = i
    · subst hji
      rw [hmay.nothing hdrawn]
      simp
    · rwa [Function.update_of_ne hji] at hj
  shown j := by
    rw [husers]
    by_cases hji : j = i
    · subst hji
      rwa [Function.update_self]
    · rw [Function.update_of_ne hji]
      exact h.shown j

omit [DecidableEq ι] in
/-- A user that may be stored is new, and is as the request asks. -/
theorem Rooting.mayStore (h : Rooting lib requests db st now) {user : User}
    (hmay : (requests i).May lib (st i) (.saveUser user)) :
    (requests i).drawnId? = some user.userId ∧ now.users.find? user.userId = none ∧
      Requested lib requests user := by
  cases hrequest : requests i with
  | token username password draws => simp [hrequest, AuthRequest.May] at hmay
  | refresh body draws => simp [hrequest, AuthRequest.May] at hmay
  | register body draws =>
    rw [hrequest] at hmay
    obtain ⟨hnothing, huser, hhash⟩ := hmay
    have hdrawn : (AuthRequest.register body draws).drawnId? = some user.userId := by
      rw [huser]
      rfl
    exact ⟨hdrawn, h.unused i user.userId (hrequest ▸ hdrawn) (by simp [hnothing]),
      i, body, draws, hrequest, huser, hhash⟩

/-- A registration stores the user that it asks for. -/
theorem Rooting.saveUser (h : Rooting lib requests db st now) (hfresh : FreshUsers requests db)
    {user : User} (hmay : (requests i).May lib (st i) (.saveUser user))
    (husers : now'.users = now.users.put user) (htokens : now'.tokens = now.tokens) :
    Rooting lib requests db (Function.update st i .registered) now' := by
  obtain ⟨hdrawn, hnone, hrequested⟩ := h.mayStore hmay
  have hmem : ∀ u, u ∈ now'.users.rows ↔ u = user ∨ u ∈ now.users.rows := by
    intro u
    rw [husers, Table.mem_put]
    refine or_congr_right (and_iff_left_of_imp fun hu => ?_)
    exact (Table.find?_eq_none_iff _ _).mp hnone u hu
  have hsub : now.users.rows ⊆ now'.users.rows := fun u hu => (hmem u).mpr (.inr hu)
  refine ⟨fun u hu => hsub (h.kept u hu), fun u hu => ?_, fun t ht => ?_,
    fun j userId hj hst => ?_, fun j => ?_⟩
  · rcases (hmem u).mp hu with rfl | hu
    · exact .inr hrequested
    · exact h.users u hu
  · obtain ⟨u, hu, hrooted⟩ := h.tokens t (htokens ▸ ht)
    exact ⟨u, hsub hu, hrooted⟩
  · have hji : j ≠ i := by
      rintro rfl
      simp at hst
    rw [Function.update_of_ne hji] at hst
    rw [husers, Table.find?_put_of_ne _ _ ?_]
    · exact h.unused j userId hj hst
    · rintro rfl
      exact hji (hfresh.distinct j i _ hj hdrawn)
  · by_cases hji : j = i
    · subst hji
      rw [Function.update_self]
      trivial
    · rw [Function.update_of_ne hji]
      exact (h.shown j).mono hsub

/-- A call that leaves the tables alone keeps the invariant. -/
theorem Rooting.look (h : Rooting lib requests db st now) {op : Call}
    (hmay : (requests i).May lib (st i) op) {s : Standing}
    (hs : Shown lib requests db (requests i) now.users.rows s) :
    Rooting lib requests db (Function.update st i s) now :=
  h.keep_users hmay rfl h.tokens hs

omit [DecidableEq ι] in
/-- The token that a request is about to store is rooted in the user that it has looked up. -/
theorem Shown.rooted_saveToken {s : Standing} {users : List User} {userId : UUID}
    {tokenHash : String} {expiresAt : DateTime}
    (hshown : Shown lib requests db (requests i) users s)
    (hmay : (requests i).May lib s (.saveToken userId tokenHash expiresAt)) :
    ∃ user ∈ users, s = .found user ∧ user.userId = userId ∧
      Rooted lib requests db user tokenHash := by
  cases hrequest : requests i with
  | register body draws => simp [hrequest, AuthRequest.May] at hmay
  | token username password draws =>
    cases s with
    | found user =>
      rw [hrequest] at hmay
      obtain ⟨hid, hname, hverified, rfl⟩ := hmay
      exact ⟨user, hshown.1, rfl, hid.symm, .login i password draws (hname ▸ hrequest) hverified⟩
    | _ => simp [hrequest, AuthRequest.May] at hmay
  | refresh body draws =>
    cases s with
    | found user =>
      rw [hrequest] at hmay
      obtain ⟨hid, rfl⟩ := hmay
      exact ⟨user, hshown.1, rfl, hid.symm, .refresh i body draws hrequest
        (hshown.2 body draws hrequest)⟩
    | _ => simp [hrequest, AuthRequest.May] at hmay

/-- A request issues a token for the user that it has looked up. -/
theorem Rooting.saveToken (h : Rooting lib requests db st now) {row : RefreshToken}
    (hmay : (requests i).May lib (st i) (.saveToken row.userId row.tokenHash row.expiresAt))
    (htokens : now'.tokens = now.tokens.put row) (husers : now'.users = now.users) :
    Rooting lib requests db (Function.update st i ((st i).issue row.tokenHash)) now' := by
  obtain ⟨user, hu, hfound, hid, hrooted⟩ := (h.shown i).rooted_saveToken hmay
  refine h.keep_users hmay husers (fun t ht => ?_) (hfound ▸ ⟨hu, hrooted⟩)
  rw [htokens, Table.mem_put] at ht
  rcases ht with rfl | ⟨ht, _⟩
  · exact ⟨user, hu, hid, hrooted⟩
  · exact h.tokens t ht

/-- Revoking a token changes neither its hash nor whom it belongs to. -/
theorem Rooting.revoke (h : Rooting lib requests db st now) {tokenHash : String}
    (hmay : (requests i).May lib (st i) (.revoke tokenHash)) :
    Rooting lib requests db (Function.update st i (st i)) (now.revoke tokenHash) := by
  refine h.keep_users hmay (AuthDb.users_revoke _ _) (fun t ht => ?_) (h.shown i)
  cases hfind : now.tokens.find? tokenHash with
  | none =>
    rw [AuthDb.revoke_of_none hfind] at ht
    exact h.tokens t ht
  | some old =>
    rw [AuthDb.tokens_revoke_of_some hfind, Table.mem_put] at ht
    rcases ht with rfl | ⟨ht, _⟩
    · exact h.tokens old (Table.mem_of_find? hfind)
    · exact h.tokens t ht

/-- A statement keeps the invariant. -/
theorem Rooting.act {refuses : User → Option String} {w : World}
    (h : Rooting lib requests db st w.db) (hfresh : FreshUsers requests db) {op : Call}
    (hmay : (requests i).May lib (st i) op) :
    Named op (act refuses op w).1 ∧
      Rooting lib requests db (Function.update st i ((st i).next op (act refuses op w).1))
        (act refuses op w).2.db := by
  cases op with
  | saveUser user =>
    refine ⟨trivial, ?_⟩
    simp only [Auth.act, execute]
    rcases w.db.saveUser_cases refuses user with ⟨e, he⟩ | ⟨db', hok, husers, htokens⟩
    · rw [he]
      exact h.look hmay (h.shown i)
    · rw [hok]
      rw [AuthDb.target_of_none (h.mayStore hmay).2.1] at husers
      exact h.saveUser hfresh hmay husers htokens
  | getByUsername name =>
    simp only [Auth.act, execute]
    cases hfind : w.db.users.rows.find? fun u => u.username = name with
    | none => exact ⟨fun _ hr => (by cases hr), h.look hmay (h.shown i)⟩
    | some user =>
      refine ⟨fun _ hr => ?_, h.look hmay ⟨List.mem_of_find?_eq_some hfind, ?_⟩⟩
      · cases hr
        simpa using List.find?_some hfind
      · intro body draws hrequest
        simp [hrequest, AuthRequest.May] at hmay
  | getByEmail email => exact ⟨trivial, h.look hmay (h.shown i)⟩
  | getById userId =>
    refine ⟨trivial, ?_⟩
    simp only [Auth.act, execute]
    cases hfind : w.db.users.find? userId with
    | none => exact h.look hmay (h.shown i)
    | some user =>
      refine h.look hmay ⟨Table.mem_of_find? hfind, fun body draws hrequest => ?_⟩
      have hshown := h.shown i
      rw [hrequest] at hmay hshown
      cases hst : st i with
      | holds record =>
        rw [hst] at hmay hshown
        obtain ⟨u, hu, hid, hrooted⟩ := hshown
        have hfound := Table.find?_of_mem hu
        rw [hid, ← show userId = record.userId from hmay, hfind] at hfound
        cases hfound
        exact hrooted body draws rfl
      | _ => simp [hst, AuthRequest.May] at hmay
  | saveToken userId tokenHash expiresAt =>
    refine ⟨trivial, ?_⟩
    simp only [Auth.act, execute]
    rcases w.db.saveToken_cases
        ⟨w.tokenIds w.statements, userId, tokenHash, expiresAt, false, w.now⟩ with
      ⟨e, he, _⟩ | ⟨db', hok, _, htokens, husers⟩
    · rw [he]
      exact h.look hmay (h.shown i)
    · rw [hok]
      exact h.saveToken hmay htokens husers
  | getValid tokenHash =>
    refine ⟨trivial, ?_⟩
    simp only [Auth.act, execute]
    cases hvalid : w.db.getValid tokenHash w.now with
    | none => exact h.look hmay (h.shown i)
    | some record =>
      have hfind := (AuthDb.getValid_eq_some_iff.mp hvalid).1
      obtain ⟨user, hu, hid, hrooted⟩ := h.tokens record (Table.mem_of_find? hfind)
      refine h.look hmay ⟨user, hu, hid, fun body draws hrequest => ?_⟩
      rw [hrequest] at hmay
      rw [← show tokenHash = lib.sha256 body.refreshToken from hmay, ← Table.key_of_find? hfind]
      exact hrooted
  | revoke tokenHash => exact ⟨trivial, h.revoke hmay⟩

end Steps

section Runs

/-- The service before any of the requests has made a call. -/
def authService (lib : Libraries) (settings : Settings) (requests : ι → AuthRequest) (w : World)
    (faults : Nat → Option AuthError) :
    Config ι Call Call.Ans AuthError AuthResponse (Journal Call Call.Ans AuthError World) where
  threads i := (requests i).program lib settings
  world := .start w faults
  trace := []

variable {lib : Libraries} {settings : Settings} {refuses : User → Option String}

/-- `/auth/me` reports the stored user whom a token names. -/
theorem run_getMe {w : World} {user : User} (hu : user ∈ w.db.users.rows) {current : UserInDB}
    (hname : current.username = user.username) :
    ((AuthRouter.getMe current).run (act refuses) w).1 = .ok (.ofUser user) := by
  have hfind : w.db.users.rows.find? (fun u => u.username = current.username) = some user := by
    cases hfound : w.db.users.rows.find? fun u => u.username = current.username with
    | none =>
      have hnone := List.find?_eq_none.mp hfound user hu
      simp [hname] at hnone
    | some other =>
      have hother : other.username = current.username := by simpa using List.find?_some hfound
      rw [w.db.usernames other (List.mem_of_find?_eq_some hfound) user hu rfl rfl
        (hother.trans hname)]
  simp only [AuthRouter.getMe, AuthService.getMe, UserRepository.getByUsername, Coroutine.bind_eq,
    Coroutine.pure_eq, Coroutine.run_bind, Coroutine.run_tryCatch, Coroutine.run_perform,
    Coroutine.run_ret, act, execute, hfind]
  rfl

variable [DecidableEq ι]

/-- However registrations, logins and rotations interleave and whichever of their calls raise:
users stay as they were registered; every stored refresh token goes back to a login with the
password of its user, or to a token that was there from the start; so does every pair that has been
returned, and its access token, where it is accepted, names that user with its role, whom
`/auth/me` then reports. -/
theorem sessions_rooted (hsound : lib.jose.Sound) {requests : ι → AuthRequest} {w : World}
    (hfresh : FreshUsers requests w.db) (faults : Nat → Option AuthError) {sched : List ι}
    {d : Config ι Call Call.Ans AuthError AuthResponse (Journal Call Call.Ans AuthError World)}
    (h : (authService lib settings requests w faults).exec (Journal.perform (act refuses)) sched =
      some d) :
    (∀ user ∈ w.db.users.rows, user ∈ d.world.world.db.users.rows) ∧
    (∀ user ∈ d.world.world.db.users.rows,
      user ∈ w.db.users.rows ∨ Requested lib requests user) ∧
    (∀ t ∈ d.world.world.db.tokens.rows, ∃ user ∈ d.world.world.db.users.rows,
      user.userId = t.userId ∧ Rooted lib requests w.db user t.tokenHash) ∧
    ∀ i tokens, d.threads i = .ret (.tokens tokens) → ∃ user ∈ d.world.world.db.users.rows,
      Rooted lib requests w.db user (lib.sha256 tokens.refreshToken) ∧
      ∀ now current, (authProvider lib settings).getCurrentUser tokens.accessToken now =
          .ok current →
        current.role = .str user.role ∧
        ((AuthRouter.getMe current).run (act refuses) d.world.world).1 = .ok (.ofUser user) := by
  obtain ⟨st, hconforms, hrooting⟩ := Config.exec_conforms
    (P := fun i => (requests i).protocol lib) (Q := fun _ => ReturnsIssued lib settings)
    (fun st j _ => Rooting lib requests w.db st j.world.db)
    (fun st j tr i op hi hmay => by
      rcases j.perform_cases (act refuses) op with ⟨e, hans, hworld, _⟩ | ⟨hans, hworld, _⟩
      · simp only [AuthRequest.protocol, hans, hworld, Standing.next_error]
        exact ⟨named_error op e, hi.look hmay (hi.shown i)⟩
      · rw [hans, hworld]
        exact hi.act hfresh hmay)
    (fun _ => .nothing) (fun i => grants_program (requests i)) (rooting_start hfresh) h
  refine ⟨hrooting.kept, hrooting.users, hrooting.tokens, fun i tokens hi => ?_⟩
  have hissues := hconforms i
  rw [hi, Coroutine.grants_ret] at hissues
  obtain ⟨user, issuedAt, hst, haccess⟩ := hissues tokens rfl
  have hshown := hrooting.shown i
  rw [hst] at hshown
  refine ⟨user, hshown.1, hshown.2, fun now current hcurrent => ?_⟩
  rw [haccess] at hcurrent
  obtain ⟨hname, hrole⟩ := JWTAuthProvider.getCurrentUser_createAccessToken
    (authProvider lib settings) hsound hcurrent
  exact ⟨hrole, run_getMe hshown.1 hname⟩

end Runs

/-- A registration, a login and a rotation. -/
def sampleSession : Fin 3 → AuthRequest
  | 0 => .register ⟨"ada", "ada@post", "correct horse", "operator"⟩
      ⟨0, ⟨1⟩, "$2b$12$abcdefghijklmnopqrstuu"⟩
  | 1 => .token "ada" "correct horse" ⟨0, "r0", 0⟩
  | 2 => .refresh ⟨"r0"⟩ ⟨0, "r1", 0⟩

theorem freshUsers_sampleSession : FreshUsers sampleSession emptyWorld.db := by
  refine ⟨fun i j userId hi hj => ?_, fun _ _ _ => rfl⟩
  match i, j with
  | 0, 0 => rfl
  | 1, _ => cases hi
  | 2, _ => cases hi
  | 0, 1 => cases hj
  | 0, 2 => cases hj

/-- The pair that the rotation returns goes back to the password of the user that has registered,
whom `/auth/me` reports. -/
theorem sessions_rooted_sample :
    ∃ d, (authService sampleLibraries {} sampleSession emptyWorld Coroutine.noFaults).exec
        (Journal.perform (act fun _ => none)) [0, 0, 0, 1, 1, 2, 2, 2, 2] = some d ∧
      d.threads 2 = .ret (.tokens { accessToken := operatorToken, refreshToken := "r1" }) ∧
      ∃ user ∈ d.world.world.db.users.rows,
        Rooted sampleLibraries sampleSession emptyWorld.db user (sampleLibraries.sha256 "r1") ∧
        ((AuthRouter.getMe ⟨"ada", "", .str "operator"⟩).run (act fun _ => none)
          d.world.world).1 = .ok (.ofUser user) := by
  have hrun : ∃ d, (authService sampleLibraries {} sampleSession emptyWorld
        Coroutine.noFaults).exec (Journal.perform (act fun _ => none))
        [0, 0, 0, 1, 1, 2, 2, 2, 2] = some d ∧
      d.threads 2 = .ret (.tokens { accessToken := operatorToken, refreshToken := "r1" }) :=
    ⟨_, rfl, rfl⟩
  obtain ⟨d, hd, htokens⟩ := hrun
  obtain ⟨user, hu, hrooted, hme⟩ := (sessions_rooted sound_sampleJose freshUsers_sampleSession
    Coroutine.noFaults hd).2.2.2 2 _ htokens
  exact ⟨d, hd, htokens, user, hu, hrooted, (hme 0 ⟨"ada", "", .str "operator"⟩ rfl).2⟩

end SupplyChainTracker.Auth
