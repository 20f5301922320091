import SupplyChainTracker.Auth.Flow

/-!
# Where the role of a token comes from

The role in a token is the role of a stored user, and a registration stores the role
that its body asks for. So a run hands out admin tokens exactly to those who ask for
the role when they register.
-/

namespace SupplyChainTracker.Auth

/-- A request to one of the three routes that need no token, with what its handling draws. -/
inductive AuthRequest : Type
  | register (body : RegisterRequest) (draws : RegisterDraws)
  | token (username password : String) (draws : TokenDraws)
  | refresh (body : RefreshRequest) (draws : TokenDraws)

/-- What the three routes return. -/
inductive AuthResponse : Type
  | me (response : MeResponse)
  | tokens (response : TokenResponse)

/-- A request with its outcome. -/
structure Exchange where
  request : AuthRequest
  result : Except AuthError AuthResponse

section Runs

variable (lib : Libraries) (settings : Settings) (refuses : User → Option String)

/-- The handler of a request. -/
def AuthRequest.program : AuthRequest → Program AuthResponse
  | .register body draws => do
      let response ← AuthRouter.register lib body draws
      return .me response
  | .token username password draws => do
      let response ← AuthRouter.login lib settings username password draws
      return .tokens response
  | .refresh body draws => do
      let response ← AuthRouter.refreshTokens lib settings body draws
      return .tokens response

/-- Serve one request and log it. -/
def serve (s : World × List Exchange) (request : AuthRequest) : World × List Exchange :=
  let served := (request.program lib settings).run (act refuses) s.1
  (served.2, s.2 ++ [⟨request, served.1⟩])

/-- Serve requests one after the other; the log is in their order. -/
def serveAll (requests : List AuthRequest) (w : World) : World × List Exchange :=
  requests.foldl (serve lib settings refuses) (w, [])

/-- A token passes `require_role("admin")` at some time, as the token of some user. -/
def PassesAdmin (token : String) (now : DateTime) (user : UserInDB) : Prop :=
  (authProvider lib settings).getCurrentUser token now = .ok user ∧
    requireRole ["admin"] user = .ok user

/-- A registration in the log asked for the admin role under a name. -/
def AskedForAdmin (log : List Exchange) (username : String) : Prop :=
  ∃ body draws response, ⟨.register body draws, .ok (.me response)⟩ ∈ log ∧
    body.role = "admin" ∧ body.username = username

end Runs

section Requests

variable {lib : Libraries} {settings : Settings} {refuses : User → Option String} {w : World}

@[simp] theorem AuthDb.users_saveToken (row : RefreshToken) (db : AuthDb) :
    (db.saveToken row).2.users = db.users := by
  rcases db.saveToken_cases row with ⟨e, he, _⟩ | ⟨db', hok, _, _, husers⟩
  · rw [he]
  · rw [hok]
    exact husers

/-- A registration raises and leaves the users alone, or stores one with the asked name and role. -/
theorem run_register (body : RegisterRequest) (draws : RegisterDraws) :
    let served := (AuthRouter.register lib body draws).run (act refuses) w
    ((∃ e, served.1 = .error e) ∧ served.2.db.users = w.db.users) ∨
    ∃ user : User, served.1 = .ok (.ofUser user) ∧ user.username = body.username ∧
      user.role = body.role ∧ served.2.db.users = w.db.users.put user := by
  intro served
  simp only [served, AuthRouter.register, AuthService.register, UserRepository.getByUsername,
    UserRepository.getByEmail, UserRepository.save, Coroutine.bind_eq, Coroutine.pure_eq,
    Coroutine.run_bind, Coroutine.run_tryCatch, Coroutine.run_perform, Coroutine.run_ret, act,
    execute]
  cases w.db.users.rows.find? fun u => u.username = body.username with
  | some u => exact .inl ⟨⟨_, rfl⟩, rfl⟩
  | none =>
    simp only [Option.map_none, Option.isSome_none, Bool.false_eq_true, if_false,
      Coroutine.run_bind, Coroutine.run_perform, act, execute, Coroutine.run_ret]
    cases w.db.users.rows.find? fun u => u.email = body.email with
    | some u => exact .inl ⟨⟨_, rfl⟩, rfl⟩
    | none =>
      simp only [Option.map_none, Option.isSome_none, Bool.false_eq_true, if_false,
        Coroutine.run_bind, Coroutine.run_perform, act, execute, Coroutine.run_ret]
      cases lib.bcrypt.hashpw body.password draws.salt with
      | error message => exact .inl ⟨⟨_, rfl⟩, rfl⟩
      | ok hashedPassword =>
        simp only [ofBcrypt, Coroutine.pure_eq, Coroutine.run_ret]
        rcases AuthDb.saveUser_cases refuses ⟨draws.userId, body.username, body.email,
            hashedPassword, body.role, true, draws.now, draws.now⟩ w.db with
          ⟨e, he⟩ | ⟨db', hok, hput, _⟩
        · simp only [he]
          cases e <;> exact .inl ⟨⟨_, rfl⟩, rfl⟩
        · simp only [hok]
          exact .inr ⟨_, rfl, AuthDb.username_target _ _, AuthDb.role_target _ _, hput⟩

/-- A request has left the users alone, and its access token, if any, is that of a stored user. -/
structure IssuesFor (lib : Libraries) (settings : Settings) (w : World)
    (served : Except AuthError TokenResponse × World) : Prop where
  users : served.2.db.users = w.db.users
  token : ∀ response, served.1 = .ok response → ∃ user ∈ w.db.users.rows, ∃ issuedAt,
    response.accessToken = AuthService.createAccessToken lib settings user issuedAt

theorem run_login (username password : String) (draws : TokenDraws) :
    IssuesFor lib settings w
      ((AuthRouter.login lib settings username password draws).run (act refuses) w) := by
  simp only [AuthRouter.login, AuthService.authenticate, AuthService.createRefreshToken,
    UserRepository.getByUsername, RefreshTokenRepository.save, Coroutine.bind_eq,
    Coroutine.pure_eq, Coroutine.run_bind, Coroutine.run_tryCatch, Coroutine.run_perform,
    Coroutine.run_ret, act, execute]
  cases hfind : w.db.users.rows.find? fun u => u.username = username with
  | none => exact ⟨rfl, fun _ h => by cases h⟩
  | some user =>
    have hmem := List.mem_of_find?_eq_some hfind
    simp only [Option.map_some, rowToEntity_eq, Coroutine.run_bind]
    cases lib.bcrypt.checkpw password user.hashedPassword with
    | error message => exact ⟨rfl, fun _ h => by cases h⟩
    | ok verified =>
      cases verified with
      | false => exact ⟨rfl, fun _ h => by cases h⟩
      | true =>
        simp only [ofBcrypt, Coroutine.pure_eq, Coroutine.run_ret, if_true]
        generalize hsaved : AuthDb.saveToken _ _ = saved
        have husers : saved.2.users = w.db.users := hsaved ▸ AuthDb.users_saveToken _ _
        obtain ⟨e | _, db'⟩ := saved
        · exact ⟨husers, fun _ h => by cases h⟩
        · refine ⟨husers, fun response h => ⟨user, hmem, draws.accessAt, ?_⟩⟩
          cases h
          rfl

theorem run_refreshTokens (body : RefreshRequest) (draws : TokenDraws) :
    IssuesFor lib settings w
      ((AuthRouter.refreshTokens lib settings body draws).run (act refuses) w) := by
  simp only [AuthRouter.refreshTokens, AuthService.refresh, AuthService.createRefreshToken,
    UserRepository.getById, RefreshTokenRepository.save, RefreshTokenRepository.getValid,
    RefreshTokenRepository.revoke, Coroutine.bind_eq, Coroutine.pure_eq, Coroutine.run_bind,
    Coroutine.run_tryCatch, Coroutine.run_perform, Coroutine.run_ret, act, execute]
  cases w.db.getValid (lib.sha256 body.refreshToken) w.now with
  | none => exact ⟨rfl, fun _ h => by cases h⟩
  | some record =>
    simp only [Coroutine.run_bind, Coroutine.run_perform, act, execute, Coroutine.run_ret,
      AuthDb.users_revoke]
    cases hfind : w.db.users.find? record.userId with
    | none => exact ⟨AuthDb.users_revoke _ _, fun _ h => by cases h⟩
    | some user =>
      have hmem := Table.mem_of_find? hfind
      simp only [Option.map_some, rowToEntity_eq, Coroutine.run_bind, Coroutine.run_perform, act,
        execute, Coroutine.run_ret]
      generalize hsaved : AuthDb.saveToken _ _ = saved
      have husers : saved.2.users = w.db.users := by
        rw [← hsaved, AuthDb.users_saveToken, AuthDb.users_revoke]
      obtain ⟨e | _, db'⟩ := saved
      · cases e <;> exact ⟨husers, fun _ h => by cases h⟩
      · refine ⟨husers, fun response h => ⟨user, hmem, draws.accessAt, ?_⟩⟩
        cases h
        rfl

end Requests

section Run

variable {lib : Libraries} {settings : Settings} {refuses : User → Option String}

/-- Every stored admin has asked for the role, and every token is that of a user who is named in
it; an admin among these had asked before. -/
structure RolesInv (lib : Libraries) (settings : Settings) (s : World × List Exchange) : Prop where
  stored : ∀ u ∈ s.1.db.users.rows, u.role = "admin" → AskedForAdmin s.2 u.username
  issued : ∀ earlier request response later,
    s.2 = earlier ++ ⟨request, .ok (.tokens response)⟩ :: later →
    ∃ user issuedAt, response.accessToken =
        AuthService.createAccessToken lib settings user issuedAt ∧
      (user.role = "admin" → AskedForAdmin earlier user.username)

theorem AskedForAdmin.append {log : List Exchange} {username : String}
    (h : AskedForAdmin log username) (more : List Exchange) :
    AskedForAdmin (log ++ more) username := by
  obtain ⟨body, draws, response, hmem, hrole, hname⟩ := h
  exact ⟨body, draws, response, List.mem_append_left _ hmem, hrole, hname⟩

/-- An entry of an extended log is an old one or the new one. -/
theorem split_concat {α : Type} {log earlier later : List α} {new e : α}
    (h : log ++ [new] = earlier ++ e :: later) :
    (∃ rest, log = earlier ++ e :: rest) ∨ (new = e ∧ log = earlier) := by
  rcases List.eq_nil_or_concat later with rfl | ⟨rest, last, rfl⟩
  · obtain ⟨hlog, he⟩ := List.append_inj' h rfl
    cases he
    exact .inr ⟨rfl, hlog⟩
  · refine .inl ⟨rest, ?_⟩
    have h' : log ++ [new] = (earlier ++ e :: rest) ++ [last] := by simpa using h
    exact (List.append_inj' h' rfl).1

/-- An exchange keeps the invariant if its users and its token, if any, do. -/
theorem RolesInv.extend {s : World × List Exchange} (h : RolesInv lib settings s)
    {request : AuthRequest} {result : Except AuthError AuthResponse} {w' : World}
    (husers : ∀ u ∈ w'.db.users.rows, u.role = "admin" → u ∈ s.1.db.users.rows ∨
      AskedForAdmin [⟨request, result⟩] u.username)
    (htoken : ∀ response, result = .ok (.tokens response) → ∃ user ∈ s.1.db.users.rows,
      ∃ issuedAt, response.accessToken =
        AuthService.createAccessToken lib settings user issuedAt) :
    RolesInv lib settings (w', s.2 ++ [⟨request, result⟩]) where
  stored u hu hrole := by
    rcases husers u hu hrole with hold | ⟨body, draws, response, hmem, hasked⟩
    · exact (h.stored u hold hrole).append _
    · exact ⟨body, draws, response, List.mem_append_right _ hmem, hasked⟩
  issued earlier request' response later heq := by
    rcases split_concat heq with ⟨rest, hlog⟩ | ⟨hnew, rfl⟩
    · exact h.issued earlier request' response rest hlog
    · cases hnew
      obtain ⟨user, hmem, issuedAt, haccess⟩ := htoken response rfl
      exact ⟨user, issuedAt, haccess, h.stored user hmem⟩

/-- A request that issues tokens for stored users keeps the invariant. -/
theorem RolesInv.serve_tokens {s : World × List Exchange} (h : RolesInv lib settings s)
    {request : AuthRequest} {p : Program TokenResponse}
    (hp : request.program lib settings = p.bind fun response => .ret (.tokens response))
    (hrun : IssuesFor lib settings s.1 (p.run (act refuses) s.1)) :
    RolesInv lib settings (serve lib settings refuses s request) := by
  obtain ⟨husers, htoken⟩ := hrun
  simp only [Auth.serve, hp, Coroutine.run_bind]
  cases hres : (p.run (act refuses) s.1).1 with
  | error e => exact h.extend (fun u hu _ => .inl (husers ▸ hu)) (fun _ hok => by cases hok)
  | ok response =>
    refine h.extend (fun u hu _ => .inl (husers ▸ hu)) fun response' hok => ?_
    cases hok
    exact htoken response hres

/-- Every request keeps the invariant. -/
theorem RolesInv.serve {s : World × List Exchange} (h : RolesInv lib settings s)
    (request : AuthRequest) : RolesInv lib settings (serve lib settings refuses s request) := by
  cases request with
  | register body draws =>
    have hrun := @run_register lib refuses s.1 body draws
    simp only [Auth.serve, AuthRequest.program, Coroutine.bind_eq, Coroutine.run_bind]
    rcases hrun with ⟨⟨e, he⟩, husers⟩ | ⟨user, hok, hname, hrole, hput⟩
    · simp only [he]
      exact h.extend (fun u hu _ => .inl (husers ▸ hu)) (fun _ hok => by cases hok)
    · simp only [hok]
      refine h.extend (fun u hu hadmin => ?_) (fun _ hok => by cases hok)
      simp only [Coroutine.pure_eq, Coroutine.run_ret, hput, Table.mem_put] at hu
      rcases hu with rfl | ⟨hu, _⟩
      · exact .inr ⟨body, draws, _, List.mem_singleton_self _, hrole ▸ hadmin, hname.symm⟩
      · exact .inl hu
  | token username password draws => exact h.serve_tokens rfl (run_login username password draws)
  | refresh body draws => exact h.serve_tokens rfl (run_refreshTokens body draws)

/-- The invariant holds after every run from a table without admins. -/
theorem rolesInv_serveAll (w : World) (hw : ∀ u ∈ w.db.users.rows, u.role ≠ "admin")
    (requests : List AuthRequest) :
    RolesInv lib settings (serveAll lib settings refuses requests w) := by
  have hstart : RolesInv lib settings (w, []) :=
    ⟨fun u hu hrole => absurd hrole (hw u hu), fun earlier _ _ later heq => by simp at heq⟩
  rw [serveAll]
  generalize (w, ([] : List Exchange)) = s at hstart
  induction requests generalizing s with
  | nil => exact hstart
  | cons request requests ih => exact ih _ (hstart.serve request)

/-- In a run from a table without admins an access token carries the role admin, and passes
`require_role("admin")`, only for a user whose registration asked for the role before. -/
theorem admin_asked (hsound : lib.jose.Sound) (w : World)
    (hw : ∀ u ∈ w.db.users.rows, u.role ≠ "admin") (requests : List AuthRequest)
    (earlier : List Exchange) (request : AuthRequest) (response : TokenResponse)
    (later : List Exchange)
    (hlog : (serveAll lib settings refuses requests w).2 =
      earlier ++ ⟨request, .ok (.tokens response)⟩ :: later) :
    (∃ user issuedAt, response.accessToken =
        AuthService.createAccessToken lib settings user issuedAt ∧
      (user.role = "admin" → AskedForAdmin earlier user.username)) ∧
    ∀ now user, PassesAdmin lib settings response.accessToken now user →
      AskedForAdmin earlier user.username := by
  obtain ⟨user, issuedAt, haccess, hrole⟩ :=
    (rolesInv_serveAll w hw requests).issued earlier request response later hlog
  refine ⟨⟨user, issuedAt, haccess, hrole⟩, fun now named hpass => ?_⟩
  obtain ⟨hcurrent, hrequire⟩ := hpass
  rw [haccess] at hcurrent
  obtain ⟨hname, hnamed⟩ := JWTAuthProvider.getCurrentUser_createAccessToken
    (authProvider lib settings) hsound hcurrent
  rw [hname]
  apply hrole
  by_contra hne
  simp [requireRole, UserInDB.hasRole, hnamed, hne] at hrequire

end Run

theorem sound_sampleJose : sampleJose.Sound := by
  intro claims key algorithm now payload h
  have hne : operatorToken ≠ adminToken := by decide
  have hempty : "" ≠ operatorToken ∧ "" ≠ adminToken := by decide
  by_cases hkey : key = "dev-secret-key-change-in-production" ∧ algorithm = "HS256"
  · obtain ⟨rfl, rfl⟩ := hkey
    by_cases hnow : 3600000000 ≤ now
    · simp only [sampleJose, and_self, if_true, hnow] at h
      split_ifs at h
    · by_cases hop : claims = ⟨"ada", "operator", 3600000000⟩
      · simp only [sampleJose, and_self, if_true, hnow, hop, true_or, if_false, hne] at h
        cases h
        exact ⟨congrArg (some ∘ Claims.sub) hop.symm, by rw [hop]⟩
      · by_cases had : claims = ⟨"ada", "admin", 3600000000⟩
        · simp only [sampleJose, and_self, if_true, hnow, had, or_true, if_false, Claims.mk.injEq,
            String.reduceEq, false_and, and_false] at h
          cases h
          exact ⟨congrArg (some ∘ Claims.sub) had.symm, by rw [had]⟩
        · simp only [sampleJose, and_self, if_true, hop, had, if_false, hempty.1, hempty.2,
            or_self] at h
          cases h
  · simp only [sampleJose, List.cons.injEq, and_true, hkey, if_false] at h
    cases h

/-- Nobody. -/
def emptyWorld : World where
  db := {
    users := Table.empty
    tokens := Table.empty
    usernames := Table.uniqueWhere_empty _ _
    emails := Table.uniqueWhere_empty _ _
    userOf := by decide }
  clock := fun _ => 0
  tokenIds := fun n => ⟨Fin.ofNat _ n⟩
  statements := 0

/-- A registration that asks for the role admin and a login. -/
def sampleRequests : List AuthRequest :=
  [.register ⟨"ada", "ada@post", "correct horse", "admin"⟩ ⟨0, ⟨1⟩, "$2b$12$abcdefghijklmnopqrstuu"⟩,
    .token "ada" "correct horse" ⟨0, "r0", 0⟩]

/-- The login returns a token of the role admin, which passes `require_role("admin")`. -/
theorem admin_escalates :
    ∃ registered, (serveAll sampleLibraries {} (fun _ => none) sampleRequests emptyWorld).2 =
        [registered, ⟨.token "ada" "correct horse" ⟨0, "r0", 0⟩,
          .ok (.tokens { accessToken := adminToken, refreshToken := "r0" })⟩] ∧
      PassesAdmin sampleLibraries {} adminToken 0 ⟨"ada", "", .str "admin"⟩ :=
  ⟨_, rfl, rfl, rfl⟩

/-- The user of that token has asked for the role. -/
theorem admin_asked_sample :
    AskedForAdmin [⟨.register ⟨"ada", "ada@post", "correct horse", "admin"⟩
      ⟨0, ⟨1⟩, "$2b$12$abcdefghijklmnopqrstuu"⟩,
      .ok (.me ⟨⟨1⟩, "ada", "ada@post", "admin", true⟩)⟩] "ada" :=
  (@admin_asked sampleLibraries {} (fun _ => none)
    sound_sampleJose emptyWorld (by simp [emptyWorld]) sampleRequests _ _ _ [] rfl).2 0
    ⟨"ada", "", .str "admin"⟩ ⟨rfl, rfl⟩

end SupplyChainTracker.Auth
