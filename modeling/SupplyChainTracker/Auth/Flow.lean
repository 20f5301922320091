import SupplyChainTracker.Auth.Api
import SupplyChainTracker.Core.Async.Interleaving

/-!
# The calls of a registration and of a rotation

The points at which `AuthService.register` and `AuthService.refresh` can be suspended.
Both look first and write later, so other requests may come between.
-/

namespace SupplyChainTracker.Auth

variable (lib : Libraries) (settings : Settings)

/-- The points at which a rotation can be suspended. -/
inductive RefreshPoint : Type
  /-- About to look the presented token up. -/
  | look
  /-- About to revoke it, having found its row. -/
  | revoke (record : RefreshToken)
  /-- About to load the user it was issued to. -/
  | load (record : RefreshToken)
  /-- About to store the new token. -/
  | store (user : User)
  /-- Ended. -/
  | halt (result : Except AuthError (String × String))

section Refresh

variable (rawToken : String) (draws : TokenDraws)

/-- Where the lookup leads. -/
def lookNext : Except AuthError (Option RefreshToken) → RefreshPoint
  | .ok (some record) => .revoke record
  | .ok none => .halt (.error (.invalidCredentials "Invalid or expired refresh token"))
  | .error e => .halt (.error e)

/-- Where loading the user leads. -/
def loadNext : Except AuthError (Option User) → RefreshPoint
  | .ok (some user) => .store user
  | .ok none => .halt (.error (.userNotFound "User not found"))
  | .error e => .halt (.error e)

/-- The flowchart of `refresh`. -/
def refreshChart : RefreshPoint → Node Call Call.Ans AuthError (String × String) RefreshPoint
  | .look => .call (Call.getValid (lib.sha256 rawToken)) lookNext
  | .revoke record => .call (Call.revoke (lib.sha256 rawToken)) fun
      | .ok _ => .load record
      | .error e => .halt (.error e)
  | .load record => .call (Call.getById record.userId) loadNext
  | .store user =>
      .call (Call.saveToken user.userId (lib.sha256 draws.rawToken)
        (draws.refreshAt + days settings.refreshTokenExpireDays)) fun
      | .ok _ => .halt (.ok
          (AuthService.createAccessToken lib settings user draws.accessAt, draws.rawToken))
      | .error e => .halt (.error e)
  | .halt result => .halt result

/-- What a rotation still has to do. -/
def refreshProg : RefreshPoint → Program (String × String)
  | .look => AuthService.refresh lib settings rawToken draws
  | .revoke record => do
      RefreshTokenRepository.revoke (lib.sha256 rawToken)
      rotate record
  | .load record => rotate record
  | .store user => issue user
  | .halt result => .ofExcept result
where
  /-- Store the new token and return the pair. -/
  issue (user : User) : Program (String × String) := do
    let newRefresh ← AuthService.createRefreshToken lib settings user draws.rawToken
      draws.refreshAt
    return (AuthService.createAccessToken lib settings user draws.accessAt, newRefresh)
  /-- Load the user and issue the pair. -/
  rotate (record : RefreshToken) : Program (String × String) := do
    let user ← UserRepository.getById record.userId
    match user with
    | none => .raise (.userNotFound "User not found")
    | some user => issue user

/-- `refresh` follows its flowchart. -/
theorem follows_refresh :
    Follows (refreshChart lib settings rawToken draws)
      (refreshProg lib settings rawToken draws) := by
  intro s
  cases s with
  | look =>
    refine congrArg (Coroutine.await _) (funext fun a => ?_)
    rcases a with e | _ | record <;> rfl
  | revoke record =>
    refine congrArg (Coroutine.await _) (funext fun a => ?_)
    rcases a with e | _ <;> rfl
  | load record =>
    refine congrArg (Coroutine.await _) (funext fun a => ?_)
    rcases a with e | _ | user <;> rfl
  | store user =>
    refine congrArg (Coroutine.await _) (funext fun a => ?_)
    rcases a with e | _ <;> rfl
  | halt result => rfl

end Refresh

/-- `register` with the arguments of a body. -/
def RegisterRequest.run (body : RegisterRequest) (draws : RegisterDraws) : Program User :=
  AuthService.register lib body.username body.email body.password body.role draws

/-- The user that a registration stores, once the password is hashed. -/
def RegisterRequest.user (body : RegisterRequest) (draws : RegisterDraws) (hashedPassword : String) :
    User where
  userId := draws.userId
  username := body.username
  email := body.email
  hashedPassword := hashedPassword
  role := body.role
  isActive := true
  createdAt := draws.now
  updatedAt := draws.now

/-- The points at which a registration can be suspended. -/
inductive RegisterPoint : Type
  /-- About to look the username up. -/
  | username
  /-- About to look the email up. -/
  | email
  /-- About to store the user. -/
  | store (user : User)
  /-- Ended. -/
  | halt (result : Except AuthError User)

section Register

variable (body : RegisterRequest) (draws : RegisterDraws)

/-- Where the lookup of the username leads. -/
def usernameNext : Except AuthError (Option User) → RegisterPoint
  | .ok (some _) =>
      .halt (.error (.userAlreadyExists ("Username '" ++ body.username ++ "' already exists")))
  | .ok none => .email
  | .error e => .halt (.error e)

/-- Where the lookup of the email leads. -/
def emailNext : Except AuthError (Option User) → RegisterPoint
  | .ok (some _) =>
      .halt (.error (.userAlreadyExists ("Email '" ++ body.email ++ "' already exists")))
  | .ok none =>
      match lib.bcrypt.hashpw body.password draws.salt with
      | .ok hashedPassword => .store (body.user draws hashedPassword)
      | .error message => .halt (.error (.external message))
  | .error e => .halt (.error e)

/-- The flowchart of `register`. -/
def registerChart : RegisterPoint → Node Call Call.Ans AuthError User RegisterPoint
  | .username => .call (Call.getByUsername body.username) (usernameNext body)
  | .email => .call (Call.getByEmail body.email) (emailNext lib body draws)
  | .store user => .call (Call.saveUser user) .halt
  | .halt result => .halt result

/-- What a registration still has to do. -/
def registerProg : RegisterPoint → Program User
  | .username => body.run lib draws
  | .email => do
      let sameEmail ← UserRepository.getByEmail body.email
      if sameEmail.isSome then
        .raise (.userAlreadyExists ("Email '" ++ body.email ++ "' already exists"))
      else
        let hashedPassword ← ofBcrypt (lib.bcrypt.hashpw body.password draws.salt)
        UserRepository.save (body.user draws hashedPassword)
  | .store user => UserRepository.save user
  | .halt result => .ofExcept result

/-- `register` follows its flowchart. -/
theorem follows_register :
    Follows (registerChart lib body draws) (registerProg lib body draws) := by
  intro s
  cases s with
  | username =>
    refine congrArg (Coroutine.await _) (funext fun a => ?_)
    rcases a with e | _ | user <;> rfl
  | email =>
    refine congrArg (Coroutine.await _) (funext fun a => ?_)
    rcases a with e | _ | user
    · rfl
    · simp only [emailNext]
      cases lib.bcrypt.hashpw body.password draws.salt <;> rfl
    · rfl
  | store user =>
    refine congrArg (Coroutine.await _) (funext fun a => ?_)
    rcases a with e | user <;> rfl
  | halt result => rfl

end Register

/-- The user of the sample tables. -/
def sampleUser : User where
  userId := ⟨1⟩
  username := "ada"
  email := "ada@post"
  hashedPassword := "$2b$12$abcdefghijklmnopqrstuuFDJRuYeKkCzo3Wy7h8SxhBSHBAHiPK2"
  role := "operator"
  isActive := true
  createdAt := 0
  updatedAt := 0

/-- A token that names the sample user as operator and is valid for the first hour. -/
def operatorToken : String :=
  "eyJhbGciOiJIUzI1NiIsInR5cCI6IkpXVCJ9." ++
  "eyJzdWIiOiJhZGEiLCJyb2xlIjoib3BlcmF0b3IiLCJleHAiOjM2MDB9." ++
  "T2sO3quYI1QmMwM6lMhsH9RIHNL5ZyWI6QVdWw67aR0"

/-- A token that names the sample user as admin and is valid for the first hour. -/
def adminToken : String :=
  "eyJhbGciOiJIUzI1NiIsInR5cCI6IkpXVCJ9." ++
  "eyJzdWIiOiJhZGEiLCJyb2xlIjoiYWRtaW4iLCJleHAiOjM2MDB9." ++
  "4cpfFvF82y1uAEyHqsk7VTjj-kdqwwrWfwq4zG5K4z4"

/-- `jose.jwt` on the two tokens and the default settings. -/
def sampleJose : Jose where
  encode claims key algorithm :=
    if key = "dev-secret-key-change-in-production" ∧ algorithm = "HS256" then
      if claims = ⟨"ada", "operator", 3600000000⟩ then operatorToken
      else if claims = ⟨"ada", "admin", 3600000000⟩ then adminToken
      else ""
    else ""
  decode now token key algorithms :=
    if key = "dev-secret-key-change-in-production" ∧ algorithms = ["HS256"] then
      if token = operatorToken ∨ token = adminToken then
        if 3600000000 ≤ now then .error (.jwtError "Signature has expired.")
        else .ok ⟨some "ada", some 3600,
          some (.str (if token = adminToken then "admin" else "operator"))⟩
      else .error (.jwtError "Error decoding token headers.")
    else .error (.jwtError "Signature verification failed.")

/-- The libraries on the texts of the samples. -/
def sampleLibraries : Libraries where
  jose := sampleJose
  bcrypt := {
    checkpw := fun password hashedPassword =>
      if hashedPassword = sampleUser.hashedPassword then .ok (password = "correct horse")
      else .error "Invalid salt"
    hashpw := fun password salt =>
      if password = "correct horse" ∧ salt = "$2b$12$abcdefghijklmnopqrstuu" then
        .ok sampleUser.hashedPassword
      else .error "Invalid salt" }
  sha256 text :=
    if text = "r0" then "dd191696e15e2ee293410d02454c5f9461a2249dee6d57c75f264eaeb83a3782"
    else if text = "r1" then "82f3e9c695dc6b8d1b11818d5701919e286de8d47f7c3eb3100c485f79e57828"
    else if text = "r2" then "db77fd01af957221a4989b64b3770a83a3c56068405b9f0e9408feae57fd17e4"
    else ""

/-- The sample user with an unexpired refresh token, the text of which is `r0`. -/
def sampleWorld : World where
  db := {
    users := Table.empty.put sampleUser
    tokens := Table.empty.put ⟨⟨11⟩, ⟨1⟩, sampleLibraries.sha256 "r0", 1000, false, 0⟩
    usernames := (Table.uniqueWhere_empty _ _).put_iff.mpr (by simp)
    emails := (Table.uniqueWhere_empty _ _).put_iff.mpr (by simp)
    userOf := by decide }
  clock := fun _ => 0
  tokenIds := fun n => ⟨Fin.ofNat _ n⟩
  statements := 0

end SupplyChainTracker.Auth
