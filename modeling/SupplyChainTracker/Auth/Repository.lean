import SupplyChainTracker.Core.Async.Coroutine
import SupplyChainTracker.Core.Table
import SupplyChainTracker.Libs.Auth

/-!
# Users and refresh tokens

The two tables of the authentication service with their unique and foreign keys, and
the repositories over them. The check constraint and the column widths of a user are
a parameter: any further ground on which the database may refuse a row.
-/

namespace SupplyChainTracker.Auth

open Coroutine (perform)

/-- The exceptions that can reach a caller of the authentication service. -/
inductive AuthError : Type
  | userAlreadyExists (message : String)
  | invalidCredentials (message : String)
  | userNotFound (message : String)
  /-- FastAPI's `HTTPException`. -/
  | httpException (statusCode : Nat) (detail : String)
  /-- A statement that PostgreSQL refuses, by the violated constraint. -/
  | database (violated : String)
  /-- Any other exception of a driver or library. -/
  | external (message : String)
  deriving DecidableEq, Repr

/-- `User`, with the columns of a row of `users`. -/
structure User where
  userId : UUID
  username : String
  email : String
  hashedPassword : String
  role : String
  isActive : Bool
  createdAt : DateTime
  updatedAt : DateTime
  deriving DecidableEq, Repr

/-- `RefreshToken`, with the columns of a row of `refresh_tokens`. -/
structure RefreshToken where
  tokenId : UUID
  userId : UUID
  tokenHash : String
  expiresAt : DateTime
  revoked : Bool
  createdAt : DateTime
  deriving DecidableEq, Repr

/-- The tables of the authentication service. -/
structure AuthDb where
  users : Table UUID User User.userId
  /-- The tokens by their unique hash. -/
  tokens : Table String RefreshToken RefreshToken.tokenHash
  /-- The unique key `users_username_key`. -/
  usernames : users.UniqueWhere (fun _ => true) User.username
  /-- The unique key `users_email_key`. -/
  emails : users.UniqueWhere (fun _ => true) User.email
  /-- The foreign key of a token to its user. -/
  userOf : ∀ t ∈ tokens.rows, (users.find? t.userId).isSome

/-- The tables with the readings of `NOW()` and `gen_random_uuid()`, one for each statement. -/
structure World where
  db : AuthDb
  clock : Nat → DateTime
  tokenIds : Nat → UUID
  /-- How many statements have been executed. -/
  statements : Nat

/-- `NOW()` in the coming statement. -/
def World.now (w : World) : DateTime := w.clock w.statements

namespace AuthDb

/-- Whether another row has the same value in a unique column. -/
def taken (db : AuthDb) (column : User → String) (user : User) : Bool :=
  db.users.rows.any fun other => other.userId ≠ user.userId ∧ column other = column user

theorem taken_eq_false_iff {db : AuthDb} {column : User → String} {user : User} :
    db.taken column user = false ↔
      ∀ other ∈ db.users.rows, other.userId ≠ user.userId → column other ≠ column user := by
  simp [taken]

/-- The row that the upsert of `save` leaves: `created_at` is not among the updated columns. -/
def target (db : AuthDb) (user : User) : User :=
  match db.users.find? user.userId with
  | none => user
  | some old => { user with createdAt := old.createdAt }

@[simp] theorem userId_target (db : AuthDb) (user : User) :
    (db.target user).userId = user.userId := by
  unfold target
  split <;> rfl

@[simp] theorem username_target (db : AuthDb) (user : User) :
    (db.target user).username = user.username := by
  unfold target
  split <;> rfl

@[simp] theorem role_target (db : AuthDb) (user : User) : (db.target user).role = user.role := by
  unfold target
  split <;> rfl

/-- A user of a new id is stored as it is. -/
theorem target_of_none {db : AuthDb} {user : User} (h : db.users.find? user.userId = none) :
    db.target user = user := by
  simp [target, h]

/-- The statement of `save`. -/
def saveUser (refuses : User → Option String) (user : User) (db : AuthDb) :
    Except AuthError User × AuthDb :=
  match refuses user with
  | some violated => (.error (.database violated), db)
  | none =>
    if hu : db.taken User.username (db.target user) = true then
      (.error (.database "users_username_key"), db)
    else if he : db.taken User.email (db.target user) = true then
      (.error (.database "users_email_key"), db)
    else (.ok (db.target user), { db with
      users := db.users.put (db.target user)
      usernames := db.usernames.put_iff.mpr fun _ other ho hne _ =>
        taken_eq_false_iff.mp (Bool.eq_false_iff.mpr hu) other ho hne
      emails := db.emails.put_iff.mpr fun _ other ho hne _ =>
        taken_eq_false_iff.mp (Bool.eq_false_iff.mpr he) other ho hne
      userOf := fun t ht => Table.isSome_find?_put (db.userOf t ht) })

/-- The statement of `save`; a hash is stored once, and only for a stored user. -/
def saveToken (row : RefreshToken) (db : AuthDb) : Except AuthError Unit × AuthDb :=
  if (db.tokens.find? row.tokenHash).isSome then
    (.error (.database "refresh_tokens_token_hash_key"), db)
  else if h : (db.users.find? row.userId).isSome then
    (.ok (), { db with
      tokens := db.tokens.put row
      userOf := fun t ht => by
        rcases (db.tokens.mem_put row t).mp ht with rfl | ⟨ht, _⟩
        · exact h
        · exact db.userOf t ht })
  else (.error (.database "refresh_tokens_user_id_fkey"), db)

/-- The statement of `get_valid`. -/
def getValid (tokenHash : String) (now : DateTime) (db : AuthDb) : Option RefreshToken :=
  (db.tokens.find? tokenHash).filter fun t => t.revoked = false ∧ now < t.expiresAt

/-- The statement of `revoke`. -/
def revoke (tokenHash : String) (db : AuthDb) : AuthDb :=
  match h : db.tokens.find? tokenHash with
  | none => db
  | some t => { db with
      tokens := db.tokens.put { t with revoked := true }
      userOf := fun t' ht' => by
        rcases (db.tokens.mem_put _ t').mp ht' with rfl | ⟨ht', _⟩
        · exact db.userOf t (Table.mem_of_find? h)
        · exact db.userOf t' ht' }

/-- A user is refused without effect, or stored under its id. -/
theorem saveUser_cases (refuses : User → Option String) (user : User) (db : AuthDb) :
    (∃ e, db.saveUser refuses user = (.error e, db)) ∨
    ∃ db', db.saveUser refuses user = (.ok (db.target user), db') ∧
      db'.users = db.users.put (db.target user) ∧ db'.tokens = db.tokens := by
  unfold saveUser
  split
  · exact .inl ⟨_, rfl⟩
  · split_ifs with hu he
    · exact .inl ⟨_, rfl⟩
    · exact .inl ⟨_, rfl⟩
    · exact .inr ⟨_, rfl, rfl, rfl⟩

/-- A token is refused without effect, or stored under a new hash for a stored user. -/
theorem saveToken_cases (row : RefreshToken) (db : AuthDb) :
    (∃ e, db.saveToken row = (.error e, db) ∧
      ((db.tokens.find? row.tokenHash).isSome ∨ db.users.find? row.userId = none)) ∨
    ∃ db', db.saveToken row = (.ok (), db') ∧ db.tokens.find? row.tokenHash = none ∧
      db'.tokens = db.tokens.put row ∧ db'.users = db.users := by
  unfold saveToken
  split_ifs with hh hu
  · exact .inl ⟨_, rfl, .inl hh⟩
  · exact .inr ⟨_, rfl, by simpa using hh, rfl, rfl⟩
  · exact .inl ⟨_, rfl, .inr (by simpa using hu)⟩

/-- A valid token is stored, not revoked and not expired. -/
theorem getValid_eq_some_iff {tokenHash : String} {now : DateTime} {db : AuthDb}
    {t : RefreshToken} :
    db.getValid tokenHash now = some t ↔
      db.tokens.find? tokenHash = some t ∧ t.revoked = false ∧ now < t.expiresAt := by
  simp [getValid, Option.filter_eq_some_iff]

@[simp] theorem users_revoke (tokenHash : String) (db : AuthDb) :
    (db.revoke tokenHash).users = db.users := by
  unfold revoke
  split <;> rfl

theorem tokens_revoke_of_some {tokenHash : String} {db : AuthDb} {t : RefreshToken}
    (h : db.tokens.find? tokenHash = some t) :
    (db.revoke tokenHash).tokens = db.tokens.put { t with revoked := true } := by
  unfold revoke
  split
  · rename_i hnone
    rw [h] at hnone
    cases hnone
  · rename_i t' h'
    cases h.symm.trans h'
    rfl

/-- Revoking a hash that is not stored changes nothing. -/
theorem revoke_of_none {tokenHash : String} {db : AuthDb}
    (h : db.tokens.find? tokenHash = none) : db.revoke tokenHash = db := by
  unfold revoke
  split
  · rfl
  · rename_i t' h'
    cases h.symm.trans h'

/-- The row of a revoked hash keeps its other columns. -/
theorem find?_revoke_self {tokenHash : String} {db : AuthDb} {t : RefreshToken}
    (h : db.tokens.find? tokenHash = some t) :
    (db.revoke tokenHash).tokens.find? tokenHash = some { t with revoked := true } := by
  rw [tokens_revoke_of_some h]
  obtain rfl : t.tokenHash = tokenHash := Table.key_of_find? h
  exact Table.find?_put_self db.tokens { t with revoked := true }

/-- The rows of other hashes are left alone. -/
theorem find?_revoke_of_ne {tokenHash other : String} (db : AuthDb) (hne : tokenHash ≠ other) :
    (db.revoke tokenHash).tokens.find? other = db.tokens.find? other := by
  cases h : db.tokens.find? tokenHash with
  | none => rw [revoke_of_none h]
  | some t =>
    rw [tokens_revoke_of_some h]
    obtain rfl : t.tokenHash = tokenHash := Table.key_of_find? h
    exact db.tokens.find?_put_of_ne _ hne

end AuthDb

/-- A statement of the two repositories. -/
inductive Call : Type
  | saveUser (user : User)
  | getById (userId : UUID)
  | getByUsername (username : String)
  | getByEmail (email : String)
  | saveToken (userId : UUID) (tokenHash : String) (expiresAt : DateTime)
  | getValid (tokenHash : String)
  | revoke (tokenHash : String)
  deriving DecidableEq

/-- What a statement returns. -/
abbrev Call.Ans : Call → Type
  | saveUser _ => User
  | getById _ => Option User
  | getByUsername _ => Option User
  | getByEmail _ => Option User
  | saveToken _ _ _ => Unit
  | getValid _ => Option RefreshToken
  | revoke _ => Unit

/-- A coroutine of the authentication service. -/
abbrev Program : Type → Type := Coroutine Call Call.Ans AuthError

/-- The answer of a statement and the tables after it. -/
def execute (refuses : User → Option String) :
    (op : Call) → World → Except AuthError op.Ans × AuthDb
  | .saveUser user, w => w.db.saveUser refuses user
  | .getById userId, w => (.ok (w.db.users.find? userId), w.db)
  | .getByUsername username, w =>
      (.ok (w.db.users.rows.find? fun u => u.username = username), w.db)
  | .getByEmail email, w => (.ok (w.db.users.rows.find? fun u => u.email = email), w.db)
  | .saveToken userId tokenHash expiresAt, w =>
      w.db.saveToken ⟨w.tokenIds w.statements, userId, tokenHash, expiresAt, false, w.now⟩
  | .getValid tokenHash, w => (.ok (w.db.getValid tokenHash w.now), w.db)
  | .revoke tokenHash, w => (.ok (), w.db.revoke tokenHash)

/-- The effect of a statement, refused or not. -/
def act (refuses : User → Option String) (op : Call) (w : World) :
    Except AuthError op.Ans × World :=
  ((execute refuses op w).1,
    { w with db := (execute refuses op w).2, statements := w.statements + 1 })

/-- `_row_to_entity`. -/
def rowToEntity (row : User) : User where
  userId := row.userId
  username := row.username
  email := row.email
  hashedPassword := row.hashedPassword
  role := row.role
  isActive := row.isActive
  createdAt := row.createdAt
  updatedAt := row.updatedAt

@[simp] theorem rowToEntity_eq (row : User) : rowToEntity row = row := rfl

namespace UserRepository

/-- `save`. -/
def save (user : User) : Program User := do
  let row ← perform (Call.saveUser user)
  return rowToEntity row

/-- `get_by_id`. -/
def getById (userId : UUID) : Program (Option User) := do
  let row ← perform (Call.getById userId)
  return row.map rowToEntity

/-- `get_by_username`. -/
def getByUsername (username : String) : Program (Option User) := do
  let row ← perform (Call.getByUsername username)
  return row.map rowToEntity

/-- `get_by_email`. -/
def getByEmail (email : String) : Program (Option User) := do
  let row ← perform (Call.getByEmail email)
  return row.map rowToEntity

end UserRepository

namespace RefreshTokenRepository

/-- `save`. -/
def save (userId : UUID) (tokenHash : String) (expiresAt : DateTime) : Program Unit :=
  perform (Call.saveToken userId tokenHash expiresAt)

/-- `get_valid`. -/
def getValid (tokenHash : String) : Program (Option RefreshToken) :=
  perform (Call.getValid tokenHash)

/-- `revoke`. -/
def revoke (tokenHash : String) : Program Unit := perform (Call.revoke tokenHash)

end RefreshTokenRepository

end SupplyChainTracker.Auth
