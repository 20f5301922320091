import SupplyChainTracker.Auth.Repository

/-!
# `AuthService`

Registration, login and the rotation of refresh tokens. What a method draws while
it runs (identifiers, salts, tokens and clock readings) is an argument here.
-/

namespace SupplyChainTracker.Auth

/-- What the service takes from third-party libraries. -/
structure Libraries where
  jose : Jose
  bcrypt : Bcrypt
  /-- `hashlib.sha256(text.encode()).hexdigest()`. -/
  sha256 : String → String

/-- `Settings`, as far as the service reads them. -/
structure Settings where
  jwtSecretKey : String := "dev-secret-key-change-in-production"
  jwtAlgorithm : String := "HS256"
  jwtAccessTokenExpireMinutes : Int := 60
  refreshTokenExpireDays : Int := 30

/-- What a registration draws. -/
structure RegisterDraws where
  now : DateTime
  userId : UUID
  salt : String

/-- What issuing an access token and a refresh token draws. -/
structure TokenDraws where
  /-- The clock reading for the access token. -/
  accessAt : DateTime
  /-- `secrets.token_urlsafe(32)`. -/
  rawToken : String
  /-- The clock reading for the refresh token. -/
  refreshAt : DateTime

/-- `timedelta(days=days)`, in microseconds. -/
def days (n : Int) : Int := n * 24 * 60 * 60 * 1000000

/-- The result of a `bcrypt` function. -/
def ofBcrypt {α : Type} : Except String α → Program α
  | .ok a => return a
  | .error message => .raise (.external message)

namespace AuthService

variable (lib : Libraries) (settings : Settings)

/-- `register`. -/
def register (username email password role : String) (draws : RegisterDraws) : Program User := do
  let sameName ← UserRepository.getByUsername username
  if sameName.isSome then
    .raise (.userAlreadyExists ("Username '" ++ username ++ "' already exists"))
  else
    let sameEmail ← UserRepository.getByEmail email
    if sameEmail.isSome then
      .raise (.userAlreadyExists ("Email '" ++ email ++ "' already exists"))
    else
      let hashedPassword ← ofBcrypt (lib.bcrypt.hashpw password draws.salt)
      UserRepository.save {
        userId := draws.userId
        username := username
        email := email
        hashedPassword := hashedPassword
        role := role
        isActive := true
        createdAt := draws.now
        updatedAt := draws.now }

/-- `authenticate`. -/
def authenticate (username password : String) : Program User := do
  let user ← UserRepository.getByUsername username
  match user with
  | none => .raise (.invalidCredentials "Invalid username or password")
  | some user =>
    let verified ← ofBcrypt (lib.bcrypt.checkpw password user.hashedPassword)
    if verified then return user
    else .raise (.invalidCredentials "Invalid username or password")

/-- `create_access_token`. -/
def createAccessToken (user : User) (now : DateTime) : String :=
  SupplyChainTracker.createAccessToken lib.jose user.username user.role settings.jwtSecretKey
    settings.jwtAlgorithm settings.jwtAccessTokenExpireMinutes now

/-- `create_refresh_token`. -/
def createRefreshToken (user : User) (rawToken : String) (now : DateTime) : Program String := do
  RefreshTokenRepository.save user.userId (lib.sha256 rawToken)
    (now + days settings.refreshTokenExpireDays)
  return rawToken

/-- `refresh`. -/
def refresh (rawToken : String) (draws : TokenDraws) : Program (String × String) := do
  let record ← RefreshTokenRepository.getValid (lib.sha256 rawToken)
  match record with
  | none => .raise (.invalidCredentials "Invalid or expired refresh token")
  | some record =>
    RefreshTokenRepository.revoke (lib.sha256 rawToken)
    let user ← UserRepository.getById record.userId
    match user with
    | none => .raise (.userNotFound "User not found")
    | some user =>
      let newAccess := createAccessToken lib settings user draws.accessAt
      let newRefresh ← createRefreshToken lib settings user draws.rawToken draws.refreshAt
      return (newAccess, newRefresh)

/-- `get_me`. -/
def getMe (username : String) : Program User := do
  let user ← UserRepository.getByUsername username
  match user with
  | none => .raise (.userNotFound ("User '" ++ username ++ "' not found"))
  | some user => return user

end AuthService

end SupplyChainTracker.Auth
