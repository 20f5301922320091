import SupplyChainTracker.Auth.Service

/-!
# The routes of the authentication service

The bodies and responses of `/auth` and its handlers, which turn the exceptions they
expect into an `HTTPException`.
-/

namespace SupplyChainTracker.Auth

/-- `RegisterRequest`. -/
structure RegisterRequest where
  username : String
  email : String
  password : String
  role : String := "operator"
  deriving DecidableEq, Repr

/-- `TokenResponse`. -/
structure TokenResponse where
  accessToken : String
  refreshToken : String
  tokenType : String := "bearer"
  deriving DecidableEq, Repr

/-- `RefreshRequest`. -/
structure RefreshRequest where
  refreshToken : String
  deriving DecidableEq, Repr

/-- `MeResponse`. -/
structure MeResponse where
  userId : UUID
  username : String
  email : String
  role : String
  isActive : Bool
  deriving DecidableEq, Repr

/-- The response about a user. -/
def MeResponse.ofUser (user : User) : MeResponse where
  userId := user.userId
  username := user.username
  email := user.email
  role := user.role
  isActive := user.isActive

/-- `auth_provider` of the service. -/
def authProvider (lib : Libraries) (settings : Settings) : JWTAuthProvider where
  jose := lib.jose
  secretKey := settings.jwtSecretKey
  algorithm := settings.jwtAlgorithm

namespace AuthRouter

variable (lib : Libraries) (settings : Settings)

/-- `register`. -/
def register (body : RegisterRequest) (draws : RegisterDraws) : Program MeResponse := do
  let user ← (AuthService.register lib body.username body.email body.password body.role
    draws).tryCatch fun
      | .userAlreadyExists message => .raise (.httpException 409 message)
      | e => .raise e
  return .ofUser user

/-- `login`. -/
def login (username password : String) (draws : TokenDraws) : Program TokenResponse := do
  let user ← (AuthService.authenticate lib username password).tryCatch fun
    | .invalidCredentials _ => .raise (.httpException 401 "Incorrect username or password")
    | e => .raise e
  let accessToken := AuthService.createAccessToken lib settings user draws.accessAt
  let refreshToken ← AuthService.createRefreshToken lib settings user draws.rawToken
    draws.refreshAt
  return { accessToken := accessToken, refreshToken := refreshToken }

/-- `refresh_tokens`. -/
def refreshTokens (body : RefreshRequest) (draws : TokenDraws) : Program TokenResponse := do
  let tokens ← (AuthService.refresh lib settings body.refreshToken draws).tryCatch fun
    | .invalidCredentials message => .raise (.httpException 401 message)
    | .userNotFound message => .raise (.httpException 401 message)
    | e => .raise e
  return { accessToken := tokens.1, refreshToken := tokens.2 }

/-- `get_me`. -/
def getMe (currentUser : UserInDB) : Program MeResponse := do
  let user ← (AuthService.getMe currentUser.username).tryCatch fun
    | .userNotFound message => .raise (.httpException 404 message)
    | e => .raise e
  return .ofUser user

end AuthRouter

end SupplyChainTracker.Auth
