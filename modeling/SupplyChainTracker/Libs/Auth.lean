import SupplyChainTracker.Libs.Messaging

/-!
# Access tokens and roles

`libs.auth`: what an access token claims, how a request's token becomes a user and
how a route asks for a role. Passwords and signatures are those of the two
third-party libraries, which are parameters here.
-/

namespace SupplyChainTracker

/-- The exceptions of `libs.auth`. -/
inductive TokenError : Type
  | jwtError (message : String)
  | keyError (key : String)
  /-- FastAPI's `HTTPException`. -/
  | httpException (statusCode : Nat) (detail : String)
  deriving DecidableEq, Repr

/-- The `data` of an access token with the `exp` that is added to it. -/
structure Claims where
  sub : String
  role : String
  exp : DateTime
  deriving DecidableEq, Repr

/-- What `decode_token` reads of a decoded payload; an absent key is `none`. That a subject is a
text and an expiry converts to an integer has been checked by the decoding. -/
structure Payload where
  sub : Option String
  exp : Option Int
  role : Option Json

/-- `jose.jwt`. -/
structure Jose where
  /-- `encode(claims, key, algorithm)`. -/
  encode : Claims → String → String → String
  /-- `decode(token, key, algorithms)` at some time. -/
  decode : DateTime → String → String → List String → Except TokenError Payload

/-- What `jose` documents: a token that is accepted has the claims it was issued with. -/
def Jose.Sound (jose : Jose) : Prop :=
  ∀ claims key algorithm now payload,
    jose.decode now (jose.encode claims key algorithm) key [algorithm] = .ok payload →
      payload.sub = some claims.sub ∧ payload.role = some (.str claims.role)

/-- `bcrypt`, where a text stands for its encoding and an exception is given by its message. -/
structure Bcrypt where
  /-- `checkpw(password, hashed_password)`. -/
  checkpw : String → String → Except String Bool
  /-- `hashpw(password, salt)`. -/
  hashpw : String → String → Except String String

/-- `TokenPayload`. -/
structure TokenPayload where
  sub : String
  exp : Int
  role : Json

/-- `create_access_token`. -/
def createAccessToken (jose : Jose) (sub role : String) (secretKey algorithm : String)
    (expiresMinutes : Int) (now : DateTime) : String :=
  jose.encode ⟨sub, role, now + expiresMinutes * 60 * 1000000⟩ secretKey algorithm

/-- `decode_token`. -/
def decodeToken (jose : Jose) (token secretKey algorithm : String) (now : DateTime) :
    Except TokenError TokenPayload := do
  let payload ← jose.decode now token secretKey [algorithm]
  match payload.sub, payload.exp with
  | some sub, some exp => .ok ⟨sub, exp, payload.role.getD (.str "operator")⟩
  | none, _ => .error (.keyError "sub")
  | some _, none => .error (.keyError "exp")

/-- `UserInDB`. -/
structure UserInDB where
  username : String
  hashedPassword : String
  role : Json

/-- A stateless `JWTAuthProvider`. -/
structure JWTAuthProvider where
  jose : Jose
  secretKey : String
  algorithm : String

/-- `_get_current_user`. -/
def JWTAuthProvider.getCurrentUser (provider : JWTAuthProvider) (token : String)
    (now : DateTime) : Except TokenError UserInDB :=
  match decodeToken provider.jose token provider.secretKey provider.algorithm now with
  | .ok payload => .ok ⟨payload.sub, "", payload.role⟩
  | .error (.jwtError _) => .error (.httpException 401 "Could not validate credentials")
  | .error e => .error e

/-- `current_user.role in allowed_roles`. -/
def UserInDB.hasRole (allowedRoles : List String) (user : UserInDB) : Bool :=
  match user.role with
  | .str role => role ∈ allowedRoles
  | _ => false

/-- `require_role`. -/
def requireRole (allowedRoles : List String) (currentUser : UserInDB) :
    Except TokenError UserInDB :=
  if currentUser.hasRole allowedRoles then .ok currentUser
  else .error (.httpException 403 "Forbidden")

/-- An issued token that is accepted names the role and the user it was issued for. -/
theorem JWTAuthProvider.getCurrentUser_createAccessToken (provider : JWTAuthProvider)
    (hsound : provider.jose.Sound) {sub role : String} {expiresMinutes : Int}
    {issuedAt now : DateTime} {user : UserInDB}
    (h : provider.getCurrentUser (createAccessToken provider.jose sub role provider.secretKey
      provider.algorithm expiresMinutes issuedAt) now = .ok user) :
    user.username = sub ∧ user.role = .str role := by
  unfold getCurrentUser decodeToken createAccessToken at h
  cases hd : provider.jose.decode now (provider.jose.encode
      ⟨sub, role, issuedAt + expiresMinutes * 60 * 1000000⟩ provider.secretKey provider.algorithm)
      provider.secretKey [provider.algorithm] with
  | error e =>
    rw [hd] at h
    cases e <;> cases h
  | ok payload =>
    obtain ⟨hsub, hrole⟩ := hsound _ _ _ _ _ hd
    obtain ⟨_, exp, _⟩ := payload
    cases hsub
    cases hrole
    rw [hd] at h
    cases exp with
    | none => cases h
    | some exp =>
      cases h
      exact ⟨rfl, rfl⟩

end SupplyChainTracker
