import SupplyChainTracker.Auth.Roles
import SupplyChainTracker.Core.Async.Likeness

/-!
# Deactivated users

The column `is_active` is reported by `/auth/me` and otherwise never looked at: services over tables
that differ in it alone answer every schedule of requests alike. A user that has been deactivated
logs in, rotates tokens and is reported as before.
-/

namespace SupplyChainTracker.Auth

open Coroutine (Alike alike_ofExcept alike_perform)

/-- What FastAPI raises for a token that the provider does not accept. -/
def ofTokenError : TokenError → AuthError
  | .httpException statusCode detail => .httpException statusCode detail
  | .jwtError message => .external message
  | .keyError key => .external key

/-- A request to one of the routes of the service, with what its handling draws. -/
inductive RouteRequest : Type
  /-- To a route that needs no token. -/
  | anonymous (request : AuthRequest)
  /-- To `/auth/me`, with its bearer token and the time at which it is checked. -/
  | me (token : String) (now : DateTime)

/-- The handler of a request, after the dependency that it has on the token. -/
def RouteRequest.program (lib : Libraries) (settings : Settings) :
    RouteRequest → Program AuthResponse
  | .anonymous request => request.program lib settings
  | .me token now =>
      match (authProvider lib settings).getCurrentUser token now with
      | .ok currentUser => do
          let response ← AuthRouter.getMe currentUser
          return .me response
      | .error e => .raise (ofTokenError e)

/-- The same users, but for `is_active`. -/
def User.Alike (user user' : User) : Prop := ∃ isActive, user' = { user with isActive := isActive }

/-- The same responses, but for `is_active`. -/
def MeResponse.Alike (response response' : MeResponse) : Prop :=
  ∃ isActive, response' = { response with isActive := isActive }

/-- The same responses, but for `is_active`. -/
def AuthResponse.Alike : AuthResponse → AuthResponse → Prop
  | .me response, .me response' => response.Alike response'
  | .tokens response, .tokens response' => response = response'
  | _, _ => False

/-- Worlds that differ in `is_active` alone. -/
structure World.Alike (w w' : World) : Prop where
  users : List.Forall₂ User.Alike w.db.users.rows w'.db.users.rows
  tokens : w.db.tokens = w'.db.tokens
  clock : w.clock = w'.clock
  tokenIds : w.tokenIds = w'.tokenIds
  statements : w.statements = w'.statements

/-- Calls that differ in `is_active` alone, and their answers. -/
def ofActive : Likeness Call Call.Ans where
  call
    | .saveUser user, .saveUser user' => user.Alike user'
    | op, op' => op = op'
  answer
    | .saveUser _, .saveUser _, user, user' => user.Alike user'
    | .getById _, .getById _, found, found' => Option.Rel User.Alike found found'
    | .getByUsername _, .getByUsername _, found, found' => Option.Rel User.Alike found found'
    | .getByEmail _, .getByEmail _, found, found' => Option.Rel User.Alike found found'
    | .saveToken .., .saveToken .., _, _ => True
    | .getValid _, .getValid _, record, record' => record = record'
    | .revoke _, .revoke _, _, _ => True
    | _, _, _, _ => False

section Users

variable {user user' : User}

theorem User.Alike.userId (h : user.Alike user') : user.userId = user'.userId := by
  obtain ⟨isActive, rfl⟩ := h
  rfl

theorem User.Alike.username (h : user.Alike user') : user.username = user'.username := by
  obtain ⟨isActive, rfl⟩ := h
  rfl

theorem User.Alike.email (h : user.Alike user') : user.email = user'.email := by
  obtain ⟨isActive, rfl⟩ := h
  rfl

/-- Storing like users over like ones. -/
theorem User.Alike.over {old old' : User} (h : user.Alike user') (hold : old.Alike old') :
    User.Alike { user with createdAt := old.createdAt }
      { user' with createdAt := old'.createdAt } := by
  obtain ⟨isActive, rfl⟩ := h
  obtain ⟨wasActive, rfl⟩ := hold
  exact ⟨isActive, rfl⟩

/-- Like users are reported alike. -/
theorem User.Alike.response (h : user.Alike user') :
    (MeResponse.ofUser user).Alike (.ofUser user') := by
  obtain ⟨isActive, rfl⟩ := h
  exact ⟨isActive, rfl⟩

end Users

section Tables

variable {db db' : AuthDb} (h : List.Forall₂ User.Alike db.users.rows db'.users.rows)
include h

/-- A user is found by its key in both. -/
theorem rel_find?_users (userId : UUID) :
    Option.Rel User.Alike (db.users.find? userId) (db'.users.find? userId) :=
  Table.rel_find? h fun a b hab => by rw [hab.userId]

/-- The rows that `save` leaves are alike. -/
theorem alike_target {user user' : User} (huser : user.Alike user') :
    (db.target user).Alike (db'.target user') := by
  have hfind : Option.Rel User.Alike (db.users.find? user.userId)
      (db'.users.find? user'.userId) := by
    rw [← huser.userId]
    exact rel_find?_users h user.userId
  unfold AuthDb.target
  revert hfind
  generalize db.users.find? user.userId = found
  generalize db'.users.find? user'.userId = found'
  rintro (hold | _)
  · exact huser.over hold
  · exact huser

/-- A value is taken in both, or in neither. -/
theorem taken_eq {user user' : User} (huser : user.Alike user') {column : User → String}
    (hcolumn : ∀ a b : User, a.Alike b → column a = column b) :
    db.taken column user = db'.taken column user' := by
  unfold AuthDb.taken
  rw [← huser.userId, ← hcolumn _ _ huser]
  generalize db.users.rows = rows at h
  generalize db'.users.rows = rows' at h
  induction h with
  | nil => rfl
  | cons hab _ ih => rw [List.any_cons, List.any_cons, ih, hab.userId, hcolumn _ _ hab]

/-- `save` stores like users alike, or refuses both. -/
theorem alike_saveUser {refuses : User → Option String}
    (hrefuses : ∀ user user' : User, user.Alike user' → refuses user = refuses user')
    {user user' : User} (huser : user.Alike user') :
    ResultsLike User.Alike (db.saveUser refuses user).1 (db'.saveUser refuses user').1 ∧
      List.Forall₂ User.Alike (db.saveUser refuses user).2.users.rows
        (db'.saveUser refuses user').2.users.rows ∧
      (db.saveUser refuses user).2.tokens = db.tokens ∧
      (db'.saveUser refuses user').2.tokens = db'.tokens := by
  have htarget := alike_target h huser
  have husernames : db.taken User.username (db.target user) =
      db'.taken User.username (db'.target user') := taken_eq h htarget fun _ _ hab => hab.username
  have hemails : db.taken User.email (db.target user) =
      db'.taken User.email (db'.target user') := taken_eq h htarget fun _ _ hab => hab.email
  unfold AuthDb.saveUser
  rw [← hrefuses user user' huser]
  cases refuses user with
  | some violated => exact ⟨.error _, h, rfl, rfl⟩
  | none =>
    dsimp only
    by_cases hu : db.taken User.username (db.target user) = true
    · rw [dif_pos hu, dif_pos (husernames ▸ hu)]
      exact ⟨.error _, h, rfl, rfl⟩
    have hu' : ¬db'.taken User.username (db'.target user') = true := husernames ▸ hu
    rw [dif_neg hu, dif_neg hu']
    by_cases he : db.taken User.email (db.target user) = true
    · rw [dif_pos he, dif_pos (hemails ▸ he)]
      exact ⟨.error _, h, rfl, rfl⟩
    have he' : ¬db'.taken User.email (db'.target user') = true := hemails ▸ he
    rw [dif_neg he, dif_neg he']
    exact ⟨.ok htarget, Table.forall₂_put h (fun _ _ hab => hab.userId) htarget, rfl, rfl⟩

/-- `save` stores a token in both, or refuses it in both. -/
theorem saveToken_eq (htokens : db.tokens = db'.tokens) (row : RefreshToken) :
    (db.saveToken row).1 = (db'.saveToken row).1 ∧
      (db.saveToken row).2.tokens = (db'.saveToken row).2.tokens ∧
      (db.saveToken row).2.users = db.users ∧ (db'.saveToken row).2.users = db'.users := by
  have hfind := Table.isSome_eq_of_rel (rel_find?_users h row.userId)
  unfold AuthDb.saveToken
  by_cases hh : (db.tokens.find? row.tokenHash).isSome = true
  · have hh' : (db'.tokens.find? row.tokenHash).isSome = true := htokens ▸ hh
    rw [if_pos hh, if_pos hh']
    exact ⟨rfl, htokens, rfl, rfl⟩
  have hh' : ¬(db'.tokens.find? row.tokenHash).isSome = true := htokens ▸ hh
  rw [if_neg hh, if_neg hh']
  by_cases hu : (db.users.find? row.userId).isSome = true
  · have hu' : (db'.users.find? row.userId).isSome = true := hfind ▸ hu
    rw [dif_pos hu, dif_pos hu']
    exact ⟨rfl, congrArg (Table.put · row) htokens, rfl, rfl⟩
  · have hu' : ¬(db'.users.find? row.userId).isSome = true := hfind ▸ hu
    rw [dif_neg hu, dif_neg hu']
    exact ⟨rfl, htokens, rfl, rfl⟩

end Tables

theorem tokens_revoke_eq {db db' : AuthDb} (htokens : db.tokens = db'.tokens)
    (tokenHash : String) : (db.revoke tokenHash).tokens = (db'.revoke tokenHash).tokens := by
  cases hfind : db.tokens.find? tokenHash with
  | none => rw [AuthDb.revoke_of_none hfind, AuthDb.revoke_of_none (htokens ▸ hfind), htokens]
  | some t =>
    rw [AuthDb.tokens_revoke_of_some hfind, AuthDb.tokens_revoke_of_some (htokens ▸ hfind), htokens]

/-- Like tables answer like statements alike. -/
theorem respects_ofActive {refuses : User → Option String}
    (hrefuses : ∀ user user' : User, user.Alike user' → refuses user = refuses user') :
    ofActive.Respects World.Alike (act refuses) := by
  rintro op op' w w' hcall ⟨husers, htokens, hclock, hids, hstatements⟩
  have hnow : w.now = w'.now := by rw [World.now, World.now, hclock, hstatements]
  have hnext : w.statements + 1 = w'.statements + 1 := by rw [hstatements]
  cases op with
  | saveUser user =>
    cases op' with
    | saveUser user' =>
      obtain ⟨hresult, hrows, hkept, hkept'⟩ := alike_saveUser husers hrefuses hcall
      exact ⟨hresult, hrows, hkept.trans (htokens.trans hkept'.symm), hclock, hids, hnext⟩
    | _ => cases hcall
  | getById userId =>
    obtain rfl := hcall
    exact ⟨.ok (rel_find?_users husers userId), husers, htokens, hclock, hids, hnext⟩
  | getByUsername username =>
    obtain rfl := hcall
    exact ⟨.ok (Table.rel_find? husers fun a b hab => by rw [hab.username]), husers, htokens,
      hclock, hids, hnext⟩
  | getByEmail email =>
    obtain rfl := hcall
    exact ⟨.ok (Table.rel_find? husers fun a b hab => by rw [hab.email]), husers, htokens,
      hclock, hids, hnext⟩
  | saveToken userId tokenHash expiresAt =>
    obtain rfl := hcall
    obtain ⟨hresult, hrows, hkept, hkept'⟩ := saveToken_eq husers htokens
      ⟨w.tokenIds w.statements, userId, tokenHash, expiresAt, false, w.now⟩
    simp only [act, execute, ← hids, ← hstatements, ← hnow, ← hresult]
    exact ⟨resultsLike_refl (fun _ => trivial) _, by rw [hkept, hkept']; exact husers, hrows,
      hclock, rfl, rfl⟩
  | getValid tokenHash =>
    obtain rfl := hcall
    have hvalid : w.db.getValid tokenHash w.now = w'.db.getValid tokenHash w'.now := by
      rw [AuthDb.getValid, AuthDb.getValid, htokens, hnow]
    exact ⟨.ok hvalid, husers, htokens, hclock, hids, hnext⟩
  | revoke tokenHash =>
    obtain rfl := hcall
    refine ⟨.ok trivial, ?_, tokens_revoke_eq htokens tokenHash, hclock, hids, hnext⟩
    simp only [act, execute, AuthDb.users_revoke]
    exact husers

/-- Like rows are read as like users. -/
theorem rel_rowToEntity {row row' : Option User} (h : Option.Rel User.Alike row row') :
    Option.Rel User.Alike (row.map rowToEntity) (row'.map rowToEntity) := by
  cases h with
  | some h => exact .some h
  | none => exact .none

theorem alike_getById (userId : UUID) :
    (UserRepository.getById userId).Alike ofActive (Option.Rel User.Alike)
      (UserRepository.getById userId) :=
  (alike_perform rfl fun _ _ h => h).bind fun _ _ h => .ret (rel_rowToEntity h)

theorem alike_getByUsername (username : String) :
    (UserRepository.getByUsername username).Alike ofActive (Option.Rel User.Alike)
      (UserRepository.getByUsername username) :=
  (alike_perform rfl fun _ _ h => h).bind fun _ _ h => .ret (rel_rowToEntity h)

theorem alike_getByEmail (email : String) :
    (UserRepository.getByEmail email).Alike ofActive (Option.Rel User.Alike)
      (UserRepository.getByEmail email) :=
  (alike_perform rfl fun _ _ h => h).bind fun _ _ h => .ret (rel_rowToEntity h)

/-- The result of a `bcrypt` function. -/
theorem alike_ofBcrypt {α : Type} (r : Except String α) :
    (ofBcrypt r).Alike ofActive Eq (ofBcrypt r) := by
  cases r with
  | ok a => exact .ret rfl
  | error message => exact .raise _

section Service

variable (lib : Libraries) (settings : Settings)

/-- A registration stores a user. -/
theorem alike_register (username email password role : String) (draws : RegisterDraws) :
    (AuthService.register lib username email password role draws).Alike ofActive User.Alike
      (AuthService.register lib username email password role draws) := by
  refine (alike_getByUsername username).bind fun found found' hname => ?_
  rw [Table.isSome_eq_of_rel hname]
  split
  · exact .raise _
  refine (alike_getByEmail email).bind fun found found' hemail => ?_
  rw [Table.isSome_eq_of_rel hemail]
  split
  · exact .raise _
  refine (alike_ofBcrypt _).bind fun hashed _ hhashed => ?_
  obtain rfl := hhashed
  have hsame (user : User) : ofActive.call (.saveUser user) (.saveUser user) := ⟨_, rfl⟩
  exact (alike_perform (hsame _) fun _ _ h => h).bind fun _ _ h => .ret h

/-- A login looks a user up. -/
theorem alike_authenticate (username password : String) :
    (AuthService.authenticate lib username password).Alike ofActive User.Alike
      (AuthService.authenticate lib username password) := by
  refine (alike_getByUsername username).bind fun found found' hfound => ?_
  cases hfound with
  | none => exact .raise _
  | some huser =>
    obtain ⟨isActive, rfl⟩ := huser
    refine (alike_ofBcrypt _).bind fun verified _ hverified => ?_
    obtain rfl := hverified
    split
    · exact .ret ⟨isActive, rfl⟩
    · exact .raise _

/-- A refresh token is stored under the id of its user. -/
theorem alike_createRefreshToken {user user' : User} (huser : user.Alike user')
    (rawToken : String) (now : DateTime) :
    (AuthService.createRefreshToken lib settings user rawToken now).Alike ofActive Eq
      (AuthService.createRefreshToken lib settings user' rawToken now) := by
  obtain ⟨isActive, rfl⟩ := huser
  exact (alike_perform (Q := fun _ _ => True) rfl fun _ _ _ => trivial).bind fun _ _ _ => .ret rfl

/-- A rotation issues a pair for the user that it loads. -/
theorem alike_refresh (rawToken : String) (draws : TokenDraws) :
    (AuthService.refresh lib settings rawToken draws).Alike ofActive Eq
      (AuthService.refresh lib settings rawToken draws) := by
  refine (alike_perform (Q := Eq) rfl fun _ _ h => h).bind fun record _ hrecord => ?_
  obtain rfl := hrecord
  cases record with
  | none => exact .raise _
  | some record =>
    refine (alike_perform (Q := fun _ _ => True) rfl fun _ _ _ => trivial).bind fun _ _ _ => ?_
    refine (alike_getById record.userId).bind fun found found' hfound => ?_
    cases hfound with
    | none => exact .raise _
    | some huser =>
      refine (alike_createRefreshToken lib settings huser _ _).bind fun newRefresh _ hnew => ?_
      obtain ⟨isActive, rfl⟩ := huser
      exact .ret (hnew ▸ rfl)

/-- `/auth/me` looks a user up. -/
theorem alike_getMe (username : String) :
    (AuthService.getMe username).Alike ofActive User.Alike (AuthService.getMe username) := by
  refine (alike_getByUsername username).bind fun found found' hfound => ?_
  cases hfound with
  | none => exact .raise _
  | some huser => exact .ret huser

/-- What a request awaits and how it ends does not depend on `is_active`. -/
theorem alike_program (request : RouteRequest) :
    (request.program lib settings).Alike ofActive AuthResponse.Alike
      (request.program lib settings) := by
  cases request with
  | me token now =>
    simp only [RouteRequest.program]
    split
    · refine Alike.bind (Alike.bind (Alike.tryCatch (alike_getMe _) fun e => ?_)
        fun _ _ h => .ret (User.Alike.response h)) fun _ _ h => .ret h
      cases e <;> exact .raise _
    · exact .raise _
  | anonymous request =>
    cases request with
    | register body draws =>
      refine Alike.bind (Alike.bind (Alike.tryCatch (alike_register lib ..) fun e => ?_)
        fun _ _ h => .ret (User.Alike.response h)) fun _ _ h => .ret h
      cases e <;> exact .raise _
    | token username password draws =>
      refine Alike.bind (Alike.bind (Alike.tryCatch (alike_authenticate lib ..) fun e => ?_)
        fun user user' huser => ?_) fun _ _ h => .ret h
      · cases e <;> exact .raise _
      · refine (alike_createRefreshToken lib settings huser _ _).bind fun refreshToken _ h => ?_
        obtain rfl := h
        obtain ⟨isActive, rfl⟩ := huser
        exact .ret (Q := Eq) rfl
    | refresh body draws =>
      refine Alike.bind (Alike.bind (Alike.tryCatch (alike_refresh lib settings ..) fun e => ?_)
        fun tokens _ h => ?_) fun _ _ h => .ret h
      · cases e <;> exact .raise _
      · obtain rfl := h
        exact .ret (Q := Eq) rfl

end Service

section Runs

variable {ι : Type}

/-- The service before any of the requests has made a call. -/
def routeService (lib : Libraries) (settings : Settings) (requests : ι → RouteRequest) (w : World)
    (faults : Nat → Option AuthError) :
    Config ι Call Call.Ans AuthError AuthResponse (Journal Call Call.Ans AuthError World) where
  threads i := (requests i).program lib settings
  world := .start w faults
  trace := []

variable [DecidableEq ι] {lib : Libraries} {settings : Settings} {refuses : User → Option String}

/-- Over tables that differ in `is_active` alone, requests that interleave in the same way, and of
which the same calls raise, end alike: with the same tokens, with the same exceptions and with
responses that differ in `is_active` alone. So do the tables that they leave. -/
theorem deactivation_ignored
    (hrefuses : ∀ user user' : User, user.Alike user' → refuses user = refuses user')
    (requests : ι → RouteRequest) {w w' : World} (hw : w.Alike w')
    (faults : Nat → Option AuthError) {sched : List ι}
    {d : Config ι Call Call.Ans AuthError AuthResponse (Journal Call Call.Ans AuthError World)}
    (h : (routeService lib settings requests w faults).exec (Journal.perform (act refuses)) sched =
      some d) :
    ∃ d', (routeService lib settings requests w' faults).exec (Journal.perform (act refuses))
        sched = some d' ∧
      d.world.world.Alike d'.world.world ∧
      ∀ i, (∀ response, d.threads i = .ret response →
          ∃ response', d'.threads i = .ret response' ∧ response.Alike response') ∧
        ∀ e, d.threads i = .raise e → d'.threads i = .raise e := by
  have hstart : Config.Alike ofActive (fun _ => AuthResponse.Alike) (Journal.Alike World.Alike)
      (routeService lib settings requests w faults)
      (routeService lib settings requests w' faults) :=
    ⟨fun i => alike_program lib settings (requests i), hw, rfl⟩
  obtain ⟨d', hd', hend⟩ := hstart.exec (respects_ofActive hrefuses).journal h
  refine ⟨d', hd', hend.world.1, fun i => ⟨fun response hi => ?_, fun e hi => ?_⟩⟩
  · have halike := hend.threads i
    rw [hi] at halike
    generalize d'.threads i = p at halike
    cases halike with
    | ret hresponse => exact ⟨_, rfl, hresponse⟩
  · have halike := hend.threads i
    rw [hi] at halike
    generalize d'.threads i = p at halike
    cases halike with
    | raise => rfl

end Runs

/-- The sample tables after the user has been deactivated. -/
def deactivatedWorld : World where
  db := {
    users := Table.empty.put { sampleUser with isActive := false }
    tokens := sampleWorld.db.tokens
    usernames := (Table.uniqueWhere_empty _ _).put_iff.mpr (by simp)
    emails := (Table.uniqueWhere_empty _ _).put_iff.mpr (by simp)
    userOf := by decide }
  clock := sampleWorld.clock
  tokenIds := sampleWorld.tokenIds
  statements := sampleWorld.statements

theorem alike_deactivatedWorld : sampleWorld.Alike deactivatedWorld :=
  ⟨.cons ⟨false, rfl⟩ .nil, rfl, rfl, rfl, rfl⟩

/-- A login and a rotation. -/
def sampleRoutes : Fin 2 → RouteRequest
  | 0 => .anonymous (.token "ada" "correct horse" ⟨0, "r1", 0⟩)
  | 1 => .anonymous (.refresh ⟨"r0"⟩ ⟨0, "r2", 0⟩)

/-- A deactivated user logs in and rotates a token. -/
theorem deactivation_ignored_sample :
    ∃ d', (routeService sampleLibraries {} sampleRoutes deactivatedWorld Coroutine.noFaults).exec
        (Journal.perform (act fun _ => none)) [0, 1, 1, 0, 1, 1] = some d' ∧
      (∃ response, d'.threads 0 = .ret response ∧ (AuthResponse.tokens
        { accessToken := operatorToken, refreshToken := "r1" }).Alike response) ∧
      ∃ response, d'.threads 1 = .ret response ∧ (AuthResponse.tokens
        { accessToken := operatorToken, refreshToken := "r2" }).Alike response := by
  have hrun : ∃ d, (routeService sampleLibraries {} sampleRoutes sampleWorld
        Coroutine.noFaults).exec (Journal.perform (act fun _ => none)) [0, 1, 1, 0, 1, 1] = some d ∧
      d.threads 0 = .ret (.tokens { accessToken := operatorToken, refreshToken := "r1" }) ∧
      d.threads 1 = .ret (.tokens { accessToken := operatorToken, refreshToken := "r2" }) :=
    ⟨_, rfl, rfl, rfl⟩
  obtain ⟨d, hd, hlogin, hrotation⟩ := hrun
  obtain ⟨d', hd', -, hends⟩ := deactivation_ignored (fun _ _ _ => rfl) sampleRoutes
    alike_deactivatedWorld Coroutine.noFaults hd
  exact ⟨d', hd', (hends 0).1 _ hlogin, (hends 1).1 _ hrotation⟩

end SupplyChainTracker.Auth
