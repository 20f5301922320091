import SupplyChainTracker.Auth.Flow

/-!
# Registrations at the same time

A registration looks twice and then inserts a row of a new id. The unique keys of the
table decide which of several registrations goes through, and every stored row is an
old one or the user of exactly one registration that returned.
-/

namespace SupplyChainTracker.Auth

section Race

variable {ι : Type} (lib : Libraries) (body : ι → RegisterRequest) (draws : ι → RegisterDraws)

/-- Registrations that are about to start. -/
def registrants (w : World) : Config ι Call Call.Ans AuthError User World where
  threads := fun i => AuthService.register lib (body i).username (body i).email (body i).password
    (body i).role (draws i)
  world := w
  trace := []

/-- A user with what a registration asks for, under the id it drew. -/
structure Registers (body : RegisterRequest) (draws : RegisterDraws) (user : User) : Prop where
  userId : user.userId = draws.userId
  username : user.username = body.username
  email : user.email = body.email
  role : user.role = body.role

/-- The user that a registration is about to store or has stored is its own. -/
def RegisterAt (body : RegisterRequest) (draws : RegisterDraws) : RegisterPoint → Prop
  | .store user => Registers body draws user
  | .halt (.ok user) => Registers body draws user
  | _ => True

/-- Whether a registration has not returned. -/
def RegisterPoint.isOpen : RegisterPoint → Bool
  | .halt (.ok _) => false
  | _ => true

/-- The rows are the old ones and the users of the registrations that have returned. -/
structure RegisterInv (old : List User) (st : ι → RegisterPoint) (db : AuthDb) : Prop where
  point : ∀ i, RegisterAt (body i) (draws i) (st i)
  rows : ∀ u, u ∈ db.users.rows ↔ u ∈ old ∨ ∃ i, st i = .halt (.ok u)

section Step

variable {body draws} [DecidableEq ι] {old : List User} {st : ι → RegisterPoint} {db db' : AuthDb}
  {i : ι} {s : RegisterPoint}

/-- A registration that has not returned moves on without storing. -/
theorem RegisterInv.advance (h : RegisterInv body draws old st db) (hi : (st i).isOpen)
    (hs : s.isOpen) (hat : RegisterAt (body i) (draws i) s) :
    RegisterInv body draws old (Function.update st i s) db where
  point j := by
    by_cases hj : j = i
    · subst hj
      rwa [Function.update_self]
    · rw [Function.update_of_ne hj]
      exact h.point j
  rows u := by
    have hopen : ∀ j, Function.update st i s j = .halt (.ok u) ↔ st j = .halt (.ok u) := by
      intro j
      by_cases hj : j = i
      · subst hj
        rw [Function.update_self]
        constructor
        · rintro rfl
          cases hs
        · intro hst
          rw [hst] at hi
          cases hi
      · rw [Function.update_of_ne hj]
    simp only [hopen]
    exact h.rows u

omit [DecidableEq ι] in
/-- No row carries the id of a registration that has not returned. -/
theorem RegisterInv.unused (h : RegisterInv body draws old st db)
    (hfresh : ∀ u ∈ old, ∀ i, u.userId ≠ (draws i).userId)
    (hids : Function.Injective fun i => (draws i).userId) (hi : (st i).isOpen) :
    ∀ u ∈ db.users.rows, u.userId ≠ (draws i).userId := by
  intro u hu heq
  rcases (h.rows u).mp hu with hu | ⟨j, hj⟩
  · exact hfresh u hu i heq
  · have hat := h.point j
    rw [hj] at hat
    have hij : j = i := hids (hat.userId.symm.trans heq)
    rw [← hij, hj] at hi
    cases hi

/-- A registration stores its user. -/
theorem RegisterInv.store (h : RegisterInv body draws old st db) (hi : (st i).isOpen) {user : User}
    (hat : Registers (body i) (draws i) user)
    (hunused : ∀ u ∈ db.users.rows, u.userId ≠ (draws i).userId)
    (hput : db'.users = db.users.put user) :
    RegisterInv body draws old (Function.update st i (.halt (.ok user))) db' where
  point j := by
    by_cases hj : j = i
    · subst hj
      rwa [Function.update_self]
    · rw [Function.update_of_ne hj]
      exact h.point j
  rows u := by
    rw [hput, Table.mem_put, h.rows]
    constructor
    · rintro (rfl | ⟨hu | ⟨j, hj⟩, _⟩)
      · exact .inr ⟨i, Function.update_self ..⟩
      · exact .inl hu
      · refine .inr ⟨j, ?_⟩
        rwa [Function.update_of_ne]
        rintro rfl
        rw [hj] at hi
        cases hi
    · rintro (hu | ⟨j, hj⟩)
      · refine .inr ⟨.inl hu, ?_⟩
        rw [hat.userId]
        exact hunused u ((h.rows u).mpr (.inl hu))
      · by_cases hji : j = i
        · subst hji
          rw [Function.update_self] at hj
          cases hj
          exact .inl rfl
        · rw [Function.update_of_ne hji] at hj
          refine .inr ⟨.inr ⟨j, hj⟩, ?_⟩
          rw [hat.userId]
          exact hunused u ((h.rows u).mpr (.inr ⟨j, hj⟩))

end Step

/-- Each call of a registration keeps the invariant. -/
theorem RegisterInv.step [DecidableEq ι] (refuses : User → Option String) {old : List User}
    (hfresh : ∀ u ∈ old, ∀ i, u.userId ≠ (draws i).userId)
    (hids : Function.Injective fun i => (draws i).userId) {st : ι → RegisterPoint} {w : World}
    (h : RegisterInv body draws old st w.db) {i : ι} {op : Call}
    {next : Except AuthError op.Ans → RegisterPoint}
    (hn : registerChart lib (body i) (draws i) (st i) = .call op next) :
    RegisterInv body draws old (Function.update st i (next (act refuses op w).1))
      (act refuses op w).2.db := by
  have hat := h.point i
  cases hs : st i with
  | username =>
    rw [hs] at hn
    cases hn
    simp only [act, execute]
    cases w.db.users.rows.find? fun u => u.username = (body i).username with
    | none => exact h.advance (by rw [hs]; rfl) rfl trivial
    | some u => exact h.advance (by rw [hs]; rfl) rfl trivial
  | email =>
    rw [hs] at hn
    cases hn
    simp only [act, execute]
    cases w.db.users.rows.find? fun u => u.email = (body i).email with
    | some u => exact h.advance (by rw [hs]; rfl) rfl trivial
    | none =>
      simp only [emailNext]
      cases lib.bcrypt.hashpw (body i).password (draws i).salt with
      | error message => exact h.advance (by rw [hs]; rfl) rfl trivial
      | ok hashedPassword =>
        exact h.advance (by rw [hs]; rfl) rfl ⟨rfl, rfl, rfl, rfl⟩
  | store user =>
    rw [hs] at hn hat
    cases hn
    have hopen : (st i).isOpen := by rw [hs]; rfl
    have hunused := h.unused hfresh hids hopen
    have htarget : w.db.target user = user := AuthDb.target_of_none
      ((Table.find?_eq_none_iff _ _).mpr fun u hu => hat.userId ▸ hunused u hu)
    simp only [act, execute]
    rcases w.db.saveUser_cases refuses user with ⟨e, he⟩ | ⟨db', hok, hput, _⟩
    · rw [he]
      exact h.advance hopen rfl trivial
    · rw [htarget] at hok hput
      rw [hok]
      exact h.store hopen hat hunused hput
  | halt r =>
    rw [hs] at hn
    cases hn

/-- However registrations interleave, no two users share a name or an email, and the rows are the
old ones and the users of the registrations that returned, each under its own name, email and role;
a registration that raised has left no row. -/
theorem register_race [DecidableEq ι] (refuses : User → Option String) (w : World)
    (hfresh : ∀ u ∈ w.db.users.rows, ∀ i, u.userId ≠ (draws i).userId)
    (hids : Function.Injective fun i => (draws i).userId) (sched : List ι)
    {c : Config ι Call Call.Ans AuthError User World}
    (h : (registrants lib body draws w).exec (act refuses) sched = some c) :
    (∀ u ∈ c.world.db.users.rows, ∀ v ∈ c.world.db.users.rows,
      u.username = v.username ∨ u.email = v.email → u = v) ∧
    (∀ u, u ∈ c.world.db.users.rows ↔ u ∈ w.db.users.rows ∨ ∃ i, c.threads i = .ret u) ∧
    (∀ i u, c.threads i = .ret u → u ∉ w.db.users.rows ∧ u.username = (body i).username ∧
      u.email = (body i).email ∧ u.role = (body i).role ∧ ∀ j, c.threads j = .ret u → j = i) ∧
    (∀ i e, c.threads i = .raise e → ∀ u ∈ c.world.db.users.rows,
      u.userId ≠ (draws i).userId) := by
  have hfollows := fun i => follows_register lib (body i) (draws i)
  obtain ⟨st, hst, hinv⟩ := Config.exec_guarded_invariant hfollows
    (fun st w' _ => RegisterInv body draws w.db.users.rows st w'.db)
    (fun st w' tr i op next hi hn _ => hi.step lib body draws refuses hfresh hids hn)
    (fun _ => .username) rfl ⟨fun _ => trivial, fun u => by simp [registrants]⟩
    (Config.along_true _ _).guarded h
  have hret : ∀ i u, c.threads i = .ret u ↔ st i = .halt (.ok u) := by
    intro i u
    rw [congrFun hst i]
    constructor
    · intro hi
      have hhalt := (hfollows i).chart_of_ofExcept (s := st i) (r := .ok u) hi
      generalize st i = s at hhalt
      cases s with
      | halt r =>
        cases hhalt
        rfl
      | _ => cases hhalt
    · intro hi
      rw [hi]
      rfl
  have hat : ∀ i u, c.threads i = .ret u → Registers (body i) (draws i) u := by
    intro i u hi
    have hp := hinv.point i
    rwa [(hret i u).mp hi] at hp
  refine ⟨?_, ?_, ?_, ?_⟩
  · rintro u hu v hv (hname | hemail)
    · exact c.world.db.usernames u hu v hv rfl rfl hname
    · exact c.world.db.emails u hu v hv rfl rfl hemail
  · intro u
    simp only [hret]
    exact hinv.rows u
  · intro i u hi
    have hown := hat i u hi
    refine ⟨fun hu => hfresh u hu i hown.userId, hown.username, hown.email, hown.role, ?_⟩
    intro j hj
    exact hids ((hat j u hj).userId.symm.trans hown.userId)
  · intro i e hi
    refine hinv.unused hfresh hids ?_
    cases hs : st i with
    | halt r =>
      cases r with
      | error e' => rfl
      | ok u =>
        rw [(hret i u).mpr hs] at hi
        cases hi
    | _ => rfl

end Race

/-- Two registrations of one name. -/
def sampleBodies (x : Bool) : RegisterRequest :=
  ⟨"eve", if x then "eve@home" else "eve@post", "correct horse", "viewer"⟩

/-- Their draws. -/
def sampleRegisterDraws (x : Bool) : RegisterDraws :=
  ⟨0, if x then ⟨22⟩ else ⟨21⟩, "$2b$12$abcdefghijklmnopqrstuu"⟩

/-- Both find the name unused; the one that stores it second raises and leaves no row. -/
theorem register_race_sample :
    ∃ c, (registrants sampleLibraries sampleBodies sampleRegisterDraws sampleWorld).exec
        (act fun _ => none) [false, true, false, true, false, true] = some c ∧
      c.threads true = .raise (.database "users_username_key") ∧
      ∀ u ∈ c.world.db.users.rows, u.userId ≠ ⟨22⟩ := by
  have hfresh : ∀ u ∈ sampleWorld.db.users.rows, ∀ x,
      u.userId ≠ (sampleRegisterDraws x).userId := by decide
  have hids : Function.Injective fun x => (sampleRegisterDraws x).userId := by
    intro x y h
    cases x <;> cases y <;> first | rfl | exact absurd h (by decide)
  refine ⟨_, rfl, rfl, ?_⟩
  exact (register_race sampleLibraries sampleBodies sampleRegisterDraws (fun _ => none)
    sampleWorld hfresh hids [false, true, false, true, false, true] rfl).2.2.2 true
    (.database "users_username_key") rfl

end SupplyChainTracker.Auth
