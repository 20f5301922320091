import SupplyChainTracker.Core.Run
import SupplyChainTracker.Services.System

/-!
# What the roles may do

Authenticated requests one after the other. `require_role` stands before most of the
`DELETE` routes and nothing else, so what a viewer writes is stored, and an operator can
delete items.
-/

namespace SupplyChainTracker.Services

open Shipments (ItemRow)

/-- A request with the user that it is authenticated for. -/
structure Authenticated where
  user : UserInDB
  request : Request

/-- Answer a request: the dependencies of its route come before its handler. -/
def Authenticated.serve (backend : Backend) (o : Authenticated) (s : System) : System :=
  match o.request.route.authorize o.user with
  | .ok _ => (o.request.handle backend s).2
  | .error _ => s

section Steps

variable (backend : Backend) (s : System) (o : Authenticated)

/-- What the permission matrix promises of a request: a viewer changes no stored row, and an
operator deletes none. -/
structure WriteProtected : Prop where
  viewer : o.user.role = .str "viewer" → (o.serve backend s).tables = s.tables
  operator : o.user.role = .str "operator" → s.tables.Kept (o.serve backend s).tables

/-- The requests that only an admin gets past the dependencies of. -/
def Request.Guarded (request : Request) : Prop := request.route.roles = some ["admin"]

/-- A request deletes an item: it is the one deletion that is not guarded. -/
def Request.DeletesItem : Request → Prop
  | shipments (.deleteItem itemId _) => (s.shipments.world.item? itemId).isSome
  | _ => False

/-- A viewer's request is guarded or has nothing to store or delete, and an operator's is not the
deletion of an item. -/
structure WithinRole : Prop where
  viewer : o.user.role = .str "viewer" → o.request.Guarded ∨ ¬ o.request.Writes backend s
  operator : o.user.role = .str "operator" → ¬ o.request.DeletesItem s

variable {backend s o}

/-- Every route is guarded for admins or open to everybody. -/
theorem Request.guarded_or_open (request : Request) :
    request.Guarded ∨ request.route.roles = none := by
  rcases request with request | request | request <;> cases request <;>
    first | exact .inr rfl | exact .inl rfl

/-- A guarded request of a user without the role is refused. -/
theorem serve_of_guarded {role : String} (hrole : o.user.role = .str role) (hne : role ≠ "admin")
    (h : o.request.Guarded) : o.serve backend s = s := by
  have hforbidden : o.user.hasRole ["admin"] = false := by
    simp [UserInDB.hasRole, hrole, hne]
  rw [Authenticated.serve, Route.authorize, h]
  simp only [requireRole, hforbidden]
  rfl

/-- An open request reaches its handler. -/
theorem serve_of_open (h : o.request.route.roles = none) :
    o.serve backend s = (o.request.handle backend s).2 := by
  rw [Authenticated.serve, Route.authorize, h]

/-- The only unguarded request that deletes anything is the deletion of an item. -/
theorem deletes_iff_of_open {request : Request} (h : request.route.roles = none) :
    request.Deletes backend s ↔ request.DeletesItem s := by
  rcases request with request | request | request <;> cases request <;>
    first | exact Iff.rfl | cases h

theorem guarded_not_deletesItem {request : Request} (h : request.Guarded) :
    ¬ request.DeletesItem s := by
  rcases request with request | request | request <;> cases request <;>
    first | exact not_false | cases h

/-- A viewer's request changes no stored row under the condition on it. -/
theorem viewer_iff (hrole : o.user.role = .str "viewer") :
    (o.serve backend s).tables = s.tables ↔ o.request.Guarded ∨ ¬ o.request.Writes backend s := by
  rcases o.request.guarded_or_open with hguarded | hopen
  · rw [serve_of_guarded hrole (by decide) hguarded]
    exact iff_of_true rfl (.inl hguarded)
  · have hnot : ¬ o.request.Guarded := fun h => by cases hopen.symm.trans h
    rw [serve_of_open hopen, o.request.tables_handle_eq_iff, or_iff_right hnot]

/-- An operator's request deletes no stored row under the condition on it. -/
theorem operator_iff (hrole : o.user.role = .str "operator") :
    s.tables.Kept (o.serve backend s).tables ↔ ¬ o.request.DeletesItem s := by
  rcases o.request.guarded_or_open with hguarded | hopen
  · rw [serve_of_guarded hrole (by decide) hguarded]
    exact iff_of_true (Tables.Kept.refl _) (guarded_not_deletesItem hguarded)
  · rw [serve_of_open hopen, o.request.kept_handle_iff, deletes_iff_of_open hopen]

end Steps

/-- In a sequence of requests each is as the permission matrix promises exactly when each is within
the role of its user. -/
theorem writeProtected_run_iff (backend : Backend) (requests : List Authenticated) (s : System) :
    EachStep (Authenticated.serve backend) (WriteProtected backend) requests s ↔
      EachStep (Authenticated.serve backend) (WithinRole backend) requests s := by
  refine eachStep_congr (fun s o => ⟨fun h => ?_, fun h => ?_⟩) requests s
  · exact ⟨fun hrole => (viewer_iff hrole).mp (h.viewer hrole),
      fun hrole => (operator_iff hrole).mp (h.operator hrole)⟩
  · exact ⟨fun hrole => (viewer_iff hrole).mpr (h.viewer hrole),
      fun hrole => (operator_iff hrole).mpr (h.operator hrole)⟩

/-- A viewer asks for one more crate. -/
def viewerIncreases : Authenticated where
  user := ⟨"vera", "", .str "viewer"⟩
  request := .shipments (.increaseItemQuantity ⟨21⟩ 1 ⟨1, ⟨91⟩, 1⟩)

/-- An operator deletes the crates. -/
def operatorDeletes : Authenticated where
  user := ⟨"oleg", "", .str "operator"⟩
  request := .shipments (.deleteItem ⟨21⟩ ⟨2, ⟨92⟩, 2⟩)

/-- The viewer's crate is stored, and the crates that the operator deletes are gone. -/
theorem write_unprotected :
    ¬ EachStep (Authenticated.serve sampleBackend) (WriteProtected sampleBackend)
      [viewerIncreases] sampleSystem ∧
    ¬ EachStep (Authenticated.serve sampleBackend) (WriteProtected sampleBackend)
      [operatorDeletes] sampleSystem := by
  constructor
  · rintro ⟨hprotected, _⟩
    have hquantity := congrArg (fun t => (t.shipments.items.find? ⟨21⟩).map ItemRow.quantity)
      (hprotected.viewer rfl)
    exact absurd hquantity (by decide)
  · rintro ⟨hprotected, _⟩
    have hstored := (hprotected.operator rfl).shipments.items ⟨21⟩ rfl
    exact absurd hstored (by decide)

end SupplyChainTracker.Services
