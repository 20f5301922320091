import SupplyChainTracker.Libs.Auth

/-!
# Routes

What a route of the services declares besides its handler: the method and the roles that
`require_role` asks for. That a request is authenticated is asked for by every
router, before the dependencies of the route.
-/

namespace SupplyChainTracker

/-- The method of a route. -/
inductive Method : Type
  | get
  | post
  | patch
  | delete
  deriving DecidableEq, Repr

/-- A route. -/
structure Route where
  method : Method
  /-- The roles of its `require_role`, if it has one. -/
  roles : Option (List String) := none

/-- The dependencies of a route, for the user of a request. -/
def Route.authorize (route : Route) (user : UserInDB) : Except TokenError UserInDB :=
  match route.roles with
  | none => .ok user
  | some roles => requireRole roles user

/-- The `limit` and the `offset` of a listing, as `Query` checks them. -/
structure Page where
  limit : Nat := 50
  offset : Nat := 0
  valid : 1 ≤ limit ∧ limit ≤ 500

end SupplyChainTracker
