import Mathlib.Tactic.Common

/-!
# Calls with the wrong arguments

The texts of the `TypeError` that a call raises before the body of the callee starts.
-/

namespace SupplyChainTracker.CallError

/-- A required argument is left out. -/
def missing (callee name : String) : String :=
  callee ++ "() missing 1 required positional argument: '" ++ name ++ "'"

/-- A keyword names no parameter. -/
def unexpectedKeyword (callee name : String) : String :=
  callee ++ "() got an unexpected keyword argument '" ++ name ++ "'"

/-- A keyword names a parameter that a positional argument has filled. -/
def multipleValues (callee name : String) : String :=
  callee ++ "() got multiple values for argument '" ++ name ++ "'"

end SupplyChainTracker.CallError
