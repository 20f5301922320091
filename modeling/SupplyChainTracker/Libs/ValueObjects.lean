import SupplyChainTracker.Libs.Messaging
import SupplyChainTracker.Python.DateTime

/-!
# Shared value objects

`libs.value_objects`. A constructor returns the text of the exception that
`__post_init__` raises; the services name its class.
-/

namespace SupplyChainTracker

/-- `Location`. -/
structure Location where
  country : String
  city : String
  address : String := ""
  /-- What `__post_init__` checks. -/
  nonempty : country ≠ "" ∧ city ≠ ""
  deriving DecidableEq, Repr

/-- The constructor of `Location`, with the text of its `ValueError`. -/
def Location.of (country city address : String) : Except String Location :=
  if h : country ≠ "" ∧ city ≠ "" then .ok ⟨country, city, address, h⟩
  else .error "Country and city cannot be empty."

/-- `Timestamp`; its `tzinfo` is `timezone.utc`. -/
structure Timestamp where
  value : DateTime
  deriving DecidableEq, Repr

/-- The constructor of `Timestamp`, with the text of its `TimestampError`. -/
def Timestamp.of (value : DateTime) (tzinfo : Option TzInfo) : Except String Timestamp :=
  if tzinfo = some .utc then .ok ⟨value⟩ else .error "Timestamp must be UTC."

/-- `isoformat`. -/
def Timestamp.isoformat (t : Timestamp) : String := DateTimeText.isoformat t.value

end SupplyChainTracker
