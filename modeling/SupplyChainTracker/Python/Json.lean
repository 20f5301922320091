import SupplyChainTracker.Python.Uuid

/-!
# JSON values as Python sees them

The values that `json.loads` can produce, with the operations the services apply
to message payloads: truth testing, `dict.get` and `uuid.UUID(str(value))`.
-/

namespace SupplyChainTracker

/-- A value produced by `json.loads`; a float is given by its `repr`. -/
inductive Json : Type
  | null
  | bool (value : Bool)
  | int (value : Int)
  | float (repr : String)
  | str (value : String)
  | arr (items : List Json)
  /-- A `dict`, by its items in insertion order. -/
  | obj (items : List (String × Json))
  deriving Repr

namespace Json

/-- `bool(value)`. -/
def truthy : Json → Bool
  | null => false
  | bool b => b
  | int i => i ≠ 0
  | float r => r ≠ "0.0" ∧ r ≠ "-0.0"
  | str s => s ≠ ""
  | arr xs => !xs.isEmpty
  | obj kvs => !kvs.isEmpty

/-- `value.get(key)` of the items of a `dict`. -/
def lookup (key : String) : List (String × Json) → Option Json
  | [] => none
  | (k, v) :: kvs => if k = key then some v else lookup key kvs

/-- `value.get(key)`, where `none` stands for the `AttributeError` of a value
that is not a `dict`. -/
def get? (key : String) : Json → Option (Option Json)
  | obj kvs => some (lookup key kvs)
  | _ => none

/-- `type(value).__name__`. -/
def typeName : Json → String
  | null => "NoneType"
  | bool _ => "bool"
  | int _ => "int"
  | float _ => "float"
  | str _ => "str"
  | arr _ => "list"
  | obj _ => "dict"

/-- The message of the `AttributeError` that `value.get` raises on any value but a `dict`. -/
def noAttributeGet (value : Json) : String :=
  "'" ++ value.typeName ++ "' object has no attribute 'get'"

/-- `uuid.UUID(str(value))`. No other value is written as 32 hexadecimal digits:
constants and floats are too short, and lists and dicts keep their punctuation. -/
def uuid : Json → Option UUID
  | str s => UUID.parse s
  | int i => UUID.parse (toString i)
  | _ => none

@[simp] theorem uuid_str (u : UUID) : (str u.str).uuid = some u := UUID.parse_str u

/-- A written UUID passes a truth test. -/
@[simp] theorem truthy_str_uuid (u : UUID) : (str u.str).truthy = true := by
  simp [truthy, UUID.str_ne_empty]

/-- What parses as a UUID passes a truth test. -/
theorem truthy_of_uuid {value : Json} {u : UUID} (h : value.uuid = some u) :
    value.truthy = true := by
  have hblank : UUID.parse "" = none := by decide
  have hzero : UUID.parse (toString (0 : Int)) = none := by decide
  cases value with
  | str s =>
    have hs : s ≠ "" := by
      rintro rfl
      exact absurd (hblank.symm.trans h) nofun
    simp [truthy, hs]
  | int i =>
    have hi : i ≠ 0 := by
      rintro rfl
      exact absurd (hzero.symm.trans h) nofun
    simp [truthy, hi]
  | _ => cases h

end Json

end SupplyChainTracker
