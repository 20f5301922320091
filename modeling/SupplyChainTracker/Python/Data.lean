import SupplyChainTracker.Core.Except
import SupplyChainTracker.Python.Json

/-!
# Untyped data

A decoder that checks no types looks into whatever value it is handed: it subscripts it,
asks for a key, tests its truth and parses its text. Values differ in how they are built
but not in how they are looked into.
-/

namespace SupplyChainTracker

/-- An exception of a decoder. -/
inductive PyError : Type
  | keyError (key : String)
  | typeError (message : String)
  | attributeError (message : String)
  | indexError (message : String)
  | valueError (message : String)
  /-- A `ValueError`. -/
  | jsonDecodeError (message : String)
  /-- A `ValueError`. -/
  | unicodeDecodeError
  deriving DecidableEq, Repr

namespace PyError

/-- `isinstance(e, ValueError)`. -/
def isValueError : PyError → Bool
  | valueError _ | jsonDecodeError _ | unicodeDecodeError => true
  | keyError _ | typeError _ | attributeError _ | indexError _ => false

/-- `isinstance(e, KeyError)`. -/
def isKeyError : PyError → Bool
  | keyError _ => true
  | _ => false

end PyError

/-- What a value shows to those who look into it. -/
inductive Shape (V : Type) : Type
  | none
  | str (text : String)
  /-- A `dict`: whether it has items, and its value at a text. -/
  | dict (truthy : Bool) (item : String → Option V)
  /-- A value of another type. -/
  | other (typeName : String) (truthy : Bool)

/-- Values with `None`, texts and `dict`s among them. -/
class PyData (V : Type) where
  shape : V → Shape V
  /-- `None`. -/
  pyNone : V
  /-- A `str`. -/
  pyStr : String → V
  /-- A `dict` with texts for its keys. -/
  pyDict : List (String × V) → V
  shape_pyNone : shape pyNone = .none
  shape_pyStr : ∀ text, shape (pyStr text) = .str text
  shape_pyDict : ∀ items, shape (pyDict items) = .dict (!items.isEmpty) (items.lookup ·)

namespace PyData

attribute [simp] shape_pyNone shape_pyStr shape_pyDict

variable {V : Type} [PyData V]

/-- `bool(value)`. -/
def truthy (value : V) : Bool :=
  match shape value with
  | .none => false
  | .str text => text ≠ ""
  | .dict truthy _ | .other _ truthy => truthy

/-- `type(value).__name__`. -/
def typeName (value : V) : String :=
  match shape value with
  | .none => "NoneType"
  | .str _ => "str"
  | .dict .. => "dict"
  | .other typeName _ => typeName

/-- The text of a `str`. -/
def text? (value : V) : Option String :=
  match shape value with
  | .str text => some text
  | _ => none

/-- The value that a `dict` has at a key. -/
def item? (value : V) (key : String) : Option V :=
  match shape value with
  | .dict _ item => item key
  | _ => none

/-- Whether the value is a `dict`. -/
def isDict (value : V) : Bool :=
  match shape value with
  | .dict .. => true
  | _ => false

/-- The message of the `TypeError` that a subscript with a text raises on any value but a
`dict`. -/
def notSubscriptable (typeName : String) : String :=
  if typeName = "str" then "string indices must be integers, not 'str'"
  else if typeName = "list" ∨ typeName = "tuple" then
    typeName ++ " indices must be integers or slices, not str"
  else "'" ++ typeName ++ "' object is not subscriptable"

/-- The message of an `AttributeError`. -/
def noAttribute (typeName name : String) : String :=
  "'" ++ typeName ++ "' object has no attribute '" ++ name ++ "'"

/-- `value[key]`. -/
def subscript (value : V) (key : String) : Except PyError V :=
  match shape value with
  | .dict _ item =>
      match item key with
      | some value => .ok value
      | none => .error (.keyError key)
  | _ => .error (.typeError (notSubscriptable (typeName value)))

/-- `value.get(key)`; `none` stands for the default. -/
def get (value : V) (key : String) : Except PyError (Option V) :=
  match shape value with
  | .dict _ item => .ok (item key)
  | _ => .error (.attributeError (noAttribute (typeName value) "get"))

/-- `uuid.UUID(value)`, which begins with `value.replace`. -/
def uuid (value : V) : Except PyError UUID :=
  match shape value with
  | .none => .error (.typeError
      "one of the hex, bytes, bytes_le, fields, or int arguments must be given")
  | .str text =>
      match UUID.parse text with
      | some id => .ok id
      | none => .error (.valueError "badly formed hexadecimal UUID string")
  | _ => .error (.attributeError (noAttribute (typeName value) "replace"))

@[simp] theorem text?_pyStr (text : String) : text? (pyStr text : V) = some text := by
  simp [text?]

@[simp] theorem truthy_pyNone : truthy (pyNone : V) = false := by
  simp [truthy]

@[simp] theorem truthy_pyStr_uuid (id : UUID) : truthy (pyStr id.str : V) = true := by
  simp [truthy, UUID.str_ne_empty]

@[simp] theorem item?_pyDict (items : List (String × V)) (key : String) :
    item? (pyDict items) key = items.lookup key := by
  simp [item?]

/-- A subscript returns the item of a `dict`. -/
theorem subscript_eq_ok_iff {value item : V} {key : String} :
    subscript value key = .ok item ↔ item? value key = some item := by
  unfold subscript item?
  cases shape value with
  | dict truthy items =>
    simp only
    cases items key with
    | none => exact iff_of_false (fun h => by cases h) (fun h => by cases h)
    | some found => simp
  | _ => exact iff_of_false (fun h => by cases h) (fun h => by cases h)

/-- `get` returns what there is of a `dict`. -/
theorem get_eq_ok_iff {value : V} {key : String} {found : Option V} :
    get value key = .ok found ↔ isDict value = true ∧ item? value key = found := by
  unfold get isDict item?
  cases shape value with
  | dict truthy items => simp
  | _ => simp

/-- A value with an item is a `dict`. -/
theorem isDict_of_item? {value item : V} {key : String} (h : item? value key = some item) :
    isDict value = true := by
  unfold item? at h
  unfold isDict
  cases hshape : shape value with
  | dict truthy items => rfl
  | _ => simp [hshape] at h

/-- The constructor accepts the texts that it can parse. -/
theorem uuid_eq_ok_iff {value : V} {id : UUID} :
    uuid value = .ok id ↔ ∃ text, text? value = some text ∧ UUID.parse text = some id := by
  unfold uuid text?
  cases shape value with
  | str text =>
    simp only [Option.some.injEq, exists_eq_left']
    cases UUID.parse text with
    | none => exact iff_of_false (fun h => by cases h) (fun h => by cases h)
    | some found => simp
  | _ => simp

/-- A written id is read back. -/
@[simp] theorem uuid_pyStr (id : UUID) : uuid (pyStr id.str : V) = .ok id :=
  uuid_eq_ok_iff.mpr ⟨id.str, text?_pyStr id.str, UUID.parse_str id⟩

end PyData

namespace Json

/-- What a decoded value shows. -/
def shape : Json → Shape Json
  | null => .none
  | str text => .str text
  | obj items => .dict (!items.isEmpty) fun key => lookup key items
  | value => .other value.typeName value.truthy

/-- The first item with a key is the one that is found. -/
theorem lookup_eq (key : String) (items : List (String × Json)) :
    lookup key items = items.lookup key := by
  induction items with
  | nil => rfl
  | cons item items ih =>
    obtain ⟨k, value⟩ := item
    by_cases hk : k = key
    · simp [lookup, hk]
    · have hne : (key == k) = false := by simpa using fun h : key = k => hk h.symm
      simp [lookup, List.lookup_cons, hk, hne, ih]

instance : PyData Json where
  shape := shape
  pyNone := null
  pyStr := str
  pyDict := obj
  shape_pyNone := rfl
  shape_pyStr _ := rfl
  shape_pyDict items := by
    simp only [shape, lookup_eq]

/-- Truth is tested the same way. -/
theorem truthy_eq (value : Json) : PyData.truthy value = value.truthy := by
  cases value <;> rfl

/-- The same value is found. -/
theorem get?_eq_some_iff {value : Json} {key : String} {found : Option Json} :
    value.get? key = some found ↔ PyData.get value key = .ok found := by
  cases value with
  | obj items => simp [get?, PyData.get, PyData.shape, shape]
  | _ => exact iff_of_false (fun h => by cases h) (fun h => by cases h)

end Json

end SupplyChainTracker
