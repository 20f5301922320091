import SupplyChainTracker.Python.Uuid

/-!
# Values with leaves that JSON has no form for

Trees of lists and `dict`s whose leaves may be a `UUID` or a `datetime`. `json.dumps` raises a
`TypeError` on a tree exactly when such a leaf is somewhere in it; its limits on the digits of an
integer and on the depth of a tree are left aside.
-/

namespace SupplyChainTracker

/-- A value of a field: a float is given by its `repr`, a `datetime` by its `isoformat()`. -/
inductive FieldValue : Type
  | none
  | bool (value : Bool)
  | int (value : Int)
  | float (repr : String)
  | str (value : String)
  | uuid (value : UUID)
  | datetime (isoformat : String)
  | list (items : List FieldValue)
  /-- The items in insertion order. -/
  | dict (items : List (String × FieldValue))

namespace FieldValue

/-- Induction over what a value is built from. -/
@[elab_as_elim, induction_eliminator]
theorem induct {P : FieldValue → Prop} (none : P .none) (bool : ∀ value, P (.bool value))
    (int : ∀ value, P (.int value)) (float : ∀ repr, P (.float repr))
    (str : ∀ value, P (.str value)) (uuid : ∀ value, P (.uuid value))
    (datetime : ∀ isoformat, P (.datetime isoformat))
    (list : ∀ items, (∀ item ∈ items, P item) → P (.list items))
    (dict : ∀ items, (∀ item ∈ items, P item.2) → P (.dict items))
    (value : FieldValue) : P value := by
  refine @FieldValue.rec P (fun items => ∀ item ∈ items, P item)
    (fun items => ∀ item ∈ items, P item.2) (fun item => P item.2)
    none bool int float str uuid datetime list dict ?_ ?_ ?_ ?_ ?_ value
  · intro item hitem
    cases hitem
  · intro item items hitem hitems
    exact List.forall_mem_cons.mpr ⟨hitem, hitems⟩
  · intro item hitem
    cases hitem
  · intro item items hitem hitems
    exact List.forall_mem_cons.mpr ⟨hitem, hitems⟩
  · intro key value hvalue
    exact hvalue

/-- A step from a value into one of its items. -/
inductive Step : Type
  | key (key : String)
  | index (index : Nat)

/-- What is at the end of a path into a value. -/
inductive At : FieldValue → List Step → FieldValue → Prop
  | here (value : FieldValue) : At value [] value
  | key {items : List (String × FieldValue)} {key : String} {value leaf : FieldValue}
      {path : List Step} (hmem : (key, value) ∈ items) (h : At value path leaf) :
      At (.dict items) (.key key :: path) leaf
  | index {items : List FieldValue} {index : Nat} {value leaf : FieldValue} {path : List Step}
      (hmem : items[index]? = some value) (h : At value path leaf) :
      At (.list items) (.index index :: path) leaf

/-- A `UUID` or a `datetime`. -/
def Foreign : FieldValue → Prop
  | uuid _ | datetime _ => True
  | _ => False

/-- There is no `UUID` and no `datetime` at any depth. -/
def Clean (value : FieldValue) : Prop := ∀ path leaf, At value path leaf → ¬ leaf.Foreign

section Clean

variable {items : List FieldValue} {entries : List (String × FieldValue)} {value : FieldValue}

theorem clean_list_iff : Clean (.list items) ↔ ∀ item ∈ items, Clean item := by
  constructor
  · intro h item hitem path leaf hat
    obtain ⟨index, hindex⟩ := List.mem_iff_getElem?.mp hitem
    exact h (.index index :: path) leaf (.index hindex hat)
  · intro h path leaf hat
    cases hat with
    | here => exact id
    | index hmem hat => exact h _ (List.mem_of_getElem? hmem) _ leaf hat

theorem clean_dict_iff : Clean (.dict entries) ↔ ∀ entry ∈ entries, Clean entry.2 := by
  constructor
  · intro h entry hentry path leaf hat
    exact h (.key entry.1 :: path) leaf (.key hentry hat)
  · intro h path leaf hat
    cases hat with
    | here => exact id
    | key hmem hat => exact h _ hmem _ leaf hat

/-- A value that is no container is clean unless it is foreign itself. -/
theorem clean_leaf_iff (hlist : ∀ items, value ≠ .list items)
    (hdict : ∀ items, value ≠ .dict items) : Clean value ↔ ¬ value.Foreign := by
  constructor
  · exact fun h => h [] value (.here value)
  · intro h path leaf hat
    cases hat with
    | here => exact h
    | key => exact absurd rfl (hdict _)
    | index => exact absurd rfl (hlist _)

end Clean

mutual

/-- The text of the `TypeError` that `json.dumps` raises on a value, at the first leaf that it has
no form for. -/
def dumpsTypeError : FieldValue → Option String
  | uuid _ => some "Object of type UUID is not JSON serializable"
  | datetime _ => some "Object of type datetime is not JSON serializable"
  | list items => dumpsTypeErrorEach items
  | dict items => dumpsTypeErrorItems items
  | none | bool _ | int _ | float _ | str _ => Option.none

/-- The items of a list. -/
def dumpsTypeErrorEach : List FieldValue → Option String
  | [] => Option.none
  | item :: items => (dumpsTypeError item).or (dumpsTypeErrorEach items)

/-- The items of a `dict`. -/
def dumpsTypeErrorItems : List (String × FieldValue) → Option String
  | [] => Option.none
  | (_, value) :: items => (dumpsTypeError value).or (dumpsTypeErrorItems items)

end

theorem dumpsTypeErrorEach_eq_none_iff {items : List FieldValue} :
    dumpsTypeErrorEach items = Option.none ↔ ∀ item ∈ items, dumpsTypeError item = Option.none := by
  induction items with
  | nil => simp [dumpsTypeErrorEach]
  | cons item items ih => simp [dumpsTypeErrorEach, ih]

theorem dumpsTypeErrorItems_eq_none_iff {items : List (String × FieldValue)} :
    dumpsTypeErrorItems items = Option.none ↔ ∀ item ∈ items, dumpsTypeError item.2 = Option.none := by
  induction items with
  | nil => simp [dumpsTypeErrorItems]
  | cons item items ih => simp [dumpsTypeErrorItems, ih]

/-- `json.dumps` raises no `TypeError` exactly on the clean values. -/
theorem dumpsTypeError_eq_none_iff {value : FieldValue} :
    value.dumpsTypeError = Option.none ↔ value.Clean := by
  induction value with
  | list items ih =>
    rw [dumpsTypeError, dumpsTypeErrorEach_eq_none_iff, clean_list_iff]
    exact forall₂_congr ih
  | dict items ih =>
    rw [dumpsTypeError, dumpsTypeErrorItems_eq_none_iff, clean_dict_iff]
    exact forall₂_congr ih
  | uuid value => simp [dumpsTypeError, clean_leaf_iff, Foreign]
  | datetime isoformat => simp [dumpsTypeError, clean_leaf_iff, Foreign]
  | none => simp [dumpsTypeError, clean_leaf_iff, Foreign]
  | bool value => simp [dumpsTypeError, clean_leaf_iff, Foreign]
  | int value => simp [dumpsTypeError, clean_leaf_iff, Foreign]
  | float repr => simp [dumpsTypeError, clean_leaf_iff, Foreign]
  | str value => simp [dumpsTypeError, clean_leaf_iff, Foreign]

end FieldValue

end SupplyChainTracker
