import SupplyChainTracker.Core.Hex
import SupplyChainTracker.Python.CodePoints

/-!
# `json.dumps`

The values that `json.loads` can return, and how `json.dumps` writes them: in ASCII, with two
surrogates for a code point that four hexadecimal digits do not hold.
-/

namespace SupplyChainTracker

/-- A value that `json.loads` can return; a float is given by its `repr`. -/
inductive JsonValue : Type
  | none
  | bool (value : Bool)
  | int (value : Int)
  | float (repr : PyStr)
  | str (text : PyStr)
  | list (items : List JsonValue)
  /-- The items in insertion order. -/
  | dict (items : List (PyStr × JsonValue))

/-- What `json` raises. -/
inductive JsonError : Type
  | jsonDecodeError
  /-- An integer has too many digits to be converted. -/
  | valueError
  /-- No exception of Python: the recursion of the model was cut off. -/
  | unfinished
  deriving DecidableEq

namespace JsonValue

/-- Induction over what a value is built from. -/
@[elab_as_elim, induction_eliminator]
theorem induct {P : JsonValue → Prop} (none : P .none) (bool : ∀ value, P (.bool value))
    (int : ∀ value, P (.int value)) (float : ∀ repr, P (.float repr)) (str : ∀ text, P (.str text))
    (list : ∀ items, (∀ item ∈ items, P item) → P (.list items))
    (dict : ∀ items, (∀ item ∈ items, P item.2) → P (.dict items))
    (value : JsonValue) : P value := by
  refine @JsonValue.rec P (fun items => ∀ item ∈ items, P item)
    (fun items => ∀ item ∈ items, P item.2) (fun item => P item.2)
    none bool int float str list dict ?_ ?_ ?_ ?_ ?_ value
  · intro item hitem
    cases hitem
  · intro item items hitem hitems
    exact List.forall_mem_cons.mpr ⟨hitem, hitems⟩
  · intro item hitem
    cases hitem
  · intro item items hitem hitems
    exact List.forall_mem_cons.mpr ⟨hitem, hitems⟩
  · intro key value hvalue
    exact hvalue

mutual

/-- The scalars a value is built from, keys included. -/
def scalars : JsonValue → List JsonValue
  | list items => scalarsEach items
  | dict items => scalarsItems items
  | value => [value]

/-- The scalars of the items of a list. -/
def scalarsEach : List JsonValue → List JsonValue
  | [] => []
  | item :: items => scalars item ++ scalarsEach items

/-- The scalars of the items of a `dict`. -/
def scalarsItems : List (PyStr × JsonValue) → List JsonValue
  | [] => []
  | (key, value) :: items => str key :: scalars value ++ scalarsItems items

end

variable {items : List JsonValue} {entries : List (PyStr × JsonValue)} {scalar : JsonValue}

theorem mem_scalars_list :
    scalar ∈ scalars (list items) ↔ ∃ item ∈ items, scalar ∈ scalars item := by
  rw [scalars]
  induction items with
  | nil => simp [scalarsEach]
  | cons item items ih => simp [scalarsEach, ih]

theorem mem_scalars_dict :
    scalar ∈ scalars (dict entries) ↔
      ∃ entry ∈ entries, scalar = str entry.1 ∨ scalar ∈ scalars entry.2 := by
  rw [scalars]
  induction entries with
  | nil => simp [scalarsItems]
  | cons entry entries ih => simp [scalarsItems, ih, or_assoc]

/-- A value that is no container is its only scalar. -/
theorem scalars_leaf {value : JsonValue} (hlist : ∀ items, value ≠ list items)
    (hdict : ∀ items, value ≠ dict items) : scalars value = [value] := by
  cases value with
  | list items => exact absurd rfl (hlist items)
  | dict items => exact absurd rfl (hdict items)
  | _ => rfl

/-- The keys of every `dict` in a value are distinct. -/
inductive WellFormed : JsonValue → Prop
  | scalar {value : JsonValue} (hlist : ∀ items, value ≠ .list items)
      (hdict : ∀ items, value ≠ .dict items) : WellFormed value
  | list (items : List JsonValue) (h : ∀ item ∈ items, WellFormed item) : WellFormed (.list items)
  | dict (items : List (PyStr × JsonValue)) (hkeys : (items.map Prod.fst).Nodup)
      (h : ∀ item ∈ items, WellFormed item.2) : WellFormed (.dict items)

end JsonValue

namespace JsonEncoder

open CodePoint (ofChar)

/-- `sys.int_info.default_max_str_digits`. -/
def maxStrDigits : Nat := 4300

/-- An integer has no more digits than may be converted. -/
def Convertible (value : Int) : Prop := value.natAbs < 10 ^ maxStrDigits

instance (value : Int) : Decidable (Convertible value) := inferInstanceAs (Decidable (_ < _))

/-- The decimal digits of a number. -/
def decimal (n : Nat) : PyStr := (Nat.toDigits 10 n).map ofChar

/-- The text of an integer. -/
def intText (value : Int) : PyStr :=
  if value < 0 then ofChar '-' :: decimal value.natAbs else decimal value.natAbs

/-- `int.__repr__`. -/
def intRepr (value : Int) : Except JsonError PyStr :=
  if Convertible value then .ok (intText value) else .error .valueError

/-- `ESCAPE_DCT`, without the control characters that are written by their code. -/
def escapeDct : List (CodePoint × CodePoint) :=
  [('\\', '\\'), ('"', '"'), ('\x08', 'b'), ('\x0c', 'f'), ('\n', 'n'), ('\r', 'r'), ('\t', 't')]

/-- `\u` and four hexadecimal digits. -/
def codeEscape (c : CodePoint) : PyStr :=
  ofChar '\\' :: ofChar 'u' :: (Hex.pad 4 c.val).map ofChar

/-- How a character is written. -/
def encodeChar (c : CodePoint) : PyStr :=
  match escapeDct.lookup c with
  | some letter => ['\\', letter]
  | none =>
      if 0x20 ≤ c.val ∧ c.val ≤ 0x7e then [c]
      else if c.val < 0x10000 then codeEscape c
      else codeEscape c.high ++ codeEscape c.low

/-- `encode_basestring_ascii`. -/
def encodeBasestringAscii (text : PyStr) : PyStr :=
  ofChar '"' :: text.flatMap encodeChar ++ [ofChar '"']

/-- How `json.dumps` writes a float with a `repr`. -/
def floatstr (repr : PyStr) : PyStr :=
  if repr = PyStr.ofString "nan" then PyStr.ofString "NaN"
  else if repr = PyStr.ofString "inf" then PyStr.ofString "Infinity"
  else if repr = PyStr.ofString "-inf" then PyStr.ofString "-Infinity"
  else repr

/-- Texts with `, ` between them. -/
def commaSeparated : List PyStr → PyStr
  | [] => []
  | [text] => text
  | text :: texts => text ++ ofChar ',' :: ofChar ' ' :: commaSeparated texts

mutual

/-- The text of a value. -/
def encode : JsonValue → PyStr
  | .none => PyStr.ofString "null"
  | .bool value => PyStr.ofString (if value then "true" else "false")
  | .int value => intText value
  | .float repr => floatstr repr
  | .str text => encodeBasestringAscii text
  | .list items => ofChar '[' :: commaSeparated (encodeEach items) ++ [ofChar ']']
  | .dict items => ofChar '{' :: commaSeparated (encodeItems items) ++ [ofChar '}']

/-- The texts of the items of a list. -/
def encodeEach : List JsonValue → List PyStr
  | [] => []
  | item :: items => encode item :: encodeEach items

/-- The texts of the items of a `dict`. -/
def encodeItems : List (PyStr × JsonValue) → List PyStr
  | [] => []
  | (key, value) :: items =>
      (encodeBasestringAscii key ++ ofChar ':' :: ofChar ' ' :: encode value) :: encodeItems items

end

/-- Every integer in a value can be converted. -/
def Convertibles (value : JsonValue) : Prop := ∀ n, .int n ∈ value.scalars → Convertible n

/-- `json.dumps`. -/
def dumps (value : JsonValue) : Except JsonError PyStr :=
  if value.scalars.all fun scalar =>
      match scalar with
      | .int n => Convertible n
      | _ => true
  then .ok (encode value) else .error .valueError

theorem encodeEach_eq (items : List JsonValue) : encodeEach items = items.map encode := by
  induction items with
  | nil => rfl
  | cons item items ih => simp only [encodeEach, ih, List.map_cons]

theorem encodeItems_eq (items : List (PyStr × JsonValue)) :
    encodeItems items =
      items.map fun p =>
        encodeBasestringAscii p.1 ++ ofChar ':' :: ofChar ' ' :: encode p.2 := by
  induction items with
  | nil => rfl
  | cons item items ih => simp only [encodeItems, ih, List.map_cons]

/-- An integer that is a value must be convertible, other scalars need nothing. -/
theorem convertibles_scalar {value : JsonValue} (hlist : ∀ items, value ≠ .list items)
    (hdict : ∀ items, value ≠ .dict items) (hint : ∀ n, value = .int n → Convertible n) :
    Convertibles value := by
  intro n hn
  rw [JsonValue.scalars_leaf hlist hdict, List.mem_singleton] at hn
  exact hint n hn.symm

theorem Convertibles.item {items : List JsonValue} (h : Convertibles (.list items))
    {item : JsonValue} (hitem : item ∈ items) : Convertibles item :=
  fun n hn => h n (JsonValue.mem_scalars_list.mpr ⟨item, hitem, hn⟩)

theorem Convertibles.entry {entries : List (PyStr × JsonValue)} (h : Convertibles (.dict entries))
    {entry : PyStr × JsonValue} (hentry : entry ∈ entries) : Convertibles entry.2 :=
  fun n hn => h n (JsonValue.mem_scalars_dict.mpr ⟨entry, hentry, .inr hn⟩)

/-- A value is written if all its integers can be converted. -/
theorem dumps_of_convertibles {value : JsonValue} (h : Convertibles value) :
    dumps value = .ok (encode value) := by
  refine if_pos (List.all_eq_true.mpr fun scalar hscalar => ?_)
  cases scalar with
  | int n => exact decide_eq_true (h n hscalar)
  | _ => rfl

theorem dumps_of_not_convertibles {value : JsonValue} (h : ¬ Convertibles value) :
    dumps value = .error .valueError := by
  refine if_neg fun hall => h fun n hn => ?_
  simpa using List.all_eq_true.mp hall _ hn

end JsonEncoder

end SupplyChainTracker
