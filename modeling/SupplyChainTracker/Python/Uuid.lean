import SupplyChainTracker.Core.Hex
import SupplyChainTracker.Python.Text

/-!
# `uuid.UUID`

A UUID is a 128-bit integer. `str` writes it in five groups of hexadecimal digits
and the constructor reads such a text back; it also accepts the other spellings
of the standard library (an `urn:uuid:` prefix, braces, hyphens anywhere, and
whatever `int(text, 16)` accepts of ASCII text once 32 characters remain; the
decimal digits and the spaces that it takes from the rest of Unicode are left out).
-/

namespace SupplyChainTracker

/-- `uuid.UUID`, by its integer value. -/
structure UUID where
  /-- The 128-bit integer. -/
  int : Fin (2 ^ 128)
  deriving DecidableEq, Repr

namespace UUID

/-- Numerals of the integer type need it to be inhabited. -/
instance : NeZero (2 ^ 128) := ⟨by decide⟩

open Text (stripWhere stripWhere_eq_self)

/-- The characters of `str(uuid)`: 8, 4, 4, 4 and 12 digits of the integer. -/
def chars (u : UUID) : List Char :=
  let hex := Hex.pad 32 u.int.val
  hex.take 8 ++ '-' :: ((hex.drop 8).take 4 ++ '-' :: ((hex.drop 12).take 4 ++
    '-' :: ((hex.drop 16).take 4 ++ '-' :: hex.drop 20)))

/-- `str(uuid)`. -/
def str (u : UUID) : String := String.ofList u.chars

/-- `text.replace(sub, '')` on characters; `skip` counts what is left of a removed match. -/
def removeAll (sub : List Char) : Nat → List Char → List Char
  | _, [] => []
  | skip + 1, _ :: cs => removeAll sub skip cs
  | 0, c :: cs =>
      if sub.isPrefixOf (c :: cs) then removeAll sub (sub.length - 1) cs
      else c :: removeAll sub 0 cs

/-- The ASCII characters that `int` ignores around a numeral. -/
def isSpace (c : Char) : Bool := c = ' ' ∨ 9 ≤ c.toNat ∧ c.toNat ≤ 13

/-- The digits of `int(text, 16)` after the sign, with an optional `0x`. -/
def unsignedBase16 : List Char → Option Nat
  | '0' :: 'x' :: '_' :: cs => Hex.read 0 true cs
  | '0' :: 'X' :: '_' :: cs => Hex.read 0 true cs
  | '0' :: 'x' :: cs => Hex.read 0 true cs
  | '0' :: 'X' :: cs => Hex.read 0 true cs
  | cs => Hex.read 0 true cs

/-- `int(text, 16)`, `none` standing for its `ValueError`. -/
def intBase16 (cs : List Char) : Option Int :=
  match stripWhere isSpace cs with
  | '-' :: cs => (unsignedBase16 cs).map fun n => -(n : Int)
  | '+' :: cs => (unsignedBase16 cs).map Int.ofNat
  | cs => (unsignedBase16 cs).map Int.ofNat

/-- `uuid.UUID(text)`, `none` standing for its `ValueError`. -/
def parse (text : String) : Option UUID :=
  let hex := removeAll "uuid:".toList 0 (removeAll "urn:".toList 0 text.toList)
  let hex := (stripWhere (fun c => c = '{' ∨ c = '}') hex).filter fun c => c ≠ '-'
  if hex.length ≠ 32 then none
  else match intBase16 hex with
    | some i => if h : 0 ≤ i ∧ i.toNat < 2 ^ 128 then some ⟨i.toNat, h.2⟩ else none
    | none => none

/-- A text without the first letter of a word loses nothing when the word is removed. -/
theorem removeAll_of_notMem {c : Char} (sub : List Char) {cs : List Char} (h : c ∉ cs) :
    removeAll (c :: sub) 0 cs = cs := by
  induction cs with
  | nil => rfl
  | cons d cs ih =>
    have hd : (c == d) = false := by
      simpa using fun he : c = d => h (he ▸ List.mem_cons_self ..)
    simp only [removeAll, List.isPrefixOf, hd, Bool.false_and, Bool.false_eq_true, if_false]
    rw [ih fun hm => h (List.mem_cons_of_mem _ hm)]

/-- The hexadecimal digits and the hyphen are the characters of a written UUID. -/
theorem forall_mem_chars {p : Char → Prop} (hp : ∀ n < 16, p (Hex.digit n)) (hyphen : p '-')
    (u : UUID) : ∀ c ∈ u.chars, p c := by
  have hd := Hex.forall_mem_pad hp 32 u.int.val
  intro c hc
  simp only [chars, List.mem_append, List.mem_cons] at hc
  rcases hc with h | rfl | h | rfl | h | rfl | h | rfl | h
  · exact hd c (List.mem_of_mem_take h)
  · exact hyphen
  · exact hd c (List.mem_of_mem_drop (List.mem_of_mem_take h))
  · exact hyphen
  · exact hd c (List.mem_of_mem_drop (List.mem_of_mem_take h))
  · exact hyphen
  · exact hd c (List.mem_of_mem_drop (List.mem_of_mem_take h))
  · exact hyphen
  · exact hd c (List.mem_of_mem_drop h)

/-- Dropping the hyphens leaves the 32 digits. -/
theorem filter_chars (u : UUID) :
    u.chars.filter (fun c => c ≠ '-') = Hex.pad 32 u.int.val := by
  have hd : ∀ c ∈ Hex.pad 32 u.int.val, (decide (c ≠ '-')) = true :=
    fun c hc => by simpa using Hex.forall_mem_pad (p := (· ≠ '-')) (by decide) _ _ c hc
  have hsub : ∀ l : List Char, (∀ c ∈ l, c ∈ Hex.pad 32 u.int.val) →
      l.filter (fun c => c ≠ '-') = l :=
    fun l hl => List.filter_eq_self.mpr fun c hc => hd c (hl c hc)
  simp only [chars, List.filter_append, List.filter_cons]
  rw [hsub _ fun c => List.mem_of_mem_take,
    hsub _ fun c hc => List.mem_of_mem_drop (List.mem_of_mem_take hc),
    hsub _ fun c hc => List.mem_of_mem_drop (List.mem_of_mem_take hc),
    hsub _ fun c hc => List.mem_of_mem_drop (List.mem_of_mem_take hc),
    hsub _ fun c hc => List.mem_of_mem_drop hc]
  simp only [ne_eq, not_true_eq_false, decide_false, Bool.false_eq_true, if_false]
  have hjoin : ∀ (i k : Nat), ((Hex.pad 32 u.int.val).drop i).take k ++
      (Hex.pad 32 u.int.val).drop (i + k) = (Hex.pad 32 u.int.val).drop i := fun i k => by
    rw [← List.drop_drop, List.take_append_drop]
  rw [hjoin 16 4, hjoin 12 4, hjoin 8 4, List.take_append_drop]

/-- `int(text, 16)` of plain digits is their value. -/
theorem intBase16_pad (n : Nat) : intBase16 (Hex.pad 32 n) = some ((n % 16 ^ 32 : Nat) : Int) := by
  have hspace : ∀ c ∈ Hex.pad 32 n, isSpace c = false :=
    Hex.forall_mem_pad (p := fun c => isSpace c = false) (by decide) 32 n
  have hplain : ∀ c ∈ Hex.pad 32 n, c ≠ '-' ∧ c ≠ '+' ∧ c ≠ 'x' ∧ c ≠ 'X' :=
    Hex.forall_mem_pad (p := fun c => c ≠ '-' ∧ c ≠ '+' ∧ c ≠ 'x' ∧ c ≠ 'X') (by decide) 32 n
  have hread := Hex.read_pad_of_pos (by decide : 0 < 32) n
  have hunsigned : unsignedBase16 (Hex.pad 32 n) = some (n % 16 ^ 32) := by
    unfold unsignedBase16
    split
    all_goals first
      | exact hread
      | (rename_i heq
         have hx := hplain _ (heq ▸ List.mem_cons_of_mem _ (List.mem_cons_self ..))
         simp at hx)
  unfold intBase16
  rw [stripWhere_eq_self hspace]
  split
  · rename_i heq
    exact absurd rfl (hplain '-' (heq ▸ List.mem_cons_self ..)).1
  · rename_i heq
    exact absurd rfl (hplain '+' (heq ▸ List.mem_cons_self ..)).2.1
  · rw [hunsigned]
    rfl

/-- `uuid.UUID(str(u)) = u`. -/
@[simp] theorem parse_str (u : UUID) : parse u.str = some u := by
  have hurn : 'u' ∉ u.chars := fun h =>
    forall_mem_chars (p := (· ≠ 'u')) (by decide) (by decide) u _ h rfl
  have hbrace : ∀ c ∈ u.chars, (decide (c = '{' ∨ c = '}')) = false :=
    forall_mem_chars (p := fun c => (decide (c = '{' ∨ c = '}')) = false) (by decide) (by decide) u
  have htext : u.str.toList = u.chars := String.toList_ofList
  have h1 : removeAll "urn:".toList 0 u.chars = u.chars := removeAll_of_notMem _ hurn
  have h2 : removeAll "uuid:".toList 0 u.chars = u.chars := removeAll_of_notMem _ hurn
  have hint : u.int.val % 16 ^ 32 = u.int.val :=
    Nat.mod_eq_of_lt (lt_of_lt_of_eq u.int.isLt (by norm_num))
  simp only [parse, htext, h1, h2, stripWhere_eq_self hbrace, filter_chars, Hex.length_pad,
    intBase16_pad, hint]
  simp

/-- A written UUID is not the empty text. -/
theorem str_ne_empty (u : UUID) : u.str ≠ "" := by
  intro h
  have hempty : parse "" = none := by decide
  rw [← h, parse_str] at hempty
  contradiction

end UUID

end SupplyChainTracker
