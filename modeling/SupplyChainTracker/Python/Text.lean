import Mathlib.Data.List.DropRight
import Mathlib.Tactic.Common

/-!
# Python strings

`str.strip` with the characters that `str.isspace` accepts.
-/

namespace SupplyChainTracker.Text

/-- Remove the characters that satisfy `p` from both ends. -/
def stripWhere (p : Char → Bool) (cs : List Char) : List Char := (cs.dropWhile p).rdropWhile p

/-- `char.isspace()`. -/
def isSpace (c : Char) : Bool :=
  let n := c.toNat
  9 ≤ n ∧ n ≤ 13 ∨ 28 ≤ n ∧ n ≤ 32 ∨ 8192 ≤ n ∧ n ≤ 8202 ∨
    n ∈ [0x85, 0xa0, 0x1680, 0x2028, 0x2029, 0x202f, 0x205f, 0x3000]

/-- `text.strip()`, as characters. -/
def strip (text : String) : List Char := stripWhere isSpace text.toList

/-- Stripping characters that do not occur changes nothing. -/
theorem stripWhere_eq_self {p : Char → Bool} {cs : List Char} (h : ∀ c ∈ cs, p c = false) :
    stripWhere p cs = cs := by
  have hd : cs.dropWhile p = cs := by
    cases cs with
    | nil => rfl
    | cons c cs => simp [List.dropWhile, h c (List.mem_cons_self ..)]
  rw [stripWhere, hd, List.rdropWhile_eq_self_iff]
  intro hne
  simp [h _ (List.getLast_mem hne)]

end SupplyChainTracker.Text
