import Mathlib.Data.Nat.ModEq
import Mathlib.Tactic.Ring
import Mathlib.Tactic.Common

/-!
# Fixed-width hexadecimal numerals

Writing a number with a fixed number of lower-case digits and reading it back
returns the number modulo the capacity of the width. Reading allows upper-case
digits and single underscores between digits.
-/

namespace SupplyChainTracker.Hex

/-- The lower-case digit of a value below sixteen. -/
def digit (n : Nat) : Char :=
  if n < 10 then Char.ofNat (48 + n) else Char.ofNat (87 + n)

/-- The value of a digit of either case. -/
def value? (c : Char) : Option Nat :=
  if '0' ≤ c ∧ c ≤ '9' then some (c.toNat - 48)
  else if 'a' ≤ c ∧ c ≤ 'f' then some (c.toNat - 87)
  else if 'A' ≤ c ∧ c ≤ 'F' then some (c.toNat - 55)
  else none

/-- The lower `width` digits of a number, most significant first. -/
def pad : Nat → Nat → List Char
  | 0, _ => []
  | width + 1, n => digit (n / 16 ^ width % 16) :: pad width n

/-- Read digits after an accumulated value; `needDigit` forbids a misplaced underscore. -/
def read (acc : Nat) (needDigit : Bool) : List Char → Option Nat
  | [] => if needDigit then none else some acc
  | c :: cs =>
      if c = '_' then if needDigit then none else read acc true cs
      else match value? c with
        | some v => read (acc * 16 + v) false cs
        | none => none

theorem value?_digit : ∀ n < 16, value? (digit n) = some n := by decide

theorem digit_ne_underscore : ∀ n < 16, digit n ≠ '_' := by decide

@[simp] theorem length_pad (width n : Nat) : (pad width n).length = width := by
  induction width with
  | zero => rfl
  | succ width ih => simp [pad, ih]

/-- A property of all sixteen digits holds of every character written. -/
theorem forall_mem_pad {p : Char → Prop} (hp : ∀ n < 16, p (digit n)) (width n : Nat) :
    ∀ c ∈ pad width n, p c := by
  induction width with
  | zero => simp [pad]
  | succ width ih =>
    intro c hc
    rcases List.mem_cons.mp hc with rfl | hc
    · exact hp _ (Nat.mod_lt _ (by decide))
    · exact ih c hc

/-- Reading a written numeral appends its digits to the accumulated value. -/
theorem read_pad (acc width n : Nat) :
    read acc false (pad width n) = some (acc * 16 ^ width + n % 16 ^ width) := by
  induction width generalizing acc with
  | zero => simp [pad, read, Nat.mod_one]
  | succ width ih =>
    have hd : n / 16 ^ width % 16 < 16 := Nat.mod_lt _ (by decide)
    simp only [pad, read, digit_ne_underscore _ hd, value?_digit _ hd, ih, if_false]
    congr 1
    rw [Nat.mod_pow_succ, pow_succ]
    ring

/-- A numeral of positive width begins with a digit, so reading may demand one. -/
theorem read_pad_of_pos {width : Nat} (hw : 0 < width) (n : Nat) :
    read 0 true (pad width n) = some (n % 16 ^ width) := by
  cases width with
  | zero => omega
  | succ width =>
    have hd : n / 16 ^ width % 16 < 16 := Nat.mod_lt _ (by decide)
    have h := read_pad 0 (width + 1) n
    simp only [pad, read, digit_ne_underscore _ hd, value?_digit _ hd, if_false] at h ⊢
    simpa using h

end SupplyChainTracker.Hex
