import Mathlib.Data.List.Chain
import Mathlib.Tactic.Common

/-!
# Python strings as code points

A `str` is a sequence of code points, and surrogates are among them. UTF-16 writes a code point
from `0x10000` on as a high and a low surrogate, so a text in which a high surrogate stands before
a low one cannot be told from the text with the two joined.
-/

namespace SupplyChainTracker

/-- A code point. -/
structure CodePoint where
  val : Nat
  isLt : val < 0x110000
  deriving DecidableEq

namespace CodePoint

theorem ext {c d : CodePoint} (h : c.val = d.val) : c = d := by
  cases c
  cases d
  cases h
  rfl

/-- `chr(n)` of a number below `0x110000`. -/
def ofNat (n : Nat) : CodePoint := ⟨n % 0x110000, Nat.mod_lt _ (by decide)⟩

theorem val_ofNat {n : Nat} (h : n < 0x110000) : (ofNat n).val = n := Nat.mod_eq_of_lt h

theorem ofNat_val (c : CodePoint) : ofNat c.val = c := ext (val_ofNat c.isLt)

/-- The code point of a character. -/
def ofChar (c : Char) : CodePoint := ofNat c.toNat

instance : Coe Char CodePoint := ⟨ofChar⟩

theorem val_ofChar (c : Char) : (ofChar c).val = c.toNat := by
  refine val_ofNat ?_
  have hvalid : c.toNat < 0xd800 ∨ 0xdfff < c.toNat ∧ c.toNat < 0x110000 := c.valid
  omega

@[simp] theorem ofChar_inj {c d : Char} : ofChar c = ofChar d ↔ c = d := by
  constructor
  · intro h
    rw [← Char.toNat_inj, ← val_ofChar, ← val_ofChar, h]
  · exact congrArg ofChar

/-- The character of a code point; a surrogate has none, and is shown as a replacement. -/
def toChar (c : CodePoint) : Char := if c.val.isValidChar then Char.ofNat c.val else '\ufffd'

theorem toChar_ofChar (c : Char) : toChar (ofChar c) = c := by
  have hvalid : c.toNat.isValidChar := c.valid
  rw [toChar, val_ofChar, if_pos hvalid, Char.ofNat_toNat]

theorem ofChar_toChar {c : CodePoint} (h : c.val.isValidChar) : ofChar (toChar c) = c := by
  refine ext ?_
  rw [val_ofChar, toChar, if_pos h, Char.ofNat, dif_pos h]
  rfl

/-- A high surrogate. -/
def IsHigh (c : CodePoint) : Prop := 0xd800 ≤ c.val ∧ c.val ≤ 0xdbff

/-- A low surrogate. -/
def IsLow (c : CodePoint) : Prop := 0xdc00 ≤ c.val ∧ c.val ≤ 0xdfff

instance (c : CodePoint) : Decidable c.IsHigh := inferInstanceAs (Decidable (_ ∧ _))

instance (c : CodePoint) : Decidable c.IsLow := inferInstanceAs (Decidable (_ ∧ _))

/-- The high surrogate of a code point from `0x10000` on. -/
def high (c : CodePoint) : CodePoint := ofNat (0xd800 + (c.val - 0x10000) / 0x400 % 0x400)

/-- The low surrogate of a code point from `0x10000` on. -/
def low (c : CodePoint) : CodePoint := ofNat (0xdc00 + (c.val - 0x10000) % 0x400)

/-- The code point of two surrogates. -/
def join (high low : CodePoint) : CodePoint :=
  ofNat (0x10000 + high.val % 0x400 * 0x400 + low.val % 0x400)

theorem val_high (c : CodePoint) : c.high.val = 0xd800 + (c.val - 0x10000) / 0x400 % 0x400 :=
  val_ofNat (by omega)

theorem val_low (c : CodePoint) : c.low.val = 0xdc00 + (c.val - 0x10000) % 0x400 :=
  val_ofNat (by omega)

theorem isHigh_high (c : CodePoint) : c.high.IsHigh := by
  rw [IsHigh, val_high]
  omega

theorem isLow_low (c : CodePoint) : c.low.IsLow := by
  rw [IsLow, val_low]
  omega

/-- The surrogates of a code point are joined to it. -/
theorem join_high_low {c : CodePoint} (h : 0x10000 ≤ c.val) : join c.high c.low = c := by
  have hlt := c.isLt
  refine ext ?_
  rw [join, val_ofNat (by omega), val_high, val_low]
  omega

theorem IsHigh.not_isLow {c : CodePoint} (h : c.IsHigh) : ¬ c.IsLow := by
  unfold IsHigh IsLow at *
  omega

/-- No surrogate is the code point of a character. -/
theorem not_isHigh_ofChar (c : Char) : ¬ (ofChar c).IsHigh := by
  have hvalid : c.toNat < 0xd800 ∨ 0xdfff < c.toNat ∧ c.toNat < 0x110000 := c.valid
  rw [IsHigh, val_ofChar]
  omega

theorem le_val_join (high low : CodePoint) : 0x10000 ≤ (join high low).val := by
  rw [join, val_ofNat (by omega)]
  omega

end CodePoint

open CodePoint

/-- A `str`. -/
abbrev PyStr : Type := List CodePoint

/-- The `str` of a literal. -/
def PyStr.ofString (text : String) : PyStr := text.toList.map ofChar

namespace PyStr

/-- No high surrogate stands before a low one. -/
def Joined (text : PyStr) : Prop := text.IsChain fun c d => ¬ (c.IsHigh ∧ d.IsLow)

/-- Every high surrogate that stands before a low one is joined with it. -/
def joinSurrogates : PyStr → PyStr
  | high :: low :: text =>
      if high.IsHigh ∧ low.IsLow then join high low :: joinSurrogates text
      else high :: joinSurrogates (low :: text)
  | [c] => [c]
  | [] => []

theorem length_joinSurrogates_le (text : PyStr) : (joinSurrogates text).length ≤ text.length := by
  induction text using joinSurrogates.induct with
  | case1 high low text hpair ih =>
    rw [joinSurrogates, if_pos hpair]
    simp only [List.length_cons]
    omega
  | case2 high low text hpair ih =>
    rw [joinSurrogates, if_neg hpair]
    simp only [List.length_cons] at ih ⊢
    omega
  | case3 c => exact le_rfl
  | case4 => exact le_rfl

/-- Exactly a text without such surrogates is left as it is: any joining makes it shorter. -/
theorem joinSurrogates_eq_self_iff {text : PyStr} : joinSurrogates text = text ↔ text.Joined := by
  induction text using joinSurrogates.induct with
  | case1 high low text hpair ih =>
    refine iff_of_false (fun h => ?_) fun h => (List.isChain_cons_cons.mp h).1 hpair
    rw [joinSurrogates, if_pos hpair] at h
    have hle := length_joinSurrogates_le text
    have hlength := congrArg List.length h
    simp only [List.length_cons] at hlength
    omega
  | case2 high low text hpair ih =>
    rw [joinSurrogates, if_neg hpair, List.cons_inj_right, ih, Joined, Joined,
      List.isChain_cons_cons]
    exact (and_iff_right hpair).symm
  | case3 c => exact iff_of_true rfl (List.isChain_singleton c)
  | case4 => exact iff_of_true rfl List.isChain_nil

/-- What comes first is not joined to a low surrogate. -/
theorem head?_joinSurrogates {text : PyStr} {c d : CodePoint}
    (h : (joinSurrogates (c :: text)).head? = some d) : d = c ∨ ¬ d.IsLow := by
  cases text with
  | nil => exact .inl (Option.some.inj h).symm
  | cons low text =>
    by_cases hpair : c.IsHigh ∧ low.IsLow
    · rw [joinSurrogates, if_pos hpair] at h
      obtain rfl := Option.some.inj h
      have hle := le_val_join c low
      refine .inr fun hlow => ?_
      unfold IsLow at hlow
      omega
    · rw [joinSurrogates, if_neg hpair] at h
      exact .inl (Option.some.inj h).symm

/-- Nothing is left to join. -/
theorem joined_joinSurrogates (text : PyStr) : (joinSurrogates text).Joined := by
  induction text using joinSurrogates.induct with
  | case1 high low text hpair ih =>
    rw [joinSurrogates, if_pos hpair]
    have hle := le_val_join high low
    refine List.isChain_cons.mpr ⟨fun d _ hboth => ?_, ih⟩
    have hhigh := hboth.1
    unfold IsHigh at hhigh
    omega
  | case2 high low text hpair ih =>
    rw [joinSurrogates, if_neg hpair]
    refine List.isChain_cons.mpr ⟨fun d hd hboth => ?_, ih⟩
    rcases head?_joinSurrogates hd with rfl | hlow
    · exact hpair hboth
    · exact hlow hboth.2
  | case3 c => exact List.isChain_singleton c
  | case4 => exact List.isChain_nil

/-- The `str` of a literal has no surrogates. -/
theorem joined_ofString (text : String) : (ofString text).Joined := by
  unfold ofString Joined
  induction text.toList with
  | nil => exact List.isChain_nil
  | cons c chars ih =>
    exact List.isChain_cons.mpr ⟨fun d _ hboth => not_isHigh_ofChar c hboth.1, ih⟩

@[simp] theorem joinSurrogates_ofString (text : String) :
    joinSurrogates (ofString text) = ofString text :=
  joinSurrogates_eq_self_iff.mpr (joined_ofString text)

/-- The characters of a `str`, with replacements for its surrogates. -/
def toText (text : PyStr) : String := String.ofList (text.map toChar)

@[simp] theorem toText_ofString (text : String) : toText (ofString text) = text := by
  rw [toText, ofString, List.map_map]
  have hid : toChar ∘ ofChar = id := funext toChar_ofChar
  rw [hid, List.map_id, String.ofList_toList]

/-- Of the characters of an ASCII text nothing is lost. -/
theorem ofString_toText {text : PyStr} (h : ∀ c ∈ text, c.val < 0x80) :
    ofString (toText text) = text := by
  rw [toText, ofString, String.toList_ofList, List.map_map]
  refine (List.map_congr_left fun c hc => ?_).trans (List.map_id _)
  exact ofChar_toChar (.inl ((h c hc).trans (by decide)))

@[simp] theorem ofString_inj {text text' : String} : ofString text = ofString text' ↔ text = text' :=
  ⟨fun h => by rw [← toText_ofString text, h, toText_ofString], congrArg ofString⟩

end PyStr

end SupplyChainTracker
