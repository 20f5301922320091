import SupplyChainTracker.Python.JsonAccepted

/-!
# Strings and integers through JSON

The text of a string is scanned as its characters, of which surrogates next to each other are
joined. The digits of an integer are read up to the first character that cannot go on with them.
-/

namespace SupplyChainTracker

open CodePoint (ofChar)
open JsonEncoder

namespace JsonDecoder

variable {floatRepr : PyStr → PyStr}

/-- How the characters of the text that a character is written as are scanned. -/
def scannedChar (c : CodePoint) : List Scanned :=
  if (escapeDct.lookup c).isSome ∨ 0x20 ≤ c.val ∧ c.val ≤ 0x7e then [⟨c, false⟩]
  else if c.val < 0x10000 then [⟨c, true⟩]
  else [⟨c.high, true⟩, ⟨c.low, true⟩]

section Strings

variable {c letter : CodePoint} {text : PyStr}

/-- The letters of escapes are read as what they stand for. -/
theorem lookup_backslash (h : escapeDct.lookup c = some letter) :
    letter ≠ ofChar 'u' ∧ backslash.lookup letter = some c := by
  have hall : ∀ p ∈ escapeDct, p.2 ≠ ofChar 'u' ∧ backslash.lookup p.2 = some p.1 := by decide
  obtain ⟨before, after, hdct, -⟩ := List.lookup_eq_some_iff.mp h
  exact hall (c, letter) (hdct ▸ by simp)

theorem hexDigit?_digit : ∀ n < 16, hexDigit? (ofChar (Hex.digit n)) = some n := by decide

/-- Four hexadecimal digits are read as the code point they were written for. -/
theorem scanChars_codeEscape (h : c.val < 0x10000) :
    scanChars (codeEscape c ++ text) =
      (scanChars text).map fun p => (⟨c, true⟩ :: p.1, p.2) := by
  refine scanChars_code ?_
  have hdigit : ∀ n, hexDigit? (ofChar (Hex.digit (n % 16))) = some (n % 16) :=
    fun n => hexDigit?_digit _ (Nat.mod_lt _ (by decide))
  simp only [decodeUXXXX, hdigit, bind, Option.bind, pure, Option.some.injEq]
  refine (congrArg CodePoint.ofNat ?_).trans c.ofNat_val
  omega

/-- What a character is written as is scanned as the character, or as its surrogates. -/
theorem scanChars_encodeChar (c : CodePoint) (text : PyStr) :
    scanChars (encodeChar c ++ text) =
      (scanChars text).map fun p => (scannedChar c ++ p.1, p.2) := by
  unfold encodeChar scannedChar
  cases hlookup : escapeDct.lookup c with
  | some letter =>
    obtain ⟨hletter, hbackslash⟩ := lookup_backslash hlookup
    exact scanChars_letter hletter hbackslash
  | none =>
    have hplain : c ≠ ofChar '"' ∧ c ≠ ofChar '\\' := by
      constructor
      · rintro rfl
        revert hlookup
        decide
      · rintro rfl
        revert hlookup
        decide
    by_cases hascii : 0x20 ≤ c.val ∧ c.val ≤ 0x7e
    · simp only [hascii, and_self, or_true, if_true]
      exact scanChars_plain hplain.1 hplain.2 (by omega)
    · by_cases hbmp : c.val < 0x10000
      · simp only [hascii, hbmp, Option.isSome_none, Bool.false_eq_true, or_self, if_false, if_true]
        exact scanChars_codeEscape hbmp
      · simp only [hascii, hbmp, Option.isSome_none, Bool.false_eq_true, or_self, if_false]
        have hhigh := c.isHigh_high
        have hlow := c.isLow_low
        unfold CodePoint.IsHigh at hhigh
        unfold CodePoint.IsLow at hlow
        rw [List.append_assoc, scanChars_codeEscape (by omega), scanChars_codeEscape (by omega)]
        cases scanChars text <;> rfl

theorem scanChars_encoded (s rest : PyStr) :
    scanChars (s.flatMap encodeChar ++ ofChar '"' :: rest) =
      .ok (s.flatMap scannedChar, rest) := by
  induction s with
  | nil => exact scanChars_quote rest
  | cons c s ih =>
    rw [List.flatMap_cons, List.append_assoc, scanChars_encodeChar, ih, List.flatMap_cons]
    rfl

/-- The first of the scanned characters of a text is no low surrogate that is given by its code
unless the text begins with a low surrogate. -/
theorem isLow_of_scannedChar {first : Scanned} (hfirst : (scannedChar c).head? = some first)
    (hcode : first.byCode = true) (hlow : first.char.IsLow) : c.IsLow := by
  unfold scannedChar at hfirst
  split_ifs at hfirst
  · cases hfirst
    cases hcode
  · cases hfirst
    exact hlow
  · cases hfirst
    exact absurd hlow c.isHigh_high.not_isLow

/-- A character is put in front as it is if it cannot be joined with what follows. -/
theorem joinCodes_scannedChar {chars : List Scanned}
    (h : ∀ first ∈ chars.head?, c.IsHigh → first.byCode = true → ¬ first.char.IsLow) :
    joinCodes (scannedChar c ++ chars) = c :: joinCodes chars := by
  have hsingle : ∀ byCode, joinCodes ([⟨c, byCode⟩] ++ chars) = c :: joinCodes chars := by
    intro byCode
    cases chars with
    | nil => rfl
    | cons second chars =>
      have hnot : ¬ ((byCode = true ∧ second.byCode = true) ∧ c.IsHigh ∧ second.char.IsLow) :=
        fun hpair => h second rfl hpair.2.1 hpair.1.2 hpair.2.2
      rw [List.singleton_append, joinCodes, if_neg hnot]
  unfold scannedChar
  split_ifs with hplain hbmp
  · exact hsingle false
  · exact hsingle true
  · change joinCodes (⟨c.high, true⟩ :: ⟨c.low, true⟩ :: chars) = c :: joinCodes chars
    rw [joinCodes, if_pos ⟨⟨rfl, rfl⟩, c.isHigh_high, c.isLow_low⟩,
      CodePoint.join_high_low (not_lt.mp hbmp)]

/-- A surrogate is written by its code. -/
theorem scannedChar_of_surrogate (hge : 0xd800 ≤ c.val) (hle : c.val ≤ 0xdfff) :
    scannedChar c = [⟨c, true⟩] := by
  have hlookup : escapeDct.lookup c = none := by
    have hall : ∀ p ∈ escapeDct, p.1.val < 0xd800 := by decide
    refine List.lookup_eq_none_iff.mpr fun p hp => ?_
    have hlt := hall p hp
    simp only [bne_iff_ne, ne_eq]
    rintro rfl
    omega
  unfold scannedChar
  rw [hlookup, if_neg (by simp; omega), if_pos (by omega)]

/-- The scanned characters of a text make the text with its surrogates joined. -/
theorem joinCodes_scanned (s : PyStr) :
    joinCodes (s.flatMap scannedChar) = s.joinSurrogates := by
  induction s using PyStr.joinSurrogates.induct with
  | case1 high low text hpair ih =>
    have hhigh : scannedChar high = [⟨high, true⟩] := by
      have h := hpair.1
      unfold CodePoint.IsHigh at h
      exact scannedChar_of_surrogate (by omega) (by omega)
    have hlow : scannedChar low = [⟨low, true⟩] := by
      have h := hpair.2
      unfold CodePoint.IsLow at h
      exact scannedChar_of_surrogate (by omega) (by omega)
    rw [PyStr.joinSurrogates, if_pos hpair, List.flatMap_cons, List.flatMap_cons, hhigh, hlow,
      ← ih]
    exact if_pos ⟨⟨rfl, rfl⟩, hpair⟩
  | case2 first second text hpair ih =>
    rw [PyStr.joinSurrogates, if_neg hpair, ← ih, List.flatMap_cons]
    refine joinCodes_scannedChar fun scanned hscanned hhigh hcode hlow => hpair ⟨hhigh, ?_⟩
    refine isLow_of_scannedChar ?_ hcode hlow
    have hne : scannedChar second ≠ [] := by
      unfold scannedChar
      split_ifs <;> simp
    rwa [List.flatMap_cons, List.head?_append_of_ne_nil _ hne] at hscanned
  | case3 c =>
    rw [List.flatMap_singleton, ← List.append_nil (scannedChar c)]
    exact joinCodes_scannedChar fun first hfirst => by cases hfirst
  | case4 => rfl

/-- A written string is read with its surrogates joined. -/
theorem scanstring_encoded (s rest : PyStr) :
    scanstring (s.flatMap encodeChar ++ ofChar '"' :: rest) = .ok (s.joinSurrogates, rest) := by
  rw [scanstring, scanChars_encoded, ← joinCodes_scanned]
  rfl

end Strings

/-- A text that can follow a value: nothing, a comma or a closing bracket. -/
def Ends (rest : PyStr) : Prop :=
  ∀ c ∈ rest.head?, c = ofChar ',' ∨ c = ofChar ']' ∨ c = ofChar '}'

section Integers

variable {rest : PyStr}

theorem ends_cons {c : CodePoint} (h : c = ofChar ',' ∨ c = ofChar ']' ∨ c = ofChar '}')
    (tail : PyStr) : Ends (c :: tail) := by
  intro d hd
  cases hd
  exact h

/-- What follows a value goes on with no number. -/
theorem Ends.number (h : Ends rest) :
    rest.takeWhile isDigit = [] ∧ rest.dropWhile isDigit = rest ∧ fraction rest = ([], rest) ∧
      exponent rest = ([], rest) := by
  cases rest with
  | nil => exact ⟨rfl, rfl, rfl, rfl⟩
  | cons c tail =>
    have hc : isDigit c = false ∧ c ≠ ofChar '.' ∧ c ≠ ofChar 'e' ∧ c ≠ ofChar 'E' := by
      rcases h c rfl with rfl | rfl | rfl <;> decide
    simp [fraction, exponent, hc]

theorem isDigit_decimal (n : Nat) : ∀ c ∈ decimal n, isDigit c = true := by
  intro c hc
  obtain ⟨d, hd, rfl⟩ := List.mem_map.mp hc
  have hdigit := Nat.isDigit_of_mem_toDigits (by decide) (by decide) hd
  simp only [Char.isDigit, Bool.and_eq_true, decide_eq_true_eq] at hdigit
  simp only [isDigit, CodePoint.val_ofChar, Bool.decide_and, Bool.and_eq_true, decide_eq_true_eq]
  exact hdigit

theorem ofDigits_decimal (n : Nat) : ofDigits (decimal n) = n := by
  rw [ofDigits, decimal, List.foldl_map]
  simp only [CodePoint.val_ofChar]
  exact Nat.ofDigitChars_eq_foldl.symm.trans Nat.ofDigitChars_ten_toDigits

theorem length_decimal_le_iff {n k : Nat} (hk : 0 < k) :
    (decimal n).length ≤ k ↔ n < 10 ^ k := by
  rw [decimal, List.length_map, Nat.length_toDigits_le_iff (by decide) hk]

/-- Only zero is written with a zero in front. -/
theorem decimal_eq_cons {n : Nat} (hn : 0 < n) :
    ∃ c tail, decimal n = c :: tail ∧ c ≠ ofChar '0' := by
  induction n using Nat.strong_induction_on with
  | _ n ih =>
    by_cases hlt : n < 10
    · have hdigit : ∀ n < 10, 0 < n → ofChar (Nat.digitChar n) ≠ ofChar '0' := by decide
      exact ⟨_, [], by rw [decimal, Nat.toDigits_of_lt_base hlt]; rfl, hdigit n hlt hn⟩
    · obtain ⟨c, tail, hdecimal, hne⟩ := ih (n / 10) (by omega) (by omega)
      refine ⟨c, tail ++ [ofChar (Nat.digitChar (n % 10))], ?_, hne⟩
      rw [decimal, Nat.toDigits_of_base_le (by decide) (by omega), List.map_append, ← decimal,
        hdecimal]
      rfl

theorem integer_decimal (n : Nat) (h : Ends rest) :
    integer (decimal n ++ rest) = some (decimal n, rest) := by
  obtain ⟨htake, hdrop, -, -⟩ := h.number
  rcases Nat.eq_zero_or_pos n with rfl | hn
  · rfl
  · obtain ⟨c, tail, hdecimal, hne⟩ := decimal_eq_cons hn
    have hdigits := isDigit_decimal n
    rw [hdecimal] at hdigits ⊢
    obtain ⟨hdigit, htail⟩ := List.forall_mem_cons.mp hdigits
    rw [List.cons_append]
    simp only [integer, if_neg hne, hdigit, if_true, List.takeWhile_append_of_pos htail,
      List.dropWhile_append_of_pos htail, htake, hdrop, List.append_nil]

theorem decimal_eq_digit_cons (n : Nat) :
    ∃ c tail, decimal n = c :: tail ∧ isDigit c = true := by
  cases hdecimal : decimal n with
  | nil =>
    have hlength : (decimal n).length = 0 := by rw [hdecimal]; rfl
    rw [decimal, List.length_map] at hlength
    exact absurd hlength (Nat.length_toDigits_pos).ne'
  | cons c tail => exact ⟨c, tail, rfl, isDigit_decimal n c (by rw [hdecimal]; simp)⟩

theorem ne_of_isDigit {c d : CodePoint} (hc : isDigit c = true) (hd : isDigit d = false) :
    c ≠ d := by
  rintro rfl
  rw [hc] at hd
  cases hd

theorem sign_decimal (n : Nat) : sign (decimal n ++ rest) = ([], decimal n ++ rest) := by
  obtain ⟨c, tail, hdecimal, hdigit⟩ := decimal_eq_digit_cons n
  have hne : c ≠ ofChar '-' := ne_of_isDigit hdigit (by decide)
  rw [hdecimal, List.cons_append, sign, if_neg hne]

/-- A written integer is read back. -/
theorem matchNumber_intText {value : Int} (hvalue : Convertible value) (h : Ends rest) :
    matchNumber floatRepr (intText value ++ rest) = .ok (.int value, rest) := by
  obtain ⟨-, -, hfraction, hexponent⟩ := h.number
  have hlength : (decimal value.natAbs).length ≤ maxStrDigits :=
    (length_decimal_le_iff (by decide)).mpr hvalue
  unfold intText
  split_ifs with hneg
  · simp only [matchNumber, List.cons_append, sign, if_true, integer_decimal _ h, hfraction,
      hexponent, and_self, hlength, List.cons_ne_nil, if_false, ofDigits_decimal, Except.ok.injEq,
      Prod.mk.injEq, JsonValue.int.injEq, and_true]
    omega
  · simp only [matchNumber, sign_decimal, integer_decimal _ h, hfraction, hexponent, and_self,
      hlength, if_true, ofDigits_decimal, Except.ok.injEq, Prod.mk.injEq, JsonValue.int.injEq,
      and_true]
    omega

end Integers

/-- A character is written in ASCII. -/
theorem ascii_encodeChar (c : CodePoint) : ∀ d ∈ encodeChar c, d.val < 0x80 := by
  have hcode : ∀ c, ∀ d ∈ codeEscape c, d.val < 0x80 := by
    intro c
    refine List.forall_mem_cons.mpr ⟨by decide, List.forall_mem_cons.mpr ⟨by decide, ?_⟩⟩
    refine List.forall_mem_map.mpr ?_
    exact Hex.forall_mem_pad (p := fun digit => (ofChar digit).val < 0x80) (by decide) 4 c.val
  unfold encodeChar
  cases hlookup : escapeDct.lookup c with
  | some letter =>
    have hall : ∀ p ∈ escapeDct, p.2.val < 0x80 := by decide
    obtain ⟨before, after, hdct, -⟩ := List.lookup_eq_some_iff.mp hlookup
    have hletter : letter.val < 0x80 := hall (c, letter) (hdct ▸ by simp)
    exact List.forall_mem_cons.mpr ⟨by decide, List.forall_mem_singleton.mpr hletter⟩
  | none =>
    dsimp only
    split_ifs with hplain hsmall
    · exact List.forall_mem_singleton.mpr (hplain.2.trans_lt (by decide))
    · exact hcode c
    · exact List.forall_mem_append.mpr ⟨hcode _, hcode _⟩

theorem ascii_encodeBasestringAscii (text : PyStr) :
    ∀ d ∈ encodeBasestringAscii text, d.val < 0x80 := by
  refine List.forall_mem_append.mpr ⟨List.forall_mem_cons.mpr ⟨by decide, ?_⟩,
    List.forall_mem_singleton.mpr (by decide)⟩
  intro d hd
  obtain ⟨c, _, hd⟩ := List.mem_flatMap.mp hd
  exact ascii_encodeChar c d hd

theorem ascii_intText (value : Int) : ∀ d ∈ intText value, d.val < 0x80 := by
  have hdecimal : ∀ d ∈ decimal value.natAbs, d.val < 0x80 := by
    intro d hd
    have hdigit : 0x30 ≤ d.val ∧ d.val ≤ 0x39 := by
      simpa [isDigit] using isDigit_decimal value.natAbs d hd
    omega
  unfold intText
  split_ifs
  · exact List.forall_mem_cons.mpr ⟨by decide, hdecimal⟩
  · exact hdecimal

theorem ascii_commaSeparated {texts : List PyStr} (h : ∀ text ∈ texts, ∀ d ∈ text, d.val < 0x80) :
    ∀ d ∈ commaSeparated texts, d.val < 0x80 := by
  induction texts with
  | nil => simp [commaSeparated]
  | cons text texts ih =>
    obtain ⟨htext, htexts⟩ := List.forall_mem_cons.mp h
    cases texts with
    | nil => exact htext
    | cons text' texts =>
      exact List.forall_mem_append.mpr ⟨htext, List.forall_mem_cons.mpr ⟨by decide,
        List.forall_mem_cons.mpr ⟨by decide, ih htexts⟩⟩⟩

end JsonDecoder

end SupplyChainTracker
