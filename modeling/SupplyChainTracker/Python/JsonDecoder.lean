import SupplyChainTracker.Core.Except
import SupplyChainTracker.Python.JsonEncoder

/-!
# `json.loads`

The scanner of `json.loads` as the C implementation of CPython has it. A scanner takes a text and
returns what it has read with the rest of the text. A container hands the scanner of its items to a
loop, so the recursion is one over the depth of the nesting; both the depth and the number of
turns of a loop are bounded by the length of the text, which is enough for every text.
-/

namespace SupplyChainTracker.JsonDecoder

open CodePoint (ofChar)
open JsonEncoder (maxStrDigits)

/-- `WHITESPACE`. -/
def isSpace (c : CodePoint) : Bool := c = ' ' ∨ c = '\t' ∨ c = '\n' ∨ c = '\r'

/-- The text after the whitespace. -/
def skipSpace (text : PyStr) : PyStr := text.dropWhile isSpace

/-- `BACKSLASH`. -/
def backslash : List (CodePoint × CodePoint) :=
  [('"', '"'), ('\\', '\\'), ('/', '/'), ('b', '\x08'), ('f', '\x0c'), ('n', '\n'), ('r', '\r'),
    ('t', '\t')]

/-- The value of a hexadecimal digit. -/
def hexDigit? (c : CodePoint) : Option Nat :=
  if 0x30 ≤ c.val ∧ c.val ≤ 0x39 then some (c.val - 0x30)
  else if 0x61 ≤ c.val ∧ c.val ≤ 0x66 then some (c.val - 0x57)
  else if 0x41 ≤ c.val ∧ c.val ≤ 0x46 then some (c.val - 0x37)
  else none

/-- The code point that four hexadecimal digits stand for. -/
def decodeUXXXX (c₁ c₂ c₃ c₄ : CodePoint) : Option CodePoint := do
  let n₁ ← hexDigit? c₁
  let n₂ ← hexDigit? c₂
  let n₃ ← hexDigit? c₃
  let n₄ ← hexDigit? c₄
  return .ofNat (((n₁ * 16 + n₂) * 16 + n₃) * 16 + n₄)

/-- A character of a string, and whether it was given by its code. -/
structure Scanned where
  char : CodePoint
  byCode : Bool

/-- The characters of a string up to its closing quote. -/
def scanChars : PyStr → Except JsonError (List Scanned × PyStr)
  | [] => .error .jsonDecodeError
  | c :: text =>
      if c = '"' then .ok ([], text)
      else if c = '\\' then
        match text with
        | [] => .error .jsonDecodeError
        | letter :: text =>
            if letter = 'u' then
              match text with
              | c₁ :: c₂ :: c₃ :: c₄ :: text =>
                  match decodeUXXXX c₁ c₂ c₃ c₄ with
                  | some char => (scanChars text).map fun p => (⟨char, true⟩ :: p.1, p.2)
                  | none => .error .jsonDecodeError
              | _ => .error .jsonDecodeError
            else
              match backslash.lookup letter with
              | some char => (scanChars text).map fun p => (⟨char, false⟩ :: p.1, p.2)
              | none => .error .jsonDecodeError
      else if c.val ≤ 0x1f then .error .jsonDecodeError
      else (scanChars text).map fun p => (⟨c, false⟩ :: p.1, p.2)

/-- Two surrogates that are given by their codes one after the other make one character. -/
def joinCodes : List Scanned → PyStr
  | first :: second :: chars =>
      if (first.byCode ∧ second.byCode) ∧ first.char.IsHigh ∧ second.char.IsLow then
        .join first.char second.char :: joinCodes chars
      else first.char :: joinCodes (second :: chars)
  | [last] => [last.char]
  | [] => []

/-- `scanstring`, of the text after the opening quote. -/
def scanstring (text : PyStr) : Except JsonError (PyStr × PyStr) := do
  let (chars, rest) ← scanChars text
  return (joinCodes chars, rest)

/-- The constants, with the `repr` of those that are floats. -/
def constants : List (PyStr × JsonValue) :=
  [(.ofString "null", .none), (.ofString "true", .bool true), (.ofString "false", .bool false),
    (.ofString "NaN", .float (.ofString "nan")), (.ofString "Infinity", .float (.ofString "inf")),
    (.ofString "-Infinity", .float (.ofString "-inf"))]

/-- A constant that the text begins with. -/
def constant? (text : PyStr) : Option (JsonValue × PyStr) :=
  constants.findSome? fun p => (text.dropPrefix? p.1).map fun rest => (p.2, rest)

/-- A decimal digit. -/
def isDigit (c : CodePoint) : Bool := 0x30 ≤ c.val ∧ c.val ≤ 0x39

/-- The number that decimal digits stand for. -/
def ofDigits (digits : PyStr) : Nat := digits.foldl (fun n c => 10 * n + (c.val - 0x30)) 0

/-- The sign of a number. -/
def sign (text : PyStr) : PyStr × PyStr :=
  match text with
  | [] => ([], [])
  | c :: rest => if c = '-' then ([c], rest) else ([], text)

/-- The digits before the point: a zero, or digits of which the first is no zero. -/
def integer (text : PyStr) : Option (PyStr × PyStr) :=
  match text with
  | [] => none
  | c :: rest =>
      if c = '0' then some ([c], rest)
      else if isDigit c then some (c :: rest.takeWhile isDigit, rest.dropWhile isDigit)
      else none

/-- The point and the digits after it, or nothing. -/
def fraction (text : PyStr) : PyStr × PyStr :=
  match text with
  | [] => ([], [])
  | c :: rest =>
      if c = '.' ∧ rest.takeWhile isDigit ≠ [] then
        (c :: rest.takeWhile isDigit, rest.dropWhile isDigit)
      else ([], text)

/-- The exponent, or nothing. -/
def exponent (text : PyStr) : PyStr × PyStr :=
  match text with
  | [] => ([], [])
  | c :: rest =>
      if c = 'e' ∨ c = 'E' then
        let (sign, digits) :=
          match rest with
          | [] => ([], [])
          | s :: digits => if s = '+' ∨ s = '-' then ([s], digits) else ([], rest)
        if digits.takeWhile isDigit ≠ [] then
          (c :: sign ++ digits.takeWhile isDigit, digits.dropWhile isDigit)
        else ([], text)
      else ([], text)

section Loads

-- `repr(float(literal))`.
variable (floatRepr : PyStr → PyStr)

/-- `_match_number`: an integer unless there is a fraction or an exponent. -/
def matchNumber (text : PyStr) : Except JsonError (JsonValue × PyStr) :=
  let (minus, unsigned) := sign text
  match integer unsigned with
  | none => .error .jsonDecodeError
  | some (digits, rest) =>
      let (frac, rest) := fraction rest
      let (exp, rest) := exponent rest
      if frac = [] ∧ exp = [] then
        if digits.length ≤ maxStrDigits then
          .ok (.int (if minus = [] then ofDigits digits else -ofDigits digits), rest)
        else .error .valueError
      else .ok (.float (floatRepr (minus ++ digits ++ frac ++ exp)), rest)

/-! ## Containers -/

/-- The items of a container up to its closing bracket, in at most so many turns. -/
def scanItems {α : Type} (close : CodePoint) (item : PyStr → Except JsonError (α × PyStr)) :
    Nat → PyStr → Except JsonError (List α × PyStr)
  | 0, _ => .error .unfinished
  | turns + 1, text => do
      let (first, rest) ← item text
      match skipSpace rest with
      | [] => .error .jsonDecodeError
      | c :: rest =>
          if c = close then return ([first], rest)
          else if c = ',' then do
            let (others, rest) ← scanItems close item turns (skipSpace rest)
            return (first :: others, rest)
          else .error .jsonDecodeError

/-- A container, of the text after its opening bracket. -/
def scanContainer {α : Type} (close : CodePoint) (item : PyStr → Except JsonError (α × PyStr))
    (text : PyStr) : Except JsonError (List α × PyStr) :=
  match skipSpace text with
  | [] => .error .jsonDecodeError
  | c :: rest =>
      if c = close then .ok ([], rest) else scanItems close item text.length (c :: rest)

/-- A key and its value. -/
def scanPair (value : PyStr → Except JsonError (JsonValue × PyStr)) (text : PyStr) :
    Except JsonError ((PyStr × JsonValue) × PyStr) :=
  match text with
  | [] => .error .jsonDecodeError
  | c :: text =>
      if c = '"' then do
        let (key, rest) ← scanstring text
        match skipSpace rest with
        | [] => .error .jsonDecodeError
        | c :: rest =>
            if c = ':' then do
              let (value, rest) ← value (skipSpace rest)
              return ((key, value), rest)
            else .error .jsonDecodeError
      else .error .jsonDecodeError

/-- `d[key] = value`. -/
def assign (key : PyStr) (value : JsonValue) : List (PyStr × JsonValue) → List (PyStr × JsonValue)
  | [] => [(key, value)]
  | (k, v) :: items => if k = key then (k, value) :: items else (k, v) :: assign key value items

/-- The items of the `dict` of some pairs, of which a later one replaces an earlier one. -/
def dictOfPairs (pairs : List (PyStr × JsonValue)) : List (PyStr × JsonValue) :=
  pairs.foldl (fun items p => assign p.1 p.2 items) []

/-- `scan_once`, for values of less than the given depth. -/
def scanOnce : Nat → PyStr → Except JsonError (JsonValue × PyStr)
  | 0, _ => .error .unfinished
  | _ + 1, [] => .error .jsonDecodeError
  | depth + 1, c :: text =>
      if c = '"' then do
        let (s, rest) ← scanstring text
        return (.str s, rest)
      else if c = '{' then do
        let (pairs, rest) ← scanContainer '}' (scanPair (scanOnce depth)) text
        return (.dict (dictOfPairs pairs), rest)
      else if c = '[' then do
        let (items, rest) ← scanContainer ']' (scanOnce depth) text
        return (.list items, rest)
      else
        match constant? (c :: text) with
        | some (value, rest) => .ok (value, rest)
        | none => matchNumber floatRepr (c :: text)

/-- `json.loads`. -/
def loads (text : PyStr) : Except JsonError JsonValue :=
  if text.head? = some (ofChar '\ufeff') then .error .jsonDecodeError
  else do
    let (value, rest) ← scanOnce floatRepr (text.length + 1) (skipSpace text)
    if skipSpace rest = [] then .ok value else .error .jsonDecodeError

end Loads

theorem length_skipSpace_le (text : PyStr) : (skipSpace text).length ≤ text.length :=
  (List.dropWhile_suffix isSpace).length_le

theorem length_lt_of_skipSpace {text rest : PyStr} {c : CodePoint}
    (h : skipSpace text = c :: rest) : rest.length < text.length := by
  have hle := length_skipSpace_le text
  rw [h, List.length_cons] at hle
  omega

section Chars

variable {c letter char c₁ c₂ c₃ c₄ : CodePoint} {text rest : PyStr}

theorem scanChars_quote (text : PyStr) : scanChars (ofChar '"' :: text) = .ok ([], text) := by
  rw [scanChars.eq_def]
  exact if_pos rfl

theorem scanChars_code (h : decodeUXXXX c₁ c₂ c₃ c₄ = some char) :
    scanChars (ofChar '\\' :: ofChar 'u' :: c₁ :: c₂ :: c₃ :: c₄ :: text) =
      (scanChars text).map fun p => (⟨char, true⟩ :: p.1, p.2) := by
  rw [scanChars.eq_def (ofChar '\\' :: _)]
  simp [h]

theorem scanChars_letter (hletter : letter ≠ ofChar 'u')
    (h : backslash.lookup letter = some char) :
    scanChars (ofChar '\\' :: letter :: text) =
      (scanChars text).map fun p => (⟨char, false⟩ :: p.1, p.2) := by
  rw [scanChars.eq_def (ofChar '\\' :: _)]
  simp [hletter, h]

theorem scanChars_plain (hquote : c ≠ ofChar '"') (hbackslash : c ≠ ofChar '\\')
    (hcontrol : ¬ c.val ≤ 0x1f) :
    scanChars (c :: text) = (scanChars text).map fun p => (⟨c, false⟩ :: p.1, p.2) := by
  rw [scanChars.eq_def (c :: text)]
  simp [hquote, hbackslash, hcontrol]

/-- A scanned string is either ended by a quote or cannot be decoded; its characters are fewer
than those of the text. -/
theorem scanChars_cases (text : PyStr) :
    scanChars text = .error .jsonDecodeError ∨
      ∃ chars rest, scanChars text = .ok (chars, rest) ∧
        chars.length + rest.length < text.length := by
  have hmap : ∀ {text text' : PyStr} {char : Scanned}, text.length < text'.length →
      scanChars text' = (scanChars text).map (fun p => (char :: p.1, p.2)) →
      (scanChars text = .error .jsonDecodeError ∨
        ∃ chars rest, scanChars text = .ok (chars, rest) ∧
          chars.length + rest.length < text.length) →
      (scanChars text' = .error .jsonDecodeError ∨
        ∃ chars rest, scanChars text' = .ok (chars, rest) ∧
          chars.length + rest.length < text'.length) := by
    intro text text' char hlt hscan ih
    rw [hscan]
    rcases ih with h | ⟨chars, rest, h, hlength⟩
    · exact .inl (by rw [h]; rfl)
    · refine .inr ⟨char :: chars, rest, by rw [h]; rfl, ?_⟩
      rw [List.length_cons]
      omega
  induction text using scanChars.induct with
  | case1 => exact .inl rfl
  | case2 text => exact .inr ⟨[], text, scanChars_quote text, by simp⟩
  | case3 => exact .inl (by simp [scanChars.eq_def])
  | case4 c₁ c₂ c₃ c₄ text char h _ ih =>
    exact hmap (by simp only [List.length_cons]; omega) (scanChars_code h) ih
  | case5 c₁ c₂ c₃ c₄ text h => exact .inl (by simp [scanChars.eq_def, h])
  | case6 text h =>
    refine .inl ?_
    rw [scanChars.eq_def]
    simp only [CodePoint.ofChar_inj, Char.reduceEq, if_false, if_true]
  | case7 letter text hletter char h _ ih =>
    exact hmap (by simp only [List.length_cons]; omega) (scanChars_letter hletter h) ih
  | case8 letter text hletter h => exact .inl (by simp [scanChars.eq_def, hletter, h])
  | case9 c text hquote hbackslash hcontrol =>
    exact .inl (by rw [scanChars.eq_def]; simp [hquote, hbackslash, hcontrol])
  | case10 c text hquote hbackslash hcontrol ih =>
    exact hmap (by simp) (scanChars_plain hquote hbackslash hcontrol) ih

theorem length_joinCodes_le (chars : List Scanned) : (joinCodes chars).length ≤ chars.length := by
  induction chars using joinCodes.induct with
  | case1 first second chars hpair ih =>
    rw [joinCodes, if_pos hpair]
    simp only [List.length_cons]
    omega
  | case2 first second chars hpair ih =>
    rw [joinCodes, if_neg hpair]
    simp only [List.length_cons] at ih ⊢
    omega
  | case3 last => exact le_rfl
  | case4 => exact le_rfl

/-- A string is shorter than the text that it is read from. -/
theorem scanstring_cases (text : PyStr) :
    scanstring text = .error .jsonDecodeError ∨
      ∃ s rest, scanstring text = .ok (s, rest) ∧ s.length + rest.length < text.length := by
  rcases scanChars_cases text with h | ⟨chars, rest, h, hlength⟩
  · exact .inl (by rw [scanstring, h]; rfl)
  · have hle := length_joinCodes_le chars
    exact .inr ⟨joinCodes chars, rest, by rw [scanstring, h]; rfl, by omega⟩

theorem length_scanstring {s : PyStr} (h : scanstring text = .ok (s, rest)) :
    s.length + rest.length < text.length := by
  rcases scanstring_cases text with herror | ⟨s', rest', hok, hlength⟩
  · rw [herror] at h
    cases h
  · rw [hok] at h
    cases h
    exact hlength

end Chars

section Scalars

variable {text rest digits : PyStr} {value : JsonValue} {floatRepr : PyStr → PyStr}

theorem mem_constants_of_constant? (h : constant? text = some (value, rest)) :
    ∃ p ∈ constants, value = p.2 ∧ text = p.1 ++ rest := by
  obtain ⟨p, hp, hprefix⟩ := List.exists_of_findSome?_eq_some h
  obtain ⟨rest', hrest, hpair⟩ := Option.map_eq_some_iff.mp hprefix
  obtain ⟨start, htext, hstart⟩ := List.dropPrefix?_eq_some_iff.mp hrest
  cases hpair
  exact ⟨p, hp, rfl, by rw [htext, eq_of_beq hstart]⟩

theorem length_constant? (h : constant? text = some (value, rest)) :
    rest.length < text.length := by
  obtain ⟨p, hp, -, rfl⟩ := mem_constants_of_constant? h
  have hpos : ∀ p ∈ constants, 0 < p.1.length := by decide
  have hp := hpos p hp
  rw [List.length_append]
  omega

theorem length_sign (text : PyStr) : (sign text).2.length ≤ text.length := by
  cases text with
  | nil => exact le_rfl
  | cons c rest =>
    unfold sign
    dsimp only
    split <;> simp

theorem length_integer (h : integer text = some (digits, rest)) : rest.length < text.length := by
  cases text with
  | nil => cases h
  | cons c tail =>
    have hle : (tail.dropWhile isDigit).length ≤ tail.length :=
      (List.dropWhile_suffix isDigit).length_le
    unfold integer at h
    dsimp only at h
    split_ifs at h
    · cases h
      exact Nat.lt_succ_self _
    · cases h
      exact Nat.lt_succ_of_le hle

theorem length_fraction (text : PyStr) : (fraction text).2.length ≤ text.length := by
  cases text with
  | nil => exact le_rfl
  | cons c rest =>
    have hle : (rest.dropWhile isDigit).length ≤ rest.length :=
      (List.dropWhile_suffix isDigit).length_le
    unfold fraction
    dsimp only
    split
    · exact Nat.le_succ_of_le hle
    · exact le_rfl

theorem length_exponent (text : PyStr) : (exponent text).2.length ≤ text.length := by
  have hle : ∀ text : PyStr, (text.dropWhile isDigit).length ≤ text.length :=
    fun text => (List.dropWhile_suffix isDigit).length_le
  cases text with
  | nil => exact le_rfl
  | cons c rest =>
    cases rest with
    | nil => simp [exponent]
    | cons s digits =>
      have hdigits := hle digits
      have hall := hle (s :: digits)
      simp only [List.length_cons] at hall
      unfold exponent
      dsimp only
      split_ifs <;> simp only [List.length_cons] <;> omega

/-- A number is not cut off, and something of the text is taken for it. -/
theorem matchNumber_cases (text : PyStr) :
    matchNumber floatRepr text = .error .jsonDecodeError ∨
      matchNumber floatRepr text = .error .valueError ∨
      ∃ value rest, matchNumber floatRepr text = .ok (value, rest) ∧
        rest.length < text.length := by
  have hsign := length_sign text
  unfold matchNumber
  cases hinteger : integer (sign text).2 with
  | none => exact .inl (by simp only [hinteger])
  | some p =>
    obtain ⟨digits, rest⟩ := p
    have hlt := length_integer hinteger
    have hfraction := length_fraction rest
    have hexponent := length_exponent (fraction rest).2
    simp only [hinteger]
    split_ifs
    · exact .inr (.inr ⟨_, _, rfl, by omega⟩)
    · exact .inr (.inr ⟨_, _, rfl, by omega⟩)
    · exact .inr (.inl rfl)
    · exact .inr (.inr ⟨_, _, rfl, by omega⟩)

end Scalars

section Steps

variable {α : Type} {item : PyStr → Except JsonError (α × PyStr)} {close c : CodePoint}
  {text rest tail key : PyStr} {first : α} {turns : Nat}
  {value : PyStr → Except JsonError (JsonValue × PyStr)}

theorem scanItems_of_nil (hscan : item text = .ok (first, rest)) (hspace : skipSpace rest = []) :
    scanItems close item (turns + 1) text = .error .jsonDecodeError := by
  simp only [scanItems, hscan, bind, Except.bind, hspace]

theorem scanItems_of_close (hscan : item text = .ok (first, rest))
    (hspace : skipSpace rest = close :: tail) :
    scanItems close item (turns + 1) text = .ok ([first], tail) := by
  simp only [scanItems, hscan, bind, Except.bind, hspace, if_true]
  rfl

theorem scanItems_of_comma (hclose : ofChar ',' ≠ close) (hscan : item text = .ok (first, rest))
    (hspace : skipSpace rest = ofChar ',' :: tail) :
    scanItems close item (turns + 1) text =
      scanItems close item turns (skipSpace tail) >>= fun p => .ok (first :: p.1, p.2) := by
  simp only [scanItems, hscan, bind, Except.bind, hspace, if_neg hclose, if_true]
  rfl

theorem scanItems_of_other (hclose : c ≠ close) (hcomma : c ≠ ofChar ',')
    (hscan : item text = .ok (first, rest)) (hspace : skipSpace rest = c :: tail) :
    scanItems close item (turns + 1) text = .error .jsonDecodeError := by
  simp only [scanItems, hscan, bind, Except.bind, hspace, if_neg hclose, if_neg hcomma]

theorem scanPair_of_nil (h : scanstring text = .ok (key, rest)) (hspace : skipSpace rest = []) :
    scanPair value (ofChar '"' :: text) = .error .jsonDecodeError := by
  simp only [scanPair, if_true, h, bind, Except.bind, hspace]

theorem scanPair_of_colon (h : scanstring text = .ok (key, rest))
    (hspace : skipSpace rest = ofChar ':' :: tail) :
    scanPair value (ofChar '"' :: text) =
      value (skipSpace tail) >>= fun p => .ok ((key, p.1), p.2) := by
  simp only [scanPair, if_true, h, bind, Except.bind, hspace]
  rfl

theorem scanPair_of_other (hcolon : c ≠ ofChar ':') (h : scanstring text = .ok (key, rest))
    (hspace : skipSpace rest = c :: tail) :
    scanPair value (ofChar '"' :: text) = .error .jsonDecodeError := by
  simp only [scanPair, if_true, h, bind, Except.bind, hspace, if_neg hcolon]

variable {floatRepr : PyStr → PyStr} {depth : Nat}

theorem scanOnce_quote :
    scanOnce floatRepr (depth + 1) (ofChar '"' :: text) =
      scanstring text >>= fun p => .ok (.str p.1, p.2) := by
  simp only [scanOnce, if_true]
  rfl

theorem scanOnce_brace :
    scanOnce floatRepr (depth + 1) (ofChar '{' :: text) =
      scanContainer '}' (scanPair (scanOnce floatRepr depth)) text >>=
        fun p => .ok (.dict (dictOfPairs p.1), p.2) := by
  simp only [scanOnce, CodePoint.ofChar_inj, Char.reduceEq, if_false, if_true]
  rfl

theorem scanOnce_bracket :
    scanOnce floatRepr (depth + 1) (ofChar '[' :: text) =
      scanContainer ']' (scanOnce floatRepr depth) text >>= fun p => .ok (.list p.1, p.2) := by
  simp only [scanOnce, CodePoint.ofChar_inj, Char.reduceEq, if_false, if_true]
  rfl

theorem scanOnce_scalar (hquote : c ≠ ofChar '"') (hbrace : c ≠ ofChar '{')
    (hbracket : c ≠ ofChar '[') :
    scanOnce floatRepr (depth + 1) (c :: text) =
      match constant? (c :: text) with
      | some (value, rest) => .ok (value, rest)
      | none => matchNumber floatRepr (c :: text) := by
  simp only [scanOnce, if_neg hquote, if_neg hbrace, if_neg hbracket]

end Steps

/-! ## Termination -/

/-- On a text a scanner is not cut off, and takes something of it for what it returns. -/
structure Settles {α : Type} (scan : PyStr → Except JsonError (α × PyStr)) (text : PyStr) :
    Prop where
  finished : scan text ≠ .error .unfinished
  shorter : ∀ a rest, scan text = .ok (a, rest) → rest.length < text.length

section Settles

variable {α : Type} {scan : PyStr → Except JsonError (α × PyStr)} {text rest : PyStr} {a : α}

theorem settles_of_ok (h : scan text = .ok (a, rest)) (hlt : rest.length < text.length) :
    Settles scan text := by
  refine ⟨fun herror => ?_, fun a' rest' hok => ?_⟩
  · rw [h] at herror
    cases herror
  · rw [h] at hok
    cases hok
    exact hlt

theorem settles_of_error {error : JsonError} (h : scan text = .error error)
    (hne : error ≠ .unfinished) : Settles scan text := by
  refine ⟨fun herror => ?_, fun a' rest' hok => ?_⟩
  · rw [h] at herror
    cases herror
    exact hne rfl
  · rw [h] at hok
    cases hok

theorem settles_of_decodeError (h : scan text = .error .jsonDecodeError) : Settles scan text :=
  settles_of_error h (by simp)

theorem settles_scanItems {item : PyStr → Except JsonError (α × PyStr)} {close : CodePoint}
    {n : Nat} (hitem : ∀ text, text.length ≤ n → Settles item text) {turns : Nat}
    (hn : text.length ≤ n) (hturns : text.length < 2 * turns) :
    Settles (scanItems close item turns) text := by
  induction turns generalizing text with
  | zero => omega
  | succ turns ih =>
    have hfirst := hitem text hn
    cases hscan : item text with
    | error error =>
      refine settles_of_error (by rw [scanItems, hscan]; rfl) ?_
      rintro rfl
      exact hfirst.finished hscan
    | ok p =>
      obtain ⟨first, rest⟩ := p
      have hrest := hfirst.shorter first rest hscan
      cases hspace : skipSpace rest with
      | nil => exact settles_of_decodeError (scanItems_of_nil hscan hspace)
      | cons c tail =>
        have htail := length_lt_of_skipSpace hspace
        have hnext := length_skipSpace_le tail
        by_cases hclose : c = close
        · subst hclose
          exact settles_of_ok (scanItems_of_close hscan hspace) (by omega)
        · by_cases hcomma : c = ofChar ','
          · subst hcomma
            have hstep : scanItems close item (turns + 1) text = _ :=
              scanItems_of_comma hclose hscan hspace
            have hothers := @ih (skipSpace tail) (by omega) (by omega)
            cases hrec : scanItems close item turns (skipSpace tail) with
            | error error =>
              rw [hrec] at hstep
              refine settles_of_error hstep ?_
              rintro rfl
              exact hothers.finished hrec
            | ok p =>
              have hlt := hothers.shorter p.1 p.2 hrec
              rw [hrec] at hstep
              exact settles_of_ok hstep (by omega)
          · exact settles_of_decodeError (scanItems_of_other hclose hcomma hscan hspace)

theorem settles_scanContainer {item : PyStr → Except JsonError (α × PyStr)} {close : CodePoint}
    (hitem : ∀ t, t.length ≤ text.length → Settles item t) :
    Settles (scanContainer close item) text := by
  have hle := length_skipSpace_le text
  cases hspace : skipSpace text with
  | nil => exact settles_of_decodeError (by simp only [scanContainer, hspace])
  | cons c rest =>
    rw [hspace, List.length_cons] at hle
    by_cases hclose : c = close
    · have hscan : scanContainer close item text = .ok ([], rest) := by
        simp only [scanContainer, hspace, if_pos hclose]
      exact settles_of_ok hscan (by omega)
    · have hscan : scanContainer close item text =
          scanItems close item text.length (c :: rest) := by
        simp only [scanContainer, hspace, if_neg hclose]
      have hitems : Settles (scanItems close item text.length) (c :: rest) :=
        settles_scanItems hitem hle (by rw [List.length_cons]; omega)
      refine ⟨fun h => hitems.finished (hscan.symm.trans h), fun a rest' h => ?_⟩
      have hlt := hitems.shorter a rest' (hscan.symm.trans h)
      rw [List.length_cons] at hlt
      omega

theorem settles_scanPair {value : PyStr → Except JsonError (JsonValue × PyStr)}
    (hvalue : ∀ t, t.length ≤ text.length → Settles value t) : Settles (scanPair value) text := by
  cases text with
  | nil => exact settles_of_decodeError rfl
  | cons c text =>
    by_cases hquote : c = ofChar '"'
    · subst hquote
      rcases scanstring_cases text with h | ⟨key, rest, h, hlength⟩
      · exact settles_of_decodeError (by rw [scanPair, if_pos rfl, h]; rfl)
      · cases hspace : skipSpace rest with
        | nil => exact settles_of_decodeError (scanPair_of_nil h hspace)
        | cons c tail =>
          have htail := length_lt_of_skipSpace hspace
          have hnext := length_skipSpace_le tail
          by_cases hcolon : c = ofChar ':'
          · subst hcolon
            have hstep : scanPair value (ofChar '"' :: text) = _ := scanPair_of_colon h hspace
            have hrest := hvalue (skipSpace tail) (by rw [List.length_cons]; omega)
            cases hscan : value (skipSpace tail) with
            | error error =>
              rw [hscan] at hstep
              refine settles_of_error hstep ?_
              rintro rfl
              exact hrest.finished hscan
            | ok p =>
              have hlt := hrest.shorter p.1 p.2 hscan
              rw [hscan] at hstep
              exact settles_of_ok hstep (by rw [List.length_cons]; omega)
          · exact settles_of_decodeError (scanPair_of_other hcolon h hspace)
    · exact settles_of_decodeError (by rw [scanPair, if_neg hquote])

/-- What is made of what a scanner returns comes with the same rest. -/
theorem settles_bind {β : Type} {scan' : PyStr → Except JsonError (β × PyStr)} {text' : PyStr}
    {f : α → β} (h : Settles scan text)
    (hscan : scan' text' = scan text >>= fun p => .ok (f p.1, p.2))
    (hlt : text.length ≤ text'.length) : Settles scan' text' := by
  cases hok : scan text with
  | error error =>
    rw [hok] at hscan
    refine settles_of_error hscan ?_
    rintro rfl
    exact h.finished hok
  | ok p =>
    have hshorter := h.shorter p.1 p.2 hok
    rw [hok] at hscan
    exact settles_of_ok hscan (by omega)

/-- Values of a depth that the length of the text bounds are read; by induction on the depth. -/
theorem settles_scanOnce {floatRepr : PyStr → PyStr} {depth : Nat} (h : text.length < depth) :
    Settles (scanOnce floatRepr depth) text := by
  induction depth generalizing text with
  | zero => omega
  | succ depth ih =>
    cases text with
    | nil => exact settles_of_decodeError rfl
    | cons c text =>
      rw [List.length_cons] at h
      have hdepth : ∀ t, t.length ≤ text.length → Settles (scanOnce floatRepr depth) t :=
        fun t ht => ih (by omega)
      by_cases hquote : c = ofChar '"'
      · subst hquote
        have hstring : Settles scanstring text := by
          rcases scanstring_cases text with herror | ⟨s, rest, hok, hlength⟩
          · exact settles_of_decodeError herror
          · exact settles_of_ok hok (by omega)
        exact settles_bind hstring scanOnce_quote (by simp)
      · by_cases hbrace : c = ofChar '{'
        · subst hbrace
          have hpairs : Settles (scanContainer '}' (scanPair (scanOnce floatRepr depth))) text :=
            settles_scanContainer fun t ht => settles_scanPair fun t' ht' =>
              hdepth t' (ht'.trans ht)
          exact settles_bind (f := fun pairs => .dict (dictOfPairs pairs)) hpairs scanOnce_brace
            (by simp)
        · by_cases hbracket : c = ofChar '['
          · subst hbracket
            exact settles_bind (settles_scanContainer hdepth) scanOnce_bracket (by simp)
          · have hscan : scanOnce floatRepr (depth + 1) (c :: text) = _ :=
              scanOnce_scalar hquote hbrace hbracket
            cases hconstant : constant? (c :: text) with
            | some p =>
              rw [hconstant] at hscan
              exact settles_of_ok hscan (length_constant? hconstant)
            | none =>
              rw [hconstant] at hscan
              rcases @matchNumber_cases floatRepr (c :: text) with
                hnumber | hnumber | ⟨value, rest, hnumber, hlt⟩
              · exact settles_of_decodeError (hscan.trans hnumber)
              · exact settles_of_error (hscan.trans hnumber) (by simp)
              · exact settles_of_ok (hscan.trans hnumber) hlt

end Settles

/-- `json.loads` is never cut off. -/
theorem loads_ne_unfinished (floatRepr : PyStr → PyStr) (text : PyStr) :
    loads floatRepr text ≠ .error .unfinished := by
  have hle := length_skipSpace_le text
  have hscan : Settles (scanOnce floatRepr (text.length + 1)) (skipSpace text) :=
    settles_scanOnce (by omega)
  unfold loads
  split
  · simp
  · intro h
    rcases bind_eq_error_iff.mp h with h | ⟨⟨value, rest⟩, -, h⟩
    · exact hscan.finished h
    · dsimp only at h
      split_ifs at h
      cases h

section Texts

variable {floatRepr : PyStr → PyStr} {text rest s : PyStr}

/-- A string is shorter than the JSON that it is read from. -/
theorem length_of_scanOnce_str {depth : Nat}
    (h : scanOnce floatRepr depth text = .ok (.str s, rest)) : s.length < text.length := by
  cases depth with
  | zero => cases h
  | succ depth =>
    cases text with
    | nil => cases h
    | cons c text =>
      by_cases hquote : c = ofChar '"'
      · subst hquote
        rw [scanOnce_quote] at h
        obtain ⟨⟨s', rest'⟩, hscan, h⟩ := bind_eq_ok_iff.mp h
        cases h
        have hlength := length_scanstring hscan
        rw [List.length_cons]
        dsimp only
        omega
      · by_cases hbrace : c = ofChar '{'
        · subst hbrace
          rw [scanOnce_brace] at h
          obtain ⟨p, -, h⟩ := bind_eq_ok_iff.mp h
          cases h
        · by_cases hbracket : c = ofChar '['
          · subst hbracket
            rw [scanOnce_bracket] at h
            obtain ⟨p, -, h⟩ := bind_eq_ok_iff.mp h
            cases h
          · rw [scanOnce_scalar hquote hbrace hbracket] at h
            split at h
            · rename_i hconstant
              cases h
              have hnot : ∀ p ∈ constants, ∀ s, p.2 ≠ .str s := by simp [constants]
              obtain ⟨p, hp, hvalue, -⟩ := mem_constants_of_constant? hconstant
              exact absurd hvalue.symm (hnot p hp s)
            · unfold matchNumber at h
              cases hinteger : integer (sign (c :: text)).2 with
              | none =>
                simp only [hinteger] at h
                cases h
              | some p =>
                simp only [hinteger] at h
                split_ifs at h <;> cases h

/-- No text is read as itself. -/
theorem loads_ne_self (text : PyStr) : loads floatRepr text ≠ .ok (.str text) := by
  intro h
  have hle := length_skipSpace_le text
  unfold loads at h
  split_ifs at h
  obtain ⟨⟨value, rest⟩, hscan, h⟩ := bind_eq_ok_iff.mp h
  dsimp only at h
  split_ifs at h
  cases h
  have hlt := length_of_scanOnce_str hscan
  omega

/-- A text at which neither a container nor a string, a constant or a number begins is not JSON. -/
theorem loads_of_no_value {c : CodePoint} {tail : PyStr}
    (hbom : text.head? ≠ some (ofChar '\ufeff')) (hspace : skipSpace text = c :: tail)
    (hchar : c ≠ ofChar '"' ∧ c ≠ ofChar '{' ∧ c ≠ ofChar '[')
    (hconstant : (constant? (c :: tail)).isNone = true)
    (hinteger : (integer (sign (c :: tail)).2).isNone = true) :
    loads floatRepr text = .error .jsonDecodeError := by
  have hnumber : matchNumber floatRepr (c :: tail) = .error .jsonDecodeError := by
    simp only [matchNumber, Option.isNone_iff_eq_none.mp hinteger]
  rw [loads, if_neg hbom, hspace, scanOnce_scalar hchar.1 hchar.2.1 hchar.2.2,
    Option.isNone_iff_eq_none.mp hconstant]
  simp only [hnumber]
  rfl

end Texts

end SupplyChainTracker.JsonDecoder
