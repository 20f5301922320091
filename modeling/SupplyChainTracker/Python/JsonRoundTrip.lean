import SupplyChainTracker.Python.JsonScalars

/-!
# Values through `json.dumps` and `json.loads`

The items of a container are written with commas between them and read one after the other. A
value without floats is read back as it was exactly if its integers can be converted and no text
in it has a high surrogate before a low one, which come back as one character.
-/

namespace SupplyChainTracker

open CodePoint (ofChar)
open JsonEncoder

namespace JsonDecoder

/-- A text that can begin a value or a pair. -/
def Starts (text : PyStr) : Prop :=
  ∃ c tail, text = c :: tail ∧ isSpace c = false ∧ c ≠ ofChar ']' ∧ c ≠ ofChar '}' ∧ c.val < 0x80

section Containers

variable {α β : Type} {rest : PyStr}

theorem skipSpace_of_starts {text : PyStr} (h : Starts text) (rest : PyStr) :
    skipSpace (text ++ rest) = text ++ rest := by
  obtain ⟨c, tail, rfl, hspace, -⟩ := h
  rw [List.cons_append, skipSpace, List.dropWhile_cons_of_neg (by simp [hspace])]

theorem length_pos_of_starts {text : PyStr} (h : Starts text) : 0 < text.length := by
  obtain ⟨c, tail, rfl, -⟩ := h
  exact Nat.succ_pos _

theorem commaSeparated_cons {text : PyStr} {texts : List PyStr} (h : texts ≠ []) :
    commaSeparated (text :: texts) =
      text ++ ofChar ',' :: ofChar ' ' :: commaSeparated texts := by
  cases texts with
  | nil => exact absurd rfl h
  | cons text' texts => rfl

theorem length_le_commaSeparated {texts : List PyStr} :
    ∀ text ∈ texts, text.length ≤ (commaSeparated texts).length := by
  induction texts with
  | nil => simp
  | cons first texts ih =>
    rcases eq_or_ne texts [] with rfl | hne
    · simp [commaSeparated]
    · rw [commaSeparated_cons hne, List.forall_mem_cons]
      simp only [List.length_append, List.length_cons]
      refine ⟨by omega, fun text htext => ?_⟩
      have hle := ih text htext
      omega

/-- An item is shorter than the container it is written in. -/
theorem length_lt_of_mem {first last : CodePoint} {text : PyStr} {texts : List PyStr}
    (h : text ∈ texts) :
    text.length < (first :: (commaSeparated texts ++ last :: rest)).length := by
  have hle := length_le_commaSeparated text h
  simp only [List.length_cons, List.length_append]
  omega

theorem length_le_of_starts {texts : List PyStr} (h : ∀ text ∈ texts, Starts text) :
    texts.length ≤ (commaSeparated texts).length := by
  induction texts with
  | nil => exact le_rfl
  | cons first texts ih =>
    obtain ⟨hfirst, htexts⟩ := List.forall_mem_cons.mp h
    have hpos := length_pos_of_starts hfirst
    rcases eq_or_ne texts [] with rfl | hne
    · exact hpos
    · have hle := ih htexts
      rw [commaSeparated_cons hne]
      simp only [List.length_append, List.length_cons]
      omega

theorem starts_commaSeparated {text : PyStr} {texts : List PyStr} (h : Starts text) :
    Starts (commaSeparated (text :: texts)) := by
  rcases eq_or_ne texts [] with rfl | hne
  · exact h
  · obtain ⟨c, tail, rfl, hc⟩ := h
    rw [commaSeparated_cons hne]
    exact ⟨c, _, rfl, hc⟩

variable {item : PyStr → Except JsonError (α × PyStr)} {close : CodePoint} {text : β → PyStr}
  {f : β → α}

/-- The items that are written with commas between them are read one after the other. -/
theorem scanItems_commaSeparated (hclose : close = ofChar ']' ∨ close = ofChar '}') {bs : List β}
    (hne : bs ≠ []) (hstarts : ∀ b ∈ bs, Starts (text b))
    (hitem : ∀ b ∈ bs, ∀ rest, Ends rest → item (text b ++ rest) = .ok (f b, rest)) {turns : Nat}
    (hturns : bs.length ≤ turns) :
    scanItems close item turns (commaSeparated (bs.map text) ++ close :: rest) =
      .ok (bs.map f, rest) := by
  have hends : Ends (close :: rest) := ends_cons (.inr hclose) rest
  have hspace : skipSpace (close :: rest) = close :: rest := by
    rcases hclose with rfl | rfl <;> rfl
  have hcomma : ofChar ',' ≠ close := by
    rcases hclose with rfl | rfl <;> simp
  induction bs generalizing turns with
  | nil => exact absurd rfl hne
  | cons b bs ih =>
    obtain ⟨hb, hbs⟩ := List.forall_mem_cons.mp hitem
    obtain ⟨hstart, hstarts⟩ := List.forall_mem_cons.mp hstarts
    obtain ⟨turns, rfl⟩ : ∃ n, turns = n + 1 := ⟨turns - 1, by simp at hturns; omega⟩
    rcases eq_or_ne bs [] with rfl | hrest
    · exact scanItems_of_close (hb _ hends) hspace
    · have htexts : bs.map text ≠ [] := fun h => hrest (List.map_eq_nil_iff.mp h)
      obtain ⟨b', bs', rfl⟩ := List.exists_cons_of_ne_nil hrest
      have hothers := @ih hrest hstarts hbs turns (by simpa using hturns)
      have hskip : skipSpace (ofChar ' ' :: (commaSeparated ((b' :: bs').map text) ++
          close :: rest)) = commaSeparated ((b' :: bs').map text) ++ close :: rest :=
        skipSpace_of_starts (starts_commaSeparated (hstarts b' (List.mem_cons_self ..))) _
      rw [List.map_cons, commaSeparated_cons htexts, List.append_assoc, List.cons_append,
        List.cons_append, scanItems_of_comma hcomma (hb _ (ends_cons (.inl rfl) _)) rfl, hskip,
        hothers]
      rfl

/-- A written container is read. -/
theorem scanContainer_commaSeparated (hclose : close = ofChar ']' ∨ close = ofChar '}')
    {bs : List β} (hstarts : ∀ b ∈ bs, Starts (text b))
    (hitem : ∀ b ∈ bs, ∀ rest, Ends rest → item (text b ++ rest) = .ok (f b, rest)) :
    scanContainer close item (commaSeparated (bs.map text) ++ close :: rest) =
      .ok (bs.map f, rest) := by
  have hlength : bs.length ≤ (commaSeparated (bs.map text)).length := by
    rw [← List.length_map text]
    exact length_le_of_starts (List.forall_mem_map.mpr hstarts)
  cases bs with
  | nil =>
    have hspace : skipSpace (close :: rest) = close :: rest := by
      rcases hclose with rfl | rfl <;> rfl
    simp only [List.map_nil, commaSeparated, List.nil_append, scanContainer, hspace, if_true]
  | cons b bs =>
    have hscan := @scanItems_commaSeparated α β rest item close text f hclose (b :: bs)
      (List.cons_ne_nil b bs) hstarts hitem _
      (hlength.trans (Nat.le_add_right _ (close :: rest).length))
    have hstart : Starts (commaSeparated ((b :: bs).map text)) :=
      starts_commaSeparated (hstarts b (List.mem_cons_self ..))
    have hspace := skipSpace_of_starts hstart (close :: rest)
    obtain ⟨c, tail, htext, -, hbracket, hbrace, -⟩ := hstart
    have hne : c ≠ close := by
      rcases hclose with rfl | rfl
      · exact hbracket
      · exact hbrace
    rw [← List.length_append] at hscan
    rw [htext] at hspace hscan ⊢
    rw [List.cons_append] at hspace hscan ⊢
    simp only [scanContainer, hspace, if_neg hne]
    exact hscan

end Containers

end JsonDecoder

namespace JsonValue

open JsonDecoder (dictOfPairs)

mutual

/-- `json.loads(json.dumps(value))`. -/
def throughJson : JsonValue → JsonValue
  | str text => str text.joinSurrogates
  | list items => list (throughJsonEach items)
  | dict items => dict (dictOfPairs (throughJsonItems items))
  | value => value

/-- The items of a list. -/
def throughJsonEach : List JsonValue → List JsonValue
  | [] => []
  | item :: items => throughJson item :: throughJsonEach items

/-- The pairs of a JSON object. -/
def throughJsonItems : List (PyStr × JsonValue) → List (PyStr × JsonValue)
  | [] => []
  | (key, value) :: items => (key.joinSurrogates, throughJson value) :: throughJsonItems items

end

theorem throughJsonEach_eq (items : List JsonValue) :
    throughJsonEach items = items.map throughJson := by
  induction items with
  | nil => rfl
  | cons item items ih => simp only [throughJsonEach, ih, List.map_cons]

theorem throughJsonItems_eq (items : List (PyStr × JsonValue)) :
    throughJsonItems items = items.map fun p => (p.1.joinSurrogates, p.2.throughJson) := by
  induction items with
  | nil => rfl
  | cons item items ih => simp only [throughJsonItems, ih, List.map_cons]

/-- There is no float in a value. -/
def FloatFree (value : JsonValue) : Prop := ∀ repr, float repr ∉ value.scalars

/-- No text in a value has a high surrogate before a low one. -/
def Joined (value : JsonValue) : Prop := ∀ text, str text ∈ value.scalars → text.Joined

variable {value : JsonValue} {items : List JsonValue} {entries : List (PyStr × JsonValue)}

theorem FloatFree.item (h : (list items).FloatFree) {item : JsonValue} (hitem : item ∈ items) :
    item.FloatFree :=
  fun repr hrepr => h repr (mem_scalars_list.mpr ⟨item, hitem, hrepr⟩)

theorem FloatFree.entry (h : (dict entries).FloatFree) {entry : PyStr × JsonValue}
    (hentry : entry ∈ entries) : entry.2.FloatFree :=
  fun repr hrepr => h repr (mem_scalars_dict.mpr ⟨entry, hentry, .inr hrepr⟩)

/-- Through JSON no float appears. -/
theorem FloatFree.throughJson (h : value.FloatFree) : value.throughJson.FloatFree := by
  induction value with
  | none => exact h
  | bool value => exact h
  | int value => exact h
  | float repr => exact h
  | str text =>
    intro repr hrepr
    rw [JsonValue.throughJson, scalars_leaf (by simp) (by simp)] at hrepr
    cases List.mem_singleton.mp hrepr
  | list items ih =>
    rw [JsonValue.throughJson, throughJsonEach_eq]
    intro repr hrepr
    obtain ⟨through, hthrough, hrepr⟩ := mem_scalars_list.mp hrepr
    obtain ⟨item, hitem, rfl⟩ := List.mem_map.mp hthrough
    exact ih item hitem (h.item hitem) repr hrepr
  | dict items ih =>
    rw [JsonValue.throughJson, throughJsonItems_eq]
    intro repr hrepr
    obtain ⟨pair, hpair, hrepr⟩ := mem_scalars_dict.mp hrepr
    obtain ⟨entry, hentry, rfl⟩ := List.mem_map.mp (JsonDecoder.mem_of_mem_dictOfPairs hpair)
    rcases hrepr with hkey | hrepr
    · cases hkey
    · exact ih entry hentry (h.entry hentry) repr hrepr

theorem joined_list_iff : (list items).Joined ↔ ∀ item ∈ items, item.Joined := by
  simp only [Joined, mem_scalars_list]
  exact ⟨fun h item hitem text htext => h text ⟨item, hitem, htext⟩,
    fun h text ⟨item, hitem, htext⟩ => h item hitem text htext⟩

theorem joined_dict_iff :
    (dict entries).Joined ↔ ∀ entry ∈ entries, entry.1.Joined ∧ entry.2.Joined := by
  simp only [Joined, mem_scalars_dict]
  constructor
  · intro h entry hentry
    exact ⟨h _ ⟨entry, hentry, .inl rfl⟩, fun text htext => h _ ⟨entry, hentry, .inr htext⟩⟩
  · rintro h text ⟨entry, hentry, hkey | hvalue⟩
    · cases hkey
      exact (h entry hentry).1
    · exact (h entry hentry).2 text hvalue

theorem map_eq_self_iff {α : Type} {f : α → α} {as : List α} :
    as.map f = as ↔ ∀ a ∈ as, f a = a := by
  have hid : as.map f = as ↔ as.map f = as.map id := by rw [List.map_id]
  exact hid.trans List.map_eq_map_iff

/-- A list comes back as it was if its items do. -/
theorem throughJson_list_eq_self_iff :
    (list items).throughJson = list items ↔ ∀ item ∈ items, item.throughJson = item := by
  rw [throughJson, throughJsonEach_eq, list.injEq, map_eq_self_iff]

/-- A `dict` comes back as it was if its keys and values do: there would be fewer items if two
keys came back as one. -/
theorem throughJson_dict_eq_self_iff (hkeys : (entries.map Prod.fst).Nodup) :
    (dict entries).throughJson = dict entries ↔
      ∀ entry ∈ entries, entry.1.joinSurrogates = entry.1 ∧ entry.2.throughJson = entry.2 := by
  have hpairs : (entries.map fun p => (p.1.joinSurrogates, p.2.throughJson)) = entries ↔
      ∀ entry ∈ entries, entry.1.joinSurrogates = entry.1 ∧ entry.2.throughJson = entry.2 := by
    rw [map_eq_self_iff]
    exact forall₂_congr fun entry _ => Prod.ext_iff
  rw [throughJson, throughJsonItems_eq, dict.injEq, ← hpairs]
  constructor
  · intro h
    have hlength := congrArg List.length h
    have hnodup := JsonDecoder.nodup_of_length_dictOfPairs (hlength.trans (List.length_map _).symm)
    rwa [JsonDecoder.dictOfPairs_of_nodup hnodup] at h
  · intro h
    rw [h, JsonDecoder.dictOfPairs_of_nodup hkeys]

/-- A value comes back as it was exactly if there are no surrogates to be joined in it. -/
theorem WellFormed.throughJson_eq_self_iff (h : WellFormed value) :
    value.throughJson = value ↔ value.Joined := by
  induction h with
  | @scalar value hlist hdict =>
    rw [Joined, scalars_leaf hlist hdict]
    cases value with
    | str text =>
      simp only [throughJson, str.injEq, PyStr.joinSurrogates_eq_self_iff, List.mem_singleton,
        forall_eq]
    | list items => exact absurd rfl (hlist items)
    | dict items => exact absurd rfl (hdict items)
    | _ => exact iff_of_true rfl fun text htext => by simp at htext
  | list items h ih =>
    rw [throughJson_list_eq_self_iff, joined_list_iff]
    exact forall₂_congr ih
  | dict items hkeys h ih =>
    rw [throughJson_dict_eq_self_iff hkeys, joined_dict_iff]
    exact forall₂_congr fun entry hentry =>
      and_congr PyStr.joinSurrogates_eq_self_iff (ih entry hentry)

end JsonValue

namespace JsonDecoder

variable {floatRepr : PyStr → PyStr} {value : JsonValue}

theorem starts_decimal (n : Nat) : Starts (decimal n) := by
  obtain ⟨c, tail, hdecimal, hdigit⟩ := decimal_eq_digit_cons n
  have hval : 0x30 ≤ c.val ∧ c.val ≤ 0x39 := by simpa [isDigit] using hdigit
  have hne : ∀ {d}, isDigit d = false → c ≠ d := ne_of_isDigit hdigit
  refine ⟨c, tail, hdecimal, ?_, hne (by decide), hne (by decide), by omega⟩
  have hspace : c ≠ ofChar ' ' ∧ c ≠ ofChar '\t' ∧ c ≠ ofChar '\n' ∧ c ≠ ofChar '\r' :=
    ⟨hne (by decide), hne (by decide), hne (by decide), hne (by decide)⟩
  simp [isSpace, hspace]

/-- A value is written as a text that can begin an item. -/
theorem starts_encode (h : value.FloatFree) : Starts (encode value) := by
  have hchar : ∀ (c : CodePoint) (tail : PyStr), isSpace c = false → c ≠ ofChar ']' →
      c ≠ ofChar '}' → c.val < 0x80 → Starts (c :: tail) :=
    fun c tail hspace hbracket hbrace hval => ⟨c, tail, rfl, hspace, hbracket, hbrace, hval⟩
  cases value with
  | none => exact hchar _ _ (by decide) (by decide) (by decide) (by decide)
  | bool value =>
    cases value <;> exact hchar _ _ (by decide) (by decide) (by decide) (by decide)
  | int value =>
    rw [encode, intText]
    split_ifs
    · exact hchar _ _ (by decide) (by decide) (by decide) (by decide)
    · exact starts_decimal _
  | float repr => exact absurd (by simp [JsonValue.scalars]) (h repr)
  | str text => exact hchar _ _ (by decide) (by decide) (by decide) (by decide)
  | list items => exact hchar _ _ (by decide) (by decide) (by decide) (by decide)
  | dict items => exact hchar _ _ (by decide) (by decide) (by decide) (by decide)

/-- A value is written in ASCII. -/
theorem ascii_encode (h : value.FloatFree) : ∀ d ∈ encode value, d.val < 0x80 := by
  have hbrackets : ∀ {first last : CodePoint} {text : PyStr}, first.val < 0x80 →
      last.val < 0x80 → (∀ d ∈ text, d.val < 0x80) →
      ∀ d ∈ first :: text ++ [last], d.val < 0x80 := fun hfirst hlast htext =>
    List.forall_mem_append.mpr ⟨List.forall_mem_cons.mpr ⟨hfirst, htext⟩,
      List.forall_mem_singleton.mpr hlast⟩
  induction value with
  | none => decide
  | bool value => cases value <;> decide
  | int value => exact ascii_intText value
  | float repr => exact absurd (by simp [JsonValue.scalars]) (h repr)
  | str text => exact ascii_encodeBasestringAscii text
  | list items ih =>
    rw [encode, encodeEach_eq]
    refine hbrackets (by decide) (by decide) (ascii_commaSeparated ?_)
    exact List.forall_mem_map.mpr fun item hitem => ih item hitem (h.item hitem)
  | dict items ih =>
    rw [encode, encodeItems_eq]
    refine hbrackets (by decide) (by decide) (ascii_commaSeparated ?_)
    refine List.forall_mem_map.mpr fun entry hentry => List.forall_mem_append.mpr
      ⟨ascii_encodeBasestringAscii entry.1, List.forall_mem_cons.mpr ⟨by decide,
        List.forall_mem_cons.mpr ⟨by decide, ih entry hentry (h.entry hentry)⟩⟩⟩

/-- The first two characters tell the constants apart. -/
theorem eq_of_take_two {p q : PyStr × JsonValue} (hp : p ∈ constants) (hq : q ∈ constants)
    {rest rest' : PyStr} (h : p.1 ++ rest = q.1 ++ rest') : p = q := by
  have hlength : ∀ p ∈ constants, 2 ≤ p.1.length := by decide
  have hnodup : (constants.map fun p => p.1.take 2).Nodup := by decide
  have htake := congrArg (List.take 2) h
  rw [List.take_append_of_le_length (hlength p hp),
    List.take_append_of_le_length (hlength q hq)] at htake
  exact List.inj_on_of_nodup_map hnodup hp hq htake

theorem constant?_append {p : PyStr × JsonValue} (hp : p ∈ constants) (rest : PyStr) :
    constant? (p.1 ++ rest) = some (p.2, rest) := by
  cases h : constant? (p.1 ++ rest) with
  | none =>
    have hnone := List.findSome?_eq_none_iff.mp h p hp
    rw [List.dropPrefix?_append_of_beq rest (beq_self_eq_true p.1)] at hnone
    cases hnone
  | some q =>
    obtain ⟨p', hp', hvalue, htext⟩ := mem_constants_of_constant? h
    obtain rfl := eq_of_take_two hp hp' htext
    rw [List.append_cancel_left htext, ← hvalue]

/-- A constant is read. -/
theorem scanOnce_constant {p : PyStr × JsonValue} (hp : p ∈ constants) {depth : Nat}
    {rest : PyStr} : scanOnce floatRepr (depth + 1) (p.1 ++ rest) = .ok (p.2, rest) := by
  have hhead : ∀ p ∈ constants, ∀ c ∈ p.1.head?,
      c ≠ ofChar '"' ∧ c ≠ ofChar '{' ∧ c ≠ ofChar '[' := by decide
  have hlength : ∀ p ∈ constants, 2 ≤ p.1.length := by decide
  have hconstant := constant?_append hp rest
  cases htext : p.1 with
  | nil =>
    have h := hlength p hp
    rw [htext] at h
    cases h
  | cons c tail =>
    obtain ⟨hquote, hbrace, hbracket⟩ := hhead p hp c (by rw [htext]; rfl)
    rw [htext, List.cons_append] at hconstant
    rw [List.cons_append, scanOnce_scalar hquote hbrace hbracket, hconstant]

/-- There is a digit among the first two characters of a written integer, and none among those of
a constant. -/
theorem constant?_intText (n : Int) (rest : PyStr) : constant? (intText n ++ rest) = none := by
  obtain ⟨c, tail, hdecimal, hdigit⟩ := decimal_eq_digit_cons n.natAbs
  have hint : ((intText n ++ rest).take 2).any isDigit = true := by
    unfold intText
    split_ifs <;> simp [hdecimal, hdigit]
  have hconstants : ∀ p ∈ constants, 2 ≤ p.1.length ∧ (p.1.take 2).any isDigit = false := by
    decide
  cases h : constant? (intText n ++ rest) with
  | none => rfl
  | some q =>
    obtain ⟨p, hp, -, htext⟩ := mem_constants_of_constant? h
    obtain ⟨hlength, hnone⟩ := hconstants p hp
    rw [htext, List.take_append_of_le_length hlength, hnone] at hint
    cases hint

theorem scanOnce_intText {n : Int} (hn : Convertible n) {depth : Nat} {rest : PyStr}
    (hrest : Ends rest) :
    scanOnce floatRepr (depth + 1) (intText n ++ rest) = .ok (.int n, rest) := by
  obtain ⟨c, tail, htext, hquote, hbrace, hbracket⟩ : ∃ c tail, intText n = c :: tail ∧
      c ≠ ofChar '"' ∧ c ≠ ofChar '{' ∧ c ≠ ofChar '[' := by
    unfold intText
    split_ifs
    · exact ⟨_, _, rfl, by decide, by decide, by decide⟩
    · obtain ⟨c, tail, hdecimal, hdigit⟩ := decimal_eq_digit_cons n.natAbs
      exact ⟨c, tail, hdecimal, ne_of_isDigit hdigit (by decide),
        ne_of_isDigit hdigit (by decide), ne_of_isDigit hdigit (by decide)⟩
  have hconstant := constant?_intText n rest
  have hnumber : matchNumber floatRepr (intText n ++ rest) = .ok (.int n, rest) :=
    matchNumber_intText hn hrest
  rw [htext, List.cons_append] at hconstant hnumber ⊢
  rw [scanOnce_scalar hquote hbrace hbracket, hconstant]
  exact hnumber

/-- The text of an item of a `dict`. -/
def pairText (entry : PyStr × JsonValue) : PyStr :=
  encodeBasestringAscii entry.1 ++ ofChar ':' :: ofChar ' ' :: encode entry.2

theorem starts_pairText (entry : PyStr × JsonValue) : Starts (pairText entry) :=
  ⟨ofChar '"', _, rfl, by decide, by decide, by decide, by decide⟩

theorem length_encode_lt_pairText (entry : PyStr × JsonValue) :
    (encode entry.2).length < (pairText entry).length := by
  simp only [pairText, List.length_append, List.length_cons]
  omega

/-- A written key and value are read as a pair. -/
theorem scanPair_pairText {scan : PyStr → Except JsonError (JsonValue × PyStr)}
    {entry : PyStr × JsonValue} {rest : PyStr} {through : JsonValue}
    (hstarts : Starts (encode entry.2))
    (hvalue : scan (encode entry.2 ++ rest) = .ok (through, rest)) :
    scanPair scan (pairText entry ++ rest) = .ok ((entry.1.joinSurrogates, through), rest) := by
  have hskip : skipSpace (ofChar ' ' :: (encode entry.2 ++ rest)) = encode entry.2 ++ rest :=
    skipSpace_of_starts hstarts rest
  have htext : pairText entry ++ rest =
      ofChar '"' :: (entry.1.flatMap encodeChar ++ ofChar '"' :: ofChar ':' :: ofChar ' ' ::
        (encode entry.2 ++ rest)) := by
    simp [pairText, encodeBasestringAscii]
  rw [htext, scanPair_of_colon (scanstring_encoded entry.1 _) rfl, hskip, hvalue]
  rfl

/-- A value of some length has some depth. -/
theorem exists_depth (hfloat : value.FloatFree) {depth : Nat}
    (h : (encode value).length ≤ depth) : ∃ d, depth = d + 1 := by
  have hpos := length_pos_of_starts (starts_encode hfloat)
  exact ⟨depth - 1, by omega⟩

/-- A written value is read as the value that comes back through JSON; by induction on the
value. -/
theorem scanOnce_encode (hfloat : value.FloatFree) (hint : Convertibles value) {depth : Nat}
    (hdepth : (encode value).length ≤ depth) {rest : PyStr} (hrest : Ends rest) :
    scanOnce floatRepr depth (encode value ++ rest) = .ok (value.throughJson, rest) := by
  induction value generalizing depth rest with
  | none =>
    obtain ⟨depth, rfl⟩ := exists_depth hfloat hdepth
    exact scanOnce_constant (.head _)
  | bool value =>
    obtain ⟨depth, rfl⟩ := exists_depth hfloat hdepth
    cases value with
    | true => exact scanOnce_constant (.tail _ (.head _))
    | false => exact scanOnce_constant (.tail _ (.tail _ (.head _)))
  | int n =>
    obtain ⟨depth, rfl⟩ := exists_depth hfloat hdepth
    exact scanOnce_intText (hint n (by simp [JsonValue.scalars])) hrest
  | float repr => exact absurd (by simp [JsonValue.scalars]) (hfloat repr)
  | str text =>
    obtain ⟨depth, rfl⟩ := exists_depth hfloat hdepth
    have htext : encode (.str text) ++ rest =
        ofChar '"' :: (text.flatMap encodeChar ++ ofChar '"' :: rest) := by
      simp [encode, encodeBasestringAscii]
    rw [htext, scanOnce_quote, scanstring_encoded]
    rfl
  | list items ih =>
    obtain ⟨depth, rfl⟩ := exists_depth hfloat hdepth
    have htext : ∀ rest, encode (.list items) ++ rest =
        ofChar '[' :: (commaSeparated (items.map encode) ++ ofChar ']' :: rest) := by
      simp [encode, encodeEach_eq]
    have hitems : ∀ item ∈ items, ∀ rest, Ends rest →
        scanOnce floatRepr depth (encode item ++ rest) = .ok (item.throughJson, rest) := by
      intro item hitem rest hrest
      refine ih item hitem (hfloat.item hitem) (hint.item hitem) ?_ hrest
      have hlt : (encode item).length < (encode (.list items) ++ []).length :=
        htext [] ▸ length_lt_of_mem (List.mem_map_of_mem hitem)
      rw [List.append_nil] at hlt
      omega
    rw [htext, scanOnce_bracket, scanContainer_commaSeparated (.inl rfl)
      (fun item hitem => starts_encode (hfloat.item hitem)) hitems]
    simp only [JsonValue.throughJson, JsonValue.throughJsonEach_eq]
    rfl
  | dict entries ih =>
    obtain ⟨depth, rfl⟩ := exists_depth hfloat hdepth
    have htext : ∀ rest, encode (.dict entries) ++ rest =
        ofChar '{' :: (commaSeparated (entries.map pairText) ++ ofChar '}' :: rest) := by
      have hpairs : encodeItems entries = entries.map pairText := encodeItems_eq entries
      simp [encode, hpairs]
    have hitems : ∀ entry ∈ entries, ∀ rest, Ends rest →
        scanPair (scanOnce floatRepr depth) (pairText entry ++ rest) =
          .ok ((entry.1.joinSurrogates, entry.2.throughJson), rest) := by
      intro entry hentry rest hrest
      refine scanPair_pairText (starts_encode (hfloat.entry hentry))
        (ih entry hentry (hfloat.entry hentry) (hint.entry hentry) ?_ hrest)
      have hlt : (pairText entry).length < (encode (.dict entries) ++ []).length :=
        htext [] ▸ length_lt_of_mem (List.mem_map_of_mem hentry)
      have hvalue := length_encode_lt_pairText entry
      rw [List.append_nil] at hlt
      omega
    rw [htext, scanOnce_brace, scanContainer_commaSeparated (.inr rfl)
      (fun entry _ => starts_pairText entry) hitems]
    simp only [JsonValue.throughJson, JsonValue.throughJsonItems_eq]
    rfl

/-- What `json.dumps` writes `json.loads` reads, with the surrogates in it joined. -/
theorem loads_encode (hfloat : value.FloatFree) (hint : Convertibles value) :
    loads floatRepr (encode value) = .ok value.throughJson := by
  have hstarts := starts_encode hfloat
  have hskip := skipSpace_of_starts hstarts []
  have hscan : scanOnce floatRepr ((encode value).length + 1) (encode value ++ []) =
      .ok (value.throughJson, []) :=
    scanOnce_encode hfloat hint (Nat.le_succ _) fun c hc => by cases hc
  have hbom : (encode value).head? ≠ some (ofChar '\ufeff') := by
    obtain ⟨c, tail, htext, -, -, -, hval⟩ := hstarts
    rw [htext, List.head?_cons, ne_eq, Option.some.injEq]
    rintro rfl
    revert hval
    decide
  rw [List.append_nil] at hskip hscan
  rw [loads, if_neg hbom, hskip, hscan]
  rfl

/-- A value is read back as it was written exactly if there are no surrogates to be joined in
it. -/
theorem loads_encode_iff (hwf : value.WellFormed) (hfloat : value.FloatFree)
    (hint : Convertibles value) : loads floatRepr (encode value) = .ok value ↔ value.Joined := by
  rw [loads_encode hfloat hint, Except.ok.injEq, hwf.throughJson_eq_self_iff]

end JsonDecoder

end SupplyChainTracker
