import Mathlib.Data.List.Induction
import Mathlib.Data.List.Nodup
import Mathlib.Data.List.TakeWhile
import SupplyChainTracker.Python.JsonDecoder

/-!
# What `json.loads` accepts

The `dict` of some pairs has distinct keys, whatever the pairs are, and a number with more digits
than may be converted is not returned. So what `json.loads` returns `json.dumps` can write.
-/

namespace SupplyChainTracker

open CodePoint (ofChar)
open JsonEncoder

namespace JsonDecoder

variable {floatRepr : PyStr → PyStr}

section Accepted

variable {α : Type} {P : α → Prop} {item : PyStr → Except JsonError (α × PyStr)}
  {close : CodePoint} {text rest : PyStr} {as : List α}

/-- What holds of every item that is read holds of all items of a container. -/
theorem forall_of_scanItems (hitem : ∀ text a rest, item text = .ok (a, rest) → P a) {turns : Nat}
    (h : scanItems close item turns text = .ok (as, rest)) : ∀ a ∈ as, P a := by
  induction turns generalizing text rest as with
  | zero => cases h
  | succ turns ih =>
    obtain ⟨⟨first, tail⟩, hscan, h⟩ := bind_eq_ok_iff.mp h
    have hfirst := hitem text first tail hscan
    dsimp only at h
    split at h
    · cases h
    · split_ifs at h
      · cases h
        simpa using hfirst
      · obtain ⟨⟨others, tail'⟩, hothers, h⟩ := bind_eq_ok_iff.mp h
        cases h
        exact List.forall_mem_cons.mpr ⟨hfirst, ih hothers⟩

theorem forall_of_scanContainer (hitem : ∀ text a rest, item text = .ok (a, rest) → P a)
    (h : scanContainer close item text = .ok (as, rest)) : ∀ a ∈ as, P a := by
  unfold scanContainer at h
  split at h
  · cases h
  · split_ifs at h
    · cases h
      simp
    · exact forall_of_scanItems hitem h

theorem scanPair_value {value : PyStr → Except JsonError (JsonValue × PyStr)} {P : JsonValue → Prop}
    (hvalue : ∀ text a rest, value text = .ok (a, rest) → P a) {p : PyStr × JsonValue}
    (h : scanPair value text = .ok (p, rest)) : P p.2 := by
  unfold scanPair at h
  split at h
  · cases h
  · split_ifs at h
    obtain ⟨⟨key, tail⟩, -, h⟩ := bind_eq_ok_iff.mp h
    dsimp only at h
    split at h
    · cases h
    · split_ifs at h
      obtain ⟨⟨v, tail'⟩, hscan, h⟩ := bind_eq_ok_iff.mp h
      cases h
      exact hvalue _ v _ hscan

end Accepted

section Dicts

variable {key : PyStr} {value : JsonValue} {items pairs : List (PyStr × JsonValue)}

/-- The items after an assignment are those before it and the assigned one. -/
theorem mem_assign {p : PyStr × JsonValue} (h : p ∈ assign key value items) :
    p = (key, value) ∨ p ∈ items := by
  induction items with
  | nil => exact .inl (List.mem_singleton.mp h)
  | cons item items ih =>
    unfold assign at h
    split_ifs at h with hkey
    · rcases List.mem_cons.mp h with rfl | h
      · exact .inl (by rw [hkey])
      · exact .inr (List.mem_cons_of_mem _ h)
    · rcases List.mem_cons.mp h with rfl | h
      · exact .inr (List.mem_cons_self ..)
      · exact (ih h).imp_right (List.mem_cons_of_mem _)

/-- A new key is added at the end. -/
theorem assign_of_notMem (value : JsonValue) (h : key ∉ items.map Prod.fst) :
    assign key value items = items ++ [(key, value)] := by
  induction items with
  | nil => rfl
  | cons item items ih =>
    simp only [List.map_cons, List.mem_cons, not_or] at h
    simp only [assign, if_neg (Ne.symm h.1), ih h.2, List.cons_append]

/-- A key that is there stays where it is. -/
theorem keys_assign_of_mem (value : JsonValue) (h : key ∈ items.map Prod.fst) :
    (assign key value items).map Prod.fst = items.map Prod.fst := by
  induction items with
  | nil => cases h
  | cons item items ih =>
    unfold assign
    by_cases hkey : item.1 = key
    · simp only [if_pos hkey, List.map_cons]
    · have hrest : key ∈ items.map Prod.fst := by simpa [Ne.symm hkey] using h
      simp only [if_neg hkey, List.map_cons, ih hrest]

theorem nodup_keys_assign (value : JsonValue) (h : (items.map Prod.fst).Nodup) :
    ((assign key value items).map Prod.fst).Nodup := by
  by_cases hmem : key ∈ items.map Prod.fst
  · rwa [keys_assign_of_mem value hmem]
  · rw [assign_of_notMem value hmem, List.map_append, List.map_singleton, ← List.concat_eq_append]
    exact h.concat hmem

theorem length_assign_le (key : PyStr) (value : JsonValue) (items : List (PyStr × JsonValue)) :
    (assign key value items).length ≤ items.length + 1 := by
  by_cases hmem : key ∈ items.map Prod.fst
  · have hkeys := congrArg List.length (keys_assign_of_mem value hmem)
    simp only [List.length_map] at hkeys
    omega
  · rw [assign_of_notMem value hmem, List.length_append, List.length_singleton]

/-- The keys of a `dict` are distinct. -/
theorem nodup_keys_dictOfPairs (pairs : List (PyStr × JsonValue)) :
    ((dictOfPairs pairs).map Prod.fst).Nodup := by
  have hfold : ∀ items : List (PyStr × JsonValue), (items.map Prod.fst).Nodup →
      ((pairs.foldl (fun items p => assign p.1 p.2 items) items).map Prod.fst).Nodup := by
    induction pairs with
    | nil => exact fun items h => h
    | cons p pairs ih => exact fun items h => ih _ (nodup_keys_assign p.2 h)
  exact hfold [] List.nodup_nil

/-- The items of a `dict` are among its pairs. -/
theorem mem_of_mem_dictOfPairs {p : PyStr × JsonValue} (h : p ∈ dictOfPairs pairs) : p ∈ pairs := by
  have hfold : ∀ items : List (PyStr × JsonValue),
      p ∈ pairs.foldl (fun items p => assign p.1 p.2 items) items → p ∈ items ∨ p ∈ pairs := by
    clear h
    induction pairs with
    | nil => exact fun items h => .inl h
    | cons q pairs ih =>
      intro items h
      rcases ih _ h with h | h
      · rcases mem_assign h with rfl | h
        · exact .inr (List.mem_cons_self ..)
        · exact .inl h
      · exact .inr (List.mem_cons_of_mem _ h)
  simpa using hfold [] h

/-- Pairs with distinct keys are the items of their `dict`. -/
theorem dictOfPairs_of_nodup (h : (pairs.map Prod.fst).Nodup) : dictOfPairs pairs = pairs := by
  have hfold : ∀ items : List (PyStr × JsonValue), ((items ++ pairs).map Prod.fst).Nodup →
      pairs.foldl (fun items p => assign p.1 p.2 items) items = items ++ pairs := by
    clear h
    induction pairs with
    | nil => exact fun items _ => (List.append_nil items).symm
    | cons p pairs ih =>
      intro items h
      have hnew : p.1 ∉ items.map Prod.fst := by
        intro hmem
        rw [List.map_append, List.nodup_append] at h
        exact h.2.2 _ hmem _ (List.mem_cons_self ..) rfl
      rw [List.foldl_cons, assign_of_notMem p.2 hnew, ih, List.append_assoc,
        List.singleton_append]
      rwa [List.append_assoc, List.singleton_append]
  exact hfold [] h

theorem dictOfPairs_concat (pairs : List (PyStr × JsonValue)) (p : PyStr × JsonValue) :
    dictOfPairs (pairs ++ [p]) = assign p.1 p.2 (dictOfPairs pairs) := by
  simp only [dictOfPairs, List.foldl_append, List.foldl_cons, List.foldl_nil]

theorem length_dictOfPairs_le (pairs : List (PyStr × JsonValue)) :
    (dictOfPairs pairs).length ≤ pairs.length := by
  induction pairs using List.reverseRecOn with
  | nil => exact le_rfl
  | append_singleton pairs p ih =>
    have hassign := length_assign_le p.1 p.2 (dictOfPairs pairs)
    rw [dictOfPairs_concat, List.length_append, List.length_singleton]
    omega

/-- There are as many items as pairs only if the pairs have distinct keys. -/
theorem nodup_of_length_dictOfPairs (h : (dictOfPairs pairs).length = pairs.length) :
    (pairs.map Prod.fst).Nodup := by
  induction pairs using List.reverseRecOn with
  | nil => exact List.nodup_nil
  | append_singleton pairs p ih =>
    have hle := length_dictOfPairs_le pairs
    have hassign := length_assign_le p.1 p.2 (dictOfPairs pairs)
    rw [dictOfPairs_concat, List.length_append, List.length_singleton] at h
    have hpairs := ih (by omega)
    rw [dictOfPairs_of_nodup hpairs] at h
    have hnew : p.1 ∉ pairs.map Prod.fst := by
      intro hmem
      have hkeys := congrArg List.length (keys_assign_of_mem p.2 hmem)
      simp only [List.length_map] at hkeys
      omega
    rw [List.map_append, List.map_singleton, ← List.concat_eq_append]
    exact hpairs.concat hnew

end Dicts

/-- Decimal digits stand for a number with no more digits. -/
theorem ofDigits_lt {digits : PyStr} (h : ∀ c ∈ digits, isDigit c = true) :
    ofDigits digits < 10 ^ digits.length := by
  induction digits using List.reverseRecOn with
  | nil => exact Nat.one_pos
  | append_singleton digits c ih =>
    have hdigits := ih fun c hc => h c (List.mem_append_left _ hc)
    have hc : isDigit c = true := h c (by simp)
    simp only [isDigit, Bool.decide_and, Bool.and_eq_true, decide_eq_true_eq] at hc
    simp only [ofDigits, List.foldl_append, List.foldl_cons, List.foldl_nil] at hdigits ⊢
    rw [List.length_append, List.length_singleton, pow_succ]
    omega

/-- What is taken for an integer are digits. -/
theorem isDigit_of_integer {text digits rest : PyStr} (h : integer text = some (digits, rest)) :
    ∀ c ∈ digits, isDigit c = true := by
  unfold integer at h
  split at h
  · cases h
  · split_ifs at h with hzero hdigit
    · cases h
      have hdigit : isDigit (ofChar '0') = true := by decide
      simpa [hzero] using hdigit
    · cases h
      exact List.forall_mem_cons.mpr ⟨hdigit, fun c hc => List.mem_takeWhile_imp hc⟩

/-- A value that can be written and in which keys are distinct. -/
structure Accepted (value : JsonValue) : Prop where
  wellFormed : value.WellFormed
  convertibles : Convertibles value

theorem accepted_scalar {value : JsonValue} (hlist : ∀ items, value ≠ .list items)
    (hdict : ∀ items, value ≠ .dict items) (hint : ∀ n, value = .int n → Convertible n) :
    Accepted value :=
  ⟨.scalar hlist hdict, convertibles_scalar hlist hdict hint⟩

theorem accepted_matchNumber {text rest : PyStr} {value : JsonValue}
    (h : matchNumber floatRepr text = .ok (value, rest)) : Accepted value := by
  unfold matchNumber at h
  cases hinteger : integer (sign text).2 with
  | none =>
    simp only [hinteger] at h
    cases h
  | some p =>
    obtain ⟨digits, tail⟩ := p
    have hlt := ofDigits_lt (isDigit_of_integer hinteger)
    simp only [hinteger] at h
    split_ifs at h with hint hlength hminus
    · cases h
      refine accepted_scalar (by simp) (by simp) fun n hn => ?_
      cases hn
      rw [Convertible, Int.natAbs_natCast]
      exact hlt.trans_le (Nat.pow_le_pow_right (by decide) hlength)
    · cases h
      refine accepted_scalar (by simp) (by simp) fun n hn => ?_
      cases hn
      rw [Convertible, Int.natAbs_neg, Int.natAbs_natCast]
      exact hlt.trans_le (Nat.pow_le_pow_right (by decide) hlength)
    · cases h
      exact accepted_scalar (by simp) (by simp) fun n hn => by cases hn

theorem accepted_constant? {text rest : PyStr} {value : JsonValue}
    (h : constant? text = some (value, rest)) : Accepted value := by
  obtain ⟨p, hp, rfl, -⟩ := mem_constants_of_constant? h
  simp only [constants, List.mem_cons, List.not_mem_nil, or_false] at hp
  rcases hp with rfl | rfl | rfl | rfl | rfl | rfl <;>
    exact accepted_scalar (by simp) (by simp) fun n hn => by cases hn

/-- What `scan_once` returns is accepted; by induction on the depth. -/
theorem accepted_scanOnce {depth : Nat} {text rest : PyStr} {value : JsonValue}
    (h : scanOnce floatRepr depth text = .ok (value, rest)) : Accepted value := by
  induction depth generalizing text value rest with
  | zero => cases h
  | succ depth ih =>
    cases text with
    | nil => cases h
    | cons c text =>
      by_cases hquote : c = ofChar '"'
      · subst hquote
        rw [scanOnce_quote] at h
        obtain ⟨⟨s, tail⟩, -, h⟩ := bind_eq_ok_iff.mp h
        cases h
        exact accepted_scalar (by simp) (by simp) fun n hn => by cases hn
      · by_cases hbrace : c = ofChar '{'
        · subst hbrace
          rw [scanOnce_brace] at h
          obtain ⟨⟨pairs, tail⟩, hscan, h⟩ := bind_eq_ok_iff.mp h
          cases h
          have hpairs : ∀ p ∈ pairs, Accepted p.2 :=
            forall_of_scanContainer
              (fun text p rest hp => scanPair_value (fun text v rest hv => ih hv) hp) hscan
          have hitems : ∀ p ∈ dictOfPairs pairs, Accepted p.2 :=
            fun p hp => hpairs p (mem_of_mem_dictOfPairs hp)
          refine ⟨.dict _ (nodup_keys_dictOfPairs pairs) fun p hp => (hitems p hp).wellFormed,
            fun n hn => ?_⟩
          obtain ⟨p, hp, hkey | hvalue⟩ := JsonValue.mem_scalars_dict.mp hn
          · cases hkey
          · exact (hitems p hp).convertibles n hvalue
        · by_cases hbracket : c = ofChar '['
          · subst hbracket
            rw [scanOnce_bracket] at h
            obtain ⟨⟨items, tail⟩, hscan, h⟩ := bind_eq_ok_iff.mp h
            cases h
            have hitems : ∀ item ∈ items, Accepted item :=
              forall_of_scanContainer (fun text v rest hv => ih hv) hscan
            refine ⟨.list _ fun item hitem => (hitems item hitem).wellFormed, fun n hn => ?_⟩
            obtain ⟨item, hitem, hn⟩ := JsonValue.mem_scalars_list.mp hn
            exact (hitems item hitem).convertibles n hn
          · rw [scanOnce_scalar hquote hbrace hbracket] at h
            split at h
            · rename_i hconstant
              cases h
              exact accepted_constant? hconstant
            · exact accepted_matchNumber h

/-- What `json.loads` returns has distinct keys and can be written again. -/
theorem accepted_of_loads {text : PyStr} {value : JsonValue}
    (h : loads floatRepr text = .ok value) : Accepted value := by
  unfold loads at h
  split_ifs at h
  obtain ⟨⟨v, rest⟩, hscan, h⟩ := bind_eq_ok_iff.mp h
  dsimp only at h
  split_ifs at h
  cases h
  exact accepted_scanOnce hscan

end JsonDecoder

end SupplyChainTracker
