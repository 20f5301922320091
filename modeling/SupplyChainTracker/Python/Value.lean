import SupplyChainTracker.Python.Data
import SupplyChainTracker.Python.JsonRoundTrip

/-!
# Values of Python programs

The values that a payload may be built from before it is written as JSON, with the equality of
Python. JSON keeps neither tuples nor keys other than texts nor surrogates that stand apart: what
is read of a written value has lists, texts and joined surrogates in their place. An integer with
too many digits is not written at all.
-/

namespace SupplyChainTracker

open JsonEncoder (Convertible Convertibles)

/-- A `None`, `bool`, `int`, `str`, `list`, `tuple` or `dict`. -/
inductive PyValue : Type
  | none
  | bool (value : Bool)
  | int (value : Int)
  | str (text : PyStr)
  | list (items : List PyValue)
  | tuple (items : List PyValue)
  /-- The items in insertion order. -/
  | dict (items : List (PyValue × PyValue))

namespace PyValue

/-- Induction over what a value is built from. -/
@[elab_as_elim, induction_eliminator]
theorem induct {P : PyValue → Prop} (none : P .none) (bool : ∀ value, P (.bool value))
    (int : ∀ value, P (.int value)) (str : ∀ text, P (.str text))
    (list : ∀ items, (∀ item ∈ items, P item) → P (.list items))
    (tuple : ∀ items, (∀ item ∈ items, P item) → P (.tuple items))
    (dict : ∀ items, (∀ item ∈ items, P item.1 ∧ P item.2) → P (.dict items))
    (value : PyValue) : P value := by
  refine @PyValue.rec P (fun items => ∀ item ∈ items, P item)
    (fun items => ∀ item ∈ items, P item.1 ∧ P item.2) (fun item => P item.1 ∧ P item.2)
    none bool int str list tuple dict ?_ ?_ ?_ ?_ ?_ value
  · intro item hitem
    cases hitem
  · intro item items hitem hitems
    exact List.forall_mem_cons.mpr ⟨hitem, hitems⟩
  · intro item hitem
    cases hitem
  · intro item items hitem hitems
    exact List.forall_mem_cons.mpr ⟨hitem, hitems⟩
  · intro key value hkey hvalue
    exact ⟨hkey, hvalue⟩

/-- Whether the value is `None`. -/
def isNone : PyValue → Bool
  | none => true
  | _ => false

/-- The number that a value is; `True` is 1. -/
def number? : PyValue → Option Int
  | bool value => some (if value then 1 else 0)
  | int value => some value
  | _ => Option.none

/-- The text that a value is. -/
def text? : PyValue → Option PyStr
  | str text => some text
  | _ => Option.none

mutual

/-- `value == other`; the order of a `dict` does not matter. -/
def eq : PyValue → PyValue → Bool
  | none, other => other.isNone
  | bool value, other => other.number? = some (if value then 1 else 0)
  | int value, other => other.number? = some value
  | str text, other => other.text? = some text
  | list items, other =>
      match other with
      | list others => eqEach items others
      | _ => false
  | tuple items, other =>
      match other with
      | tuple others => eqEach items others
      | _ => false
  | dict items, other =>
      match other with
      | dict others => items.length == others.length && eqItems items others
      | _ => false

/-- Equality of the items of two sequences. -/
def eqEach : List PyValue → List PyValue → Bool
  | [], [] => true
  | item :: items, other :: others => eq item other && eqEach items others
  | _, _ => false

/-- Every item of a `dict` is in another one. -/
def eqItems : List (PyValue × PyValue) → List (PyValue × PyValue) → Bool
  | [], _ => true
  | (key, value) :: items, others =>
      (others.any fun other => eq key other.1 && eq value other.2) && eqItems items others

end

/-- The `TypeError` of a key that is no scalar. -/
def badKey (typeName : String) : PyError :=
  .typeError ("keys must be str, int, float, bool or None, not " ++ typeName)

/-- The `ValueError` of an integer with too many digits. -/
def tooManyDigits : PyError :=
  .valueError ("Exceeds the limit (4300 digits) for integer string conversion; " ++
    "use sys.set_int_max_str_digits() to increase the limit")

/-- The text that `json.dumps` writes for a key. -/
def jsonKey : PyValue → Except PyError PyStr
  | none => .ok (.ofString "null")
  | bool value => .ok (.ofString (if value then "true" else "false"))
  | int value => if Convertible value then .ok (JsonEncoder.intText value) else .error tooManyDigits
  | str text => .ok text
  | list _ => .error (badKey "list")
  | tuple _ => .error (badKey "tuple")
  | dict _ => .error (badKey "dict")

mutual

/-- The tree that `json.dumps` writes for a value, in which a key may occur twice. -/
def toJson : PyValue → Except PyError JsonValue
  | none => .ok .none
  | bool value => .ok (.bool value)
  | int value => if Convertible value then .ok (.int value) else .error tooManyDigits
  | str text => .ok (.str text)
  | list items => do return .list (← toJsonEach items)
  | tuple items => do return .list (← toJsonEach items)
  | dict items => do return .dict (← toJsonItems items)

/-- The trees of the items of a sequence. -/
def toJsonEach : List PyValue → Except PyError (List JsonValue)
  | [] => .ok []
  | item :: items => do
      let tree ← toJson item
      return tree :: (← toJsonEach items)

/-- The keys and trees of the items of a `dict`. -/
def toJsonItems : List (PyValue × PyValue) → Except PyError (List (PyStr × JsonValue))
  | [] => .ok []
  | (key, value) :: items => do
      let text ← jsonKey key
      let tree ← toJson value
      return (text, tree) :: (← toJsonItems items)

end

/-- A `dict` with texts for its keys. -/
def ofItems (items : List (PyStr × PyValue)) : PyValue := dict (items.map fun p => (str p.1, p.2))

mutual

/-- The value that a tree without floats stands for. -/
def ofJson : JsonValue → PyValue
  | .none => none
  | .bool value => bool value
  | .int value => int value
  -- Floats are left out: nothing is said of trees that have some.
  | .float _ => none
  | .str text => str text
  | .list items => list (ofJsonEach items)
  | .dict items => ofItems (ofJsonItems items)

/-- The values of the items of a list. -/
def ofJsonEach : List JsonValue → List PyValue
  | [] => []
  | item :: items => ofJson item :: ofJsonEach items

/-- The items of a `dict`. -/
def ofJsonItems : List (PyStr × JsonValue) → List (PyStr × PyValue)
  | [] => []
  | (key, value) :: items => (key, ofJson value) :: ofJsonItems items

end

/-- A value is built from what JSON has, and can be written: it contains no tuple, every key in it
is a text, no text in it has a high surrogate before a low one, and no integer too many digits. -/
inductive JsonTree : PyValue → Prop
  | none : JsonTree .none
  | bool (value : Bool) : JsonTree (.bool value)
  | int (value : Int) (h : Convertible value) : JsonTree (.int value)
  | str (text : PyStr) (h : text.Joined) : JsonTree (.str text)
  | list (items : List PyValue) (h : ∀ item ∈ items, JsonTree item) : JsonTree (.list items)
  /-- The keys of a `dict` are distinct. -/
  | dict (items : List (PyStr × PyValue)) (hkeys : (items.map Prod.fst).Nodup)
      (hjoined : ∀ p ∈ items, p.1.Joined) (h : ∀ p ∈ items, JsonTree p.2) :
      JsonTree (ofItems items)

/-- The value at a text. -/
def lookup (key : PyStr) : List (PyValue × PyValue) → Option PyValue
  | [] => Option.none
  | (k, value) :: items => if k.text? = some key then some value else lookup key items

/-- What a value shows to those who look into it; in a text, surrogates show as replacements. -/
def shape : PyValue → Shape PyValue
  | none => .none
  | bool value => .other "bool" value
  | int value => .other "int" (value ≠ 0)
  | str text => .str text.toText
  | list items => .other "list" !items.isEmpty
  | tuple items => .other "tuple" !items.isEmpty
  | dict items => .dict (!items.isEmpty) fun key => lookup (.ofString key) items

theorem lookup_ofString (key : String) (items : List (String × PyValue)) :
    lookup (.ofString key) (items.map fun p => (str (.ofString p.1), p.2)) = items.lookup key := by
  induction items with
  | nil => rfl
  | cons item items ih =>
    obtain ⟨k, value⟩ := item
    by_cases hk : k = key
    · simp [lookup, text?, hk]
    · have hne : (key == k) = false := by simpa using fun h : key = k => hk h.symm
      simp [lookup, text?, List.lookup_cons, hk, hne, ih]

instance : PyData PyValue where
  shape := shape
  pyNone := none
  pyStr text := str (.ofString text)
  pyDict items := dict (items.map fun p => (str (.ofString p.1), p.2))
  shape_pyNone := rfl
  shape_pyStr text := congrArg Shape.str (PyStr.toText_ofString text)
  shape_pyDict items := by
    simp only [shape, lookup_ofString, List.isEmpty_map]

section Items

variable {items : List PyValue} {entries : List (PyValue × PyValue)} {tree : JsonValue}

theorem toJsonEach_eq (items : List PyValue) : toJsonEach items = items.mapM toJson := by
  induction items with
  | nil => rfl
  | cons item items ih => rw [toJsonEach, ih, List.mapM_cons]

theorem toJsonItems_eq (entries : List (PyValue × PyValue)) :
    toJsonItems entries = entries.mapM fun p => do
      let text ← p.1.jsonKey
      let tree ← p.2.toJson
      return (text, tree) := by
  induction entries with
  | nil => rfl
  | cons entry entries ih =>
    rw [toJsonItems, ih, List.mapM_cons]
    simp only [bind_assoc, pure_bind]

theorem ofJsonEach_eq (items : List JsonValue) : ofJsonEach items = items.map ofJson := by
  induction items with
  | nil => rfl
  | cons item items ih => simp only [ofJsonEach, ih, List.map_cons]

theorem ofJsonItems_eq (items : List (PyStr × JsonValue)) :
    ofJsonItems items = items.map fun p => (p.1, ofJson p.2) := by
  induction items with
  | nil => rfl
  | cons item items ih => simp only [ofJsonItems, ih, List.map_cons]

theorem eqItems_eq (items others : List (PyValue × PyValue)) :
    eqItems items others = items.all fun item =>
      others.any fun other => eq item.1 other.1 && eq item.2 other.2 := by
  induction items with
  | nil => rfl
  | cons item items ih => simp only [eqItems, ih, List.all_cons]

theorem toJson_int_eq_ok_iff {value : Int} :
    (int value).toJson = .ok tree ↔ Convertible value ∧ tree = .int value := by
  rw [toJson]
  split_ifs with h
  · simp [h, eq_comm]
  · exact iff_of_false (fun h => by cases h) fun h' => h h'.1

/-- The items of a list are written one by one. -/
theorem toJson_list_eq_ok_iff : (list items).toJson = .ok tree ↔
    ∃ trees, List.Forall₂ (fun item tree => item.toJson = .ok tree) items trees ∧
      tree = .list trees := by
  rw [toJson, toJsonEach_eq, bind_eq_ok_iff]
  refine exists_congr fun trees => and_congr mapM_eq_ok_iff ?_
  exact ⟨fun h => (Except.ok.inj h).symm, fun h => congrArg Except.ok h.symm⟩

/-- A tuple is written as a list. -/
theorem toJson_tuple : (tuple items).toJson = (list items).toJson := rfl

/-- The items of a `dict` are written one by one. -/
theorem toJson_dict_eq_ok_iff : (dict entries).toJson = .ok tree ↔
    ∃ trees, List.Forall₂ (fun p entry => p.1.jsonKey = .ok entry.1 ∧ p.2.toJson = .ok entry.2)
      entries trees ∧ tree = .dict trees := by
  have hitem : ∀ (p : PyValue × PyValue) (entry : PyStr × JsonValue),
      (do
        let text ← p.1.jsonKey
        let tree ← p.2.toJson
        return (text, tree) : Except PyError _) = .ok entry ↔
      p.1.jsonKey = .ok entry.1 ∧ p.2.toJson = .ok entry.2 := by
    intro p entry
    simp only [bind_eq_ok_iff]
    constructor
    · rintro ⟨text, htext, tree, htree, hentry⟩
      cases hentry
      exact ⟨htext, htree⟩
    · rintro ⟨htext, htree⟩
      exact ⟨_, htext, _, htree, rfl⟩
  rw [toJson, toJsonItems_eq, bind_eq_ok_iff]
  refine exists_congr fun trees => and_congr ?_ ?_
  · simp only [mapM_eq_ok_iff, hitem]
  · exact ⟨fun h => (Except.ok.inj h).symm, fun h => congrArg Except.ok h.symm⟩

end Items

/-- A tree that is its only scalar is no float, and can be converted if it is an integer. -/
theorem scalars_of_leaf {tree : JsonValue} (hleaf : tree.scalars = [tree])
    (hfloat : ∀ repr, tree ≠ .float repr) (hint : ∀ n, tree = .int n → Convertible n) :
    tree.FloatFree ∧ Convertibles tree := by
  constructor
  · intro repr hrepr
    rw [hleaf] at hrepr
    exact hfloat repr (List.mem_singleton.mp hrepr).symm
  · intro n hn
    rw [hleaf] at hn
    exact hint n (List.mem_singleton.mp hn).symm

theorem scalars_of_list {items : List PyValue} {tree : JsonValue}
    (h : (list items).toJson = .ok tree)
    (hitems : ∀ item ∈ items, ∀ {tree}, item.toJson = .ok tree →
      tree.FloatFree ∧ Convertibles tree) :
    tree.FloatFree ∧ Convertibles tree := by
  obtain ⟨trees, htrees, rfl⟩ := toJson_list_eq_ok_iff.mp h
  have hall : ∀ tree ∈ trees, tree.FloatFree ∧ Convertibles tree := by
    intro tree htree
    obtain ⟨item, hitem, hwritten⟩ := exists_of_forall₂ htrees.flip htree
    exact hitems item hitem hwritten
  constructor
  · intro repr hrepr
    obtain ⟨tree, htree, hrepr⟩ := JsonValue.mem_scalars_list.mp hrepr
    exact (hall tree htree).1 repr hrepr
  · intro n hn
    obtain ⟨tree, htree, hn⟩ := JsonValue.mem_scalars_list.mp hn
    exact (hall tree htree).2 n hn

/-- What is written has no floats, and its integers can be converted. -/
theorem scalars_of_toJson {value : PyValue} {tree : JsonValue} (h : value.toJson = .ok tree) :
    tree.FloatFree ∧ Convertibles tree := by
  induction value generalizing tree with
  | none =>
    cases h
    exact scalars_of_leaf rfl (by simp) (by simp)
  | bool value =>
    cases h
    exact scalars_of_leaf rfl (by simp) (by simp)
  | int value =>
    obtain ⟨hvalue, rfl⟩ := toJson_int_eq_ok_iff.mp h
    exact scalars_of_leaf rfl (by simp) fun n hn => JsonValue.int.inj hn ▸ hvalue
  | str text =>
    cases h
    exact scalars_of_leaf rfl (by simp) (by simp)
  | list items ih => exact scalars_of_list h ih
  | tuple items ih => exact scalars_of_list (toJson_tuple ▸ h) ih
  | dict entries ih =>
    obtain ⟨trees, htrees, rfl⟩ := toJson_dict_eq_ok_iff.mp h
    have hall : ∀ entry ∈ trees, entry.2.FloatFree ∧ Convertibles entry.2 := by
      intro entry hentry
      obtain ⟨p, hp, _, hwritten⟩ := exists_of_forall₂ htrees.flip hentry
      exact (ih p hp).2 hwritten
    constructor
    · intro repr hrepr
      obtain ⟨entry, hentry, hkey | hrepr⟩ := JsonValue.mem_scalars_dict.mp hrepr
      · cases hkey
      · exact (hall entry hentry).1 repr hrepr
    · intro n hn
      obtain ⟨entry, hentry, hkey | hn⟩ := JsonValue.mem_scalars_dict.mp hn
      · cases hkey
      · exact (hall entry hentry).2 n hn

theorem text?_eq_some_iff {value : PyValue} {text : PyStr} :
    value.text? = some text ↔ value = str text := by
  cases value with
  | str text' => simp [text?]
  | _ => simp [text?]

/-- A value is equal to itself. -/
theorem eq_refl (value : PyValue) : eq value value = true := by
  have heach : ∀ items : List PyValue, (∀ item ∈ items, eq item item = true) →
      eqEach items items = true := by
    intro items
    induction items with
    | nil => exact fun _ => rfl
    | cons item items ih =>
      intro h
      obtain ⟨hitem, hitems⟩ := List.forall_mem_cons.mp h
      simp only [eqEach, hitem, ih hitems, Bool.and_self]
  induction value with
  | none => rfl
  | bool value => simp [eq, number?]
  | int value => simp [eq, number?]
  | str text => simp [eq, text?]
  | list items ih => simpa only [eq] using heach items ih
  | tuple items ih => simpa only [eq] using heach items ih
  | dict items ih =>
    simp only [eq, beq_self_eq_true, Bool.true_and, eqItems_eq, List.all_eq_true, List.any_eq_true]
    intro item hitem
    obtain ⟨hkey, hvalue⟩ := ih item hitem
    exact ⟨item, hitem, by rw [hkey, hvalue]; rfl⟩

/-- A value built from what JSON has is written as a tree that comes back as it was, and that
stands for the value. -/
theorem JsonTree.exists_toJson {value : PyValue} (h : JsonTree value) :
    ∃ tree, value.toJson = .ok tree ∧ tree.throughJson = tree ∧ ofJson tree = value := by
  have : Nonempty JsonValue := ⟨.none⟩
  induction h with
  | none => exact ⟨.none, rfl, rfl, rfl⟩
  | bool value => exact ⟨.bool value, rfl, rfl, rfl⟩
  | int value h => exact ⟨.int value, toJson_int_eq_ok_iff.mpr ⟨h, rfl⟩, rfl, rfl⟩
  | str text h =>
    exact ⟨.str text, rfl, congrArg JsonValue.str (PyStr.joinSurrogates_eq_self_iff.mpr h), rfl⟩
  | list items h ih =>
    choose! tree htree hthrough hofJson using ih
    refine ⟨.list (items.map tree), toJson_list_eq_ok_iff.mpr ⟨_, ?_, rfl⟩, ?_, ?_⟩
    · exact List.forall₂_map_right_iff.mpr (List.forall₂_same.mpr htree)
    · exact JsonValue.throughJson_list_eq_self_iff.mpr (List.forall_mem_map.mpr hthrough)
    · rw [ofJson, ofJsonEach_eq, List.map_map]
      exact congrArg PyValue.list ((List.map_congr_left hofJson).trans (List.map_id _))
  | dict items hkeys hjoined h ih =>
    choose! tree htree hthrough hofJson using ih
    have hentries : ((items.map fun p => (p.1, tree p)).map Prod.fst).Nodup := by
      rw [List.map_map]
      exact hkeys
    refine ⟨.dict (items.map fun p => (p.1, tree p)),
      toJson_dict_eq_ok_iff.mpr ⟨_, ?_, rfl⟩, ?_, ?_⟩
    · rw [List.forall₂_map_left_iff, List.forall₂_map_right_iff, List.forall₂_same]
      exact fun p hp => ⟨rfl, htree p hp⟩
    · refine (JsonValue.throughJson_dict_eq_self_iff hentries).mpr ?_
      refine List.forall_mem_map.mpr fun p hp => ⟨?_, hthrough p hp⟩
      exact PyStr.joinSurrogates_eq_self_iff.mpr (hjoined p hp)
    · rw [ofJson, ofJsonItems_eq, List.map_map]
      refine congrArg ofItems ((List.map_congr_left fun p hp => ?_).trans (List.map_id _))
      exact Prod.ext rfl (hofJson p hp)

/-- Every key of a `dict` is a text. -/
theorem JsonTree.key_text {entries : List (PyValue × PyValue)} (h : JsonTree (.dict entries)) :
    ∀ p ∈ entries, ∃ text, p.1 = .str text := by
  generalize hvalue : PyValue.dict entries = value at h
  cases h with
  | dict items _ _ _ =>
    cases hvalue
    exact List.forall_mem_map.mpr fun p _ => ⟨p.1, rfl⟩
  | _ => cases hvalue

/-- Where the values of a sequence are equal to those of another one, each has its equal. -/
theorem exists_of_eqEach {f : JsonValue → PyValue} {items : List PyValue} {trees : List JsonValue}
    {R : PyValue → JsonValue → Prop} (h : List.Forall₂ R items trees)
    (heq : eqEach (trees.map f) items = true) :
    ∀ item ∈ items, ∃ tree, R item tree ∧ eq (f tree) item = true := by
  induction h with
  | nil =>
    intro item hitem
    cases hitem
  | cons hfirst _ ih =>
    simp only [List.map_cons, eqEach, Bool.and_eq_true] at heq
    exact List.forall_mem_cons.mpr ⟨⟨_, hfirst, heq.1⟩, ih heq.2⟩

/-- The items of a `dict` that is equal to what comes of it through JSON. Nothing has been lost, so
the keys come back as different texts. A key that was joined would be that of another item, too,
which comes back as the same text. -/
theorem items_of_eq {entries : List (PyValue × PyValue)} {trees : List (PyStr × JsonValue)}
    (hjson : List.Forall₂ (fun p entry => p.1.jsonKey = .ok entry.1 ∧ p.2.toJson = .ok entry.2)
      entries trees)
    (h : eq (ofJson (JsonValue.dict trees).throughJson) (dict entries) = true) :
    (entries.map Prod.fst).Nodup ∧ ∀ p ∈ entries, ∃ text tree, p.1 = str text ∧ text.Joined ∧
      p.2.toJson = .ok tree ∧ eq (ofJson tree.throughJson) p.2 = true := by
  simp only [JsonValue.throughJson, JsonValue.throughJsonItems_eq, ofJson, ofJsonItems_eq, ofItems,
    eq, Bool.and_eq_true, beq_iff_eq, List.length_map] at h
  have hthrough : (trees.map fun e => e.1.joinSurrogates).Nodup := by
    have hkeys := JsonDecoder.nodup_of_length_dictOfPairs
      (h.1.trans (hjson.length_eq.trans (List.length_map _).symm))
    rwa [List.map_map] at hkeys
  rw [JsonDecoder.dictOfPairs_of_nodup (by rwa [List.map_map]), eqItems_eq] at h
  have hequal : ∀ e ∈ trees, ∃ p ∈ entries, p.1 = str e.1.joinSurrogates ∧
      eq (ofJson e.2.throughJson) p.2 = true := by
    have hall := h.2
    simp only [List.all_eq_true, List.forall_mem_map, List.any_eq_true, Bool.and_eq_true, eq,
      decide_eq_true_eq, text?_eq_some_iff] at hall
    exact hall
  have hjoined : ∀ e ∈ trees, e.1.joinSurrogates = e.1 := by
    intro e he
    obtain ⟨p, hp, hkey, _⟩ := hequal e he
    obtain ⟨e', he', hkey', _⟩ := exists_of_forall₂ hjson hp
    rw [hkey] at hkey'
    have htext : e.1.joinSurrogates = e'.1 := Except.ok.inj hkey'
    have hsame : e' = e := by
      refine List.inj_on_of_nodup_map hthrough he' he ?_
      rw [← htext]
      exact PyStr.joinSurrogates_eq_self_iff.mpr (PyStr.joined_joinSurrogates e.1)
    rw [htext, hsame]
  have htexts : (trees.map Prod.fst).Nodup := by
    rwa [← List.map_congr_left hjoined]
  have hkeys : (entries.map fun p => p.1.jsonKey) = trees.map fun e => .ok e.1 := by
    refine List.forall₂_eq_eq_eq ▸ ?_
    rw [List.forall₂_map_left_iff, List.forall₂_map_right_iff]
    exact hjson.imp fun _ _ h => h.1
  have hnodup : (entries.map fun p => p.1.jsonKey).Nodup := by
    have hinj : Function.Injective (Except.ok : PyStr → Except PyError PyStr) :=
      fun _ _ => Except.ok.inj
    have hok := htexts.map hinj
    rw [hkeys]
    rwa [List.map_map] at hok
  refine ⟨?_, fun p hp => ?_⟩
  · refine List.Nodup.of_map jsonKey ?_
    rwa [List.map_map]
  · obtain ⟨e, he, hkey, hwritten⟩ := exists_of_forall₂ hjson hp
    obtain ⟨p', hp', hkey', heq⟩ := hequal e he
    rw [hjoined e he] at hkey'
    have hsame : p' = p := by
      refine List.inj_on_of_nodup_map hnodup hp' hp ?_
      rw [hkey, hkey']
      rfl
    rw [hsame] at hkey' heq
    exact ⟨e.1, e.2, hkey', PyStr.joinSurrogates_eq_self_iff.mp (hjoined e he), hwritten, heq⟩

/-- Only a value built from what JSON has is equal to what comes of it through JSON. -/
theorem jsonTree_of_eq {value : PyValue} {tree : JsonValue} (hjson : value.toJson = .ok tree)
    (h : eq (ofJson tree.throughJson) value = true) : value.JsonTree := by
  induction value generalizing tree with
  | none => exact .none
  | bool value => exact .bool value
  | int value => exact .int value (toJson_int_eq_ok_iff.mp hjson).1
  | str text =>
    cases hjson
    simp only [JsonValue.throughJson, ofJson, eq, text?, Option.some.injEq,
      decide_eq_true_eq] at h
    exact .str text (PyStr.joinSurrogates_eq_self_iff.mp h.symm)
  | list items ih =>
    obtain ⟨trees, htrees, rfl⟩ := toJson_list_eq_ok_iff.mp hjson
    rw [JsonValue.throughJson, JsonValue.throughJsonEach_eq, ofJson, ofJsonEach_eq, List.map_map,
      eq] at h
    refine .list items fun item hitem => ?_
    obtain ⟨tree, hwritten, heq⟩ := exists_of_eqEach htrees h item hitem
    exact ih item hitem hwritten heq
  | tuple items ih =>
    obtain ⟨trees, _, rfl⟩ := toJson_list_eq_ok_iff.mp (toJson_tuple ▸ hjson)
    simp only [JsonValue.throughJson, ofJson, eq] at h
    cases h
  | dict entries ih =>
    have : Nonempty JsonValue := ⟨.none⟩
    obtain ⟨trees, htrees, rfl⟩ := toJson_dict_eq_ok_iff.mp hjson
    obtain ⟨hnodup, hitems⟩ := items_of_eq htrees h
    choose! text tree htext hjoined hwritten heq using hitems
    have hdict : dict entries = ofItems (entries.map fun p => (text p, p.2)) := by
      rw [ofItems, List.map_map]
      refine congrArg PyValue.dict ((List.map_id _).symm.trans (List.map_congr_left fun p hp => ?_))
      exact Prod.ext (htext p hp) rfl
    rw [hdict]
    refine .dict _ ?_ (List.forall_mem_map.mpr hjoined) (List.forall_mem_map.mpr fun p hp =>
      (ih p hp).2 (hwritten p hp) (heq p hp))
    refine List.Nodup.of_map str ?_
    rw [List.map_map, List.map_map]
    exact List.map_congr_left htext ▸ hnodup

end PyValue

end SupplyChainTracker
