import SupplyChainTracker.Libs.EventPayload

/-!
# What `_serialize_payload` makes of a payload

A payload and what is made of it have the same places: the same keys in every `dict` and as many
items in every list. A `UUID` or a `datetime` is a text afterwards exactly where each index of its
path is followed by a key, and every other leaf is what it was. A second pass finds nothing to do.
-/

namespace SupplyChainTracker

namespace FieldValue

/-- The value at the end of a path. -/
def at? : FieldValue → List Step → Option FieldValue
  | value, [] => some value
  | dict items, .key key :: path => (items.lookup key).bind fun value => at? value path
  | list items, .index index :: path => items[index]?.bind fun value => at? value path
  | _, _ :: _ => Option.none

/-- What a value becomes at a place where a `UUID` and a `datetime` are written, or are not. Of a
container this tells the keys or the length. -/
def Becomes (written : Prop) : FieldValue → FieldValue → Prop
  | uuid value, other => (written → other = str value.str) ∧ (¬ written → other = uuid value)
  | datetime isoformat, other =>
      (written → other = str isoformat) ∧ (¬ written → other = datetime isoformat)
  | list items, other => ∃ items', other = list items' ∧ items'.length = items.length
  | dict items, other =>
      ∃ items', other = dict items' ∧ items'.map Prod.fst = items.map Prod.fst
  | value, other => other = value

/-- Where nothing is written a value stays. -/
theorem becomes_self {written : Prop} (h : ¬ written) (value : FieldValue) :
    Becomes written value value := by
  cases value with
  | uuid value => exact ⟨fun hw => absurd hw h, fun _ => rfl⟩
  | datetime isoformat => exact ⟨fun hw => absurd hw h, fun _ => rfl⟩
  | list items => exact ⟨items, rfl, rfl⟩
  | dict items => exact ⟨items, rfl, rfl⟩
  | _ => rfl

section Places

variable {items : List FieldValue} {entries : List (String × FieldValue)} {value : FieldValue}

/-- The value of a key is among the items of its `dict`. -/
theorem exists_mem_of_lookup {key : String} (h : entries.lookup key = some value) :
    ∃ entry ∈ entries, entry.2 = value := by
  obtain ⟨before, after, rfl, -⟩ := List.lookup_eq_some_iff.mp h
  exact ⟨(key, value), by simp, rfl⟩

/-- What is done to every value of a `dict` is done to the value of a key. -/
theorem lookup_map_snd (f : FieldValue → FieldValue) (key : String) :
    (entries.map fun entry => (entry.1, f entry.2)).lookup key = (entries.lookup key).map f := by
  induction entries with
  | nil => rfl
  | cons entry entries ih =>
    rw [List.map_cons, List.lookup_cons, List.lookup_cons, ih]
    cases key == entry.1 <;> rfl

/-- There is nothing below a leaf. -/
theorem at?_leaf (hlist : ∀ items, value ≠ list items) (hdict : ∀ items, value ≠ dict items)
    (step : Step) (path : List Step) : value.at? (step :: path) = Option.none := by
  cases value with
  | list items => exact absurd rfl (hlist items)
  | dict items => exact absurd rfl (hdict items)
  | _ => cases step <;> rfl

/-- The places of two `dict`s correspond if their keys do and the places of their values. -/
theorem rel_at?_dict {f : FieldValue → FieldValue} (written : List Step → Prop)
    (h : ∀ entry ∈ entries, ∀ key path, Option.Rel (Becomes (written (.key key :: path)))
      (entry.2.at? path) ((f entry.2).at? path)) (path : List Step) :
    Option.Rel (Becomes (written path)) ((dict entries).at? path)
      ((dict (entries.map fun entry => (entry.1, f entry.2))).at? path) := by
  cases path with
  | nil => exact .some ⟨_, rfl, by simp⟩
  | cons step path =>
    cases step with
    | index index => exact .none
    | key key =>
      simp only [at?, lookup_map_snd]
      cases hlookup : entries.lookup key with
      | none => exact .none
      | some value =>
        obtain ⟨entry, hentry, rfl⟩ := exists_mem_of_lookup hlookup
        exact h entry hentry key path

/-- The places of two lists correspond if the places of their items do. -/
theorem rel_at?_list {f : FieldValue → FieldValue} (written : List Step → Prop)
    (h : ∀ item ∈ items, ∀ index path, Option.Rel (Becomes (written (.index index :: path)))
      (item.at? path) ((f item).at? path)) (path : List Step) :
    Option.Rel (Becomes (written path)) ((list items).at? path)
      ((list (items.map f)).at? path) := by
  cases path with
  | nil => exact .some ⟨_, rfl, List.length_map f⟩
  | cons step path =>
    cases step with
    | key key => exact .none
    | index index =>
      simp only [at?, List.getElem?_map]
      cases hitem : items[index]? with
      | none => exact .none
      | some item => exact h item (List.mem_of_getElem? hitem) index path

end Places

open DomainEventConverter

/-- A leaf has one place, at which it is written if it is the value of a key. -/
theorem rel_serialize_leaf {value : FieldValue} (hlist : ∀ items, value ≠ list items)
    (hdict : ∀ items, value ≠ dict items)
    (hlist' : ∀ items, serializeValue value ≠ list items)
    (hdict' : ∀ items, serializeValue value ≠ dict items)
    (hvalue : Becomes True value (serializeValue value)) (hitem : serializeItem value = value) :
    (∀ path, Option.Rel (Becomes (Step.Keyed path)) (value.at? path)
        ((serializeValue value).at? path)) ∧
      ∀ index path, Option.Rel (Becomes (Step.Keyed (.index index :: path))) (value.at? path)
        ((serializeItem value).at? path) := by
  rw [hitem]
  constructor
  · intro path
    cases path with
    | nil => exact .some hvalue
    | cons step path =>
      rw [at?_leaf hlist hdict, at?_leaf hlist' hdict']
      exact .none
  · intro index path
    cases path with
    | nil => exact .some (becomes_self id value)
    | cons step path =>
      rw [at?_leaf hlist hdict]
      exact .none

/-- The places of a value correspond to those of what is assigned to a key for it, and to those of
what is taken for an item; by induction on the value. -/
theorem rel_serialize (value : FieldValue) :
    (∀ path, Option.Rel (Becomes (Step.Keyed path)) (value.at? path)
        ((serializeValue value).at? path)) ∧
      ∀ index path, Option.Rel (Becomes (Step.Keyed (.index index :: path))) (value.at? path)
        ((serializeItem value).at? path) := by
  induction value with
  | list items ih =>
    refine ⟨?_, ?_⟩
    · rw [serializeValue, serializeItems_eq]
      exact rel_at?_list Step.Keyed fun item hitem index path => (ih item hitem).2 index path
    · -- A list that is an item is passed through, whatever stands in it.
      intro index path
      rw [serializeItem]
      · cases path with
        | nil => exact .some (becomes_self id _)
        | cons step path =>
          cases step with
          | key key => exact .none
          | index index' =>
            cases h : (list items).at? (.index index' :: path) with
            | none => exact .none
            | some leaf => exact .some (becomes_self id leaf)
      · exact fun entries h => by cases h
  | dict entries ih =>
    refine ⟨?_, fun index => ?_⟩
    · rw [serializeValue, serializePayload_eq]
      exact rel_at?_dict Step.Keyed fun entry hentry _ path => (ih entry hentry).1 path
    · rw [serializeItem, serializePayload_eq]
      exact rel_at?_dict (fun path => Step.Keyed (.index index :: path))
        fun entry hentry _ path => (ih entry hentry).1 path
  | _ =>
    exact rel_serialize_leaf (by simp) (by simp) (by simp [serializeValue])
      (by simp [serializeValue]) (by simp [Becomes, serializeValue]) rfl

/-- A value without a `UUID` and a `datetime` stays as it is. -/
theorem Clean.serialize_eq {value : FieldValue} (h : Clean value) :
    serializeValue value = value ∧ serializeItem value = value := by
  induction value with
  | list items ih =>
    have hitems : items.map serializeItem = items :=
      (List.map_congr_left fun item hitem =>
        (ih item hitem (clean_list_iff.mp h item hitem)).2).trans (List.map_id _)
    refine ⟨?_, rfl⟩
    rw [serializeValue, serializeItems_eq, hitems]
  | dict entries ih =>
    have hentries : serializePayload entries = entries := by
      rw [serializePayload_eq]
      refine (List.map_congr_left fun entry hentry => ?_).trans (List.map_id entries)
      exact Prod.ext rfl (ih entry hentry (clean_dict_iff.mp h entry hentry)).1
    rw [serializeValue, serializeItem, hentries]
    exact ⟨rfl, rfl⟩
  | uuid value => exact absurd trivial (h [] _ (.here _))
  | datetime isoformat => exact absurd trivial (h [] _ (.here _))
  | _ => exact ⟨rfl, rfl⟩

/-- What is made of a value is left alone by a second pass. -/
theorem serialize_idem (value : FieldValue) :
    serializeValue (serializeValue value) = serializeValue value ∧
      serializeItem (serializeItem value) = serializeItem value := by
  induction value with
  | list items ih =>
    refine ⟨?_, rfl⟩
    simp only [serializeValue, serializeItems_eq, List.map_map, list.injEq]
    exact List.map_congr_left fun item hitem => (ih item hitem).2
  | dict entries ih =>
    have hentries : serializePayload (serializePayload entries) = serializePayload entries := by
      simp only [serializePayload_eq, List.map_map]
      exact List.map_congr_left fun entry hentry => Prod.ext rfl (ih entry hentry).1
    simp only [serializeValue, serializeItem, hentries, and_self]
  | _ => exact ⟨rfl, rfl⟩

end FieldValue

namespace DomainEventConverter

open FieldValue (Becomes Clean Step)

/-- `_serialize_payload` keeps all places of a payload, writes exactly the `UUID`s and `datetime`s
on whose path each index is followed by a key, returns a payload without such leaves as it is, and
finds nothing more to write in what it has made. -/
theorem serializePayload_shape (payload : List (String × FieldValue)) :
    (∀ path, Option.Rel (Becomes (Step.Keyed path)) ((FieldValue.dict payload).at? path)
        ((FieldValue.dict (serializePayload payload)).at? path)) ∧
      (Clean (.dict payload) → serializePayload payload = payload) ∧
      serializePayload (serializePayload payload) = serializePayload payload := by
  refine ⟨?_, fun hclean => ?_, ?_⟩
  · simpa only [serializeValue] using (FieldValue.rel_serialize (.dict payload)).1
  · simpa only [serializeValue, FieldValue.dict.injEq] using hclean.serialize_eq.1
  · simpa only [serializeValue, FieldValue.dict.injEq] using
      (FieldValue.serialize_idem (.dict payload)).1

end DomainEventConverter

end SupplyChainTracker
