import Mathlib.Data.List.Nodup
import Mathlib.Data.List.Basic

namespace OpticsSoftfail

/-!
# Insertion-ordered finite maps

A Python `dict` and a mapping read from YAML share one shape: every key occurs
once, iteration follows first insertion, and overwriting a key keeps its place.
`Dict` carries the uniqueness of its keys as a field, so a duplicated key
cannot be built.  Nothing below mentions the optical services.
-/

/-- A finite map whose keys are pairwise different, in insertion order. -/
structure Dict (Key Value : Type) where
  entries : List (Key × Value)
  keysNodup : (entries.map Prod.fst).Nodup
  deriving Repr, DecidableEq

namespace Dict

variable {Key Value Image : Type}

/-- The map with no entries. -/
def empty : Dict Key Value where
  entries := []
  keysNodup := by simp

/-- The keys in insertion order. -/
def keys (dict : Dict Key Value) : List Key :=
  dict.entries.map Prod.fst

/-- Apply a function to every value, leaving keys and order alone. -/
def mapValues
    (transform : Value → Image)
    (dict : Dict Key Value) : Dict Key Image where
  entries :=
    dict.entries.map fun entry => (entry.1, transform entry.2)
  keysNodup := by
    simpa [Function.comp_def] using dict.keysNodup

/-- Transform the values, dropping the entries without an image. -/
def filterMapValues
    (transform? : Value → Option Image)
    (dict : Dict Key Value) : Dict Key Image where
  entries :=
    dict.entries.filterMap fun entry =>
      (transform? entry.2).map fun image => (entry.1, image)
  keysNodup := by
    have sameKeys :
        (dict.entries.filterMap fun entry =>
            (transform? entry.2).map fun image =>
              (entry.1, image)).map Prod.fst =
          (dict.entries.filter fun entry =>
            (transform? entry.2).isSome).map Prod.fst := by
      generalize dict.entries = entries
      induction entries with
      | nil =>
          rfl
      | cons entry rest inductionHypothesis =>
          cases imaged : transform? entry.2 with
          | none =>
              simpa [imaged] using inductionHypothesis
          | some image =>
              simpa [imaged] using inductionHypothesis
    rw [sameKeys]
    exact dict.keysNodup.sublist (List.filter_sublist.map Prod.fst)

/-- Transform all values; one value without an image fails the whole. -/
def mapValues?
    (transform? : Value → Option Image)
    (dict : Dict Key Value) : Option (Dict Key Image) :=
  if dict.entries.all fun entry => (transform? entry.2).isSome then
    some (dict.filterMapValues transform?)
  else
    none

/-- Where every image is that of a total function, nothing is dropped. -/
theorem eq_mapValues_of_mapValues?
    {transform? : Value → Option Image}
    {transform : Value → Image}
    (agrees :
      ∀ value image,
        transform? value = some image → image = transform value)
    {dict : Dict Key Value}
    {images : Dict Key Image}
    (transformed : dict.mapValues? transform? = some images) :
    images = dict.mapValues transform := by
  unfold mapValues? at transformed
  split at transformed
  · rename_i allImaged
    cases transformed
    have sameEntries :
        ∀ entry ∈ dict.entries,
          ((transform? entry.2).map fun image => (entry.1, image)) =
            some (entry.1, transform entry.2) := by
      intro entry member
      obtain ⟨image, imaged⟩ := Option.isSome_iff_exists.mp
        (List.all_eq_true.mp allImaged entry member)
      simp [imaged, agrees entry.2 image imaged]
    simp only [filterMapValues, mapValues, mk.injEq]
    rw [List.filterMap_congr sameEntries]
    exact congrFun
      (List.filterMap_eq_map
        (f := fun entry : Key × Value =>
          (entry.1, transform entry.2))) _
  · cases transformed

theorem isSome_mapValues?_iff
    {transform? : Value → Option Image}
    {dict : Dict Key Value} :
    (dict.mapValues? transform?).isSome = true ↔
      ∀ entry ∈ dict.entries, (transform? entry.2).isSome = true := by
  rw [← List.all_eq_true, mapValues?]
  split
  · rename_i allImaged
    exact iff_of_true rfl allImaged
  · rename_i notAll
    exact iff_of_false Bool.false_ne_true notAll

/--
Two searches of entries with different keys, the first stricter than the second,
end at the same key exactly when every entry that only the second accepts
comes after one that both accept.
-/
theorem find?_key_eq_iff
    {strict lenient : Key × Value → Bool}
    (weaker : ∀ entry, strict entry = true → lenient entry = true)
    {entries : List (Key × Value)}
    (noDuplicates : (entries.map Prod.fst).Nodup) :
    (entries.find? lenient).map Prod.fst =
        (entries.find? strict).map Prod.fst ↔
      ∀ before entry after,
        entries = before ++ entry :: after →
        lenient entry = true →
        strict entry = false →
        ∃ earlier ∈ before, strict earlier = true := by
  induction entries with
  | nil =>
      simp
  | cons head rest inductionHypothesis =>
      obtain ⟨headNew, restDistinct⟩ := List.nodup_cons.mp noDuplicates
      cases strictHead : strict head with
      | true =>
          have lenientHead := weaker head strictHead
          refine iff_of_true
            (by simp [strictHead, lenientHead]) ?_
          intro before entry after shape _ notStrict
          cases before with
          | nil =>
              cases shape
              rw [strictHead] at notStrict
              cases notStrict
          | cons first others =>
              cases shape
              exact ⟨head, by simp, strictHead⟩
      | false =>
          cases lenientHead : lenient head with
          | true =>
              -- Only the second search stops at the head.
              refine iff_of_false ?_ ?_
              · intro sameKey
                simp only [List.find?_cons, strictHead, lenientHead,
                  Option.map_some] at sameKey
                obtain ⟨entry, found, isHead⟩ :=
                  Option.map_eq_some_iff.mp sameKey.symm
                apply headNew
                rw [← isHead]
                exact List.mem_map_of_mem
                  (List.mem_of_find?_eq_some found)
              · intro preceded
                obtain ⟨earlier, member, _⟩ :=
                  preceded [] head rest rfl lenientHead strictHead
                simp at member
          | false =>
              simp only [List.find?_cons, strictHead, lenientHead]
              rw [inductionHypothesis restDistinct]
              constructor
              · intro preceded before entry after shape accepted refused
                cases before with
                | nil =>
                    cases shape
                    rw [lenientHead] at accepted
                    cases accepted
                | cons first others =>
                    cases shape
                    obtain ⟨earlier, member, isStrict⟩ :=
                      preceded others entry after rfl accepted refused
                    exact ⟨earlier, List.mem_cons_of_mem _ member,
                      isStrict⟩
              · intro preceded before entry after shape accepted refused
                obtain ⟨earlier, member, isStrict⟩ :=
                  preceded (head :: before) entry after
                    (by rw [shape, List.cons_append]) accepted refused
                rcases List.mem_cons.mp member with rfl | inBefore
                · rw [strictHead] at isStrict
                  cases isStrict
                · exact ⟨earlier, inBefore, isStrict⟩

section Lookup

variable [DecidableEq Key]

/-- The value of the first entry with the given key. -/
def lookupEntries (key : Key) :
    List (Key × Value) → Option Value
  | [] => none
  | entry :: rest =>
      if entry.1 = key then some entry.2 else lookupEntries key rest

/-- `dict.get(key)`. -/
def get? (dict : Dict Key Value) (key : Key) : Option Value :=
  lookupEntries key dict.entries

/-- `key in dict`. -/
def contains (dict : Dict Key Value) (key : Key) : Bool :=
  (dict.get? key).isSome

/-- Overwrite an entry in place, or append it when the key is new. -/
def putEntries (key : Key) (value : Value) :
    List (Key × Value) → List (Key × Value)
  | [] => [(key, value)]
  | entry :: rest =>
      if entry.1 = key then
        (key, value) :: rest
      else
        entry :: putEntries key value rest

theorem mem_keys_putEntries
    {key query : Key}
    {value : Value}
    {entries : List (Key × Value)} :
    query ∈ (putEntries key value entries).map Prod.fst ↔
      query = key ∨ query ∈ entries.map Prod.fst := by
  induction entries with
  | nil =>
      simp [putEntries]
  | cons entry rest inductionHypothesis =>
      by_cases same : entry.1 = key
      · simp [putEntries, same]
      · simp only [putEntries, same, ↓reduceIte, List.map_cons,
          List.mem_cons, inductionHypothesis]
        tauto

theorem keysNodup_putEntries
    {key : Key}
    {value : Value}
    {entries : List (Key × Value)}
    (noDuplicates : (entries.map Prod.fst).Nodup) :
    ((putEntries key value entries).map Prod.fst).Nodup := by
  induction entries with
  | nil =>
      simp [putEntries]
  | cons entry rest inductionHypothesis =>
      simp only [List.map_cons, List.nodup_cons] at noDuplicates
      by_cases same : entry.1 = key
      · subst same
        simpa only [putEntries, ↓reduceIte, List.map_cons,
          List.nodup_cons] using noDuplicates
      · rw [putEntries, if_neg same, List.map_cons,
          List.nodup_cons, mem_keys_putEntries, not_or]
        exact ⟨⟨same, noDuplicates.1⟩,
          inductionHypothesis noDuplicates.2⟩

/-- `dict[key] = value`. -/
def set
    (dict : Dict Key Value)
    (key : Key)
    (value : Value) : Dict Key Value where
  entries := putEntries key value dict.entries
  keysNodup := keysNodup_putEntries dict.keysNodup

/-- Update the value stored under a key; nothing happens when it is absent. -/
def modify
    (dict : Dict Key Value)
    (key : Key)
    (update : Value → Value) : Dict Key Value :=
  match dict.get? key with
  | none => dict
  | some value => dict.set key (update value)

@[simp] theorem get?_empty (key : Key) :
    (empty : Dict Key Value).get? key = none :=
  rfl

theorem lookupEntries_put
    (key query : Key)
    (value : Value)
    (entries : List (Key × Value)) :
    lookupEntries query (putEntries key value entries) =
      if query = key then some value else lookupEntries query entries := by
  induction entries with
  | nil =>
      simp [putEntries, lookupEntries, eq_comm]
  | cons entry rest inductionHypothesis =>
      by_cases same : entry.1 = key
      · by_cases asked : query = key
        · simp [putEntries, lookupEntries, same, asked]
        · have other : key ≠ query := Ne.symm asked
          simp [putEntries, lookupEntries, same, asked, other]
      · simp only [putEntries, same, ↓reduceIte, lookupEntries,
          inductionHypothesis]
        by_cases asked : query = key
        · have other : entry.1 ≠ query := asked ▸ same
          simp [asked, same]
        · simp [asked]

/-- What a lookup sees after one assignment. -/
theorem get?_set
    (dict : Dict Key Value)
    (key query : Key)
    (value : Value) :
    (dict.set key value).get? query =
      if query = key then some value else dict.get? query :=
  lookupEntries_put key query value dict.entries

@[simp] theorem get?_set_same
    (dict : Dict Key Value)
    (key : Key)
    (value : Value) :
    (dict.set key value).get? key = some value := by
  simp [get?_set]

theorem get?_set_other
    (dict : Dict Key Value)
    {key query : Key}
    (different : query ≠ key)
    (value : Value) :
    (dict.set key value).get? query = dict.get? query := by
  simp [get?_set, different]

/-- What a lookup sees after an in-place update. -/
theorem get?_modify
    (dict : Dict Key Value)
    (key query : Key)
    (update : Value → Value) :
    (dict.modify key update).get? query =
      if query = key then (dict.get? query).map update
      else dict.get? query := by
  unfold modify
  by_cases asked : query = key
  · subst query
    cases found : dict.get? key with
    | none =>
        simp [found]
    | some value =>
        simp
  · cases found : dict.get? key with
    | none =>
        simp [asked]
    | some value =>
        simp [get?_set_other dict asked, asked]

@[simp] theorem get?_mapValues
    (dict : Dict Key Value)
    (transform : Value → Image)
    (key : Key) :
    (dict.mapValues transform).get? key =
      (dict.get? key).map transform := by
  simp only [get?, mapValues]
  generalize dict.entries = entries
  induction entries with
  | nil =>
      rfl
  | cons entry rest inductionHypothesis =>
      by_cases same : entry.1 = key
      · simp [lookupEntries, same]
      · simpa [lookupEntries, same] using inductionHypothesis

/-- A stored entry is what lookup returns for its key. -/
theorem get?_eq_some_iff
    {dict : Dict Key Value}
    {key : Key}
    {value : Value} :
    dict.get? key = some value ↔ (key, value) ∈ dict.entries := by
  rcases dict with ⟨entries, noDuplicates⟩
  simp only [get?]
  induction entries with
  | nil =>
      simp [lookupEntries]
  | cons entry rest inductionHypothesis =>
      simp only [List.map_cons, List.nodup_cons] at noDuplicates
      by_cases same : entry.1 = key
      · have absent : (key, value) ∉ rest := by
          intro member
          apply noDuplicates.1
          rw [same]
          exact List.mem_map_of_mem (f := Prod.fst) member
        simp only [lookupEntries, same, ↓reduceIte,
          Option.some.injEq, List.mem_cons, absent, or_false]
        constructor
        · intro sameValue
          exact Prod.ext same.symm sameValue.symm
        · intro sameEntry
          exact (congrArg Prod.snd sameEntry).symm
      · have other : (key, value) ≠ entry := by
          rintro rfl
          exact same rfl
        simp only [lookupEntries, same, ↓reduceIte,
          List.mem_cons, other, false_or]
        exact inductionHypothesis noDuplicates.2

theorem get?_filterMapValues
    (dict : Dict Key Value)
    (transform? : Value → Option Image)
    (key : Key) :
    (dict.filterMapValues transform?).get? key =
      (dict.get? key).bind transform? := by
  apply Option.ext
  intro image
  simp only [get?_eq_some_iff, filterMapValues,
    List.mem_filterMap, Option.map_eq_some_iff, Prod.mk.injEq,
    Option.bind_eq_some_iff]
  constructor
  · rintro ⟨⟨_, value⟩, member, _, transformed, rfl, rfl⟩
    exact ⟨value, member, transformed⟩
  · rintro ⟨value, member, transformed⟩
    exact ⟨(key, value), member, image, transformed, rfl, rfl⟩

theorem contains_iff
    {dict : Dict Key Value}
    {key : Key} :
    dict.contains key = true ↔ ∃ value, dict.get? key = some value := by
  simp [contains, Option.isSome_iff_exists]

/-- Membership among the keys is a successful lookup. -/
theorem mem_keys_iff
    {dict : Dict Key Value}
    {key : Key} :
    key ∈ dict.keys ↔ ∃ value, dict.get? key = some value := by
  simp [keys, get?_eq_some_iff]

/-- Assigning a new key appends its entry. -/
theorem entries_set_of_absent
    {dict : Dict Key Value}
    {key : Key}
    (absent : dict.get? key = none)
    (value : Value) :
    (dict.set key value).entries = dict.entries ++ [(key, value)] := by
  simp only [get?, set] at absent ⊢
  generalize dict.entries = entries at absent ⊢
  induction entries with
  | nil =>
      rfl
  | cons entry rest inductionHypothesis =>
      by_cases same : entry.1 = key
      · simp [lookupEntries, same] at absent
      · simp only [lookupEntries, same, ↓reduceIte] at absent
        simp [putEntries, same, inductionHypothesis absent]

/-- How many keys are mapped to a value. -/
def valueCount
    [DecidableEq Value]
    (dict : Dict Key Value)
    (value : Value) : Nat :=
  dict.entries.countP fun entry => entry.2 = value

theorem countP_putEntries
    [DecidableEq Value]
    (key : Key)
    (value query : Value)
    (entries : List (Key × Value)) :
    (putEntries key value entries).countP
          (fun entry => entry.2 = query) +
        (if lookupEntries key entries = some query then 1 else 0) =
      entries.countP (fun entry => entry.2 = query) +
        (if value = query then 1 else 0) := by
  induction entries with
  | nil =>
      simp [putEntries, lookupEntries, List.countP_cons]
  | cons entry rest inductionHypothesis =>
      by_cases same : entry.1 = key
      · simp only [putEntries, lookupEntries, same, ↓reduceIte,
          List.countP_cons, decide_eq_true_eq, Option.some.injEq]
        omega
      · simp only [putEntries, lookupEntries, same, ↓reduceIte,
          List.countP_cons]
        omega

/--
One assignment moves one key: it adds the key to the count of the new value
and takes it out of the count of the value it overwrites.
-/
theorem valueCount_set
    [DecidableEq Value]
    (dict : Dict Key Value)
    (key : Key)
    (value query : Value) :
    (dict.set key value).valueCount query +
        (if dict.get? key = some query then 1 else 0) =
      dict.valueCount query + (if value = query then 1 else 0) :=
  countP_putEntries key value query dict.entries

end Lookup

end Dict

end OpticsSoftfail
