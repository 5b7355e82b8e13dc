import Mathlib.Data.List.Basic
import Mathlib.Data.List.Nodup
import Mathlib.Tactic

/-!
# Insertion-ordered dictionaries

A finite map that remembers the order in which its keys were first set. Setting
a present key replaces its value in place; a fresh key goes to the end. Each key
occurs once, and the structure carries that fact.
-/

namespace OrderedDict

/-- Replace the value of `key` in place, or append a fresh entry. -/
def put {κ ν : Type} [DecidableEq κ] : List (κ × ν) → κ → ν → List (κ × ν)
  | [], key, value => [(key, value)]
  | (k, v) :: rest, key, value =>
      if k = key then (key, value) :: rest else (k, v) :: put rest key value

/-- The value stored under `key`. -/
def look {κ ν : Type} [DecidableEq κ] : List (κ × ν) → κ → Option ν
  | [], _ => none
  | (k, v) :: rest, key => if k = key then some v else look rest key

section Raw

variable {κ ν : Type} [DecidableEq κ]

theorem mem_keys_put {entries : List (κ × ν)} {key k : κ} {value : ν} :
    k ∈ (put entries key value).map Prod.fst ↔ k = key ∨ k ∈ entries.map Prod.fst := by
  induction entries with
  | nil => simp [put]
  | cons head rest ih =>
      obtain ⟨k', v'⟩ := head
      by_cases same : k' = key
      · subst same
        simp [put]
      · simp only [put, same, if_false, List.map_cons, List.mem_cons, ih]
        tauto

theorem put_nodup {entries : List (κ × ν)} (nodup : (entries.map Prod.fst).Nodup)
    (key : κ) (value : ν) : ((put entries key value).map Prod.fst).Nodup := by
  induction entries with
  | nil => simp [put]
  | cons head rest ih =>
      obtain ⟨k', v'⟩ := head
      obtain ⟨fresh, tail⟩ := List.nodup_cons.mp nodup
      by_cases same : k' = key
      · subst same
        simpa [put] using nodup
      · simp only [put, same, if_false, List.map_cons]
        refine List.nodup_cons.mpr ⟨?_, ih tail⟩
        rw [mem_keys_put]
        rintro (equal | old)
        · exact same equal
        · exact fresh old

theorem put_of_not_mem {entries : List (κ × ν)} {key : κ}
    (absent : key ∉ entries.map Prod.fst) (value : ν) :
    put entries key value = entries ++ [(key, value)] := by
  induction entries with
  | nil => rfl
  | cons head rest ih =>
      obtain ⟨other, absent⟩ := not_or.mp (List.mem_cons.not.mp absent)
      rw [put, if_neg (Ne.symm other), ih absent, List.cons_append]

theorem look_put (entries : List (κ × ν)) (key k : κ) (value : ν) :
    look (put entries key value) k = if k = key then some value else look entries k := by
  induction entries with
  | nil => simp [put, look, eq_comm]
  | cons head rest ih =>
      obtain ⟨k', v'⟩ := head
      by_cases same : k' = key
      · subst same
        by_cases hit : k = k' <;> simp [put, look, hit, eq_comm]
      · by_cases hit : k' = k
        · subst hit
          simp [put, look, same]
        · simp [put, look, same, hit, ih]

theorem look_eq_some_iff {entries : List (κ × ν)} (nodup : (entries.map Prod.fst).Nodup)
    {key : κ} {value : ν} : look entries key = some value ↔ (key, value) ∈ entries := by
  induction entries with
  | nil => simp [look]
  | cons head rest ih =>
      obtain ⟨k', v'⟩ := head
      obtain ⟨fresh, tail⟩ := List.nodup_cons.mp nodup
      by_cases same : k' = key
      · subst same
        have absent : (k', value) ∉ rest := fun member =>
          fresh (List.mem_map.mpr ⟨(k', value), member, rfl⟩)
        simp [look, absent, eq_comm]
      · simp [look, same, ih tail, Ne.symm same]

theorem look_isSome_iff {entries : List (κ × ν)} {key : κ} :
    (look entries key).isSome ↔ key ∈ entries.map Prod.fst := by
  induction entries with
  | nil => simp [look]
  | cons head rest ih =>
      obtain ⟨k', v'⟩ := head
      by_cases same : k' = key
      · simp [look, same]
      · simp only [look, same, if_false, ih, List.map_cons, List.mem_cons]
        exact ⟨Or.inr, fun h => h.resolve_left (Ne.symm same)⟩

theorem look_filter (entries : List (κ × ν)) (key k : κ) :
    look (entries.filter fun entry => entry.1 ≠ key) k =
      if k = key then none else look entries k := by
  induction entries with
  | nil => simp [look]
  | cons head rest ih =>
      obtain ⟨k', v'⟩ := head
      by_cases same : k' = key
      · subst same
        by_cases hit : k = k'
        · simpa [hit] using ih
        · have other : k' ≠ k := Ne.symm hit
          simpa [look, hit, other] using ih
      · by_cases hit : k' = k
        · subst hit
          simp [look, same]
        · simpa [look, same, hit] using ih

end Raw

end OrderedDict

/-- An insertion-ordered dictionary; no key occurs twice. -/
structure Dict (κ ν : Type) where
  entries : List (κ × ν)
  nodup : (entries.map Prod.fst).Nodup

namespace Dict

open OrderedDict

variable {κ ν μ : Type}

def empty : Dict κ ν := ⟨[], List.nodup_nil⟩

instance : EmptyCollection (Dict κ ν) := ⟨empty⟩

instance : Inhabited (Dict κ ν) := ⟨empty⟩

def keys (dict : Dict κ ν) : List κ := dict.entries.map Prod.fst

def values (dict : Dict κ ν) : List ν := dict.entries.map Prod.snd

theorem keys_nodup (dict : Dict κ ν) : dict.keys.Nodup := dict.nodup

variable [DecidableEq κ]

def get? (dict : Dict κ ν) (key : κ) : Option ν := look dict.entries key

def contains (dict : Dict κ ν) (key : κ) : Bool := (dict.get? key).isSome

/-- Set `key`; a present key keeps its position. -/
def set (dict : Dict κ ν) (key : κ) (value : ν) : Dict κ ν :=
  ⟨put dict.entries key value, put_nodup dict.nodup key value⟩

/-- Remove `key` when it is present. -/
def erase (dict : Dict κ ν) (key : κ) : Dict κ ν :=
  ⟨dict.entries.filter fun entry => entry.1 ≠ key,
    dict.nodup.sublist ((List.filter_sublist).map Prod.fst)⟩

/-- Set every listed pair, from left to right. -/
def setAll (dict : Dict κ ν) (pairs : List (κ × ν)) : Dict κ ν :=
  pairs.foldl (fun acc pair => acc.set pair.1 pair.2) dict

def ofList (pairs : List (κ × ν)) : Dict κ ν := (∅ : Dict κ ν).setAll pairs

/-- Same keys and values, whatever the order of insertion. -/
def Same (first second : Dict κ ν) : Prop := ∀ key, first.get? key = second.get? key

@[simp] theorem get?_empty (key : κ) : (∅ : Dict κ ν).get? key = none := rfl

theorem get?_set (dict : Dict κ ν) (key k : κ) (value : ν) :
    (dict.set key value).get? k = if k = key then some value else dict.get? k :=
  look_put dict.entries key k value

@[simp] theorem get?_set_self (dict : Dict κ ν) (key : κ) (value : ν) :
    (dict.set key value).get? key = some value := by
  simp [get?_set]

theorem get?_set_of_ne (dict : Dict κ ν) {key k : κ} (other : k ≠ key) (value : ν) :
    (dict.set key value).get? k = dict.get? k := by
  simp [get?_set, other]

theorem get?_erase (dict : Dict κ ν) (key k : κ) :
    (dict.erase key).get? k = if k = key then none else dict.get? k :=
  look_filter dict.entries key k

@[simp] theorem get?_erase_self (dict : Dict κ ν) (key : κ) :
    (dict.erase key).get? key = none := by
  simp [get?_erase]

theorem get?_eq_some_iff {dict : Dict κ ν} {key : κ} {value : ν} :
    dict.get? key = some value ↔ (key, value) ∈ dict.entries :=
  look_eq_some_iff dict.nodup

theorem mem_keys_iff {dict : Dict κ ν} {key : κ} :
    key ∈ dict.keys ↔ (dict.get? key).isSome :=
  look_isSome_iff.symm

theorem get?_eq_none_iff {dict : Dict κ ν} {key : κ} :
    dict.get? key = none ↔ key ∉ dict.keys := by
  rw [mem_keys_iff]
  cases dict.get? key <;> simp

theorem erase_of_not_mem {dict : Dict κ ν} {key : κ} (absent : key ∉ dict.keys) :
    dict.erase key = dict := by
  have all : dict.entries.filter (fun entry => entry.1 ≠ key) = dict.entries := by
    refine List.filter_eq_self.mpr fun entry member => ?_
    simpa using fun same => absent (List.mem_map.mpr ⟨entry, member, same⟩)
  rcases dict with ⟨entries, nodup⟩
  simp only [erase, mk.injEq]
  exact all

theorem mem_keys_of_get? {dict : Dict κ ν} {key : κ} {value : ν}
    (found : dict.get? key = some value) : key ∈ dict.keys := by
  simp [mem_keys_iff, found]

theorem mem_keys_set {dict : Dict κ ν} {key k : κ} {value : ν} :
    k ∈ (dict.set key value).keys ↔ k = key ∨ k ∈ dict.keys :=
  mem_keys_put

/-- A new key comes last. -/
theorem keys_set_of_not_mem {dict : Dict κ ν} {key : κ} (absent : key ∉ dict.keys) (value : ν) :
    (dict.set key value).keys = dict.keys ++ [key] := by
  change (put dict.entries key value).map Prod.fst = _
  rw [put_of_not_mem absent, List.map_append]
  rfl

theorem values_set_of_not_mem {dict : Dict κ ν} {key : κ} (absent : key ∉ dict.keys) (value : ν) :
    (dict.set key value).values = dict.values ++ [value] := by
  change (put dict.entries key value).map Prod.snd = _
  rw [put_of_not_mem absent, List.map_append]
  rfl

theorem get?_setAll_of_not_mem (dict : Dict κ ν) (pairs : List (κ × ν)) {k : κ}
    (absent : k ∉ pairs.map Prod.fst) : (dict.setAll pairs).get? k = dict.get? k := by
  induction pairs generalizing dict with
  | nil => rfl
  | cons pair rest ih =>
      rw [List.map_cons, List.mem_cons, not_or] at absent
      change ((dict.set pair.1 pair.2).setAll rest).get? k = _
      rw [ih (dict.set pair.1 pair.2) absent.2, get?_set_of_ne _ absent.1]

theorem get?_setAll_of_mem (dict : Dict κ ν) {pairs : List (κ × ν)}
    (nodup : (pairs.map Prod.fst).Nodup) {pair : κ × ν} (listed : pair ∈ pairs) :
    (dict.setAll pairs).get? pair.1 = some pair.2 := by
  induction pairs generalizing dict with
  | nil => cases listed
  | cons first rest ih =>
      obtain ⟨fresh, nodup⟩ := List.nodup_cons.mp nodup
      change ((dict.set first.1 first.2).setAll rest).get? pair.1 = _
      cases listed with
      | head => rw [get?_setAll_of_not_mem _ rest fresh, get?_set_self]
      | tail _ listed => exact ih _ nodup listed

/-- A dictionary whose values are changed entry by entry. -/
theorem get?_ofList_map (dict : Dict κ ν) (change : ν → μ) (key : κ) :
    (ofList (dict.entries.map fun entry => (entry.1, change entry.2))).get? key =
      (dict.get? key).map change := by
  have keys : (dict.entries.map fun entry => (entry.1, change entry.2)).map Prod.fst =
      dict.entries.map Prod.fst := by
    rw [List.map_map]
    rfl
  cases found : dict.get? key with
  | none =>
      rw [ofList, get?_setAll_of_not_mem]
      · rfl
      · rw [keys]
        exact get?_eq_none_iff.mp found
  | some value =>
      have listed : (key, change value) ∈ dict.entries.map fun entry => (entry.1, change entry.2) :=
        List.mem_map.mpr ⟨(key, value), get?_eq_some_iff.mp found, rfl⟩
      exact get?_setAll_of_mem _ (keys ▸ dict.nodup) listed

theorem get?_setAll_computed (dict : Dict κ ν) (keys : List κ) (value : κ → ν) (k : κ) :
    (dict.setAll (keys.map fun key => (key, value key))).get? k =
      if k ∈ keys then some (value k) else dict.get? k := by
  induction keys generalizing dict with
  | nil => rw [if_neg List.not_mem_nil]; rfl
  | cons key rest ih =>
      change ((dict.set key (value key)).setAll (rest.map fun key => (key, value key))).get? k = _
      rw [ih, get?_set]
      grind

/-- A dictionary whose values are a function of the keys. -/
theorem get?_ofList_computed (keys : List κ) (value : κ → ν) (k : κ) :
    (ofList (keys.map fun key => (key, value key))).get? k =
      if k ∈ keys then some (value k) else none :=
  get?_setAll_computed ∅ keys value k

instance [DecidableEq ν] (first second : Dict κ ν) : Decidable (first.Same second) :=
  decidable_of_iff
    (∀ key ∈ first.keys ++ second.keys, first.get? key = second.get? key) (by
      constructor
      · intro agree key
        by_cases member : key ∈ first.keys ++ second.keys
        · exact agree key member
        · rw [List.mem_append, not_or] at member
          rw [get?_eq_none_iff.mpr member.1, get?_eq_none_iff.mpr member.2]
      · intro agree key _
        exact agree key)

end Dict
