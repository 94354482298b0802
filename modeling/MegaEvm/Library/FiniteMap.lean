/-
This file counts the values of a finite map that satisfy a predicate, and merges one
finite map into another. Inserting a key moves the count by what the new value adds
and what the old value, if there was one, takes away; the statement keeps both on the
side where they are added. A merge goes over the entries of the second map; since its
keys differ, each key is combined once, with what the first map had.
-/

import Mathlib.Data.List.AList

namespace MegaEvm.Library

variable {Key Value : Type}

/-- The number of entries whose value satisfies the predicate. -/
def valueCount (property : Value → Bool) (map : AList fun _ : Key => Value) : Nat :=
  map.entries.countP fun entry => property entry.2

variable [DecidableEq Key]

/-- Erasing a key takes away what its value counted. -/
theorem countP_kerase (property : Value → Bool) (key : Key)
    (entries : List (Sigma fun _ : Key => Value)) :
    (entries.kerase key).countP (fun entry => property entry.2) +
        (if (entries.dlookup key).any property then 1 else 0) =
      entries.countP fun entry => property entry.2 := by
  induction entries with
  | nil => rfl
  | cons entry rest inductionHypothesis =>
    by_cases same : key = entry.1
    · subst same
      rw [List.kerase_cons_eq rfl, List.dlookup_cons_eq, List.countP_cons]
      rfl
    · rw [List.kerase_cons_ne same, List.dlookup_cons_ne _ _ same, List.countP_cons,
        List.countP_cons, ← inductionHypothesis]
      omega

/-- Inserting a key adds what the new value counts and takes away what the old one counted. -/
theorem valueCount_insert (property : Value → Bool) (key : Key) (value : Value)
    (map : AList fun _ : Key => Value) :
    valueCount property (map.insert key value) +
        (if (map.lookup key).any property then 1 else 0) =
      valueCount property map + (if property value then 1 else 0) := by
  have erased := countP_kerase property key map.entries
  have inserted : (map.insert key value).entries = ⟨key, value⟩ :: map.entries.kerase key := rfl
  have lookup : map.lookup key = map.entries.dlookup key := rfl
  unfold valueCount
  rw [inserted, List.countP_cons, ← erased, lookup]
  dsimp only
  omega

/-- A map of one entry has nothing else. -/
theorem eq_of_lookup_singleton {key other : Key} {value found : Value}
    (isFound : (AList.singleton key value : AList fun _ : Key => Value).lookup other = some found) :
    other = key ∧ found = value := by
  have member : ⟨other, found⟩ ∈ (AList.singleton key value : AList fun _ : Key => Value).entries :=
    AList.mem_lookup_iff.mp isFound
  rw [AList.singleton_entries, List.mem_singleton] at member
  cases member
  exact ⟨rfl, rfl⟩

/-! ### Merging -/

variable {Other : Type}

/-- Combine every entry of the second map with what the first has under its key. -/
def mergeWith (combine : Option Value → Other → Value) (this : AList fun _ : Key => Value)
    (other : AList fun _ : Key => Other) : AList fun _ : Key => Value :=
  other.entries.foldl
    (fun map entry => map.insert entry.1 (combine (map.lookup entry.1) entry.2)) this

variable (combine : Option Value → Other → Value)

theorem lookup_foldl_insert (key : Key) (entries : List (Sigma fun _ : Key => Other))
    (distinct : entries.NodupKeys) (map : AList fun _ : Key => Value) :
    (entries.foldl (fun map entry => map.insert entry.1 (combine (map.lookup entry.1) entry.2))
        map).lookup key =
      match entries.dlookup key with
      | some value => some (combine (map.lookup key) value)
      | none => map.lookup key := by
  induction entries generalizing map with
  | nil => rfl
  | cons entry rest inductionHypothesis =>
    have restDistinct : rest.NodupKeys := List.nodupKeys_of_nodupKeys_cons distinct
    rw [List.foldl_cons, inductionHypothesis restDistinct]
    by_cases same : key = entry.1
    · subst same
      have absent : rest.dlookup entry.1 = none :=
        List.dlookup_eq_none.mpr (List.notMem_keys_of_nodupKeys_cons distinct)
      rw [absent, List.dlookup_cons_eq]
      exact AList.lookup_insert _
    · rw [List.dlookup_cons_ne _ _ same, AList.lookup_insert_ne same]

theorem lookup_mergeWith (this : AList fun _ : Key => Value) (other : AList fun _ : Key => Other)
    (key : Key) :
    (mergeWith combine this other).lookup key =
      match other.lookup key with
      | some value => some (combine (this.lookup key) value)
      | none => this.lookup key :=
  lookup_foldl_insert combine key other.entries other.nodupKeys this

end MegaEvm.Library
