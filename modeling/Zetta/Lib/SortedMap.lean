import Mathlib.Algebra.GroupWithZero.Nat
import Mathlib.Data.List.Sort
import Mathlib.Order.Lattice

/-! Finite maps kept as association lists in strictly increasing key order. -/

/-- A finite map whose entries are stored once each, in increasing key order. -/
structure SortedMap (κ ν : Type) [LinearOrder κ] where
  /-- The entries, from the least key to the greatest. -/
  entries : List (κ × ν)
  /-- No key occurs twice, and every key is below all the keys stored after it. -/
  sorted : entries.Pairwise fun left right => left.1 < right.1

namespace SortedMap

variable {κ ν μ : Type} [LinearOrder κ]

/-- Place an entry among sorted entries, replacing the one that has its key. -/
def insertEntry (key : κ) (value : ν) : List (κ × ν) → List (κ × ν)
  | [] => [(key, value)]
  | entry :: rest =>
    if key < entry.1 then (key, value) :: entry :: rest
    else if key = entry.1 then (key, value) :: rest
    else entry :: insertEntry key value rest

/-- An inserted list holds the new entry and entries that were there before. -/
theorem mem_insertEntry {key : κ} {value : ν} {entries : List (κ × ν)} {entry : κ × ν}
    (member : entry ∈ insertEntry key value entries) :
    entry = (key, value) ∨ entry ∈ entries := by
  induction entries with
  | nil => simpa [insertEntry] using member
  | cons head rest ih =>
    simp only [insertEntry] at member
    split at member
    · simpa using member
    · split at member
      · rcases List.mem_cons.mp member with same | later
        · exact .inl same
        · exact .inr (List.mem_cons_of_mem _ later)
      · rcases List.mem_cons.mp member with same | later
        · exact .inr (by simp [same])
        · rcases ih later with new | old
          · exact .inl new
          · exact .inr (List.mem_cons_of_mem _ old)

/-- Insertion keeps the entries in strictly increasing key order. -/
theorem insertEntry_sorted (key : κ) (value : ν) {entries : List (κ × ν)}
    (sorted : entries.Pairwise fun left right => left.1 < right.1) :
    (insertEntry key value entries).Pairwise fun left right => left.1 < right.1 := by
  induction entries with
  | nil => simp [insertEntry]
  | cons head rest ih =>
    obtain ⟨below, tail⟩ := List.pairwise_cons.mp sorted
    simp only [insertEntry]
    split
    · -- The new key is below the old least key, hence below every key.
      rename_i least
      refine List.pairwise_cons.mpr ⟨fun entry member => ?_, sorted⟩
      rcases List.mem_cons.mp member with rfl | later
      · exact least
      · exact lt_trans least (below entry later)
    · split
      · -- The replaced entry had the same key, so its bounds carry over.
        rename_i same
        exact List.pairwise_cons.mpr ⟨fun entry member => same ▸ below entry member, tail⟩
      · rename_i notBelow different
        refine List.pairwise_cons.mpr ⟨fun entry member => ?_, ih tail⟩
        rcases mem_insertEntry member with rfl | old
        · exact lt_of_le_of_ne (not_lt.mp notBelow) (Ne.symm different)
        · exact below entry old

/-- The map with no entries. -/
def empty : SortedMap κ ν := ⟨[], .nil⟩

/-- The value stored under a key. -/
def find? (map : SortedMap κ ν) (key : κ) : Option ν :=
  (map.entries.find? fun entry => entry.1 = key).map Prod.snd

/-- Whether a key is stored. -/
def contains (map : SortedMap κ ν) (key : κ) : Bool := (map.find? key).isSome

/-- Store a value under a key, replacing the value stored there before. -/
def insert (map : SortedMap κ ν) (key : κ) (value : ν) : SortedMap κ ν :=
  ⟨insertEntry key value map.entries, insertEntry_sorted key value map.sorted⟩

/-- Forget a key. -/
def erase (map : SortedMap κ ν) (key : κ) : SortedMap κ ν :=
  ⟨map.entries.filter fun entry => entry.1 ≠ key, map.sorted.filter _⟩

/-- The stored keys, in increasing order. -/
def keys (map : SortedMap κ ν) : List κ := map.entries.map Prod.fst

/-- The stored values, in the order of their keys. -/
def values (map : SortedMap κ ν) : List ν := map.entries.map Prod.snd

/-- Each stored entry is the one its key finds. -/
theorem find?_eq_some_iff (map : SortedMap κ ν) (key : κ) (value : ν) :
    map.find? key = some value ↔ (key, value) ∈ map.entries := by
  obtain ⟨entries, sorted⟩ := map
  simp only [find?]
  induction entries with
  | nil => simp
  | cons head rest ih =>
    obtain ⟨below, tail⟩ := List.pairwise_cons.mp sorted
    by_cases same : head.1 = key
    · -- The head answers, and no later entry can have the same key.
      have absent : (key, value) ∉ rest := fun member =>
        absurd (below _ member) (by simp [same])
      have found : (head :: rest).find? (fun entry => entry.1 = key) = some head := by
        simp [same]
      rw [found]
      simp only [Option.map_some, Option.some.injEq, List.mem_cons, absent, or_false]
      constructor
      · rintro rfl
        exact Prod.ext same.symm rfl
      · intro eq
        rw [← eq]
    · have skipped : (head :: rest).find? (fun entry => entry.1 = key)
          = rest.find? fun entry => entry.1 = key := by simp [same]
      rw [skipped, ih tail]
      have differs : (key, value) ≠ head := fun eq => same (by rw [← eq])
      simp [differs]

/-- A lookup fails exactly when no entry has the key. -/
theorem find?_eq_none_iff (map : SortedMap κ ν) (key : κ) :
    map.find? key = none ↔ ∀ value, (key, value) ∉ map.entries := by
  constructor
  · intro missing value member
    rw [(map.find?_eq_some_iff key value).mpr member] at missing
    cases missing
  · intro absent
    cases found : map.find? key with
    | none => rfl
    | some value => exact absurd ((map.find?_eq_some_iff key value).mp found) (absent value)

@[simp] theorem find?_empty (key : κ) : (empty : SortedMap κ ν).find? key = none := rfl

@[simp] theorem entries_empty : (empty : SortedMap κ ν).entries = [] := rfl

/-- Looking up in an inserted list finds the new value at its key and the old values elsewhere. -/
theorem find?_insertEntry (key other : κ) (value : ν) (entries : List (κ × ν)) :
    ((insertEntry key value entries).find? fun entry => entry.1 = other).map Prod.snd
      = if other = key then some value
        else (entries.find? fun entry => entry.1 = other).map Prod.snd := by
  induction entries with
  | nil =>
    by_cases same : other = key
    · simp [insertEntry, same]
    · simp [insertEntry, same, Ne.symm same]
  | cons head rest ih =>
    by_cases same : other = key
    · subst same
      simp only [insertEntry]
      split
      · simp
      · split
        · simp
        · rename_i different
          simpa [Ne.symm different] using ih
    · have hidden : ¬ key = other := Ne.symm same
      simp only [insertEntry]
      split
      · simp [hidden]
      · split
        · rename_i matched
          simp [hidden, ← matched]
        · by_cases named : head.1 = other
          · simp [named]
          · simpa [named, same] using ih

/-- Insertion is read back at its own key and changes no other. -/
@[simp] theorem find?_insert (map : SortedMap κ ν) (key other : κ) (value : ν) :
    (map.insert key value).find? other = if other = key then some value else map.find? other :=
  find?_insertEntry key other value map.entries

@[simp] theorem find?_insert_self (map : SortedMap κ ν) (key : κ) (value : ν) :
    (map.insert key value).find? key = some value := by simp

/-- Inserting under one key leaves the others alone. -/
theorem find?_insert_of_ne (map : SortedMap κ ν) {key other : κ} (value : ν) (differ : key ≠ other) :
    (map.insert key value).find? other = map.find? other := by
  rw [find?_insert, if_neg differ.symm]

/-- Erasing hides exactly the erased key. -/
@[simp] theorem find?_erase (map : SortedMap κ ν) (key other : κ) :
    (map.erase key).find? other = if other = key then none else map.find? other := by
  by_cases same : other = key
  · subst same
    simp [find?_eq_none_iff, erase]
  · rw [if_neg same]
    apply Option.ext
    intro value
    simp [find?_eq_some_iff, erase, same]

/-- Erasing one key leaves the others alone. -/
theorem find?_erase_of_ne (map : SortedMap κ ν) {key other : κ} (differ : key ≠ other) :
    (map.erase key).find? other = map.find? other := by
  rw [find?_erase, if_neg differ.symm]

/-- Membership in an inserted map: the new entry, or an old one under another key. -/
theorem mem_entries_insert (map : SortedMap κ ν) (key : κ) (value : ν) (entry : κ × ν) :
    entry ∈ (map.insert key value).entries ↔
      entry = (key, value) ∨ (entry.1 ≠ key ∧ entry ∈ map.entries) := by
  obtain ⟨other, stored⟩ := entry
  rw [← find?_eq_some_iff, find?_insert]
  by_cases same : other = key
  · subst same
    simp [eq_comm]
  · simp [same, find?_eq_some_iff]

/-- Membership in an erased map: the old entries under other keys. -/
theorem mem_entries_erase (map : SortedMap κ ν) (key : κ) (entry : κ × ν) :
    entry ∈ (map.erase key).entries ↔ entry.1 ≠ key ∧ entry ∈ map.entries := by
  simp [erase, and_comm]

@[simp] theorem contains_eq_true_iff (map : SortedMap κ ν) (key : κ) :
    map.contains key = true ↔ ∃ value, map.find? key = some value := by
  simp [contains, Option.isSome_iff_exists]

/-- A key is stored exactly when it is listed. -/
theorem mem_keys_iff (map : SortedMap κ ν) (key : κ) :
    key ∈ map.keys ↔ ∃ value, map.find? key = some value := by
  simp [keys, find?_eq_some_iff]

/-- No key is listed twice. -/
theorem keys_nodup (map : SortedMap κ ν) : map.keys.Nodup := by
  -- Increasing keys are distinct.
  have increasing : map.keys.Pairwise (· < ·) := List.pairwise_map.mpr map.sorted
  exact increasing.imp ne_of_lt

/-- A map that has the keys with a property of another one has at least as many of them. -/
theorem keys_filter_le {μ : Type} {left : SortedMap κ ν} {right : SortedMap κ μ} {property : κ → Bool}
    (held : ∀ key, property key = true → key ∈ left.keys → key ∈ right.keys) :
    (left.keys.filter property).length ≤ (right.keys.filter property).length := by
  apply (left.keys_nodup.filter _).length_le_of_subset
  intro key member
  obtain ⟨stored, holds⟩ := List.mem_filter.mp member
  exact List.mem_filter.mpr ⟨held key holds stored, holds⟩

/-- Storing a value makes one more at most. -/
theorem keys_filter_insert_le (map : SortedMap κ ν) (key : κ) (value : ν) (property : κ → Bool) :
    ((map.insert key value).keys.filter property).length ≤ (map.keys.filter property).length + 1 := by
  show _ ≤ (key :: map.keys.filter property).length
  apply ((map.insert key value).keys_nodup.filter _).length_le_of_subset
  intro other member
  obtain ⟨stored, holds⟩ := List.mem_filter.mp member
  obtain ⟨found, same⟩ := (mem_keys_iff _ _).mp stored
  rw [find?_insert] at same
  split at same
  · rename_i equal
    exact equal ▸ List.mem_cons_self
  · exact List.mem_cons_of_mem _ (List.mem_filter.mpr ⟨(mem_keys_iff _ _).mpr ⟨found, same⟩, holds⟩)

/-- Erasing several keys in turn keeps the entries under the other keys. -/
theorem mem_entries_foldl_erase (removed : List κ) (map : SortedMap κ ν) (entry : κ × ν) :
    entry ∈ (removed.foldl erase map).entries ↔ entry.1 ∉ removed ∧ entry ∈ map.entries := by
  induction removed generalizing map with
  | nil => simp
  | cons key rest ih =>
    rw [List.foldl_cons, ih, mem_entries_erase]
    simp only [List.mem_cons, not_or]
    tauto

/-- Two stored entries with the same key are the same entry. -/
theorem entry_unique {map : SortedMap κ ν} {left right : κ × ν} (leftMember : left ∈ map.entries)
    (rightMember : right ∈ map.entries) (same : left.1 = right.1) : left = right := by
  have first := (map.find?_eq_some_iff left.1 left.2).mpr leftMember
  have second := (map.find?_eq_some_iff right.1 right.2).mpr rightMember
  rw [← same, first, Option.some.injEq] at second
  exact Prod.ext same second

/-- Erasing the keys of the entries with a property keeps exactly the entries without it. -/
theorem mem_entries_erase_where {map : SortedMap κ ν} (property : κ × ν → Prop) {removed : List κ}
    (keys : ∀ key, key ∈ removed ↔ ∃ entry ∈ map.entries, property entry ∧ entry.1 = key)
    (entry : κ × ν) :
    entry ∈ (removed.foldl erase map).entries ↔ entry ∈ map.entries ∧ ¬ property entry := by
  rw [mem_entries_foldl_erase, keys, and_comm]
  refine and_congr_right fun member => not_congr ⟨?_, fun holds => ⟨entry, member, holds, rfl⟩⟩
  -- A key names one entry only, so the entry found under it is this one.
  intro ⟨other, stored, holds, same⟩
  exact entry_unique stored member same ▸ holds

/-- The first entry has the least key. -/
theorem head_least {map : SortedMap κ ν} {first : κ × ν} (head : map.entries.head? = some first)
    {entry : κ × ν} (member : entry ∈ map.entries) : entry = first ∨ first.1 < entry.1 := by
  obtain ⟨rest, split⟩ := List.head?_eq_some_iff.mp head
  have sorted := map.sorted
  rw [split] at sorted member
  rcases List.mem_cons.mp member with same | later
  · exact .inl same
  · exact .inr ((List.pairwise_cons.mp sorted).1 entry later)

/-- Two maps that answer every lookup alike are the same map. -/
theorem ext_find {left right : SortedMap κ ν} (same : ∀ key, left.find? key = right.find? key) :
    left = right := by
  have members : ∀ entry, entry ∈ left.entries ↔ entry ∈ right.entries := by
    intro ⟨key, value⟩
    rw [← find?_eq_some_iff, ← find?_eq_some_iff, same]
  obtain ⟨leftEntries, leftSorted⟩ := left
  obtain ⟨rightEntries, rightSorted⟩ := right
  -- Sorted lists with the same members are equal.
  have irreflexive : Std.Irrefl fun left right : κ × ν => left.1 < right.1 :=
    ⟨fun entry => lt_irrefl entry.1⟩
  have antisymmetric : Std.Antisymm fun left right : κ × ν => left.1 < right.1 :=
    ⟨fun left right below above => absurd below (lt_asymm above)⟩
  have entries := List.Pairwise.eq_of_mem_iff leftSorted rightSorted members
  subst entries
  rfl

/-- The last value stored under a key is the one that counts. -/
@[simp] theorem insert_insert (map : SortedMap κ ν) (key : κ) (first second : ν) :
    (map.insert key first).insert key second = map.insert key second := by
  refine ext_find fun other => ?_
  by_cases same : other = key <;> simp [same]

/-- Storing a value that is there already changes nothing. -/
theorem insert_of_find {map : SortedMap κ ν} {key : κ} {value : ν}
    (found : map.find? key = some value) : map.insert key value = map := by
  refine ext_find fun other => ?_
  by_cases same : other = key
  · simp [same, found]
  · simp [same]

section Total

variable (measure : ν → Nat)

/-- The sum of a measure over the stored values. -/
def total (map : SortedMap κ ν) : Nat := (map.values.map measure).sum

/-- Placing an entry adds its measure and takes off that of the entry it replaces. -/
theorem total_insertEntry (key : κ) (value : ν) {entries : List (κ × ν)}
    (sorted : entries.Pairwise fun left right => left.1 < right.1) :
    ((insertEntry key value entries).map fun entry => measure entry.2).sum +
        (entries.find? fun entry => entry.1 = key).elim 0 (fun entry => measure entry.2) =
      (entries.map fun entry => measure entry.2).sum + measure value := by
  induction entries with
  | nil => simp [insertEntry]
  | cons head rest ih =>
    obtain ⟨below, tail⟩ := List.pairwise_cons.mp sorted
    simp only [insertEntry]
    split
    · -- The new key is below every key, so it replaces none.
      rename_i least
      have absent : (head :: rest).find? (fun entry => entry.1 = key) = none := by
        rw [List.find?_eq_none]
        intro entry member
        have above : key < entry.1 := by
          rcases List.mem_cons.mp member with rfl | later
          · exact least
          · exact lt_trans least (below entry later)
        simpa using above.ne'
      rw [absent, List.map_cons, List.sum_cons]
      exact (Nat.add_zero _).trans (Nat.add_comm _ _)
    · split
      · rename_i same
        simp only [List.find?_cons, same, decide_true, Option.elim_some, List.map_cons, List.sum_cons]
        omega
      · rename_i different
        have skipped : (head :: rest).find? (fun entry => entry.1 = key) =
            rest.find? fun entry => entry.1 = key := by
          simp [Ne.symm different]
        rw [skipped, List.map_cons, List.sum_cons, List.map_cons, List.sum_cons, Nat.add_assoc,
          ih tail, Nat.add_assoc]

/-- Storing a value adds its measure and takes off that of the value it replaces. -/
theorem total_insert (map : SortedMap κ ν) (key : κ) (value : ν) :
    (map.insert key value).total measure + (map.find? key).elim 0 measure =
      map.total measure + measure value := by
  have sums := total_insertEntry measure key value map.sorted
  have found : (map.find? key).elim 0 measure =
      (map.entries.find? fun entry => entry.1 = key).elim 0 fun entry => measure entry.2 := by
    unfold find?
    cases map.entries.find? fun entry => entry.1 = key <;> rfl
  rw [found]
  simpa only [total, values, List.map_map, Function.comp_def, insert] using sums

/-- Forgetting a key takes nothing but its value out of the sum. -/
theorem total_erase_le (map : SortedMap κ ν) (key : κ) :
    (map.erase key).total measure ≤ map.total measure := by
  have kept : (map.erase key).entries.Sublist map.entries := List.filter_sublist
  have sums : ∀ {left right : List Nat}, left.Sublist right → left.sum ≤ right.sum := by
    intro left right sublist
    induction sublist with
    | slnil => exact le_rfl
    | cons value _ ih => exact ih.trans (Nat.le_add_left _ _)
    | cons_cons value _ ih => exact Nat.add_le_add_left ih value
  exact sums ((kept.map _).map _)

end Total

end SortedMap
