/-
**Looking up in a table.**

`get?` determines a table, and every operation has one equation that says what it does to `get?`:
`get?_insert`, `get?_erase`, `get?_filter`, `get?_map`. So a statement about tables can be proved
key by key, with `ext_get?`, and without the order of the entries.
-/

import DeviceMapping.Table

namespace DeviceMapping.Table

variable {α β : Type}

/-! ### Looking up in the entries -/

theorem lookup_cons (key : String) (entry : String × α) (rest : List (String × α)) :
    (entry :: rest).lookup key = if key = entry.1 then some entry.2 else rest.lookup key := by
  rw [show entry = (entry.1, entry.2) from rfl, List.lookup_cons]
  by_cases same : key = entry.1
  · simp [same]
  · simp [same, beq_eq_false_iff_ne.mpr same]

theorem lookup_eq_none {key : String} {entries : List (String × α)}
    (absent : ∀ entry ∈ entries, entry.1 ≠ key) : entries.lookup key = none := by
  induction entries with
  | nil => rfl
  | cons head rest ih =>
    rw [lookup_cons, if_neg (Ne.symm (absent head List.mem_cons_self))]
    exact ih fun entry member => absent entry (List.mem_cons_of_mem _ member)

theorem nodup_of_sorted {entries : List (String × α)} (sorted : Sorted entries) :
    (entries.map (·.1)).Nodup :=
  List.pairwise_map.mpr (sorted.imp fun before => Std.ne_of_lt before)

/-- In a list without repeated keys a pair stands exactly where its key is looked up. -/
theorem lookup_eq_some_iff_of_nodup {key : String} {value : α} {entries : List (String × α)}
    (nodup : (entries.map (·.1)).Nodup) :
    entries.lookup key = some value ↔ (key, value) ∈ entries := by
  induction entries with
  | nil => simp
  | cons head rest ih =>
    obtain ⟨first, later⟩ := List.nodup_cons.mp nodup
    rw [lookup_cons, List.mem_cons]
    by_cases same : key = head.1
    · subst same
      rw [if_pos rfl]
      constructor
      · intro equal
        exact .inl (by rw [← Option.some.inj equal])
      · rintro (equal | member)
        · rw [← equal]
        · exact absurd (List.mem_map.mpr ⟨_, member, rfl⟩) first
    · rw [if_neg same, ih later]
      constructor
      · exact .inr
      · rintro (equal | member)
        · exact absurd (congrArg Prod.fst equal) same
        · exact member

/-- In a sorted list a pair stands exactly where its key is looked up. -/
theorem lookup_eq_some_iff {key : String} {value : α} {entries : List (String × α)}
    (sorted : Sorted entries) : entries.lookup key = some value ↔ (key, value) ∈ entries :=
  lookup_eq_some_iff_of_nodup (nodup_of_sorted sorted)

/-- The order of a list without repeated keys does not matter to its look-ups. -/
theorem lookup_of_perm {entries others : List (String × α)} (perm : entries.Perm others)
    (nodup : (entries.map (·.1)).Nodup) (key : String) :
    entries.lookup key = others.lookup key := by
  have nodup' : (others.map (·.1)).Nodup := (perm.map (·.1)).nodup nodup
  ext value
  rw [lookup_eq_some_iff_of_nodup nodup, lookup_eq_some_iff_of_nodup nodup', perm.mem_iff]

/-- Where every item is listed under its key, a key looks up the first item that has it. -/
theorem lookup_map_key (key : α → String) (items : List α) (wanted : String) :
    (items.map fun item => (key item, item)).lookup wanted =
      items.find? fun item => key item == wanted := by
  induction items with
  | nil => rfl
  | cons item rest ih =>
    rw [List.map_cons, lookup_cons, List.find?_cons, ih]
    by_cases same : key item = wanted
    · simp [same]
    · rw [if_neg (Ne.symm same), beq_eq_false_iff_ne.mpr same]

theorem lookup_insertEntry (key other : String) (value : α) (entries : List (String × α)) :
    (insertEntry key value entries).lookup other =
      if other = key then some value else entries.lookup other := by
  induction entries with
  | nil => simp [insertEntry, lookup_cons]
  | cons head rest ih =>
    unfold insertEntry
    split
    · rw [lookup_cons]
    · split
      · rename_i equal
        rw [lookup_cons, lookup_cons, equal]
        split <;> simp_all
      · rename_i different
        rw [lookup_cons, lookup_cons, ih]
        by_cases here : other = head.1
        · rw [if_pos here, if_pos here, if_neg fun same => different (same.symm.trans here)]
        · rw [if_neg here, if_neg here]

theorem lookup_filter {keep : String → α → Bool} (key : String) {entries : List (String × α)}
    (sorted : Sorted entries) :
    (entries.filter fun entry => keep entry.1 entry.2).lookup key =
      (entries.lookup key).filter (keep key) := by
  induction entries with
  | nil => rfl
  | cons head rest ih =>
    obtain ⟨first, later⟩ := List.pairwise_cons.mp sorted
    rw [lookup_cons, List.filter_cons]
    by_cases same : key = head.1
    · subst same
      rw [if_pos rfl]
      split
      · rename_i kept
        rw [lookup_cons, if_pos rfl, Option.filter_some_pos kept]
      · rename_i dropped
        rw [Option.filter_some_neg (by simpa using dropped)]
        refine lookup_eq_none fun entry member => ?_
        exact (Std.ne_of_lt (first entry (List.mem_filter.mp member).1)).symm
    · rw [if_neg same, ← ih later]
      split
      · rw [lookup_cons, if_neg same]
      · rfl

theorem lookup_map (change : String → α → β) (key : String) (entries : List (String × α)) :
    (entries.map fun entry => (entry.1, change entry.1 entry.2)).lookup key =
      (entries.lookup key).map (change key) := by
  induction entries with
  | nil => rfl
  | cons head rest ih =>
    rw [List.map_cons, lookup_cons, lookup_cons, ih]
    by_cases same : key = head.1
    · subst same
      simp
    · simp [same]

/-! ### Looking up in a table -/

@[simp] theorem get?_empty (key : String) : (empty : Table α).get? key = none := rfl

@[simp] theorem get?_insert (table : Table α) (key other : String) (value : α) :
    (table.insert key value).get? other = if other = key then some value else table.get? other :=
  lookup_insertEntry key other value table.entries

@[simp] theorem get?_filter (table : Table α) (keep : String → α → Bool) (key : String) :
    (table.filter keep).get? key = (table.get? key).filter (keep key) :=
  lookup_filter key table.sorted

@[simp] theorem get?_erase (table : Table α) (key other : String) :
    (table.erase key).get? other = if other = key then none else table.get? other := by
  rw [erase, get?_filter]
  by_cases same : other = key
  · simp [same]
  · rw [if_neg same]
    cases table.get? other with
    | none => rfl
    | some value => exact Option.filter_some_pos (bne_iff_ne.mpr same)

@[simp] theorem get?_map (table : Table α) (change : String → α → β) (key : String) :
    (table.map change).get? key = (table.get? key).map (change key) :=
  lookup_map change key table.entries

/-- A value is looked up exactly where its entry is listed. -/
theorem get?_eq_some_iff {table : Table α} {key : String} {value : α} :
    table.get? key = some value ↔ (key, value) ∈ table.entries :=
  lookup_eq_some_iff table.sorted

theorem nodup_entries (table : Table α) : table.entries.Nodup :=
  table.sorted.imp fun before equal => Std.ne_of_lt before (congrArg Prod.fst equal)

/-- A table is determined by what is looked up in it. -/
theorem ext_get? {first second : Table α} (same : ∀ key, first.get? key = second.get? key) :
    first = second := by
  have member : ∀ entry, entry ∈ first.entries ↔ entry ∈ second.entries := fun entry => by
    rw [← get?_eq_some_iff, ← get?_eq_some_iff, same]
  have equal : first.entries = second.entries :=
    List.Perm.eq_of_pairwise
      (fun _ _ _ _ before after => absurd (String.lt_trans before after) (String.lt_irrefl _))
      first.sorted second.sorted
      ((List.perm_ext_iff_of_nodup first.nodup_entries second.nodup_entries).mpr member)
  cases first
  cases second
  cases equal
  rfl

/-- Setting a key and changing every value go together. -/
theorem map_insert (table : Table α) (change : String → α → β) (key : String) (value : α) :
    (table.insert key value).map change = (table.map change).insert key (change key value) := by
  refine ext_get? fun other => ?_
  rw [get?_map, get?_insert, get?_insert, get?_map]
  split
  · rename_i same
    rw [same, Option.map_some]
  · rfl

/-- Two keys may be set in either order. -/
theorem insert_comm (table : Table α) {first second : String} (different : first ≠ second)
    (value other : α) :
    (table.insert first value).insert second other =
      (table.insert second other).insert first value := by
  refine ext_get? fun key => ?_
  rw [get?_insert, get?_insert, get?_insert, get?_insert]
  by_cases same : key = second
  · rw [if_pos same, if_pos same, if_neg (same ▸ different.symm)]
  · rw [if_neg same, if_neg same]

/-- Changing every value and then dropping some is dropping first what the change makes them. -/
theorem filter_map (table : Table α) (change : String → α → β) (keep : String → β → Bool) :
    (table.map change).filter keep =
      (table.filter fun key value => keep key (change key value)).map change := by
  refine ext_get? fun key => ?_
  rw [get?_filter, get?_map, get?_map, get?_filter, Option.filter_map]
  rfl

theorem filter_filter (table : Table α) (first second : String → α → Bool) :
    (table.filter first).filter second =
      table.filter fun key value => first key value && second key value := by
  refine ext_get? fun key => ?_
  rw [get?_filter, get?_filter, get?_filter, Option.filter_filter]

/-- Which entries pass a test depends on those of the table alone. -/
theorem filter_congr {table : Table α} {keep other : String → α → Bool}
    (same : ∀ key value, table.get? key = some value → keep key value = other key value) :
    table.filter keep = table.filter other := by
  refine ext_get? fun key => ?_
  rw [get?_filter, get?_filter]
  cases found : table.get? key with
  | none => rfl
  | some value => rw [Option.filter_some, Option.filter_some, same key value found]

theorem size_map (table : Table α) (change : String → α → β) :
    (table.map change).size = table.size :=
  List.length_map _

/-! ### Erasing several keys -/

theorem erase_of_absent {table : Table α} {key : String} (absent : table.contains key = false) :
    table.erase key = table := by
  refine ext_get? fun other => ?_
  rw [get?_erase]
  split
  · rename_i same
    rw [same]
    exact (Option.isNone_iff_eq_none.mp (Option.isSome_eq_false_iff.mp absent)).symm
  · rfl

theorem get?_eraseAll (table : Table α) (keys : List String) (key : String) :
    (keys.foldl erase table).get? key = if key ∈ keys then none else table.get? key := by
  induction keys generalizing table with
  | nil => rfl
  | cons head rest ih =>
    rw [List.foldl_cons, ih, get?_erase]
    by_cases later : key ∈ rest
    · rw [if_pos later, if_pos (List.mem_cons_of_mem _ later)]
    · by_cases same : key = head
      · rw [if_neg later, if_pos same, if_pos (same ▸ List.mem_cons_self)]
      · rw [if_neg later, if_neg same, if_neg (List.not_mem_cons_of_ne_of_not_mem same later)]

theorem map_eraseAll (table : Table α) (change : String → α → β) (keys : List String) :
    (keys.foldl erase table).map change = keys.foldl erase (table.map change) := by
  refine ext_get? fun key => ?_
  rw [get?_map, get?_eraseAll, get?_eraseAll, get?_map]
  split
  · rfl
  · rfl

/-- Erasing keys only takes entries away. -/
theorem entries_eraseAll_sublist (table : Table α) (keys : List String) :
    List.Sublist (keys.foldl erase table).entries table.entries := by
  induction keys generalizing table with
  | nil => exact List.Sublist.refl _
  | cons head rest ih => exact (ih (table.erase head)).trans List.filter_sublist

/-- A table from which entries were taken is the same table if it is as large. -/
theorem eq_of_sublist_of_size_le {smaller table : Table α}
    (sublist : List.Sublist smaller.entries table.entries) (asLarge : table.size ≤ smaller.size) :
    smaller = table := by
  have equal : smaller.entries = table.entries := sublist.eq_of_length_le asLarge
  cases smaller
  cases table
  cases equal
  rfl

/-! ### Tables of lists -/

theorem get?_insertAll (table : Table α) (entries : List (String × α)) (key : String) :
    (entries.foldl (fun table entry => table.insert entry.1 entry.2) table).get? key =
      (entries.reverse.lookup key).or (table.get? key) := by
  induction entries generalizing table with
  | nil => rfl
  | cons head rest ih =>
    rw [List.foldl_cons, ih, get?_insert, List.reverse_cons, List.lookup_append, lookup_cons]
    cases rest.reverse.lookup key with
    | some value => rfl
    | none =>
      by_cases same : key = head.1
      · simp [same]
      · simp [same]

/-- Of several entries with one key the last one is looked up. -/
@[simp] theorem get?_ofList (entries : List (String × α)) (key : String) :
    (ofList entries).get? key = entries.reverse.lookup key := by
  rw [ofList, get?_insertAll, get?_empty, Option.or_none]

theorem lookup_reverse (key : String) {entries : List (String × α)} (sorted : Sorted entries) :
    entries.reverse.lookup key = entries.lookup key :=
  (lookup_of_perm entries.reverse_perm.symm (nodup_of_sorted sorted) key).symm

/-- A table is the table of its own entries. -/
theorem ofList_entries (table : Table α) : ofList table.entries = table :=
  ext_get? fun key => by rw [get?_ofList, lookup_reverse key table.sorted, get?]

end DeviceMapping.Table
