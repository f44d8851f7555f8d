/-
**Tables: finite maps from names to values, in key order.**

A table lists its entries by strictly increasing key, so equal contents are equal tables and every
listing comes in one order, the order of the keys' code points. `insert` replaces the value of a
key that is there, `erase` and `filter` drop entries, `get?` looks one up.
-/

namespace DeviceMapping

namespace Table

/-- The entries with one key set to a value, the others kept in order. -/
def insertEntry {α : Type} (key : String) (value : α) : List (String × α) → List (String × α)
  | [] => [(key, value)]
  | entry :: rest =>
    if key < entry.1 then (key, value) :: entry :: rest
    else if key = entry.1 then (key, value) :: rest
    else entry :: insertEntry key value rest

/-- Strictly increasing keys. -/
abbrev Sorted {α : Type} (entries : List (String × α)) : Prop :=
  entries.Pairwise fun first second => first.1 < second.1

theorem mem_insertEntry {α : Type} {key : String} {value : α} {entries : List (String × α)}
    {entry : String × α} (member : entry ∈ insertEntry key value entries) :
    entry = (key, value) ∨ entry ∈ entries := by
  induction entries with
  | nil => simpa [insertEntry] using member
  | cons head rest ih =>
    unfold insertEntry at member
    split at member
    · simpa using member
    · split at member
      · rcases List.mem_cons.mp member with same | later
        · exact .inl same
        · exact .inr (List.mem_cons_of_mem _ later)
      · rcases List.mem_cons.mp member with same | later
        · exact .inr (same ▸ List.mem_cons_self)
        · rcases ih later with new | old
          · exact .inl new
          · exact .inr (List.mem_cons_of_mem _ old)

theorem sorted_insertEntry {α : Type} (key : String) (value : α) {entries : List (String × α)}
    (sorted : Sorted entries) : Sorted (insertEntry key value entries) := by
  induction entries with
  | nil => simp [insertEntry]
  | cons head rest ih =>
    obtain ⟨first, later⟩ := List.pairwise_cons.mp sorted
    unfold insertEntry
    split
    · rename_i before
      refine List.pairwise_cons.mpr ⟨fun entry member => ?_, sorted⟩
      rcases List.mem_cons.mp member with same | inRest
      · exact same ▸ before
      · exact String.lt_trans before (first entry inRest)
    · split
      · rename_i equal
        exact List.pairwise_cons.mpr ⟨fun entry member => equal ▸ first entry member, later⟩
      · rename_i notBefore different
        refine List.pairwise_cons.mpr ⟨fun entry member => ?_, ih later⟩
        rcases mem_insertEntry member with new | old
        · rw [new]
          exact Std.lt_of_le_of_ne (String.not_lt.mp notBefore) (Ne.symm different)
        · exact first entry old

end Table

/-- A finite map from names to values, listed by strictly increasing key. -/
structure Table (α : Type) where
  entries : List (String × α)
  sorted : Table.Sorted entries

namespace Table

variable {α β : Type}

instance [DecidableEq α] : DecidableEq (Table α) := fun first second =>
  decidable_of_iff (first.entries = second.entries) ⟨fun equal => by
    cases first; cases second; cases equal; rfl, fun equal => equal ▸ rfl⟩

/-- The table without entries. -/
def empty : Table α := ⟨[], .nil⟩

instance : Inhabited (Table α) := ⟨empty⟩

/-- The value of a key. -/
def get? (table : Table α) (key : String) : Option α :=
  table.entries.lookup key

/-- The key has a value. -/
def contains (table : Table α) (key : String) : Bool :=
  (table.get? key).isSome

/-- The keys in increasing order. -/
def keys (table : Table α) : List String :=
  table.entries.map (·.1)

/-- The values in the order of their keys. -/
def values (table : Table α) : List α :=
  table.entries.map (·.2)

/-- The number of entries. -/
def size (table : Table α) : Nat :=
  table.entries.length

/-- The table has no entries. -/
def isEmpty (table : Table α) : Bool :=
  table.entries.isEmpty

/-- The table with one key set to a value. -/
def insert (table : Table α) (key : String) (value : α) : Table α :=
  ⟨insertEntry key value table.entries, sorted_insertEntry key value table.sorted⟩

/-- The entries that pass a test. -/
def filter (table : Table α) (keep : String → α → Bool) : Table α :=
  ⟨table.entries.filter fun entry => keep entry.1 entry.2, table.sorted.filter _⟩

/-- The table without one key. -/
def erase (table : Table α) (key : String) : Table α :=
  table.filter fun other _ => other != key

/-- The table with every value changed by a function of its key and itself. -/
def map (table : Table α) (change : String → α → β) : Table β :=
  ⟨table.entries.map fun entry => (entry.1, change entry.1 entry.2),
    List.pairwise_map.mpr table.sorted⟩

/-- The table of a list of entries, where the last entry of a key counts. -/
def ofList (entries : List (String × α)) : Table α :=
  entries.foldl (fun table entry => table.insert entry.1 entry.2) empty

end Table

end DeviceMapping
