/-!
# Ordered finite maps

A `Table` holds at most one value per key and keeps its entries in strictly increasing key
order, which is the order in which every walk over objects, connections, properties or places
happens. The order is a proof field, so two tables with the same lookups are equal
(`Table.ext_get?`) whatever operations built them.

Each operation has one law that says what it does to `get?`; nothing else about the
representation is needed afterwards.
-/

namespace MediaGraph

/-- A finite map whose entries stand in strictly increasing key order. -/
structure Table (κ υ : Type) [Ord κ] where
  entries : List (κ × υ)
  sorted : entries.Pairwise fun first second => compare first.1 second.1 = .lt

namespace Table

variable {κ υ ν : Type} [Ord κ]

instance [DecidableEq κ] [DecidableEq υ] : DecidableEq (Table κ υ) := fun left right =>
  if same : left.entries = right.entries then
    isTrue (by cases left; cases right; cases same; rfl)
  else
    isFalse fun equal => same (congrArg entries equal)

def empty : Table κ υ := ⟨[], .nil⟩

instance : Inhabited (Table κ υ) := ⟨empty⟩

instance : EmptyCollection (Table κ υ) := ⟨empty⟩

def size (table : Table κ υ) : Nat := table.entries.length

def isEmpty (table : Table κ υ) : Bool := table.entries.isEmpty

def keys (table : Table κ υ) : List κ := table.entries.map (·.1)

def values (table : Table κ υ) : List υ := table.entries.map (·.2)

def mapValues (change : κ → υ → ν) (table : Table κ υ) : Table κ ν :=
  ⟨table.entries.map fun entry => (entry.1, change entry.1 entry.2),
    List.pairwise_map.2 table.sorted⟩

section Lookup

variable [DecidableEq κ]

def get? (table : Table κ υ) (key : κ) : Option υ :=
  (table.entries.find? fun entry => entry.1 = key).map (·.2)

def contains (table : Table κ υ) (key : κ) : Bool := (table.get? key).isSome

def erase (table : Table κ υ) (key : κ) : Table κ υ :=
  ⟨table.entries.filter fun entry => entry.1 ≠ key, table.sorted.filter _⟩

/-- Changes the value of one key; a key without a value stays without one. -/
def modify (table : Table κ υ) (key : κ) (change : υ → υ) : Table κ υ :=
  table.mapValues fun other value => if other = key then change value else value

end Lookup

/-- Places an entry before the first greater key, over an equal one. -/
def insertEntry (key : κ) (value : υ) : List (κ × υ) → List (κ × υ)
  | [] => [(key, value)]
  | (other, kept) :: rest =>
    match compare key other with
    | .lt => (key, value) :: (other, kept) :: rest
    | .eq => (key, value) :: rest
    | .gt => (other, kept) :: insertEntry key value rest

theorem mem_of_mem_insertEntry {key : κ} {value : υ} {entries : List (κ × υ)} {entry : κ × υ}
    (member : entry ∈ insertEntry key value entries) : entry = (key, value) ∨ entry ∈ entries := by
  induction entries with
  | nil => simpa [insertEntry] using member
  | cons head rest ih =>
    obtain ⟨other, kept⟩ := head
    simp only [insertEntry] at member
    split at member <;> grind

section Order

variable [Std.TransOrd κ] [Std.LawfulEqOrd κ]

theorem insertEntry_sorted (key : κ) (value : υ) {entries : List (κ × υ)}
    (sorted : entries.Pairwise fun first second => compare first.1 second.1 = .lt) :
    (insertEntry key value entries).Pairwise fun first second =>
      compare first.1 second.1 = .lt := by
  induction entries with
  | nil => simp [insertEntry]
  | cons head rest ih =>
    obtain ⟨other, kept⟩ := head
    have ⟨below, restSorted⟩ := List.pairwise_cons.1 sorted
    simp only [insertEntry]
    split
    case h_1 before =>
      refine List.pairwise_cons.2 ⟨fun entry member => ?_, sorted⟩
      rcases List.mem_cons.1 member with rfl | member
      · exact before
      · exact Std.TransCmp.lt_trans before (below entry member)
    case h_2 equal =>
      cases Std.LawfulEqCmp.eq_of_compare equal
      exact List.pairwise_cons.2 ⟨below, restSorted⟩
    case h_3 after =>
      refine List.pairwise_cons.2 ⟨fun entry member => ?_, ih restSorted⟩
      rcases mem_of_mem_insertEntry member with rfl | member
      · exact Std.OrientedCmp.lt_of_gt after
      · exact below entry member

/-- Gives a key a value, in place of the one it had. -/
def insert (table : Table κ υ) (key : κ) (value : υ) : Table κ υ :=
  ⟨insertEntry key value table.entries, insertEntry_sorted key value table.sorted⟩

/-- Writes every entry of a list in turn, so that the last one of a key wins. -/
def insertMany (table : Table κ υ) (entries : List (κ × υ)) : Table κ υ :=
  entries.foldl (fun table entry => table.insert entry.1 entry.2) table

/-- The table that writing the entries in turn builds. -/
def ofList (entries : List (κ × υ)) : Table κ υ := empty.insertMany entries

end Order

/-! ## What each operation does to the lookups -/

@[simp]
theorem entries_empty : (empty : Table κ υ).entries = [] := rfl

@[simp]
theorem entries_mapValues (change : κ → υ → ν) (table : Table κ υ) :
    (table.mapValues change).entries =
      table.entries.map fun entry => (entry.1, change entry.1 entry.2) := rfl

section OrderLaws

variable [Std.LawfulEqOrd κ]

theorem key_unique {entries : List (κ × υ)}
    (sorted : entries.Pairwise fun first second => compare first.1 second.1 = .lt)
    {first second : κ × υ} (firstMember : first ∈ entries) (secondMember : second ∈ entries)
    (sameKey : first.1 = second.1) : first = second := by
  induction entries with
  | nil => simp at firstMember
  | cons head rest ih =>
    have ⟨below, restSorted⟩ := List.pairwise_cons.1 sorted
    rcases List.mem_cons.1 firstMember with rfl | firstRest <;>
      rcases List.mem_cons.1 secondMember with rfl | secondRest
    · rfl
    · have := below second secondRest
      simp [sameKey] at this
    · have := below first firstRest
      simp [sameKey] at this
    · exact ih restSorted firstRest secondRest

theorem find?_insertEntry [DecidableEq κ] (key other : κ) (value : υ) (entries : List (κ × υ)) :
    (insertEntry key value entries).find? (fun entry => decide (entry.1 = other)) =
      if other = key then some (key, value)
      else entries.find? fun entry => decide (entry.1 = other) := by
  induction entries with
  | nil => by_cases same : other = key <;> simp [insertEntry, same, eq_comm]
  | cons head rest ih =>
    obtain ⟨present, kept⟩ := head
    simp only [insertEntry]
    split
    case h_1 before =>
      by_cases same : other = key
      · simp [same]
      · simp [same, Ne.symm same]
    case h_2 equal =>
      cases Std.LawfulEqCmp.eq_of_compare equal
      by_cases same : other = key
      · simp [same]
      · simp [same, Ne.symm same]
    case h_3 after =>
      have apart : present ≠ key := by
        rintro rfl
        simp at after
      by_cases same : other = key
      · subst same
        simp [apart, ih]
      · by_cases isOther : present = other
        · simp [isOther, same]
        · simp [isOther, ih, same]

/-- Strictly increasing lists with the same members are equal. -/
theorem entries_eq_of_mem_iff [Std.TransOrd κ] {left right : List (κ × υ)}
    (leftSorted : left.Pairwise fun first second => compare first.1 second.1 = .lt)
    (rightSorted : right.Pairwise fun first second => compare first.1 second.1 = .lt)
    (same : ∀ entry, entry ∈ left ↔ entry ∈ right) : left = right := by
  induction left generalizing right with
  | nil =>
    cases right with
    | nil => rfl
    | cons head rest => exact absurd ((same head).2 List.mem_cons_self) List.not_mem_nil
  | cons head rest ih =>
    cases right with
    | nil => exact absurd ((same head).1 List.mem_cons_self) List.not_mem_nil
    | cons first others =>
      have ⟨below, restSorted⟩ := List.pairwise_cons.1 leftSorted
      have ⟨above, othersSorted⟩ := List.pairwise_cons.1 rightSorted
      have headFirst : head = first := by
        rcases List.mem_cons.1 ((same head).1 List.mem_cons_self) with equal | inOthers
        · exact equal
        rcases List.mem_cons.1 ((same first).2 List.mem_cons_self) with equal | inRest
        · exact equal.symm
        have before := below first inRest
        have after := above head inOthers
        rw [Std.OrientedCmp.gt_of_lt before] at after
        contradiction
      subst headFirst
      congr 1
      apply ih restSorted othersSorted
      intro entry
      have iff := same entry
      simp only [List.mem_cons] at iff
      constructor
      · intro member
        rcases iff.1 (.inr member) with rfl | other
        · have := below entry member
          simp at this
        · exact other
      · intro member
        rcases iff.2 (.inr member) with rfl | other
        · have := above entry member
          simp at this
        · exact other

end OrderLaws

section LookupLaws

variable [DecidableEq κ]

@[simp]
theorem get?_empty (key : κ) : (empty : Table κ υ).get? key = none := rfl

@[simp]
theorem get?_mapValues (change : κ → υ → ν) (table : Table κ υ) (key : κ) :
    (table.mapValues change).get? key = (table.get? key).map (change key) := by
  simp only [get?, entries_mapValues, List.find?_map, Option.map_map]
  cases found : table.entries.find? fun entry => decide (entry.1 = key) with
  | none => simp [Function.comp_def, found]
  | some entry =>
    have isKey : entry.1 = key := by simpa using List.find?_some found
    simp [Function.comp_def, found, isKey]

@[simp]
theorem get?_modify (table : Table κ υ) (key other : κ) (change : υ → υ) :
    (table.modify key change).get? other =
      if other = key then (table.get? other).map change else table.get? other := by
  simp only [modify, get?_mapValues]
  split <;> simp

@[simp]
theorem get?_erase (table : Table κ υ) (key other : κ) :
    (table.erase key).get? other = if other = key then none else table.get? other := by
  simp only [get?, erase, List.find?_filter]
  split
  case isTrue equal =>
    subst equal
    simp
  case isFalse different =>
    congr 2
    funext entry
    by_cases isOther : entry.1 = other <;> simp [isOther, different]

variable [Std.LawfulEqOrd κ]

/-- A key has a value exactly when the pair is an entry. -/
theorem get?_eq_some_iff (table : Table κ υ) (key : κ) (value : υ) :
    table.get? key = some value ↔ (key, value) ∈ table.entries := by
  constructor
  · intro found
    obtain ⟨entry, first, rfl⟩ := Option.map_eq_some_iff.1 found
    have isKey : entry.1 = key := by simpa using List.find?_some first
    have member := List.mem_of_find?_eq_some first
    rw [← isKey]
    exact member
  · intro member
    cases found : table.entries.find? fun entry => decide (entry.1 = key) with
    | none =>
      have absent := List.find?_eq_none.1 found (key, value) member
      simp at absent
    | some entry =>
      have isKey : entry.1 = key := by simpa using List.find?_some found
      have same := key_unique table.sorted (List.mem_of_find?_eq_some found) member isKey
      simp [get?, found, same]

theorem mem_keys_iff (table : Table κ υ) (key : κ) :
    key ∈ table.keys ↔ (table.get? key).isSome := by
  simp only [keys, List.mem_map, Option.isSome_iff_exists, get?_eq_some_iff]
  constructor
  · rintro ⟨entry, member, rfl⟩
    exact ⟨entry.2, member⟩
  · rintro ⟨value, member⟩
    exact ⟨_, member, rfl⟩

variable [Std.TransOrd κ]

@[simp]
theorem get?_insert (table : Table κ υ) (key other : κ) (value : υ) :
    (table.insert key value).get? other = if other = key then some value else table.get? other := by
  simp only [get?, insert, find?_insertEntry]
  split <;> rfl

/-- Tables that answer every lookup alike are equal. -/
theorem ext_get? {left right : Table κ υ} (same : ∀ key, left.get? key = right.get? key) :
    left = right := by
  have entries : left.entries = right.entries := by
    apply entries_eq_of_mem_iff left.sorted right.sorted
    intro entry
    rw [← get?_eq_some_iff, ← get?_eq_some_iff, same]
  cases left
  cases right
  cases entries
  rfl

end LookupLaws

end Table

end MediaGraph
