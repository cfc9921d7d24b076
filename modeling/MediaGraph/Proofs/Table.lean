import MediaGraph.Table

/-!
# Entries of a table

Lookups say which value a key has; sums, counts and walks over a whole table need to know where
its entry stands. Writing a key touches one position of the entry list: that of its former entry,
or a new one between its neighbours. Everything before and after it stays as it is.
-/

namespace MediaGraph.Table

variable {κ υ : Type} [Ord κ] [Std.LawfulEqOrd κ]

theorem keys_nodup (table : Table κ υ) : table.keys.Nodup := by
  refine List.pairwise_map.2 (table.sorted.imp fun before same => ?_)
  simp [same] at before

/-! ## Writing entries in order -/

section Writing

variable [Std.TransOrd κ]

omit [Std.LawfulEqOrd κ] in
/-- A key above all others gets its entry behind theirs. -/
theorem insertEntry_of_above {entries : List (κ × υ)} {key : κ}
    (above : ∀ entry ∈ entries, compare entry.1 key = .lt) (value : υ) :
    insertEntry key value entries = entries ++ [(key, value)] := by
  induction entries with
  | nil => rfl
  | cons head rest ih =>
      have after := Std.OrientedCmp.gt_of_lt (above head List.mem_cons_self)
      have further := ih fun entry member => above entry (List.mem_cons_of_mem _ member)
      simp only [insertEntry, after, further, List.cons_append]

theorem entries_insertMany (table : Table κ υ) {entries : List (κ × υ)}
    (sorted : (table.entries ++ entries).Pairwise fun first second =>
      compare first.1 second.1 = .lt) :
    (table.insertMany entries).entries = table.entries ++ entries := by
  induction entries generalizing table with
  | nil => exact (List.append_nil _).symm
  | cons entry rest ih =>
      have above : ∀ present ∈ table.entries, compare present.1 entry.1 = .lt :=
        fun present member =>
          (List.pairwise_append.1 sorted).2.2 present member entry List.mem_cons_self
      have written : (table.insert entry.1 entry.2).entries = table.entries ++ [entry] :=
        insertEntry_of_above above entry.2
      have further := ih (table.insert entry.1 entry.2)
      rw [written, List.append_assoc] at further
      exact further sorted

/-- A table is what writing its entries in turn builds. -/
theorem ofList_entries (table : Table κ υ) : ofList table.entries = table := by
  have entries : (ofList table.entries).entries = table.entries :=
    entries_insertMany empty table.sorted
  generalize ofList table.entries = built at entries
  cases built
  cases table
  cases entries
  rfl

end Writing

/-! ## Single entries -/

variable [DecidableEq κ]

theorem mem_values_iff (table : Table κ υ) (value : υ) :
    value ∈ table.values ↔ ∃ key, table.get? key = some value := by
  simp [values, get?_eq_some_iff]

/-- A key has the last value that is written for it; if there is none, it keeps the one it had. -/
theorem get?_insertMany [Std.TransOrd κ] (table : Table κ υ) {entries : List (κ × υ)}
    (distinct : (entries.map (·.1)).Nodup) (key : κ) : (table.insertMany entries).get? key =
      ((entries.find? fun entry => entry.1 = key).map (·.2)).or (table.get? key) := by
  induction entries generalizing table with
  | nil => rfl
  | cons entry rest ih =>
      rcases List.nodup_cons.1 distinct with ⟨fresh, distinctRest⟩
      have step : table.insertMany (entry :: rest) =
          (table.insert entry.1 entry.2).insertMany rest := rfl
      rw [step, ih _ distinctRest, get?_insert, List.find?_cons]
      by_cases same : entry.1 = key
      · have none : rest.find? (fun other => other.1 = key) = none := by
          rw [List.find?_eq_none]
          intro other member
          have apart : other.1 ≠ key := fun isKey =>
            fresh (List.mem_map.2 ⟨other, member, isKey.trans same.symm⟩)
          simpa using apart
        simp [same, none]
      · have apart : key ≠ entry.1 := fun isKey => same isKey.symm
        simp [same, apart]

/-- The entries of a table can be erased from the first on. -/
theorem entries_erase_head {table : Table κ υ} {head : κ × υ} {rest : List (κ × υ)}
    (entries : table.entries = head :: rest) : (table.erase head.1).entries = rest := by
  have below := (List.pairwise_cons.1 (entries ▸ table.sorted)).1
  simp only [erase, entries, List.filter_cons, ne_eq, not_true_eq_false, decide_false,
    Bool.false_eq_true, if_false, List.filter_eq_self]
  intro entry member
  have before := below entry member
  simp only [decide_eq_true_eq]
  intro same
  simp [same] at before

theorem find?_of_below {entries : List (κ × υ)} {key : κ}
    (below : ∀ entry ∈ entries, compare key entry.1 = .lt) :
    entries.find? (fun entry => decide (entry.1 = key)) = none := by
  rw [List.find?_eq_none]
  intro entry member same
  have before := below entry member
  simp [of_decide_eq_true same] at before

variable [Std.TransOrd κ]

/-- Writing a key replaces its entry, or puts one where there was none. -/
theorem insertEntry_split (key : κ) {entries : List (κ × υ)}
    (sorted : entries.Pairwise fun first second => compare first.1 second.1 = .lt) :
    ∃ before after,
      entries =
        before ++ (entries.find? fun entry => decide (entry.1 = key)).toList ++ after ∧
      ∀ value, insertEntry key value entries = before ++ (key, value) :: after := by
  induction entries with
  | nil => exact ⟨[], [], by simp, fun value => rfl⟩
  | cons head rest ih =>
      rcases List.pairwise_cons.1 sorted with ⟨below, restSorted⟩
      rcases head with ⟨other, kept⟩
      cases order : compare key other with
      | lt =>
          have first : ∀ entry ∈ (other, kept) :: rest, compare key entry.1 = .lt := by
            intro entry member
            rcases List.mem_cons.1 member with rfl | member
            · exact order
            · exact Std.TransCmp.lt_trans order (below entry member)
          have absent := find?_of_below first
          exact ⟨[], (other, kept) :: rest, by simp [absent], fun value => by
            simp [insertEntry, order]⟩
      | eq =>
          cases Std.LawfulEqCmp.eq_of_compare order
          exact ⟨[], rest, by simp, fun value => by simp [insertEntry]⟩
      | gt =>
          have apart : other ≠ key := by
            rintro rfl
            simp at order
          rcases ih restSorted with ⟨before, after, split, inserted⟩
          refine ⟨(other, kept) :: before, after, ?_, ?_⟩
          · simpa [List.find?_cons, apart] using split
          · intro value
            simp [insertEntry, order, inserted value]

theorem insert_split (table : Table κ υ) (key : κ) :
    ∃ before after,
      table.entries =
        before ++ ((table.get? key).map fun value => (key, value)).toList ++ after ∧
      ∀ value, (table.insert key value).entries = before ++ (key, value) :: after := by
  rcases insertEntry_split key table.sorted with ⟨before, after, split, inserted⟩
  refine ⟨before, after, ?_, inserted⟩
  have whole : (table.get? key).map (fun value => (key, value)) =
      table.entries.find? fun entry => decide (entry.1 = key) := by
    simp only [get?]
    cases found : table.entries.find? fun entry => decide (entry.1 = key) with
    | none => rfl
    | some entry =>
        have isKey : entry.1 = key := by simpa using List.find?_some found
        simp [← isKey]
  rw [whole]
  exact split

/-- A new key adds its entry to those that there are. -/
theorem entries_insert_perm {table : Table κ υ} {key : κ} (absent : table.get? key = none)
    (value : υ) : (table.insert key value).entries.Perm ((key, value) :: table.entries) := by
  rcases table.insert_split key with ⟨before, after, split, inserted⟩
  rw [absent] at split
  simp only [inserted, split]
  simp [List.perm_middle]

theorem values_insert_perm {table : Table κ υ} {key : κ} (absent : table.get? key = none)
    (value : υ) : (table.insert key value).values.Perm (value :: table.values) :=
  (entries_insert_perm absent value).map Prod.snd

theorem keys_insert_perm {table : Table κ υ} {key : κ} (absent : table.get? key = none)
    (value : υ) : (table.insert key value).keys.Perm (key :: table.keys) :=
  (entries_insert_perm absent value).map Prod.fst

@[simp]
theorem insert_insert (table : Table κ υ) (key : κ) (first second : υ) :
    (table.insert key first).insert key second = table.insert key second := by
  apply ext_get?
  intro other
  by_cases same : other = key <;> simp [same]

theorem erase_insert {table : Table κ υ} {key : κ} (absent : table.get? key = none) (value : υ) :
    (table.insert key value).erase key = table := by
  apply ext_get?
  intro other
  by_cases same : other = key <;> simp [same, absent]

theorem erase_of_absent {table : Table κ υ} {key : κ} (absent : table.get? key = none) :
    table.erase key = table := by
  apply ext_get?
  intro other
  by_cases same : other = key <;> simp [same, absent]

theorem insert_erase {table : Table κ υ} {key : κ} {value : υ}
    (found : table.get? key = some value) : (table.erase key).insert key value = table := by
  apply ext_get?
  intro other
  by_cases same : other = key <;> simp [same, found]

@[simp]
theorem insert_of_erased (table : Table κ υ) (key : κ) (value : υ) :
    (table.erase key).insert key value = table.insert key value := by
  apply ext_get?
  intro other
  by_cases same : other = key <;> simp [same]

theorem insert_of_present {table : Table κ υ} {key : κ} {value : υ}
    (found : table.get? key = some value) : table.insert key value = table := by
  rw [← insert_of_erased, insert_erase found]

/-- What is left when a key is erased lacks its entry only. -/
theorem entries_erase_perm {table : Table κ υ} {key : κ} {value : υ}
    (found : table.get? key = some value) :
    table.entries.Perm ((key, value) :: (table.erase key).entries) := by
  have absent : (table.erase key).get? key = none := by simp
  have restored := entries_insert_perm absent value
  rwa [insert_erase found] at restored

/-! ## Changing all values -/

variable {ν : Type} (change : υ → ν) (table : Table κ υ) (key : κ)

theorem mapValues_insert (value : υ) : (table.insert key value).mapValues (fun _ => change) =
    (table.mapValues fun _ => change).insert key (change value) := by
  apply ext_get?
  intro other
  by_cases same : other = key <;> simp [same]

theorem mapValues_erase : (table.erase key).mapValues (fun _ => change) =
    (table.mapValues fun _ => change).erase key := by
  apply ext_get?
  intro other
  by_cases same : other = key <;> simp [same]

/-- What is changed in the end shows a change before if it does so for the value that is there. -/
theorem mapValues_modify {before : υ → υ} {after : ν → ν}
    (same : ∀ value, table.get? key = some value →
      change (before value) = after (change value)) :
    (table.modify key before).mapValues (fun _ => change) =
      (table.mapValues fun _ => change).modify key after := by
  apply ext_get?
  intro other
  by_cases isKey : other = key
  · subst isKey
    cases found : table.get? other with
    | none => simp [found]
    | some value => simp [found, same value found]
  · simp [isKey]

end MediaGraph.Table
