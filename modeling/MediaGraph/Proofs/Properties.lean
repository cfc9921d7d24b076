import MediaGraph.Proofs.Json.Records
import MediaGraph.Proofs.Text.ByteOrder
import Mathlib.Data.List.Induction

/-!
# Dictionaries as maps

A dictionary may be built in many ways: entry by entry, from a list of pairs, by taking values away,
and out of other dictionaries (`Properties.Construction`). All that is left of a construction is
which value each key was given last, unless it has been taken away since; that is read off what was
done to the keys in turn (`Properties.written?`), without a dictionary.

`extensional_ordered_map` says that the dictionary answers every lookup with this value, and that it
is walked in the order of its keys in UTF-8. Nothing else is left of how it was built: dictionaries
that give the same answers are equal, and they are written to the same text.
-/

namespace MediaGraph.Properties

/-- A key is given a value, or the value that it has is taken away. -/
inductive Touch where
  | write (key value : String)
  | erase (key : String)

def Touch.key : Touch → String
  | write key _ => key
  | erase key => key

def Touch.value? : Touch → Option String
  | write _ value => some value
  | erase _ => none

def lastTouch? (touches : List Touch) (key : String) : Option Touch :=
  (touches.filter fun touch => touch.key = key).getLast?

/-- The value that was written to a key last, unless it has been taken away since. -/
def written? (touches : List Touch) (key : String) : Option String :=
  (lastTouch? touches key).bind Touch.value?

/-- Writes of all that is left when keys have been touched. -/
def lasting (touches : List Touch) : List Touch :=
  touches.filterMap fun touch => (written? touches touch.key).map (.write touch.key)

/-- A way to build a dictionary. -/
inductive Construction where
  | new
  | ofPairs (pairs : List (String × String))
  | insert (before : Construction) (key value : String)
  | remove (before : Construction) (key : String)
  | extend (before additions : Construction)

namespace Construction

def build : Construction → Properties
  | new => .empty
  | ofPairs pairs => .ofList pairs
  | insert before key value => (before.build.put key value).2
  | remove before key => (before.build.remove key).2
  | extend before additions => before.build.extend additions.build

/-- What is done to the keys in turn. Of additions, only what is left of them gets written. -/
def touches : Construction → List Touch
  | new => []
  | ofPairs pairs => pairs.map fun pair => .write pair.1 pair.2
  | insert before key value => before.touches ++ [.write key value]
  | remove before key => before.touches ++ [.erase key]
  | extend before additions => before.touches ++ lasting additions.touches

end Construction

variable {touches : List Touch} {touch : Touch} {key : String} {left right : Properties}

/-! ## Touches -/

theorem lastTouch?_append (first second : List Touch) (key : String) :
    lastTouch? (first ++ second) key = (lastTouch? second key).or (lastTouch? first key) := by
  rw [lastTouch?, List.filter_append, List.getLast?_append]
  rfl

theorem lastTouch?_eq_none_iff :
    lastTouch? touches key = none ↔ ∀ touch ∈ touches, touch.key ≠ key := by
  simp [lastTouch?]

theorem mem_of_lastTouch? (last : lastTouch? touches key = some touch) :
    touch ∈ touches ∧ touch.key = key := by
  have member := List.mem_filter.1 (List.mem_of_getLast? last)
  exact ⟨member.1, of_decide_eq_true member.2⟩

theorem written?_concat (touches : List Touch) (last : Touch) (key : String) :
    written? (touches ++ [last]) key =
      if key = last.key then last.value? else written? touches key := by
  rw [written?, lastTouch?_append]
  by_cases same : key = last.key
  · simp [lastTouch?, same]
  · simp [lastTouch?, same, Ne.symm same, written?]

theorem mem_lasting_iff : touch ∈ lasting touches ↔
    ∃ key value, written? touches key = some value ∧ touch = .write key value := by
  simp only [lasting, List.mem_filterMap, Option.map_eq_some_iff]
  constructor
  · rintro ⟨former, _, value, written, rfl⟩
    exact ⟨former.key, value, written, rfl⟩
  · rintro ⟨key, value, written, rfl⟩
    rcases Option.bind_eq_some_iff.1 written with ⟨last, isLast, _⟩
    rcases mem_of_lastTouch? isLast with ⟨member, rfl⟩
    exact ⟨last, member, value, written, rfl⟩

theorem lastTouch?_lasting (touches : List Touch) (key : String) :
    lastTouch? (lasting touches) key = (written? touches key).map (.write key) := by
  cases last : lastTouch? (lasting touches) key with
  | none =>
      cases written : written? touches key with
      | none => rfl
      | some value =>
          have lasts := mem_lasting_iff.2 ⟨key, value, written, rfl⟩
          exact absurd rfl (lastTouch?_eq_none_iff.1 last _ lasts)
  | some touch =>
      rcases mem_of_lastTouch? last with ⟨member, rfl⟩
      rcases mem_lasting_iff.1 member with ⟨key, value, written, rfl⟩
      simp [Touch.key, written]

theorem written?_append_lasting (before additions : List Touch) (key : String) :
    written? (before ++ lasting additions) key =
      (written? additions key).or (written? before key) := by
  rw [written?, lastTouch?_append, lastTouch?_lasting]
  cases written? additions key with
  | none => rfl
  | some value => rfl

/-! ## Constructions -/

theorem get?_extend (props additions : Properties) (key : String) :
    (props.extend additions).get? key = (additions.get? key).or (props.get? key) :=
  Table.get?_insertMany props additions.keys_nodup key

/-- Of pairs with the same key, the last one counts. -/
theorem get?_ofList (pairs : List (String × String)) (key : String) :
    (Table.ofList pairs).get? key = written? (pairs.map fun pair => .write pair.1 pair.2) key := by
  induction pairs using List.reverseRecOn with
  | nil => rfl
  | append_singleton pairs last ih =>
      have step : Table.ofList (pairs ++ [last]) = (Table.ofList pairs).insert last.1 last.2 :=
        List.foldl_append
      rw [step, Table.get?_insert, ih, List.map_append, List.map_singleton, written?_concat]
      rfl

theorem get?_build (construction : Construction) (key : String) :
    construction.build.get? key = written? construction.touches key := by
  induction construction with
  | new => rfl
  | ofPairs pairs => exact get?_ofList pairs key
  | insert before other value ih =>
      rw [Construction.build, put, Table.get?_insert, ih, Construction.touches, written?_concat]
      rfl
  | remove before other ih =>
      rw [Construction.build, remove, Table.get?_erase, ih, Construction.touches, written?_concat]
      rfl
  | extend before additions ihBefore ihAdditions =>
      rw [Construction.build, get?_extend, ihBefore, ihAdditions, Construction.touches,
        written?_append_lasting]

/-- What has been taken away from additions is not taken away where they are added. -/
example : (Construction.extend (.ofPairs [("a", "1")])
    (.remove (.ofPairs [("a", "2")]) "a")).build.get? "a" = some "1" := by
  decide

/-! ## Walks, extensions and texts -/

theorem keys_ascending (props : Properties) :
    props.keys.Pairwise fun first second => Text.bytes first < Text.bytes second :=
  List.pairwise_map.2 (props.sorted.imp Text.bytes_lt)

theorem extend_self (props additions : Properties) :
    (props.extend additions).extend additions = props.extend additions := by
  apply Table.ext_get?
  intro key
  rw [get?_extend, get?_extend, ← Option.or_assoc, Option.or_self]

theorem extend_assoc (props additions further : Properties) :
    (props.extend additions).extend further = props.extend (additions.extend further) := by
  apply Table.ext_get?
  intro key
  rw [get?_extend, get?_extend, get?_extend, get?_extend, Option.or_assoc]

theorem eq_iff_get? : left = right ↔ ∀ key, left.get? key = right.get? key := by
  constructor
  · rintro rfl key
    rfl
  · exact Table.ext_get?

theorem render_eq_iff_get? :
    left.toJson.render = right.toJson.render ↔ ∀ key, left.get? key = right.get? key := by
  rw [← eq_iff_get?]
  exact recovers_toJson.injective.eq_iff

/--
However a dictionary was built, its keys are walked in ascending order of their bytes, and each has
the value that was written last and not taken away since, which is also what a further write or
removal hands out. Additions win over what was there; adding them again changes nothing, and they
may be joined first. Dictionaries with the same answers are equal and have the same text, and no
others do.
-/
theorem extensional_ordered_map :
    (∀ construction : Construction,
      (construction.build.keys.Pairwise fun first second =>
        Text.bytes first < Text.bytes second) ∧
      construction.build.size = construction.build.keys.length ∧
      (∀ key value, (key, value) ∈ construction.build.entries ↔
        written? construction.touches key = some value) ∧
      (∀ key, construction.build.get? key = written? construction.touches key) ∧
      (∀ key value, (construction.build.put key value).1 = written? construction.touches key) ∧
      (∀ key, (construction.build.remove key).1 = written? construction.touches key)) ∧
    (∀ (props additions : Properties) (key : String),
      (props.extend additions).get? key = (additions.get? key).or (props.get? key)) ∧
    (∀ props additions : Properties,
      (props.extend additions).extend additions = props.extend additions) ∧
    (∀ props additions further : Properties,
      (props.extend additions).extend further = props.extend (additions.extend further)) ∧
    (∀ left right : Properties, left = right ↔ ∀ key, left.get? key = right.get? key) ∧
    (∀ left right : Properties,
      left.toJson.render = right.toJson.render ↔ ∀ key, left.get? key = right.get? key) := by
  refine ⟨?_, get?_extend, extend_self, extend_assoc, fun _ _ => eq_iff_get?,
    fun _ _ => render_eq_iff_get?⟩
  intro construction
  refine ⟨keys_ascending _, ?_, ?_, get?_build construction, ?_, get?_build construction⟩
  · rw [Table.size, Table.keys, List.length_map]
  · intro key value
    rw [← Table.get?_eq_some_iff, get?_build]
  · intro key value
    exact get?_build construction key

end MediaGraph.Properties
