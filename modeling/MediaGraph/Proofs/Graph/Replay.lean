import MediaGraph.Graph.Change
import MediaGraph.Proofs.Graph.Filing

/-!
# Replaying changes

Someone who hears of every change can keep records without ever looking at the graph.
`Change.advance?` is what they do for one change, and it insists that the change fits what they
hold: a port that is added must be new, one that is replaced or removed must be held exactly as the
change shows it.

`Graph.Leads` says that a list of changes leads from one graph to another in this sense.
-/

namespace MediaGraph

namespace Change

/-- What becomes of the records that are held, if the change fits them. -/
def advance? (held : Table ObjectId Port) : Change → Option (Table ObjectId Port)
  | added port => if held.get? port.id = none then some (held.insert port.id port) else none
  | updated previous current =>
    if previous.id = current.id ∧ held.get? current.id = some previous then
      some (held.insert current.id current)
    else none
  | removed port => if held.get? port.id = some port then some (held.erase port.id) else none

/-- What becomes of the records after changes in order, if each of them fits. -/
def replay (held : Table ObjectId Port) (changes : List Change) : Option (Table ObjectId Port) :=
  changes.foldlM advance? held

@[simp]
theorem replay_nil (held : Table ObjectId Port) : replay held [] = some held := rfl

theorem replay_cons (held : Table ObjectId Port) (change : Change) (rest : List Change) :
    replay held (change :: rest) = (advance? held change).bind fun held => replay held rest := rfl

theorem replay_append (held : Table ObjectId Port) (first second : List Change) :
    replay held (first ++ second) = (replay held first).bind fun held => replay held second := by
  simp only [replay, List.foldlM_append]
  rfl

/-! ## Coming and going -/

/-- Additions and removals take turns, given whether the port is there at first. -/
def TakeTurns : Bool → List Change → Prop
  | _, [] => True
  | present, added _ :: rest => present = false ∧ TakeTurns true rest
  | present, removed _ :: rest => present = true ∧ TakeTurns false rest
  | present, updated _ _ :: rest => TakeTurns present rest

def isArrivalOrDeparture : Change → Bool
  | added _ | removed _ => true
  | updated _ _ => false

/-- A change that fits the records does not touch those of other ports. -/
theorem get?_of_advance? {held after : Table ObjectId Port} {change : Change} {id : ObjectId}
    (fits : advance? held change = some after) (other : change.port.id ≠ id) :
    after.get? id = held.get? id := by
  have apart : ¬id = change.port.id := fun same => other same.symm
  cases change with
  | added port | updated _ port | removed port =>
      simp only [advance?, Option.ite_none_right_eq_some, Option.some.injEq] at fits
      rcases fits with ⟨-, rfl⟩
      simp only [Change.port] at apart
      simp [apart]

/-- Of changes that fit, the additions and removals of one port take turns. -/
theorem takeTurns_of_replay {held after : Table ObjectId Port} {changes : List Change}
    (replayed : replay held changes = some after) (id : ObjectId) :
    TakeTurns (held.get? id).isSome
      (changes.filter fun change => change.isArrivalOrDeparture && change.port.id = id) := by
  induction changes generalizing held with
  | nil => trivial
  | cons change rest ih =>
      rw [replay_cons] at replayed
      rcases Option.bind_eq_some_iff.1 replayed with ⟨next, fits, remaining⟩
      have turns := ih remaining
      by_cases other : change.port.id ≠ id
      · rw [get?_of_advance? fits other] at turns
        simpa [List.filter_cons, other] using turns
      · simp only [ne_eq, Decidable.not_not] at other
        cases change with
        | added port =>
            simp only [advance?, Option.ite_none_right_eq_some, Option.some.injEq] at fits
            rcases fits with ⟨absent, rfl⟩
            simp only [Change.port] at other
            subst other
            simpa [List.filter_cons, isArrivalOrDeparture, Change.port, TakeTurns, absent]
              using turns
        | updated previous current =>
            simp only [advance?, Option.ite_none_right_eq_some, Option.some.injEq] at fits
            rcases fits with ⟨⟨-, present⟩, rfl⟩
            simp only [Change.port] at other
            subst other
            simpa [List.filter_cons, isArrivalOrDeparture, present] using turns
        | removed port =>
            simp only [advance?, Option.ite_none_right_eq_some, Option.some.injEq] at fits
            rcases fits with ⟨present, rfl⟩
            simp only [Change.port] at other
            subst other
            simpa [List.filter_cons, isArrivalOrDeparture, Change.port, TakeTurns, present]
              using turns

end Change

/-! ## From graph to graph -/

namespace Graph

/-- Someone holds exactly the records of a graph. -/
def Mirrors (held : Table ObjectId Port) (graph : Graph) : Prop :=
  ∀ id, held.get? id = (graph.find? id).map (·.2)

/-- Whoever holds the records of the first graph holds those of the second after the changes. -/
def Leads (changes : List Change) (before after : Graph) : Prop :=
  ∀ held, Mirrors held before → ∃ next, Change.replay held changes = some next ∧ Mirrors next after

theorem mirrors_empty : Mirrors .empty Graph.empty := fun _ => rfl

theorem Leads.refl (graph : Graph) : Leads [] graph graph := fun held mirrors =>
  ⟨held, rfl, mirrors⟩

theorem Leads.trans {first second : List Change} {before between after : Graph}
    (start : Leads first before between) (rest : Leads second between after) :
    Leads (first ++ second) before after := by
  intro held mirrors
  rcases start held mirrors with ⟨middle, firstReplayed, middleMirrors⟩
  rcases rest middle middleMirrors with ⟨final, secondReplayed, finalMirrors⟩
  exact ⟨final, by simp [Change.replay_append, firstReplayed, secondReplayed], finalMirrors⟩

/-- The records that are held of a well-filed graph are its ports. -/
theorem WellFiled.values_perm {graph : Graph} (filed : graph.WellFiled)
    {held : Table ObjectId Port} (mirrors : Mirrors held graph) :
    held.values.Perm graph.allPorts := by
  have idOf : ∀ id port, held.get? id = some port → port.id = id := by
    intro id port found
    rw [mirrors] at found
    exact (filed.find?_map_eq_some_iff.1 found).2
  have keys : held.values.map (·.id) = held.keys := by
    simp only [Table.values, Table.keys, List.map_map]
    apply List.map_congr_left
    intro entry member
    exact idOf entry.1 entry.2 ((held.get?_eq_some_iff entry.1 entry.2).2 member)
  have heldOnce : held.values.Nodup := .of_map _ (keys ▸ held.keys_nodup)
  apply (List.perm_ext_iff_of_nodup heldOnce (.of_map _ filed.unique)).2
  intro port
  rw [Table.mem_values_iff]
  constructor
  · rintro ⟨id, found⟩
    rw [mirrors] at found
    exact (filed.find?_map_eq_some_iff.1 found).1
  · intro member
    exact ⟨port.id, by rw [mirrors]; exact filed.find?_map_eq_some_iff.2 ⟨member, rfl⟩⟩

/-! ## One change -/

/-- Dropping a port leads to the graph without it, by a removal if there was a record. -/
theorem leads_erase {graph : Graph} (filed : graph.WellFiled) (id : ObjectId) :
    Leads (((graph.find? id).map (·.2)).map Change.removed).toList graph (graph.erase id) := by
  intro held mirrors
  cases found : (graph.find? id).map (·.2) with
  | none =>
      refine ⟨held, rfl, ?_⟩
      intro other
      rw [mirrors, find?_erase filed]
      split
      case isTrue same => simpa [same] using found
      case isFalse => rfl
  | some port =>
      have isId := (filed.find?_map_eq_some_iff.1 found).2
      subst isId
      have present : held.get? port.id = some port := by rw [mirrors, found]
      refine ⟨held.erase port.id, by simp [Change.replay_cons, Change.advance?, present], ?_⟩
      intro other
      rw [Table.get?_erase, find?_erase filed, mirrors]
      split <;> rfl

end Graph

end MediaGraph
