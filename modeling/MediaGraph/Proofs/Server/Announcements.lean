import MediaGraph.Proofs.Server.Objects
import MediaGraph.Proofs.Table
import Mathlib.Data.List.Induction

/-!
# What events tell of the objects

A subscribed connection is told which objects come and go, and, for the ports it listens to, their
properties. `Event.announceAll?` follows the first kind of events: it says which objects are known
after them, provided that nothing comes that is there already and nothing goes that is not there.
`Event.lastInfo?` reads off the second kind what was told of a port last. `Event.expectAll` takes
both together: it is the record of a port that is to be expected after the events.
-/

namespace MediaGraph

namespace Event

/-- What is known of the objects after an event, if the event fits what was known before. -/
def announce? (known : Table ObjectId ObjectKind) : Event → Option (Table ObjectId ObjectKind)
  | global id kind => if known.get? id = none then some (known.insert id kind) else none
  | removed id => if known.get? id = none then none else some (known.erase id)
  | info .. | done _ => some known

/-- What is known of the objects after events in order, if each of them fits. -/
def announceAll? (known : Table ObjectId ObjectKind) (events : List Event) :
    Option (Table ObjectId ObjectKind) :=
  events.foldlM announce? known

def isAbout (id : ObjectId) : Event → Bool
  | global other _ | removed other => other = id
  | info .. | done _ => false

def Untouched (id : ObjectId) (events : List Event) : Prop :=
  ∀ event ∈ events, event.isAbout id = false

def info? (id : ObjectId) : Event → Option Properties
  | info other props => if other = id then some props else none
  | global .. | removed _ | done _ => none

def lastInfo? (id : ObjectId) : List Event → Option Properties
  | [] => none
  | event :: rest => (lastInfo? id rest).or (event.info? id)

/-- The record of an object that is to be expected after an event, given the one before. -/
def expect (id : ObjectId) (record : Option Port) : Event → Option Port
  | global other _ | removed other => if other = id then none else record
  | info other props => if other = id then some (.ofProperties id props) else record
  | done _ => record

def expectAll (id : ObjectId) (record : Option Port) (events : List Event) : Option Port :=
  events.foldl (expect id) record

variable {known : Table ObjectId ObjectKind} {id : ObjectId}

@[simp]
theorem announceAll?_nil : announceAll? known [] = some known := rfl

theorem announceAll?_cons (event : Event) (rest : List Event) :
    announceAll? known (event :: rest) =
      (announce? known event).bind fun known => announceAll? known rest := rfl

theorem announceAll?_append (first second : List Event) :
    announceAll? known (first ++ second) =
      (announceAll? known first).bind fun known => announceAll? known second := by
  simp only [announceAll?, List.foldlM_append]
  rfl

theorem announceAll?_of_silent {events : List Event}
    (silent : ∀ event ∈ events, ∀ known, announce? known event = some known) :
    announceAll? known events = some known := by
  induction events with
  | nil => rfl
  | cons event rest ih =>
      rw [announceAll?_cons, silent event List.mem_cons_self, Option.bind_some]
      exact ih fun other member => silent other (List.mem_cons_of_mem _ member)

@[simp]
theorem untouched_nil : Untouched id [] := by simp [Untouched]

@[simp]
theorem untouched_cons {event : Event} {rest : List Event} :
    Untouched id (event :: rest) ↔ event.isAbout id = false ∧ Untouched id rest := by
  simp [Untouched]

@[simp]
theorem untouched_append {first second : List Event} :
    Untouched id (first ++ second) ↔ Untouched id first ∧ Untouched id second := by
  simp only [Untouched, List.mem_append]
  constructor
  · intro untouched
    exact ⟨fun event member => untouched event (.inl member),
      fun event member => untouched event (.inr member)⟩
  · rintro ⟨first, second⟩ event (member | member)
    · exact first event member
    · exact second event member

theorem get?_of_announce? {after : Table ObjectId ObjectKind} {event : Event}
    (fits : announce? known event = some after) (unrelated : event.isAbout id = false) :
    after.get? id = known.get? id := by
  cases event with
  | global other kind =>
      simp only [announce?, Option.ite_none_right_eq_some, Option.some.injEq] at fits
      rcases fits with ⟨-, rfl⟩
      have apart : ¬id = other := by simpa [isAbout, eq_comm] using unrelated
      simp [apart]
  | removed other =>
      simp only [announce?, Option.ite_none_left_eq_some, Option.some.injEq] at fits
      rcases fits with ⟨-, rfl⟩
      have apart : ¬id = other := by simpa [isAbout, eq_comm] using unrelated
      simp [apart]
  | info | done =>
      cases fits
      rfl

/-- What is known of an object stays as long as nothing is said about it. -/
theorem get?_of_announceAll? {after : Table ObjectId ObjectKind} {events : List Event}
    (fits : announceAll? known events = some after) (untouched : Untouched id events) :
    after.get? id = known.get? id := by
  induction events generalizing known with
  | nil =>
      cases fits
      rfl
  | cons event rest ih =>
      rw [announceAll?_cons] at fits
      rcases Option.bind_eq_some_iff.1 fits with ⟨next, first, remaining⟩
      rcases untouched_cons.1 untouched with ⟨unrelated, others⟩
      rw [ih remaining others, get?_of_announce? first unrelated]

@[simp]
theorem lastInfo?_nil : lastInfo? id [] = none := rfl

@[simp]
theorem lastInfo?_append (first second : List Event) :
    lastInfo? id (first ++ second) = (lastInfo? id second).or (lastInfo? id first) := by
  induction first with
  | nil => simp
  | cons event rest ih => simp [lastInfo?, ih, Option.or_assoc]

theorem lastInfo?_of_silent {events : List Event}
    (silent : ∀ event ∈ events, event.info? id = none) : lastInfo? id events = none := by
  induction events with
  | nil => rfl
  | cons event rest ih =>
      have later := ih fun other member => silent other (List.mem_cons_of_mem _ member)
      simp [lastInfo?, later, silent event List.mem_cons_self]

theorem lastInfo?_replicate (id other : ObjectId) (props : Properties) (count : Nat) :
    lastInfo? id (List.replicate count (info other props)) =
      if other = id ∧ 0 < count then some props else none := by
  induction count with
  | zero => simp
  | succ count ih =>
      simp only [List.replicate_succ, lastInfo?, ih, info?]
      by_cases same : other = id
      · simp only [same, true_and]
        split <;> simp
      · simp [same]

theorem mem_of_lastInfo? {events : List Event} {props : Properties}
    (told : lastInfo? id events = some props) : .info id props ∈ events := by
  induction events with
  | nil => cases told
  | cons event rest ih =>
      rcases Option.or_eq_some_iff.1 told with later | ⟨-, here⟩
      · exact List.mem_cons_of_mem _ (ih later)
      · cases event with
        | info other told =>
            simp only [info?, Option.ite_none_right_eq_some, Option.some.injEq] at here
            simp [here.1, here.2]
        | _ => cases here

theorem expectAll_append (record : Option Port) (first second : List Event) :
    expectAll id record (first ++ second) = expectAll id (expectAll id record first) second :=
  List.foldl_append

theorem expect_of_silent {event : Event} (unrelated : event.isAbout id = false)
    (untold : event.info? id = none) (record : Option Port) : event.expect id record = record := by
  cases event <;> simp_all [expect, isAbout, info?]

/-- What is to be expected by someone who knows nothing before is to be expected by everybody. -/
theorem expectAll_of_none {events : List Event} {expected : Port}
    (isExpected : expectAll id none events = some expected) (record : Option Port) :
    expectAll id record events = some expected := by
  induction events generalizing record with
  | nil => cases isExpected
  | cons event rest ih =>
      rcases told : event.expect id none with _ | described
      · exact ih (by rwa [← told]) _
      · have same : event.expect id record = some described := by
          cases event <;> simp_all [expect]
        rwa [expectAll, List.foldl_cons, same, ← told]

/-- What is to be expected comes from what is told, unless the events leave the object alone. -/
theorem expectAll_cases {events : List Event} {record : Option Port} {expected : Port}
    (isExpected : expectAll id record events = some expected) :
    (expectAll id none events = some expected ∧
      ∃ props, lastInfo? id events = some props ∧ expected = .ofProperties id props) ∨
    (record = some expected ∧ Untouched id events ∧ lastInfo? id events = none) := by
  induction events using List.reverseRecOn with
  | nil => exact .inr ⟨isExpected, untouched_nil, rfl⟩
  | append_singleton early event ih =>
      rw [expectAll_append] at isExpected ⊢
      cases about : event.isAbout id with
      | true => cases event <;> simp_all [expectAll, expect, isAbout]
      | false =>
          cases told : event.info? id with
          | some props => cases event <;> simp_all [expectAll, expect, lastInfo?, info?]
          | none =>
              have silent : ∀ former, expectAll id former [event] = former :=
                expect_of_silent about told
              rw [silent] at isExpected ⊢
              simpa [lastInfo?, about, told] using ih isExpected

/-- What is known of an object says that no event but its removal can be about it. -/
theorem isAbout_of_known {after : Table ObjectId ObjectKind} {event : Event}
    (fits : announce? known event = some after) (notRemoved : ∀ other, event ≠ .removed other)
    (isKnown : known.get? id ≠ none) : event.isAbout id = false := by
  cases event with
  | global other kind =>
      simp only [announce?, Option.ite_none_right_eq_some] at fits
      have apart : other ≠ id := by
        rintro rfl
        exact isKnown fits.1
      simpa [isAbout] using apart
  | removed other => exact absurd rfl (notRemoved other)
  | info | done => rfl

/-- Which ports are known is a matter of their announcements and of removals alone. -/
theorem isPort_iff_of_announce? {after : Table ObjectId ObjectKind} {event : Event}
    (fits : announce? known event = some after) (notPort : ∀ other, event ≠ .global other .port)
    (notRemoved : ∀ other, event ≠ .removed other) :
    after.get? id = some .port ↔ known.get? id = some .port := by
  constructor
  · intro isPort
    cases about : event.isAbout id with
    | false => rwa [get?_of_announce? fits about] at isPort
    | true =>
        cases event with
        | global other kind =>
            simp only [isAbout, decide_eq_true_eq] at about
            simp only [announce?, Option.ite_none_right_eq_some, Option.some.injEq] at fits
            rcases fits with ⟨-, rfl⟩
            rw [Table.get?_insert, if_pos about.symm, Option.some.injEq] at isPort
            exact absurd (congrArg (global other) isPort) (notPort other)
        | removed other => exact absurd rfl (notRemoved other)
        | info | done => cases about
  · intro isPort
    have unrelated : event.isAbout id = false := isAbout_of_known fits notRemoved (by simp [isPort])
    rwa [get?_of_announce? fits unrelated]

/-- Announcing entries that are not known yet makes exactly them known besides. -/
theorem announceAll?_of_unknown {entries : List (ObjectId × ObjectKind)}
    (once : (entries.map (·.1)).Nodup) (unknown : ∀ entry ∈ entries, known.get? entry.1 = none) :
    ∃ after, announceAll? known (entries.map fun entry => global entry.1 entry.2) = some after ∧
      ∀ id kind, after.get? id = some kind ↔ known.get? id = some kind ∨ (id, kind) ∈ entries := by
  induction entries generalizing known with
  | nil => exact ⟨known, rfl, by simp⟩
  | cons entry rest ih =>
      rcases List.nodup_cons.1 once with ⟨notLater, restOnce⟩
      have isNew := unknown entry List.mem_cons_self
      have stillUnknown : ∀ other ∈ rest, (known.insert entry.1 entry.2).get? other.1 = none := by
        intro other member
        have apart : other.1 ≠ entry.1 := by
          intro same
          exact notLater (List.mem_map.2 ⟨other, member, same⟩)
        rw [Table.get?_insert, if_neg apart]
        exact unknown other (List.mem_cons_of_mem _ member)
      rcases ih restOnce stillUnknown with ⟨after, told, lookup⟩
      refine ⟨after, by simp [announceAll?_cons, announce?, isNew, told], ?_⟩
      intro id kind
      rw [lookup, Table.get?_insert, List.mem_cons]
      by_cases same : id = entry.1
      · subst same
        simp only [if_true, isNew, Option.some.injEq]
        constructor
        · rintro (rfl | member)
          · exact .inr (.inl rfl)
          · exact .inr (.inr member)
        · rintro (impossible | isEntry | member)
          · cases impossible
          · exact .inl (congrArg Prod.snd isEntry).symm
          · exact .inr member
      · have apart : (id, kind) ≠ entry := fun isEntry => same (congrArg Prod.fst isEntry)
        simp [same, apart]

/-- Announcing every entry of a table to someone who knows nothing gives the table. -/
theorem announceAll?_entries (kinds : Table ObjectId ObjectKind) :
    announceAll? .empty (kinds.entries.map fun entry => global entry.1 entry.2) = some kinds := by
  have unknown : ∀ entry ∈ kinds.entries,
      (.empty : Table ObjectId ObjectKind).get? entry.1 = none := fun _ _ => rfl
  rcases announceAll?_of_unknown kinds.keys_nodup unknown with ⟨after, told, lookup⟩
  rw [told]
  congr 1
  apply Table.ext_get?
  intro id
  apply Option.ext
  intro kind
  rw [lookup, ← Table.get?_eq_some_iff]
  simp

end Event

namespace Server

def kinds (server : Server) : Table ObjectId ObjectKind :=
  server.objects.mapValues fun _ object => object.kind

@[simp]
theorem get?_kinds (server : Server) (id : ObjectId) : server.kinds.get? id = server.kind? id := by
  simp [kinds, kind?]

theorem kinds_eq_of_objects {before after : Server} (same : after.objects = before.objects) :
    after.kinds = before.kinds := by
  rw [kinds, kinds, same]

end Server

end MediaGraph
