import MediaGraph.Client.Link
import MediaGraph.Proofs.Server.Departure

/-!
# Duplicate links

Where the policy disallows duplicates, the server creates no link between two ports if a link names
them already. It looks for the names as clients write them, in decimal. Yet it reads the names in a
request more leniently, with a plus sign or leading zeros, and keeps them as they were written, so a
link that spells its ports in another way is overlooked by the next request.

What holds is that no two links between the same ports are both written in decimal
(`Server.links_distinct`). A link comes into being when it is created, and never by what happens to
other objects (`Server.Unlinked`), so it is enough to look at the requests that create one.
-/

namespace MediaGraph

/-- A link whose properties name its ends in decimal. -/
structure Object.Writes (object : Object) (ends : ObjectId × ObjectId) : Prop where
  link : object.kind = .link
  output : object.props.get? Key.linkOutput = some (Text.decimal ends.1.toNat)
  input : object.props.get? Key.linkInput = some (Text.decimal ends.2.toNat)

namespace Server

variable {before after server : Server}

/-- Every link was there before, as it is. -/
def Unlinked (before after : Server) : Prop :=
  ∀ id object, after.objects.get? id = some object → object.kind = .link →
    before.objects.get? id = some object

/-- No two links that are written in decimal have the same ends. -/
def Distinct (server : Server) : Prop :=
  ∀ ends first second one other,
    server.objects.get? first = some one → one.Writes ends →
    server.objects.get? second = some other → other.Writes ends → first = second

theorem linkEnds?_of_writes {object : Object} {ends : ObjectId × ObjectId}
    (writes : object.Writes ends) : linkEnds? object.props = some ends := by
  simp [linkEnds?, writes.output, writes.input, Text.readWord?_decimal]

theorem linkExists_iff {ends : ObjectId × ObjectId} : server.linkExists ends.1 ends.2 = true ↔
    ∃ id object, server.objects.get? id = some object ∧ object.Writes ends := by
  simp only [linkExists, List.any_eq_true, Table.mem_values_iff, Bool.and_eq_true,
    decide_eq_true_eq]
  constructor
  · rintro ⟨object, ⟨id, found⟩, ⟨link, output⟩, input⟩
    exact ⟨id, object, found, link, output, input⟩
  · rintro ⟨id, object, found, link, output, input⟩
    exact ⟨object, ⟨id, found⟩, ⟨link, output⟩, input⟩

/-! ## Links that have been there before -/

theorem unlinked_of_objects (objects : after.objects = before.objects) :
    Unlinked before after := by
  intro id object found _
  rw [← objects]
  exact found

theorem Unlinked.trans {middle : Server} (start : Unlinked before middle)
    (rest : Unlinked middle after) : Unlinked before after :=
  fun id object found link => start id object (rest id object found link) link

theorem unlinked_dropConnection (server : Server) (id : ConnectionId) :
    Unlinked server (server.dropConnection id) := by
  cases connected : server.connections.get? id with
  | none =>
      rw [dropConnection_of_absent connected]
      exact unlinked_of_objects rfl
  | some connection =>
      rcases departs_dropConnection connected with ⟨gone, departs, -⟩
      intro other object found _
      rw [departs.objects, Option.ite_none_left_eq_some] at found
      exact found.2

theorem bystands_unlinked (id : ConnectionId) : Bystands id (· ≠ .link) Unlinked where
  port := nofun
  node := nofun
  trans := Unlinked.trans
  apart objects _ _ := unlinked_of_objects objects
  insertObject {added} other server object := by
    intro id found isFound link
    rw [get?_insertObject] at isFound
    split at isFound
    · cases isFound
      exact absurd link other
    · exact isFound
  removeObject server object := by
    intro id found isFound _
    rw [get?_removeObject, Option.ite_none_left_eq_some] at isFound
    exact isFound.2
  rewrite {server object former} props _ other := by
    intro id found isFound link
    rw [objects_sendInfo, Table.get?_insert] at isFound
    split at isFound
    · cases isFound
      exact absurd link other
    · exact isFound
  shows server token change _ := unlinked_of_objects rfl
  dropped server := unlinked_dropConnection server id

theorem unlinked_perform {step : Step} (meets : step.Meets (· ≠ .link) server) :
    Unlinked server (server.perform step) := by
  by_cases asked : ∃ request, step = .ask 0 request
  · rcases asked with ⟨request, rfl⟩
    exact (bystands_unlinked 1).answer Nat.one_ne_zero meets
  · apply (bystands_unlinked 0).perform (Nat.zero_le _) _ meets
    exact fun request same => asked ⟨request, same⟩

/-! ## Links that are created -/

theorem Distinct.of_unlinked (distinct : before.Distinct) (unlinked : Unlinked before after) :
    after.Distinct := by
  intro ends first second one other isOne oneWrites isOther otherWrites
  exact distinct ends first second one other (unlinked first one isOne oneWrites.link) oneWrites
    (unlinked second other isOther otherWrites.link) otherWrites

/-- A link that is created has no other link between its ends that is written in decimal. -/
theorem overlooked_of_accepts {props : Properties} {owner : Option ConnectionId}
    {ends : ObjectId × ObjectId} (disallows : server.policy.allowDuplicateLinks = false)
    (accepts : server.acceptsLink props)
    (writes : ({ kind := .link, props, owner } : Object).Writes ends) {id : ObjectId}
    {object : Object} (found : server.objects.get? id = some object) : ¬object.Writes ends := by
  intro otherWrites
  have present : server.linkExists ends.1 ends.2 = true :=
    linkExists_iff.2 ⟨id, object, found, otherWrites⟩
  simp [acceptsLink, linkEnds?_of_writes writes, disallows, present] at accepts

theorem Distinct.createByFactory (distinct : server.Distinct)
    (disallows : server.policy.allowDuplicateLinks = false) (id : ConnectionId) (factory : String)
    (kind : ObjectKind) (props : Properties) :
    (server.createByFactory id factory kind props).2.Distinct := by
  simp only [Server.createByFactory, createLink]
  split
  case isFalse => exact distinct
  case isTrue =>
    split
    case isFalse => exact distinct
    case isTrue accepts =>
      have created : Distinct
          (server.createObject { kind := .link, props, owner := some id }).2 := by
        intro ends first second one other isOne oneWrites isOther otherWrites
        simp only [createObject, get?_insertObject] at isOne isOther
        split at isOne <;> split at isOther
        case isTrue.isTrue isFirst isSecond => exact isFirst.trans isSecond.symm
        case isTrue.isFalse =>
          cases isOne
          exact absurd otherWrites (overlooked_of_accepts disallows accepts oneWrites isOther)
        case isFalse.isTrue =>
          cases isOther
          exact absurd oneWrites (overlooked_of_accepts disallows accepts otherWrites isOne)
        case isFalse.isFalse =>
          exact distinct ends first second one other isOne oneWrites isOther otherWrites
      split
      · exact created
      · exact created.of_unlinked (unlinked_of_objects rfl)

/-! ## Runs -/

/--
Either the step creates no link and writes on none, or a client asks for a link while duplicates are
disallowed.
-/
def Step.Exclusive (server : Server) (step : Step) : Prop :=
  step.Meets (· ≠ .link) server ∨
    ∃ id factory kind props, step = .ask id (.createObject factory kind props) ∧
      server.policy.allowDuplicateLinks = false

/-- All steps of a run are such, each in the state that it finds. -/
def Exclusive : Server → List Step → Prop
  | _, [] => True
  | server, step :: rest => step.Exclusive server ∧ Exclusive (server.perform step) rest

theorem Distinct.perform (distinct : server.Distinct) {step : Step}
    (exclusive : step.Exclusive server) : (server.perform step).Distinct := by
  rcases exclusive with meets | ⟨id, factory, kind, props, rfl, disallows⟩
  · exact distinct.of_unlinked (unlinked_perform meets)
  · exact distinct.createByFactory disallows id factory kind props

theorem Distinct.run (distinct : server.Distinct) {steps : List Step}
    (exclusive : Exclusive server steps) : (server.run steps).Distinct := by
  induction steps generalizing server with
  | nil => exact distinct
  | cons step rest ih => exact ih (distinct.perform exclusive.1) exclusive.2

theorem exclusive_append {first second : List Step} (early : Exclusive server first)
    (late : Exclusive (server.run first) second) : Exclusive server (first ++ second) := by
  induction first generalizing server with
  | nil => exact late
  | cons step rest ih => exact ⟨early.1, ih early.2 late⟩

theorem policy_createByFactory (server : Server) (id : ConnectionId) (factory : String)
    (kind : ObjectKind) (props : Properties) :
    (server.createByFactory id factory kind props).2.policy = server.policy := by
  have inserted : ∀ (server : Server) object added,
      (server.insertObject object added).policy = server.policy := by
    intro server object added
    simp only [insertObject]
    split <;> split <;> rfl
  simp only [createByFactory, createLink, createObject]
  split
  · split
    · split <;> exact inserted _ _ _
    · rfl
  · rfl

/-- However often and in whatever way clients ask, duplicates stay disallowed. -/
theorem exclusive_of_creating {requests : List (ConnectionId × String × ObjectKind × Properties)}
    (disallows : server.policy.allowDuplicateLinks = false) :
    Exclusive server (requests.map fun request =>
      .ask request.1 (.createObject request.2.1 request.2.2.1 request.2.2.2)) := by
  induction requests generalizing server with
  | nil => exact trivial
  | cons request rest ih =>
      refine ⟨.inr ⟨_, _, _, _, rfl, disallows⟩, ih ?_⟩
      exact (congrArg _ (policy_createByFactory server _ _ _ _)).trans disallows

/-- Links that are all written in decimal are listed without repeats. -/
theorem Distinct.links_nodup (distinct : server.Distinct)
    (written : ∀ id object, server.objects.get? id = some object → object.kind = .link →
      ∃ ends, object.Writes ends) : server.links.Nodup := by
  have written_of_listed : ∀ entry ∈ server.objects.entries, ∀ ends,
      (if entry.2.kind = .link then linkEnds? entry.2.props else none) = some ends →
        entry.2.Writes ends := by
    intro entry member ends listed
    rw [Option.ite_none_right_eq_some] at listed
    have found := (Table.get?_eq_some_iff _ _ _).2 member
    rcases written entry.1 entry.2 found listed.1 with ⟨others, writes⟩
    have same := (linkEnds?_of_writes writes).symm.trans listed.2
    exact Option.some.inj same ▸ writes
  rw [links, Table.values, List.filterMap_map, List.Nodup, List.pairwise_filterMap]
  refine (List.pairwise_map.1 server.objects.keys_nodup).imp_of_mem ?_
  intro one other oneMember otherMember apart ends isOne others isOther same
  subst same
  apply apart
  exact distinct ends one.1 other.1 one.2 other.2
    ((Table.get?_eq_some_iff _ _ _).2 oneMember) (written_of_listed one oneMember ends isOne)
    ((Table.get?_eq_some_iff _ _ _).2 otherMember)
    (written_of_listed other otherMember ends isOther)

/--
In a run that disallows duplicates, no two links between the same ends are both written in decimal.
So if all links are, as those that clients create, none is listed twice.
-/
theorem links_distinct (steps : List Step) (exclusive : Exclusive {} steps) :
    (run {} steps).Distinct ∧
      ((∀ id object, (run {} steps).objects.get? id = some object → object.kind = .link →
        ∃ ends, object.Writes ends) → (run {} steps).links.Nodup) := by
  have empty : Distinct {} := by
    intro ends first second one other isOne
    cases isOne
  have distinct := empty.run exclusive
  exact ⟨distinct, distinct.links_nodup⟩

/-- The properties of a link from port 32 to port 33, with the output as given. -/
def spelled (output : String) : Properties :=
  .ofList [(Key.linkOutput, output), (Key.linkInput, "33")]

/-- Duplicates are disallowed, and a client asks for the link under several spellings. -/
def asking (spellings : List String) : List Step :=
  [.inject (.setPolicy fun policy => { policy with allowDuplicateLinks := false }),
    .inject (.addObject .port (.ofList [(Key.portDirection, "out")])),
    .inject (.addObject .port .empty), .connect {}] ++
    (spellings.map fun output => (1, linkFactory, .link, spelled output)).map fun request =>
      .ask request.1 (.createObject request.2.1 request.2.2.1 request.2.2.2)

theorem exclusive_asking (spellings : List String) : Exclusive {} (asking spellings) :=
  exclusive_append ⟨.inl trivial, .inl nofun, .inl nofun, .inl trivial, trivial⟩
    (exclusive_of_creating (by decide))

theorem links_distinct_asking :
    Exclusive {} (asking ["32", "+32", "32"]) ∧ (run {} (asking ["32", "+32", "32"])).Distinct ∧
      (run {} (asking ["32", "+32", "32"])).links = [(32, 33)] :=
  ⟨exclusive_asking _, (links_distinct _ (exclusive_asking _)).1, by decide +kernel⟩

/-- A link that is spelled with a leading zero is overlooked and created once more. -/
theorem repeated_of_leading_zero :
    Exclusive {} (asking ["032", "032"]) ∧
      (run {} (asking ["032", "032"])).links = [(32, 33), (32, 33)] ∧
      ¬(run {} (asking ["032", "032"])).links.Nodup := by
  have repeated : (run {} (asking ["032", "032"])).links = [(32, 33), (32, 33)] := by
    decide +kernel
  exact ⟨exclusive_asking _, repeated, by rw [repeated]; decide⟩

end Server

end MediaGraph
