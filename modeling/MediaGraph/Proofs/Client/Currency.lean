import MediaGraph.Proofs.Client.Barriers
import MediaGraph.Proofs.Client.Mirrored

/-!
# What a barrier brings up to date

One barrier is not enough for a graph to show all ports of the server. But what it shows then is
right: a record is filed when the properties of a port are told, and those that were told last since
the port was announced are the present ones (`Client.Flushed.current`). A port that has come in the
meantime is not shown before the second barrier (`Client.Flushed.hidden`).
-/

namespace MediaGraph

/-- The record of a port. -/
def Graph.record? (graph : Graph) (id : ObjectId) : Option Port := (graph.find? id).map (·.2)

/-- All records are those of ports of the server, as they are at present. -/
def Graph.Current (graph : Graph) (server : Server) : Prop :=
  ∀ id record, graph.record? id = some record →
    ∃ props, server.portProperties? id = some props ∧ record = .ofProperties id props

/-! ## Events -/

namespace Tracks

variable {known : Table ObjectId ObjectKind} {links : List ProxyId} {pending : List Event}
  {subscriber after : Subscriber} {server changed : Server} {connection : Connection}
  {id : ConnectionId} {object : ObjectId} {record : Port}

/-- What is announced next has no record any more. -/
theorem unrecorded {kind : ObjectKind}
    (tracks : Tracks known links (.global object kind :: pending) subscriber server connection) :
    subscriber.graph.record? object = none := by
  have announced := tracks.announced
  rw [Event.announceAll?_cons] at announced
  rcases Option.bind_eq_some_iff.1 announced with ⟨next, fits, -⟩
  simp only [Event.announce?, Option.ite_none_right_eq_some] at fits
  rw [Graph.record?, (tracks.absent object (by simp [fits.1])).2, Option.map_none]

/-- A record that is there after an event is the one that the event lets one expect. -/
theorem expected_handle {event : Event}
    (tracks : Tracks known links (event :: pending) subscriber server connection)
    (mirrored : subscriber.Mirrored)
    (handled : subscriber.handle (Server.transport id) event server = .ok (after, changed))
    (isRecord : after.graph.record? object = some record) :
    event.expect object (subscriber.graph.record? object) = some record := by
  have announced : ∀ other kind, event = .global other kind →
      subscriber.graph.record? object = some record → other ≠ object := by
    rintro other kind rfl former rfl
    rw [tracks.unrecorded] at former
    cases former
  rcases Subscriber.handle_cases tracks.listening handled with ⟨other, rfl, result⟩ |
    ⟨other, props, rfl, described, -⟩ | ⟨other, rfl, result⟩ | ⟨-, notInfo, notRemoved, rfl, -⟩
  · have same : after.graph = subscriber.graph := by
      have graph := Subscriber.graph_announce (Server.transport id) other subscriber server
      rwa [← result] at graph
    rw [same] at isRecord
    simp only [Event.expect, announced other .port rfl isRecord, if_false, isRecord]
  · rcases Subscriber.describe_cases described with ⟨deaf, rfl⟩ |
      ⟨listening, place, graph, inserted, rfl⟩
    · have apart : other ≠ object := by
        rintro rfl
        have heard := mirrored.heard other
          (by simpa [Graph.record?] using Option.isSome_of_mem isRecord)
        rw [deaf] at heard
        cases heard
      simp only [Event.expect, apart, if_false, isRecord]
    · simp only [Graph.record?, Graph.find?_of_insert mirrored.filed inserted] at isRecord
      simp only [Event.expect]
      split at isRecord
      case isTrue same =>
        have here : other = object := same.symm
        rcases place with _ | place
        · cases isRecord
        · cases isRecord
          rw [if_pos here, ← here]
      case isFalse apart =>
        have elsewhere : other ≠ object := fun same => apart same.symm
        rw [if_neg elsewhere]
        exact isRecord
  · have same : after.graph = subscriber.graph.erase other := by
      have graph := Subscriber.graph_release (Server.transport id) other
        (subscriber.withdraw other) server
      rw [← result, Subscriber.graph_withdraw other mirrored.filed] at graph
      exact graph
    simp only [same, Graph.record?, Graph.find?_erase mirrored.filed] at isRecord
    simp only [Event.expect]
    split at isRecord
    case isTrue => cases isRecord
    case isFalse apart =>
      have elsewhere : other ≠ object := fun same => apart same.symm
      rw [if_neg elsewhere]
      exact isRecord
  · cases event with
    | global other kind =>
        simp only [Event.expect, announced other kind rfl isRecord, if_false, isRecord]
    | removed other => exact absurd rfl (notRemoved other)
    | info other props => exact absurd rfl (notInfo other props)
    | done => exact isRecord

end Tracks

namespace Client

open Server

variable {id : ConnectionId} {links : List ProxyId} {client after : Client Server}
  {server changed : Server} {object : ObjectId} {record : Port}

theorem expected_deliverAll {events : List Event} {known : Table ObjectId ObjectKind}
    {connection : Connection}
    (tracks : Tracks known links (events ++ connection.inbox) client.subscriber server connection)
    (mirrored : client.subscriber.Mirrored)
    (connected : server.connections.get? id = some connection)
    (delivered : deliverAll (Server.transport id) events client server = (none, after, changed))
    (few : changed.HasHandles id)
    (isRecord : after.graph.record? object = some record) :
    Event.expectAll object (client.graph.record? object) events = some record := by
  induction events generalizing client server known connection with
  | nil =>
      cases delivered
      exact isRecord
  | cons event rest ih =>
      simp only [deliverAll] at delivered
      split at delivered
      case h_2 => cases delivered
      case h_1 next between first =>
        have framed := framed_deliverAll id rest next between
        rw [delivered] at framed
        have fewBetween := framed.affects.lasts.few framed.remains few
        rw [List.cons_append] at tracks
        rcases tracks_deliver tracks connected first fewBetween with
          ⟨middle, later, isLater, -, inbox, tracksBetween⟩
        rw [List.append_assoc, ← inbox] at tracksBetween
        have handled := (handle_of_deliver first).1
        have expected := ih tracksBetween (tracks.mirrored_handle mirrored connected handled)
          isLater delivered
        rcases Event.expectAll_cases expected with ⟨told, -⟩ | ⟨former, -, -⟩
        · exact Event.expectAll_of_none told _
        · have isFormer : event.expect object (client.graph.record? object) = some record :=
            tracks.expected_handle mirrored handled former
          rw [former] at expected
          rwa [Event.expectAll, List.foldl_cons, isFormer]

/-! ## Barriers -/

namespace Flushed

variable (flushed : Flushed id client server after changed) {known : Table ObjectId ObjectKind}

include flushed

/-- A record that is there after a barrier is the one that was to be expected. -/
theorem expected
    (tracks : Tracks known links flushed.connection.inbox client.subscriber server
      flushed.connection)
    (mirrored : client.subscriber.Mirrored)
    (few : changed.HasHandles id)
    (isRecord : after.graph.record? object = some record) :
    Event.expectAll object (client.graph.record? object) flushed.connection.inbox =
      some record := by
  rcases flushed with ⟨connection, sequence, turned, fetched, next, found, subscriber, objects,
    emptied, delivered, rfl⟩
  have acknowledged : Tracks known links (connection.inbox ++ [.done sequence] ++ [])
      turned.subscriber fetched { connection with inbox := [] } := by
    rw [List.append_nil, subscriber]
    exact ((tracks.acknowledge sequence).of_objects objects).of_inbox []
  have told := expected_deliverAll acknowledged (by rwa [subscriber]) emptied delivered few
    isRecord
  have same : turned.graph = client.graph := congrArg Subscriber.graph subscriber
  rwa [Event.expectAll_append, same] at told

/-- What is shown after a barrier is shown as it is. -/
theorem current
    (tracks : Tracks known links flushed.connection.inbox client.subscriber server
      flushed.connection)
    (mirrored : client.subscriber.Mirrored) (truthful : server.Truthful flushed.connection)
    (few : changed.HasHandles id) :
    after.graph.Current changed := by
  intro object record isRecord
  have expected := flushed.expected tracks mirrored few isRecord
  rcases flushed.tracks tracks few with ⟨final, later, -, objects, inbox, tracksAfter⟩
  have isPort : server.kind? object = some .port := by
    apply Decidable.byContradiction
    intro other
    rw [inbox] at tracksAfter
    have unknown : final.get? object ≠ some .port := by
      rwa [tracksAfter.known_of_described, get?_kinds, kind?, objects]
    rw [Graph.record?, show after.graph.find? object = none from
      (tracksAfter.absent object unknown).2] at isRecord
    cases isRecord
  rcases Option.map_eq_some_iff.1 isPort with ⟨found, present, isPort⟩
  have isProps : changed.portProperties? object = some found.props :=
    portProperties?_eq_some_iff.2 ⟨found, by rwa [objects], isPort, rfl⟩
  refine ⟨found.props, isProps, ?_⟩
  rcases Event.expectAll_cases expected with ⟨told, -⟩ | ⟨former, untouched, untold⟩
  · exact (truthful object found record present isPort told).2
  · have wasKnown : known.get? object = some .port := by
      have stays := Event.get?_of_announceAll? tracks.announced untouched
      rw [← stays, get?_kinds, kind?, present, Option.map_some, isPort]
    have wasProps : server.properties? object = some found.props := by simp [properties?, present]
    rcases tracks.shown object wasKnown untouched found.props wasProps with
      told | ⟨-, place, -, shown⟩
    · rw [untold] at told
      cases told
    · rw [Graph.record?, show client.graph.find? object = _ from shown] at former
      rcases place with _ | place
      · cases former
      · exact (Option.some.inj former).symm

/-- A port that comes in the meantime is not shown yet, whatever had its id before. -/
theorem hidden
    (tracks : Tracks known links flushed.connection.inbox client.subscriber server
      flushed.connection)
    (mirrored : client.subscriber.Mirrored)
    (few : changed.HasHandles id)
    {early news : List Event} (inbox : flushed.connection.inbox = early ++ news)
    (touched : ¬Event.Untouched object news) (untold : Event.lastInfo? object news = none) :
    after.graph.record? object = none := by
  rw [Option.eq_none_iff_forall_ne_some]
  intro record isRecord
  have expected := flushed.expected tracks mirrored few isRecord
  rw [inbox, Event.expectAll_append] at expected
  rcases Event.expectAll_cases expected with ⟨-, props, told, -⟩ | ⟨-, untouched, -⟩
  · rw [untold] at told
    cases told
  · exact touched untouched

end Flushed

end Client

end MediaGraph
