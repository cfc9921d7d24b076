import MediaGraph.Server.Backend
import MediaGraph.Proofs.Server.Requests
import MediaGraph.Proofs.Subscriber.Handling

/-!
# A subscriber follows the server

`Tracks` is the invariant of a subscriber on a connection to the server. It does not compare the
graph with the objects of the server directly: events are under way between the two, and what they
will do to the graph is not done yet. It says what is known of the objects once every event handled
so far is taken into account, that the pending events lead from there to the present objects, and
that whatever no pending event is about is already as it should be.

The invariant holds when the subscription starts, when the server changes in the course of things,
and, event by event, when the subscriber handles what it is told. With nothing pending it says that
the graph shows the ports of the server.
-/

namespace MediaGraph

/-- The graph shows a port as its properties describe it: in its place, or not at all. -/
def Graph.Shows (graph : Graph) (id : ObjectId) (props : Properties) : Prop :=
  ∃ place, (Port.ofProperties id props).place? = .ok place ∧
    graph.find? id = place.map fun place => (place.category, Port.ofProperties id props)

/-- What a client is told for every port that it binds when it hears of it. -/
def Event.describing (port : ObjectId × Properties) : Event := .info port.1 port.2

namespace Server

/-- The properties of an object, if it is a port. -/
def portProperties? (server : Server) (id : ObjectId) : Option Properties :=
  ((server.objects.get? id).filter fun object => object.kind = .port).map (·.props)

/-- The port that is bound when an event is handled, if the event announces one that is there. -/
def reply? (server : Server) : Event → Option (ObjectId × Properties)
  | .global id .port => (server.portProperties? id).map fun props => (id, props)
  | _ => none

/-- The ports that are bound when events are handled, with their properties. -/
def replies (server : Server) (events : List Event) : List (ObjectId × Properties) :=
  events.filterMap server.reply?

variable {server changed : Server}

theorem portProperties?_eq_some_iff {id : ObjectId} {props : Properties} :
    server.portProperties? id = some props ↔
      ∃ object, server.objects.get? id = some object ∧ object.kind = .port ∧
        object.props = props := by
  simp [portProperties?, Option.filter_eq_some_iff, and_assoc]

theorem mem_replies_iff {events : List Event} {id : ObjectId} {props : Properties} :
    (id, props) ∈ server.replies events ↔
      .global id .port ∈ events ∧ server.portProperties? id = some props := by
  simp only [replies, List.mem_filterMap]
  constructor
  · rintro ⟨event, member, replied⟩
    unfold reply? at replied
    split at replied
    case h_1 other =>
      rcases Option.map_eq_some_iff.1 replied with ⟨found, isPort, same⟩
      cases same
      exact ⟨member, isPort⟩
    case h_2 => cases replied
  · rintro ⟨member, isPort⟩
    exact ⟨_, member, by simp [reply?, isPort]⟩

theorem replies_of_objects (objects : changed.objects = server.objects) (events : List Event) :
    changed.replies events = server.replies events := by
  have same : changed.reply? = server.reply? := by
    funext event
    simp only [reply?, portProperties?, objects]
  rw [replies, same, replies]

theorem replies_append (first second : List Event) :
    server.replies (first ++ second) = server.replies first ++ server.replies second :=
  List.filterMap_append

theorem replies_cons (event : Event) (rest : List Event) :
    server.replies (event :: rest) = server.replies [event] ++ server.replies rest :=
  replies_append [event] rest

theorem replies_of_granted {id : ObjectId} {object : Object}
    (present : server.objects.get? id = some object) (isPort : object.kind = .port) :
    server.replies [.global id .port] = [(id, object.props)] := by
  simp [replies, reply?, portProperties?, present, isPort]

theorem replies_of_refused {id : ObjectId} (refused : server.kind? id ≠ some .port) :
    server.replies [.global id .port] = [] := by
  have absent : server.portProperties? id = none := by
    rw [Option.eq_none_iff_forall_ne_some]
    intro props isProps
    rcases portProperties?_eq_some_iff.1 isProps with ⟨object, present, isPort, -⟩
    exact refused (by simp [kind?, present, isPort])
  simp [replies, reply?, absent]

theorem replies_of_silent {events : List Event}
    (silent : ∀ event ∈ events, ∀ id, event ≠ .global id .port) : server.replies events = [] := by
  simp only [replies, List.filterMap_eq_nil_iff]
  intro event member
  unfold reply?
  split
  case h_1 id => exact absurd rfl (silent _ member id)
  case h_2 => rfl

end Server

/-- A subscriber is in step with the server, up to events that it has not handled yet. -/
structure Tracks (known : Table ObjectId ObjectKind) (links : List ProxyId) (pending : List Event)
    (subscriber : Subscriber) (server : Server) (connection : Connection) : Prop where
  listening : subscriber.phase = .listening
  filed : subscriber.graph.WellFiled
  subscribed : connection.subscribed
  bounded : connection.Bounded
  /-- The handles of links do not get mixed up with those of ports. -/
  spare : ∀ link ∈ links, connection.Spare link
  announced : Event.announceAll? known pending = some server.kinds
  bound : ∀ id proxy, subscriber.listened.get? id = some proxy →
    connection.proxies.get? proxy = some { object := id, listening := true, owned := false }
  absent : ∀ id, known.get? id ≠ some .port →
    subscriber.listened.get? id = none ∧ subscriber.graph.find? id = none
  present : ∀ id, known.get? id = some .port → Event.Untouched id pending →
    ∃ proxy, subscriber.listened.get? id = some proxy
  shown : ∀ id, known.get? id = some .port → Event.Untouched id pending →
    ∀ props, server.properties? id = some props →
      Event.lastInfo? id pending = some props ∨
        (Event.lastInfo? id pending = none ∧ subscriber.graph.Shows id props)

namespace Tracks

variable {known : Table ObjectId ObjectKind} {links : List ProxyId} {pending : List Event}
  {subscriber : Subscriber} {server changed : Server} {connection later : Connection}

/-- Once nothing is pending, what is known are the objects of the server. -/
theorem known_eq (tracks : Tracks known links [] subscriber server connection) :
    known = server.kinds := by
  simpa using tracks.announced

theorem listens (tracks : Tracks known links pending subscriber server connection)
    {id : ObjectId} (isPort : known.get? id = some .port)
    (untouched : Event.Untouched id pending) : connection.Listens id := by
  rcases tracks.present id isPort untouched with ⟨proxy, listened⟩
  exact ⟨proxy, _, tracks.bound id proxy listened, rfl, rfl⟩

/-- What the server does meanwhile is made up for by the events that it sends. -/
theorem hears (tracks : Tracks known links pending subscriber server connection)
    {news : List Event} (heard : Server.Hears server changed connection later news)
    (precedes : connection.Precedes later) (few : later.handles < UInt32.size) :
    Tracks known links (pending ++ news) subscriber changed later where
  listening := tracks.listening
  filed := tracks.filed
  subscribed := heard.subscribed
  bounded := heard.bounded
  spare link member := precedes.spare few link (tracks.spare link member)
  announced := by
    rw [Event.announceAll?_append, tracks.announced, Option.bind_some, heard.announced]
  bound id proxy listened := heard.listening proxy _ (tracks.bound id proxy listened) rfl
  absent := tracks.absent
  present id isPort untouched := tracks.present id isPort (Event.untouched_append.1 untouched).1
  shown id isPort untouched props isProps := by
    rcases Event.untouched_append.1 untouched with ⟨early, late⟩
    have informed := heard.informed id (tracks.listens isPort early) late
    rw [Event.lastInfo?_append]
    cases told : Event.lastInfo? id news with
    | some last =>
        rw [told, Option.some_or, isProps] at informed
        exact .inl informed.symm
    | none =>
        rw [told, Option.none_or, isProps] at informed
        simpa using tracks.shown id isPort early props informed.symm

theorem known_of_described {ports : List (ObjectId × Properties)}
    (tracks : Tracks known links (ports.map Event.describing) subscriber server connection) :
    known = server.kinds := by
  have silent : Event.announceAll? known (ports.map Event.describing) = some known := by
    refine Event.announceAll?_of_silent fun event member known => ?_
    rcases List.mem_map.1 member with ⟨port, -, rfl⟩
    rfl
  exact Option.some.inj (silent.symm.trans tracks.announced)

/-- A connection for which only replies wait has been told what the ports are like. -/
theorem truthful_of_replies {events : List Event}
    (tracks : Tracks known links connection.inbox subscriber server connection)
    (inbox : connection.inbox = (server.replies events).map Event.describing) :
    server.Truthful connection := by
  rw [inbox] at tracks
  intro id object record found isPort expected
  rw [inbox] at expected
  rcases Event.expectAll_cases expected with ⟨-, props, told, rfl⟩ | ⟨impossible, -⟩
  · have untouched : Event.Untouched id ((server.replies events).map Event.describing) := by
      intro event member
      rcases List.mem_map.1 member with ⟨port, -, rfl⟩
      rfl
    refine ⟨tracks.listens ?_ untouched, ?_⟩
    · rw [tracks.known_of_described, Server.get?_kinds, Server.kind?, found, Option.map_some,
        isPort]
    · rcases List.mem_map.1 (Event.mem_of_lastInfo? told) with ⟨port, member, same⟩
      cases same
      rcases Server.portProperties?_eq_some_iff.1 (Server.mem_replies_iff.1 member).2 with
        ⟨other, isOther, -, isProps⟩
      cases found.symm.trans isOther
      rw [isProps]
  · cases impossible

theorem of_objects (tracks : Tracks known links pending subscriber server connection)
    (objects : changed.objects = server.objects) :
    Tracks known links pending subscriber changed connection where
  listening := tracks.listening
  filed := tracks.filed
  subscribed := tracks.subscribed
  bounded := tracks.bounded
  spare := tracks.spare
  announced := by rw [Server.kinds_eq_of_objects objects, tracks.announced]
  bound := tracks.bound
  absent := tracks.absent
  present := tracks.present
  shown id isPort untouched props isProps := by
    simp only [Server.properties?, objects] at isProps
    exact tracks.shown id isPort untouched props isProps

/-- Which events wait for the connection is a matter of what is pending alone. -/
theorem of_inbox (tracks : Tracks known links pending subscriber server connection)
    (inbox : List Event) :
    Tracks known links pending subscriber server { connection with inbox := inbox } :=
  ⟨tracks.listening, tracks.filed, tracks.subscribed, tracks.bounded, tracks.spare,
    tracks.announced, tracks.bound, tracks.absent, tracks.present, tracks.shown⟩

theorem acknowledge (tracks : Tracks known links pending subscriber server connection)
    (sequence : UInt32) :
    Tracks known links (pending ++ [.done sequence]) subscriber server connection := by
  refine { tracks with announced := ?_, present := ?_, shown := ?_ }
  · rw [Event.announceAll?_append, tracks.announced]
    rfl
  · intro id isPort untouched
    exact tracks.present id isPort (Event.untouched_append.1 untouched).1
  · intro id isPort untouched props isProps
    have shown := tracks.shown id isPort (Event.untouched_append.1 untouched).1 props isProps
    simpa [Event.lastInfo?, Event.info?] using shown

/-! ## One event -/

/-- Events that are of no concern to the subscriber only tell what there is. -/
theorem skip {event : Event}
    (tracks : Tracks known links (event :: pending) subscriber server connection)
    (notPort : ∀ id, event ≠ .global id .port) (notRemoved : ∀ id, event ≠ .removed id)
    (unheard : ∀ id props, event = .info id props → subscriber.isListeningTo id = false) :
    ∃ known, Tracks known links pending subscriber server connection := by
  have announced := tracks.announced
  rw [Event.announceAll?_cons] at announced
  rcases Option.bind_eq_some_iff.1 announced with ⟨next, fits, remaining⟩
  -- An object that becomes known here is no port, so nothing is said about new ports.
  have former : ∀ id, next.get? id = some .port → known.get? id = some .port ∧
      event.isAbout id = false := by
    intro id isPort
    have wasPort := (Event.isPort_iff_of_announce? fits notPort notRemoved).1 isPort
    exact ⟨wasPort, Event.isAbout_of_known fits notRemoved (by simp [wasPort])⟩
  refine ⟨next, tracks.listening, tracks.filed, tracks.subscribed, tracks.bounded, tracks.spare,
    remaining, tracks.bound, ?_, ?_, ?_⟩
  · intro id isNone
    apply tracks.absent id
    intro isPort
    exact isNone ((Event.isPort_iff_of_announce? fits notPort notRemoved).2 isPort)
  · intro id isPort untouched
    rcases former id isPort with ⟨wasPort, unrelated⟩
    exact tracks.present id wasPort (Event.untouched_cons.2 ⟨unrelated, untouched⟩)
  · intro id isPort untouched props isProps
    rcases former id isPort with ⟨wasPort, unrelated⟩
    have whole := Event.untouched_cons.2 ⟨unrelated, untouched⟩
    have untold : event.info? id = none := by
      cases event with
      | info other told =>
          have deaf := unheard other told rfl
          rcases tracks.present id wasPort whole with ⟨proxy, listened⟩
          have isOther : other ≠ id := by
            rintro rfl
            simp [Subscriber.isListeningTo, Table.contains, listened] at deaf
          simp [Event.info?, isOther]
      | _ => rfl
    have shown := tracks.shown id wasPort whole props isProps
    simpa [Event.lastInfo?, untold] using shown

/-- The properties of a port that is listened to are filed in place of its former record. -/
theorem describe {id : ObjectId} {props : Properties} {after : Subscriber}
    (tracks : Tracks known links (.info id props :: pending) subscriber server connection)
    (described : subscriber.describe id props = .ok after) :
    ∃ known, Tracks known links pending after server connection := by
  rcases Subscriber.describe_cases described with ⟨deaf, rfl⟩ |
    ⟨listening, place, graph, inserted, rfl⟩
  · apply tracks.skip (by simp) (by simp)
    intro other told same
    cases same
    exact deaf
  · have announced := tracks.announced
    rw [Event.announceAll?_cons] at announced
    have isPort : known.get? id = some .port := by
      apply Decidable.byContradiction
      intro unknown
      rcases Subscriber.isListeningTo_iff.1 listening with ⟨proxy, listened⟩
      rw [(tracks.absent id unknown).1] at listened
      cases listened
    have lookup := Graph.find?_of_insert tracks.filed inserted
    refine ⟨known, tracks.listening, tracks.filed.insert inserted, tracks.subscribed,
      tracks.bounded, tracks.spare, announced, tracks.bound, ?_, ?_, ?_⟩
    · intro other unknown
      have apart : other ≠ (Port.ofProperties id props).id := by
        rintro rfl
        exact unknown isPort
      rw [lookup, if_neg apart]
      exact tracks.absent other unknown
    · intro other otherIsPort untouched
      exact tracks.present other otherIsPort (Event.untouched_cons.2 ⟨rfl, untouched⟩)
    · intro other otherIsPort untouched current isCurrent
      have shown := tracks.shown other otherIsPort (Event.untouched_cons.2 ⟨rfl, untouched⟩)
        current isCurrent
      simp only [Event.lastInfo?, Event.info?] at shown
      cases told : Event.lastInfo? other pending with
      | some last =>
          rw [told] at shown
          simpa using shown
      | none =>
          rw [told] at shown
          right
          refine ⟨rfl, ?_⟩
          by_cases same : id = other
          · subst same
            have isCurrent : props = current := by simpa using shown
            subst isCurrent
            exact ⟨place, Graph.place?_of_insert inserted, by rw [lookup]; exact if_pos rfl⟩
          · simp only [same, if_false, Option.none_or] at shown
            rcases shown with impossible | ⟨-, place, isPlace, isShown⟩
            · cases impossible
            · have apart : other ≠ (Port.ofProperties id props).id := Ne.symm same
              exact ⟨place, isPlace, by rw [lookup, if_neg apart, isShown]⟩

/-- Giving back the handle of a port, if there is one, leaves those of all other ports alone. -/
theorem released {number : ConnectionId} (id : ObjectId)
    (tracks : Tracks known links pending subscriber server connection)
    (connected : server.connections.get? number = some connection) :
    ∃ later,
      ((subscriber.withdraw id).release (Server.transport number) id server).2.connections.get?
        number = some later ∧ later.inbox = connection.inbox ∧
      ((subscriber.withdraw id).release (Server.transport number) id server).2.objects =
        server.objects ∧ later.subscribed ∧ later.Bounded ∧ (∀ link ∈ links, later.Spare link) ∧
      ∀ other proxy, other ≠ id → subscriber.listened.get? other = some proxy →
        later.proxies.get? proxy =
          some { object := other, listening := true, owned := false } := by
  cases listened : subscriber.listened.get? id with
  | none =>
      refine ⟨connection, ?_, rfl, ?_, tracks.subscribed, tracks.bounded, tracks.spare,
        fun other proxy _ => tracks.bound other proxy⟩
      · simp [Subscriber.release, listened, connected]
      · simp [Subscriber.release, listened]
  | some proxy =>
      have found := tracks.bound id proxy listened
      refine ⟨{ connection with proxies := connection.proxies.erase proxy }, ?_, rfl, ?_,
        tracks.subscribed, ?_, ?_, ?_⟩
      · simp [Subscriber.release, listened, Server.transport, Server.answer,
          Server.destroyProxy, connected, found, Server.setConnection]
      · simp [Subscriber.release, listened, Server.transport, Server.answer,
          Server.destroyProxy, connected, found]
      · intro kept bound isKept
        simp only [Table.get?_erase, Option.ite_none_left_eq_some] at isKept
        exact tracks.bounded kept bound isKept.2
      · intro link member
        refine ⟨(tracks.spare link member).1, fun bound isKept => ?_⟩
        simp only [Table.get?_erase, Option.ite_none_left_eq_some] at isKept
        exact (tracks.spare link member).2 bound isKept.2
      · intro other kept apart isKept
        have stays := tracks.bound other kept isKept
        have different : kept ≠ proxy := by
          rintro rfl
          rw [found] at stays
          cases stays
          exact apart rfl
        simp [different, stays]

/-- A port that is gone is forgotten, and its handle, which owns nothing, is given back. -/
theorem withdraw {id : ObjectId} {number : ConnectionId}
    (tracks : Tracks known links (.removed id :: pending) subscriber server connection)
    (connected : server.connections.get? number = some connection) :
    ∃ known later,
      ((subscriber.withdraw id).release (Server.transport number) id server).2.connections.get?
        number = some later ∧ later.inbox = connection.inbox ∧
      ((subscriber.withdraw id).release (Server.transport number) id server).2.objects =
        server.objects ∧
      Tracks known links pending
        ((subscriber.withdraw id).release (Server.transport number) id server).1
        ((subscriber.withdraw id).release (Server.transport number) id server).2 later := by
  have announced := tracks.announced
  rw [Event.announceAll?_cons] at announced
  rcases Option.bind_eq_some_iff.1 announced with ⟨next, fits, remaining⟩
  simp only [Event.announce?, Option.ite_none_left_eq_some, Option.some.injEq] at fits
  rcases fits with ⟨-, rfl⟩
  rcases tracks.released id connected with
    ⟨later, isLater, inbox, objects, subscribed, bounded, spare, bound⟩
  refine ⟨known.erase id, later, isLater, inbox, objects, ?_⟩
  have former : ∀ other, (known.erase id).get? other = some .port →
      other ≠ id ∧ known.get? other = some .port := by
    intro other isPort
    simpa using isPort
  have erased := Subscriber.graph_withdraw id tracks.filed
  refine ⟨by simpa using tracks.listening, by simpa [erased] using tracks.filed.erase id,
    subscribed, bounded, spare, by rw [Server.kinds_eq_of_objects objects]; exact remaining,
    ?_, ?_, ?_, ?_⟩
  · intro other proxy listened
    simp only [Subscriber.listened_release, Option.ite_none_left_eq_some,
      Subscriber.listened_withdraw] at listened
    exact bound other proxy listened.1 listened.2
  · intro other unknown
    simp only [Subscriber.listened_release, Subscriber.listened_withdraw, Subscriber.graph_release,
      erased, Graph.find?_erase tracks.filed]
    by_cases same : other = id
    · simp [same]
    · simp only [Table.get?_erase, same, if_false] at unknown
      simpa [same] using tracks.absent other unknown
  · intro other isPort untouched
    rcases former other isPort with ⟨apart, wasPort⟩
    have unrelated : Event.isAbout other (.removed id) = false := by
      simpa [Event.isAbout] using Ne.symm apart
    simpa [apart] using tracks.present other wasPort (Event.untouched_cons.2 ⟨unrelated, untouched⟩)
  · intro other isPort untouched props isProps
    rcases former other isPort with ⟨apart, wasPort⟩
    have unrelated : Event.isAbout other (.removed id) = false := by
      simpa [Event.isAbout] using Ne.symm apart
    simp only [Server.properties?, objects] at isProps
    have shown := tracks.shown other wasPort (Event.untouched_cons.2 ⟨unrelated, untouched⟩) props
      isProps
    simpa [Event.lastInfo?, Event.info?, Graph.Shows, erased, Graph.find?_erase tracks.filed, apart]
      using shown

/-- If the object is no port any more, the announcement is out of date and its end is pending. -/
theorem announce_refused {id : ObjectId}
    (tracks : Tracks known links (.global id .port :: pending) subscriber server connection)
    (refused : server.kind? id ≠ some .port) :
    Tracks (known.insert id .port) links pending subscriber server connection := by
  have announced := tracks.announced
  rw [Event.announceAll?_cons] at announced
  rcases Option.bind_eq_some_iff.1 announced with ⟨next, fits, remaining⟩
  simp only [Event.announce?, Option.ite_none_right_eq_some, Option.some.injEq] at fits
  rcases fits with ⟨unknown, rfl⟩
  have former : ∀ other, (known.insert id .port).get? other = some .port →
      Event.Untouched other pending →
      other ≠ id ∧ known.get? other = some .port ∧
        Event.Untouched other (.global id .port :: pending) := by
    intro other isPort untouched
    have apart : other ≠ id := by
      rintro rfl
      have stays := Event.get?_of_announceAll? remaining untouched
      rw [isPort, Server.get?_kinds] at stays
      exact refused stays
    simp only [Table.get?_insert, apart, if_false] at isPort
    exact ⟨apart, isPort, Event.untouched_cons.2
      ⟨by simpa [Event.isAbout] using Ne.symm apart, untouched⟩⟩
  refine ⟨tracks.listening, tracks.filed, tracks.subscribed, tracks.bounded, tracks.spare,
    remaining, tracks.bound, ?_, ?_, ?_⟩
  · intro other isNone
    refine tracks.absent other fun isPort => isNone ?_
    have apart : other ≠ id := by
      rintro rfl
      rw [unknown] at isPort
      cases isPort
    simpa [apart] using isPort
  · intro other isPort untouched
    rcases former other isPort untouched with ⟨-, wasPort, whole⟩
    exact tracks.present other wasPort whole
  · intro other isPort untouched props isProps
    rcases former other isPort untouched with ⟨-, wasPort, whole⟩
    simpa [Event.lastInfo?, Event.info?] using tracks.shown other wasPort whole props isProps

/-- If the object is a port, a new handle is bound to it, and its properties are on their way. -/
theorem announce_granted {id : ObjectId} {object : Object}
    (tracks : Tracks known links (.global id .port :: pending) subscriber server connection)
    (present : server.objects.get? id = some object)
    (few : connection.handles + 1 < UInt32.size) (objects : changed.objects = server.objects)
    (taken : later = { connection.takeHandle.2 with
      proxies := connection.proxies.insert connection.takeHandle.1
        { object := id, listening := true, owned := false }
      inbox := connection.inbox ++ [.info id object.props] }) :
    Tracks (known.insert id .port) links (pending ++ [.info id object.props])
      { subscriber with
        listened := subscriber.listened.insert id connection.takeHandle.1 } changed later := by
  subst taken
  have announced := tracks.announced
  rw [Event.announceAll?_cons] at announced
  rcases Option.bind_eq_some_iff.1 announced with ⟨next, fits, remaining⟩
  simp only [Event.announce?, Option.ite_none_right_eq_some, Option.some.injEq] at fits
  rcases fits with ⟨unknown, rfl⟩
  have former : ∀ other, other ≠ id → (known.insert id .port).get? other = some .port →
      Event.Untouched other (pending ++ [.info id object.props]) →
      known.get? other = some .port ∧ Event.Untouched other (.global id .port :: pending) := by
    intro other apart isPort untouched
    simp only [Table.get?_insert, apart, if_false] at isPort
    exact ⟨isPort, Event.untouched_cons.2 ⟨by simpa [Event.isAbout] using Ne.symm apart,
      (Event.untouched_append.1 untouched).1⟩⟩
  refine ⟨tracks.listening, tracks.filed, tracks.subscribed, tracks.bounded.takeHandle few rfl rfl,
    fun link member => (tracks.spare link member).takeHandle few rfl rfl, ?_, ?_, ?_, ?_, ?_⟩
  · rw [Event.announceAll?_append, remaining, Option.bind_some, Server.kinds_eq_of_objects objects]
    rfl
  · intro other proxy listened
    simp only [Table.get?_insert] at listened ⊢
    by_cases same : other = id
    · subst same
      simp only [if_true, Option.some.injEq] at listened
      simp [listened]
    · simp only [same, if_false] at listened
      have stays := tracks.bound other proxy listened
      rw [if_neg (Connection.ne_takeHandle few (tracks.bounded proxy _ stays))]
      exact stays
  · intro other isNone
    have apart : other ≠ id := by
      rintro rfl
      simp at isNone
    simp only [Table.get?_insert, apart, if_false] at isNone ⊢
    exact tracks.absent other isNone
  · intro other isPort untouched
    by_cases same : other = id
    · subst same
      exact ⟨connection.takeHandle.1, by simp⟩
    · rcases former other same isPort untouched with ⟨wasPort, whole⟩
      simpa [same] using tracks.present other wasPort whole
  · intro other isPort untouched props isProps
    simp only [Server.properties?, objects] at isProps
    by_cases same : other = id
    · subst same
      rw [present, Option.map_some, Option.some.injEq] at isProps
      simp [Event.lastInfo?, Event.info?, isProps]
    · rcases former other same isPort untouched with ⟨wasPort, whole⟩
      simpa [Event.lastInfo?, Event.info?, Ne.symm same, Graph.Shows] using
        tracks.shown other wasPort whole props isProps

/-- A port that is not bound yet is bound and listened to, if it still is a port. -/
theorem announce_eq {id : ObjectId} {number : ConnectionId}
    (connected : server.connections.get? number = some connection)
    (unbound : subscriber.listened.get? id = none) :
    (server.kind? id ≠ some .port ∧
      subscriber.announce (Server.transport number) id server = (subscriber, server)) ∨
    ∃ object changed later, server.objects.get? id = some object ∧ object.kind = .port ∧
      subscriber.announce (Server.transport number) id server =
        ({ subscriber with
          listened := subscriber.listened.insert id connection.takeHandle.1 }, changed) ∧
      changed.objects = server.objects ∧ changed.connections.get? number = some later ∧
      later = { connection.takeHandle.2 with
        proxies := connection.proxies.insert connection.takeHandle.1
          { object := id, listening := true, owned := false }
        inbox := connection.inbox ++ [.info id object.props] } := by
  have binding : subscriber.announce (Server.transport number) id server =
      match server.bindObject number id .port with
      | (some proxy, server) =>
        ({ subscriber with listened := subscriber.listened.insert id proxy },
          server.subscribeInfo number proxy)
      | (none, server) => (subscriber, server) := by
    have released :
        subscriber.release (Server.transport number) id server = (subscriber, server) := by
      simp [Subscriber.release, unbound]
    simp only [Subscriber.announce, released]
    simp only [Server.transport, Server.answer]
    rcases server.bindObject number id .port with ⟨_ | proxy, bound⟩ <;> rfl
  rw [binding]
  cases present : server.objects.get? id with
  | none =>
      left
      simp [Server.kind?, present, Server.bindObject, connected]
  | some object =>
      by_cases isPort : object.kind = .port
      · right
        have twice : ∀ first second : Proxy,
            (connection.proxies.insert connection.takeHandle.1 first).insert
              connection.takeHandle.1 second =
            connection.proxies.insert connection.takeHandle.1 second :=
          Table.insert_insert _ _
        simp only [Server.bindObject, connected, present, isPort, if_true, Server.subscribeInfo,
          Server.setConnection, Connection.takeHandle, Table.get?_insert] at twice ⊢
        refine ⟨object, _, _, rfl, isPort, rfl, rfl,
          (Table.get?_insert _ _ _ _).trans (if_pos rfl), ?_⟩
        simp only [Connection.send, twice]
      · left
        simp [Server.kind?, present, isPort, Server.bindObject, connected]

/-- What is announced next is listened to no more, because the server has taken it back before. -/
theorem unbound {id : ObjectId}
    (tracks : Tracks known links (.global id .port :: pending) subscriber server connection) :
    subscriber.listened.get? id = none := by
  have announced := tracks.announced
  rw [Event.announceAll?_cons] at announced
  rcases Option.bind_eq_some_iff.1 announced with ⟨next, fits, -⟩
  simp only [Event.announce?, Option.ite_none_right_eq_some] at fits
  exact (tracks.absent id (by simp [fits.1])).1

/--
Handling an event keeps the subscriber in step. All that becomes pending in the course of it are the
properties of a port that has been announced.
-/
theorem handle {event : Event} {after : Subscriber} {number : ConnectionId}
    (tracks : Tracks known links (event :: pending) subscriber server connection)
    (connected : server.connections.get? number = some connection)
    (handled : subscriber.handle (Server.transport number) event server = .ok (after, changed))
    (few : changed.HasHandles number) :
    ∃ known later, changed.connections.get? number = some later ∧
      changed.objects = server.objects ∧
      later.inbox = connection.inbox ++ (server.replies [event]).map Event.describing ∧
      Tracks known links (pending ++ (server.replies [event]).map Event.describing) after changed
        later := by
  rcases Subscriber.handle_cases tracks.listening handled with ⟨id, rfl, result⟩ |
    ⟨id, props, rfl, described, rfl⟩ | ⟨id, rfl, result⟩ | ⟨notPort, notInfo, notRemoved, rfl, rfl⟩
  · rcases announce_eq connected tracks.unbound with ⟨refused, same⟩ |
      ⟨object, next, later, present, isPort, granted, objects, isLater, taken⟩
    · rw [same] at result
      cases result
      rw [Server.replies_of_refused refused]
      refine ⟨known.insert id .port, connection, connected, rfl, by simp, ?_⟩
      simpa using tracks.announce_refused refused
    · rw [granted] at result
      cases result
      rw [Server.replies_of_granted present isPort]
      have fewHandles := few later isLater
      rw [taken] at fewHandles
      refine ⟨known.insert id .port, later, isLater, objects, by rw [taken]; rfl, ?_⟩
      exact tracks.announce_granted present fewHandles objects taken
  · rw [Server.replies_of_silent (by simp)]
    rcases tracks.describe described with ⟨next, describes⟩
    exact ⟨next, connection, connected, rfl, by simp, by simpa using describes⟩
  · rw [Server.replies_of_silent (by simp)]
    rcases tracks.withdraw connected with ⟨next, later, isLater, inbox, objects, withdraws⟩
    rw [← result] at isLater objects withdraws
    exact ⟨next, later, isLater, objects, by simp [inbox], by simpa using withdraws⟩
  · rw [Server.replies_of_silent (by simpa using notPort)]
    rcases tracks.skip notPort notRemoved (fun id props same => absurd same (notInfo id props)) with
      ⟨next, skips⟩
    exact ⟨next, connection, connected, rfl, by simp, by simpa using skips⟩

end Tracks

end MediaGraph
