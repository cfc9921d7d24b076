import MediaGraph.Proofs.Client.Books
import MediaGraph.Proofs.Client.Session
import MediaGraph.Proofs.Server.Offers

/-!
# What a client has is its own

Two things about a client's books hold whoever gives back which links: the proxies in them are none
that an object goes with, and the nodes in them are the nodes that the connection has
(`Books.Covers`). The first says that a client does no harm when it gives its proxies back. It is
all that is left of the agreement on proxies when links are mixed up.

Both are an audit that the transport of the server upholds (`Server.upholds_custody`), so they hold
throughout a session (`Session.custody`), up to handles that have been used up.
-/

namespace MediaGraph

/-- The connection has the nodes in the books, and owns nothing through the proxies in them. -/
structure Books.Covers (books : Books) (connection : Connection) : Prop where
  once : books.nodes.Nodup
  nodes : ∀ token, token ∈ books.nodes ↔ (connection.nodes.get? token).isSome
  issued : ∀ token, (connection.nodes.get? token).isSome → token.toNat ≤ connection.handles
  given : ∀ object proxy, books.bound.get? object = some proxy → proxy.toNat ≤ connection.handles
  idle : ∀ object proxy bound, books.bound.get? object = some proxy →
    connection.proxies.get? proxy = some bound → bound.owned = false

namespace Books.Covers

variable {books left : Books} {connection later : Connection} {proxy : ProxyId}

/-- It stays so when the connection keeps its nodes, and the proxies of ports that are kept. -/
theorem of_kept (covers : books.Covers connection) (more : connection.handles ≤ later.handles)
    (nodes : left.nodes = books.nodes)
    (housed : ∀ token, (later.nodes.get? token).isSome = (connection.nodes.get? token).isSome)
    (bound : ∀ object proxy, left.bound.get? object = some proxy →
      books.bound.get? object = some proxy)
    (proxies : ∀ proxy bound, proxy.toNat ≤ connection.handles →
      later.proxies.get? proxy = some bound → connection.proxies.get? proxy = some bound) :
    left.Covers later where
  once := nodes ▸ covers.once
  nodes token := by
    rw [nodes, housed]
    exact covers.nodes token
  issued token present := by
    rw [housed] at present
    exact Nat.le_trans (covers.issued token present) more
  given object proxy listened :=
    Nat.le_trans (covers.given object proxy (bound object proxy listened)) more
  idle object proxy found listened present := by
    have former := bound object proxy listened
    exact covers.idle object proxy found former
      (proxies proxy found (covers.given object proxy former) present)

/-- A new proxy is none of those in the books. -/
theorem former_of_adds {bound present : Proxy} {other : ProxyId}
    (adds : connection.Adds later proxy bound) (few : later.handles < UInt32.size)
    (early : other.toNat ≤ connection.handles) (found : later.proxies.get? other = some present) :
    connection.proxies.get? other = some present := by
  have apart : other ≠ proxy := by
    rintro rfl
    exact Nat.not_lt_of_le early (adds.fresh few).1
  rw [adds.proxies, Table.get?_insert, if_neg apart] at found
  exact found

theorem bind (covers : books.Covers connection) {object : ObjectId}
    (adds : connection.Adds later proxy { object, listening := true, owned := false })
    (few : later.handles < UInt32.size)
    (housed : ∀ token, (later.nodes.get? token).isSome = (connection.nodes.get? token).isSome) :
    { books with bound := books.bound.insert object proxy }.Covers later := by
  have former : books.Covers later :=
    covers.of_kept adds.handles rfl housed (fun _ _ same => same) fun other bound =>
      former_of_adds adds few
  refine ⟨former.once, former.nodes, former.issued, ?_, ?_⟩
  · intro other bound listened
    simp only [Table.get?_insert] at listened
    split at listened
    case isTrue =>
      cases listened
      exact (adds.fresh few).2
    case isFalse => exact former.given other bound listened
  · intro other bound present listened found
    simp only [Table.get?_insert] at listened
    split at listened
    case isTrue =>
      cases listened
      rw [adds.proxies, Table.get?_insert, if_pos rfl] at found
      cases found
      rfl
    case isFalse => exact former.idle other bound present listened found

theorem enlist (covers : books.Covers connection) {token : NodeToken} {node : OfferedNode}
    (more : connection.handles ≤ later.handles)
    (fresh : connection.handles < token.toNat ∧ token.toNat ≤ later.handles)
    (proxies : later.proxies = connection.proxies)
    (offers : later.offers = connection.offers.insert token node) :
    { books with nodes := books.nodes ++ [token] }.Covers later := by
  have housed : ∀ other, (later.nodes.get? other).isSome =
      (decide (other = token) || (connection.nodes.get? other).isSome) := by
    intro other
    rw [← Server.isSome_offers, offers, Table.get?_insert, ← Server.isSome_offers]
    split <;> simp_all
  have isNew : token ∉ books.nodes := by
    intro member
    exact Nat.not_lt_of_le (covers.issued token ((covers.nodes token).1 member)) fresh.1
  refine ⟨?_, fun other => ?_, fun other present => ?_, fun object proxy listened => ?_,
    fun object proxy bound listened found => ?_⟩
  · refine List.nodup_append.2 ⟨covers.once, List.nodup_singleton token, ?_⟩
    intro other member last isLast same
    rw [List.mem_singleton.1 isLast] at same
    exact isNew (same ▸ member)
  · rw [housed, List.mem_append, covers.nodes other]
    simp [or_comm]
  · rw [housed] at present
    by_cases same : other = token
    · exact same ▸ fresh.2
    · simp only [same, decide_false, Bool.false_or] at present
      exact Nat.le_trans (covers.issued other present) more
  · exact Nat.le_trans (covers.given object proxy listened) more
  · exact covers.idle object proxy bound listened (proxies ▸ found)

theorem dismiss (covers : books.Covers connection) {token : NodeToken}
    (more : connection.handles ≤ later.handles) (proxies : later.proxies = connection.proxies)
    (offers : later.offers = connection.offers.erase token) :
    { books with nodes := books.nodes.filter (· ≠ token) }.Covers later := by
  have housed : ∀ other, (later.nodes.get? other).isSome =
      (!decide (other = token) && (connection.nodes.get? other).isSome) := by
    intro other
    rw [← Server.isSome_offers, offers, Table.get?_erase, ← Server.isSome_offers]
    split <;> simp_all
  refine ⟨covers.once.filter _, fun other => ?_, fun other present => ?_,
    fun object proxy listened => ?_, fun object proxy bound listened found => ?_⟩
  · rw [housed, List.mem_filter, covers.nodes other]
    simp [and_comm]
  · rw [housed, Bool.and_eq_true] at present
    exact Nat.le_trans (covers.issued other present.2) more
  · exact Nat.le_trans (covers.given object proxy listened) more
  · exact covers.idle object proxy bound listened (proxies ▸ found)

end Books.Covers

/-! ## The audit -/

namespace Server

variable {id : ConnectionId} {books left : Books} {before after server : Server}

/-- The books cover the connection of a client, which is gone when the client is closed. -/
def custody (id : ConnectionId) : Audit Server where
  Kept books server := ∀ connection, server.connections.get? id = some connection →
    connection.handles < UInt32.size → books.Covers connection
  Ended _ server := server.connections.get? id = none
  ownLinks := False
  ownNodes := False

/-- A connection that keeps its proxies and its nodes is covered as before. -/
theorem covered_of_retains {change : Table NodeToken OfferedNode → Table NodeToken OfferedNode}
    (kept : (custody id).Kept books before) (retains : Retains id before after)
    (reoffers : Reoffers id change before after)
    (housed : ∀ offers token, ((change offers).get? token).isSome = (offers.get? token).isSome)
    (bound : left.bound = books.bound) (nodes : left.nodes = books.nodes) :
    (custody id).Kept left after := by
  intro later isLater few
  rcases retains later isLater with ⟨connection, connected, more, proxies⟩
  rcases reoffers later isLater with ⟨_, same, -, offers⟩
  cases connected.symm.trans same
  have covers := kept connection connected (Nat.lt_of_le_of_lt more few)
  refine covers.of_kept more nodes (fun token => ?_) (fun _ _ found => bound ▸ found)
    fun proxy present _ found => proxies ▸ found
  rw [← isSome_offers, offers, housed, isSome_offers]

/-- Requests that are neither about proxies nor about nodes leave the connection covered. -/
theorem covered_of_answer (kept : (custody id).Kept books server) {request : Request}
    (others : request.isOnProxies = false) (plain : request.isPlain = false)
    (bound : left.bound = books.bound) (nodes : left.nodes = books.nodes) :
    (custody id).Kept left (answer id request server).2 :=
  covered_of_retains kept (retains_answer server id others) (reoffers_answer server id plain)
    (fun _ _ => rfl) bound nodes

/-- A proxy may go, whatever it is for, along with one in the books or not. -/
theorem covered_of_removes (kept : (custody id).Kept books server) (proxy : ProxyId)
    (bound : ∀ object other, left.bound.get? object = some other →
      books.bound.get? object = some other)
    (nodes : left.nodes = books.nodes) :
    (custody id).Kept left (server.destroyProxy id proxy) := by
  intro later isLater few
  rcases removes_destroyProxy isLater with ⟨connection, connected, removed⟩
  rcases reoffers_destroyProxy server id proxy later isLater with ⟨_, same, -, offers⟩
  cases connected.symm.trans same
  have covers := kept connection connected (Nat.lt_of_le_of_lt removed.handles few)
  refine covers.of_kept removed.handles nodes (fun token => ?_) bound ?_
  · rw [← isSome_offers, offers, isSome_offers]
  · intro other present _ found
    rw [removed.proxies, Table.get?_erase, Option.ite_none_left_eq_some] at found
    exact found.2

theorem covered_of_dismissal (kept : (custody id).Kept books server) (token : NodeToken) :
    (custody id).Kept { books with nodes := books.nodes.filter (· ≠ token) }
      (server.destroyNode id token) := by
  have retains : Retains id server (answer id (.destroyNode token) server).2 :=
    retains_answer server id rfl
  intro later isLater few
  rcases retains later isLater with ⟨connection, connected, more, proxies⟩
  rcases destroyNode_spec server id token later isLater with ⟨_, same, -, offers⟩
  cases connected.symm.trans same
  exact (kept connection connected (Nat.lt_of_le_of_lt more few)).dismiss more proxies offers

/-- Nodes are listed once, so the first one is not among the others. -/
theorem covered_of_disbanding {token : NodeToken} {rest : List NodeToken}
    (kept : (custody id).Kept books server) (nodes : books.nodes = token :: rest) :
    (custody id).Kept { books with nodes := rest } (server.destroyNode id token) := by
  intro later isLater few
  have covers := covered_of_dismissal kept token later isLater few
  suffices alone : books.nodes.filter (· ≠ token) = rest by
    rw [alone] at covers
    exact covers
  have retains : Retains id server (answer id (.destroyNode token) server).2 :=
    retains_answer server id rfl
  rcases retains later isLater with ⟨connection, connected, more, -⟩
  have once := (kept connection connected (Nat.lt_of_le_of_lt more few)).once
  rw [nodes] at once ⊢
  have absent := (List.nodup_cons.1 once).1
  rw [List.filter_cons_of_neg (by simp)]
  exact Books.forget_of_absent absent

/-- A port that is bound and listened to is entered in the books. -/
theorem covered_of_granted (kept : (custody id).Kept books server) {object : ObjectId}
    {proxy : ProxyId} (granted : server.bindObject id object .port = (some proxy, after)) :
    (custody id).Kept { books with bound := books.bound.insert object proxy }
      (after.subscribeInfo id proxy) := by
  intro later isLater few
  rcases adds_bindObject granted isLater with ⟨connection, connected, adds⟩
  have binds : Reoffers id (fun offers => offers) server after := by
    have bound : Reoffers id (fun offers => offers) server
        (answer id (.bindObject object .port) server).2 := reoffers_answer server id rfl
    simp only [answer, granted] at bound
    exact bound
  have told : Reoffers id (fun offers => offers) after
      (answer id (.subscribeInfo proxy) after).2 := reoffers_answer after id rfl
  rcases binds.trans told later isLater with ⟨_, same, -, offers⟩
  cases connected.symm.trans same
  have covers := kept connection connected (Nat.lt_of_le_of_lt adds.handles few)
  exact covers.bind adds few fun token => by rw [← isSome_offers, offers, isSome_offers]

theorem covered_of_linked (kept : (custody id).Kept books server) {props : Properties}
    {link : Link}
    (created : server.createByFactory id linkFactory .link props = (some link.proxy, after)) :
    (custody id).Kept { books with links := link :: books.links } after := by
  have offers := reoffers_createByFactory server id linkFactory .link props
  rw [created] at offers
  intro later isLater few
  rcases adds_createByFactory created isLater with ⟨connection, object, connected, adds⟩
  rcases offers later isLater with ⟨_, same, -, offered⟩
  cases connected.symm.trans same
  have covers := kept connection connected (Nat.lt_of_le_of_lt adds.handles few)
  refine covers.of_kept adds.handles rfl (fun token => ?_) (fun _ _ same => same)
    fun _ _ => Books.Covers.former_of_adds adds few
  rw [← isSome_offers, offered, isSome_offers]

theorem covered_of_enlisted (kept : (custody id).Kept books server) {props : Properties}
    {token : NodeToken} (created : server.createNode id props = (some token, after)) :
    (custody id).Kept { books with nodes := books.nodes ++ [token] } after := by
  have retains : Retains id server (answer id (.createNode props) server).2 :=
    retains_answer server id rfl
  have spec := createNode_spec server id props
  simp only [answer, created] at retains spec
  intro later isLater few
  rcases retains later isLater with ⟨connection, connected, more, proxies⟩
  rcases spec.1 later isLater with ⟨_, same, -, offers⟩
  cases connected.symm.trans same
  have covers := kept connection connected (Nat.lt_of_le_of_lt more few)
  exact covers.enlist more (spec.2 connection later connected isLater few) proxies offers

theorem upholds_custody (id : ConnectionId) : (transport id).Upholds (custody id) where
  subscribing {books server} kept _ := by
    have subscribed : ∀ left : Books, left.bound = books.bound → left.nodes = books.nodes →
        (custody id).Kept left (answer id .subscribeGlobals server).2 := fun left bound nodes =>
      covered_of_answer kept rfl rfl bound nodes
    simp only [transport]
    generalize answer id .subscribeGlobals server = answered at subscribed ⊢
    rcases answered with ⟨failure | ⟨⟩, changed⟩
    · exact subscribed books rfl rfl
    · exact subscribed { books with phase := .listening } rfl rfl
  waiting request kept waits := by
    cases request with
    | drive | sync => exact covered_of_answer kept rfl rfl rfl rfl
    | _ => cases waits
  binding {books server} object kept _ := by
    simp only [transport, answer]
    rcases granted : server.bindObject id object .port with ⟨_ | proxy, changed⟩
    · rw [bindObject_refused granted]
      exact kept
    · exact covered_of_granted kept granted
  releasing {_ _ object proxy} kept _ := covered_of_removes kept proxy (fun other bound left => by
    simp only [Table.get?_erase, Option.ite_none_left_eq_some] at left
    exact left.2) rfl
  linking {books server} output input kept := by
    have offers := reoffers_createByFactory server id linkFactory .link
      (Link.properties output input)
    simp only [transport, answer]
    rcases created : server.createByFactory id linkFactory .link (Link.properties output input) with
      ⟨_ | proxy, changed⟩
    · rw [created] at offers
      exact covered_of_retains kept (retains_createByFactory created) offers (fun _ _ => rfl) rfl
        rfl
    · exact covered_of_linked kept created
  unlinking link kept _ := covered_of_removes kept link.proxy (fun _ _ same => same) rfl
  enlisting {books server} props kept := by
    have spec := createNode_spec server id props
    simp only [transport, answer]
    rcases created : server.createNode id props with ⟨_ | token, changed⟩
    · simp only [created] at spec
      exact spec ▸ kept
    · exact covered_of_enlisted kept created
  attending {_ server _ _} kept attends _ := by
    rcases reoffers_of_attends attends server id with ⟨change, reoffers⟩
    refine covered_of_retains kept (retains_answer server id ?_) reoffers (fun offers token => ?_)
      rfl rfl
    · cases attends <;> rfl
    · rw [Table.get?_modify]
      split <;> simp
  dismissing node kept _ := covered_of_dismissal kept node
  disbanding kept nodes := covered_of_disbanding kept nodes
  leaving {books server} kept := by
    have untold : (custody id).Kept { books with phase := .closed } server :=
      covered_of_retains kept (.refl id server) (.refl id server) (fun _ _ => rfl) rfl rfl
    split
    · exact covered_of_answer kept rfl rfl rfl rfl
    · exact untold
    · exact untold
  ending {links server} _ := get?_disconnect server id

theorem Intact.retains (intact : Intact id before after) : Retains id before after := by
  intro later isLater
  rcases intact later isLater with ⟨connection, connected, same⟩
  have handles : later.record.handles = connection.record.handles := by rw [same]
  have proxies : later.record.proxies = connection.record.proxies := by rw [same]
  exact ⟨connection, connected, Nat.le_of_eq handles.symm, proxies⟩

/-- Whoever keeps the record of a connection keeps it covered. -/
theorem covered_of_intact (kept : (custody id).Kept books before)
    (intact : Intact id before after) : (custody id).Kept books after :=
  covered_of_retains kept intact.retains intact.reoffers (fun _ _ => rfl) rfl rfl

end Server

/-! ## Sessions -/

namespace Session

variable {id : ConnectionId} {Permits : List Endpoint → Invocation → Prop}
  {client : Client Server} {server : Server} {held : List Endpoint}

/-- What happens between two calls leaves the record of the connection as it is. -/
theorem intact (session : Session id Permits client server held) {step : Server.Step}
    (foreign : ∀ request, step ≠ .ask id request) :
    Server.Intact id server (server.perform step) :=
  (Server.bystands_intact id).perform session.connected.2 foreign (step.meets_any server)

/-- Throughout a session the client's books cover its connection. -/
theorem custody (session : Session id Permits client server held) :
    ∃ links, client.Stands (Server.custody id) links server := by
  induction session with
  | @opened steps config observers client server isNext ran =>
      refine ⟨[], ?_⟩
      rw [isNext]
      generalize Server.run {} steps = before at ran ⊢
      cases refuses : before.policy.refuseConnections with
      | true =>
          rw [Client.connect_of_refused refuses] at ran
          cases ran
      | false =>
          have accepted : Server.backend.connect config before =
              (.ok (Server.transport (before.lastConnection + 1)),
                Client.accepting config before) := by
            simp [Server.backend, Server.connect, refuses, Client.accepting]
          have fresh : (Server.custody (before.lastConnection + 1)).Kept {}
              (Client.accepting config before) := by
            intro connection connected _
            rw [Client.get?_accepting] at connected
            cases connected
            exact ⟨.nil, by simp, by simp, by simp, by simp⟩
          have opened := Client.stands_connect observers accepted (Server.upholds_custody _) fresh
          rw [ran] at opened
          exact opened.2
  | @meanwhile client server held step session foreign ih =>
      rcases ih with ⟨links, stands⟩
      have intact := session.intact foreign
      refine ⟨links, fun transport opened => ?_, fun closed => ?_⟩
      · rcases stands.kept transport opened with ⟨upholds, kept⟩
        exact ⟨upholds, Server.covered_of_intact kept intact⟩
      · rcases stands.ended closed with ⟨nodes, gone⟩
        refine ⟨nodes, Option.eq_none_iff_forall_ne_some.2 fun later isLater => ?_⟩
        rcases intact later isLater with ⟨connection, connected, -⟩
        rw [gone] at connected
        cases connected
  | @call client server held invocation session permitted ih =>
      rcases ih with ⟨links, stands⟩
      refine ⟨_, stands.call ?_⟩
      cases invocation <;> first | trivial | exact False.elim

/-- As long as its handles have not been used up, a connection is covered by its client's books. -/
theorem covers (session : Session id Permits client server held) (isOpen : client.isOpen)
    {connection : Connection} (connected : server.connections.get? id = some connection)
    (few : connection.handles < UInt32.size) :
    ∃ links, (client.books links).Covers connection := by
  rcases session.custody with ⟨links, stands⟩
  rcases Option.isSome_iff_exists.1 isOpen with ⟨transport, opened⟩
  exact ⟨links, (stands.kept transport opened).2 connection connected few⟩

end Session

end MediaGraph
