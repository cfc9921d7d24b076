import MediaGraph.Proofs.Client.Books
import MediaGraph.Proofs.Server.Proxies
import MediaGraph.Server.Backend

/-!
# What a client holds is what its connection has

The server keeps the proxies of a connection in a table of its own. A client's books tally with it
if each proxy there is that of a port which the client listens to, or that of a link which it has
been given, and all of these are there (`Books.Tallies`).

To tally is an audit that the transport of the server upholds (`Server.upholds_agreement`), as long
as the handles of the connection have not been used up and links are given back through the client
that they came from. Nobody else can change the proxies of a connection (`Client.Stands.retains`).
-/

namespace MediaGraph

/-- The proxies of the connection are those of the ports and links in the books. -/
structure Books.Tallies (books : Books) (connection : Connection) : Prop where
  bounded : connection.Bounded
  proxies : connection.proxies.keys.Perm (books.bound.values ++ books.links.map Link.proxy)
  ports : ∀ object proxy, books.bound.get? object = some proxy →
    connection.proxies.get? proxy = some { object, listening := true, owned := false }
  links : ∀ link ∈ books.links, ∃ object,
    connection.proxies.get? link.proxy = some { object, listening := false, owned := true }

namespace Books.Tallies

variable {books left : Books} {connection later : Connection} {object : ObjectId} {proxy : ProxyId}

theorem of_retained (tallies : books.Tallies connection)
    (more : connection.handles ≤ later.handles) (same : later.proxies = connection.proxies)
    (bound : left.bound = books.bound) (links : left.links = books.links) :
    left.Tallies later where
  bounded proxy bound found :=
    Nat.le_trans (tallies.bounded proxy bound (same ▸ found)) more
  proxies := by
    rw [same, bound, links]
    exact tallies.proxies
  ports := by
    rw [same, bound]
    exact tallies.ports
  links := by
    rw [same, links]
    exact tallies.links

/-! ## What it says of the proxies -/

theorem held_of_proxy (tallies : books.Tallies connection) {bound : Proxy}
    (found : connection.proxies.get? proxy = some bound) :
    (∃ object, books.bound.get? object = some proxy ∧
        bound = { object, listening := true, owned := false }) ∨
      ∃ link ∈ books.links, link.proxy = proxy ∧
        ∃ object, bound = { object, listening := false, owned := true } := by
  have member : proxy ∈ connection.proxies.keys :=
    List.mem_map.2 ⟨(proxy, bound), (Table.get?_eq_some_iff _ _ _).1 found, rfl⟩
  rcases List.mem_append.1 (tallies.proxies.mem_iff.1 member) with isPort | isLink
  · rcases (Table.mem_values_iff _ _).1 isPort with ⟨object, listened⟩
    have same := tallies.ports object proxy listened
    exact .inl ⟨object, listened, Option.some.inj (found.symm.trans same)⟩
  · rcases List.mem_map.1 isLink with ⟨link, isHeld, rfl⟩
    rcases tallies.links link isHeld with ⟨object, same⟩
    exact .inr ⟨link, isHeld, rfl, object, Option.some.inj (found.symm.trans same)⟩

theorem bound_iff (tallies : books.Tallies connection) :
    books.bound.get? object = some proxy ↔
      connection.proxies.get? proxy = some { object, listening := true, owned := false } := by
  refine ⟨tallies.ports object proxy, fun found => ?_⟩
  rcases tallies.held_of_proxy found with ⟨other, listened, same⟩ | ⟨_, _, _, _, same⟩
  · cases same
    exact listened
  · cases same

theorem owned_iff (tallies : books.Tallies connection) :
    (∃ bound, connection.proxies.get? proxy = some bound ∧ bound.owned) ↔
      proxy ∈ books.links.map Link.proxy := by
  constructor
  · rintro ⟨bound, found, owned⟩
    rcases tallies.held_of_proxy found with ⟨_, _, rfl⟩ | ⟨link, isHeld, rfl, _⟩
    · cases owned
    · exact List.mem_map_of_mem isHeld
  · intro member
    rcases List.mem_map.1 member with ⟨link, isHeld, rfl⟩
    rcases tallies.links link isHeld with ⟨object, found⟩
    exact ⟨_, found, rfl⟩

theorem nodup (tallies : books.Tallies connection) :
    (books.bound.values ++ books.links.map Link.proxy).Nodup :=
  tallies.proxies.nodup_iff.1 connection.proxies.keys_nodup

theorem size_eq (tallies : books.Tallies connection) :
    connection.proxies.keys.length = books.bound.size + books.links.length := by
  rw [tallies.proxies.length_eq, List.length_append, List.length_map]
  simp [Table.values, Table.size]

/-! ## How it goes on -/

/-- A new proxy is none that there was before. -/
theorem unused (tallies : books.Tallies connection) {bound : Proxy}
    (adds : connection.Adds later proxy bound) (few : later.handles < UInt32.size) :
    connection.proxies.get? proxy = none := by
  rw [Option.eq_none_iff_forall_ne_some]
  intro present found
  exact Nat.not_lt_of_le (tallies.bounded proxy present found) (adds.fresh few).1

theorem bounded_of_adds (tallies : books.Tallies connection) {bound : Proxy}
    (adds : connection.Adds later proxy bound) (few : later.handles < UInt32.size) :
    later.Bounded := by
  intro other present found
  rw [adds.proxies, Table.get?_insert] at found
  split at found
  case isTrue same => exact same ▸ (adds.fresh few).2
  case isFalse => exact Nat.le_trans (tallies.bounded other present found) adds.handles

theorem of_apart {other : ProxyId} {present : Proxy} {bound : Proxy}
    (adds : connection.Adds later proxy bound) (absent : connection.proxies.get? proxy = none)
    (found : connection.proxies.get? other = some present) :
    later.proxies.get? other = some present := by
  have apart : other ≠ proxy := by
    rintro rfl
    rw [absent] at found
    cases found
  rw [adds.proxies, Table.get?_insert, if_neg apart]
  exact found

theorem bind (tallies : books.Tallies connection) (free : books.bound.get? object = none)
    (adds : connection.Adds later proxy { object, listening := true, owned := false })
    (few : later.handles < UInt32.size) :
    { books with bound := books.bound.insert object proxy }.Tallies later := by
  have absent := tallies.unused adds few
  refine ⟨tallies.bounded_of_adds adds few, ?_, fun other bound listened => ?_,
    fun link isHeld => ?_⟩
  · rw [adds.proxies]
    refine (Table.keys_insert_perm absent _).trans ?_
    refine (tallies.proxies.cons proxy).trans ?_
    exact (Table.values_insert_perm free proxy).symm.append_right _
  · simp only [Table.get?_insert] at listened
    split at listened
    case isTrue same =>
      cases listened
      rw [same, adds.proxies, Table.get?_insert, if_pos rfl]
    case isFalse => exact of_apart adds absent (tallies.ports other bound listened)
  · rcases tallies.links link isHeld with ⟨target, found⟩
    exact ⟨target, of_apart adds absent found⟩

theorem link (tallies : books.Tallies connection) {output input : ObjectId}
    (adds : connection.Adds later proxy { object, listening := false, owned := true })
    (few : later.handles < UInt32.size) :
    { books with links := { proxy, output, input } :: books.links }.Tallies later := by
  have absent := tallies.unused adds few
  refine ⟨tallies.bounded_of_adds adds few, ?_, fun other bound listened => ?_,
    fun link isHeld => ?_⟩
  · rw [adds.proxies]
    refine (Table.keys_insert_perm absent _).trans ?_
    exact (tallies.proxies.cons proxy).trans List.perm_middle.symm
  · exact of_apart adds absent (tallies.ports other bound listened)
  · rcases List.mem_cons.1 isHeld with rfl | old
    · refine ⟨object, ?_⟩
      rw [adds.proxies, Table.get?_insert, if_pos rfl]
    · rcases tallies.links link old with ⟨target, found⟩
      exact ⟨target, of_apart adds absent found⟩

/-- A proxy is destroyed that was in the books, and no longer is. -/
theorem of_removes {bound : Proxy} (tallies : books.Tallies connection)
    (found : connection.proxies.get? proxy = some bound) (removes : connection.Removes later proxy)
    (rest : (books.bound.values ++ books.links.map Link.proxy).Perm
      (proxy :: (left.bound.values ++ left.links.map Link.proxy)))
    (ports : ∀ object other, left.bound.get? object = some other →
      books.bound.get? object = some other)
    (links : ∀ link ∈ left.links, link ∈ books.links) : left.Tallies later := by
  -- The books name the proxy once, so nothing that is left in them loses its own.
  have once := List.nodup_cons.1 (rest.nodup_iff.1 tallies.nodup)
  have stays : ∀ other present, other ∈ left.bound.values ++ left.links.map Link.proxy →
      connection.proxies.get? other = some present →
      later.proxies.get? other = some present := by
    intro other present isLeft isPresent
    have apart : other ≠ proxy := by
      rintro rfl
      exact once.1 isLeft
    rw [removes.proxies, Table.get?_erase, if_neg apart]
    exact isPresent
  refine ⟨fun other present isPresent => ?_, ?_, fun object other listened => ?_,
    fun link isLeft => ?_⟩
  · rw [removes.proxies, Table.get?_erase, Option.ite_none_left_eq_some] at isPresent
    exact Nat.le_trans (tallies.bounded other present isPresent.2) removes.handles
  · rw [removes.proxies]
    have split := (Table.entries_erase_perm found).map Prod.fst
    exact (split.symm.trans (tallies.proxies.trans rest)).cons_inv
  · refine stays other _ ?_ (tallies.ports object other (ports object other listened))
    exact List.mem_append_left _ ((Table.mem_values_iff _ _).2 ⟨object, listened⟩)
  · rcases tallies.links link (links link isLeft) with ⟨target, isPresent⟩
    exact ⟨target, stays link.proxy _
      (List.mem_append_right _ (List.mem_map_of_mem isLeft)) isPresent⟩

theorem release (tallies : books.Tallies connection)
    (listened : books.bound.get? object = some proxy)
    (removes : connection.Removes later proxy) :
    { books with bound := books.bound.erase object }.Tallies later := by
  refine tallies.of_removes (tallies.ports object proxy listened) removes ?_ ?_ fun _ held => held
  · exact ((Table.entries_erase_perm listened).map Prod.snd).append_right _
  · intro other bound kept
    simp only [Table.get?_erase, Option.ite_none_left_eq_some] at kept
    exact kept.2

theorem unlink (tallies : books.Tallies connection) {link : Link} (isHeld : link ∈ books.links)
    (removes : connection.Removes later link.proxy) :
    { books with links := books.links.erase link }.Tallies later := by
  rcases tallies.links link isHeld with ⟨target, found⟩
  refine tallies.of_removes found removes ?_ (fun _ _ bound => bound)
    fun _ kept => List.mem_of_mem_erase kept
  exact (((List.perm_cons_erase isHeld).map Link.proxy).append_left _).trans List.perm_middle

end Books.Tallies

/-! ## The audit -/

namespace Server

variable {id : ConnectionId} {books left : Books} {before after server : Server}

/-- The books tally with the connection of a client, which is gone when the client is closed. -/
def agreement (id : ConnectionId) : Audit Server where
  Kept books server := ∀ connection, server.connections.get? id = some connection →
    connection.handles < UInt32.size → books.Tallies connection
  Ended _ server := server.connections.get? id = none
  ownLinks := True
  ownNodes := False

theorem kept_of_retains (kept : (agreement id).Kept books before)
    (retains : Retains id before after) (bound : left.bound = books.bound)
    (links : left.links = books.links) : (agreement id).Kept left after := by
  intro later isLater few
  rcases retains later isLater with ⟨connection, connected, more, same⟩
  have tallies := kept connection connected (Nat.lt_of_le_of_lt more few)
  exact tallies.of_retained more same bound links

theorem kept_of_answer (kept : (agreement id).Kept books server) {request : Request}
    (others : request.isOnProxies = false) (bound : left.bound = books.bound)
    (links : left.links = books.links) :
    (agreement id).Kept left (answer id request server).2 :=
  kept_of_retains kept (retains_answer server id others) bound links

theorem kept_of_removes {proxy : ProxyId} (kept : (agreement id).Kept books server)
    (removes : ∀ connection later, books.Tallies connection → connection.Removes later proxy →
      left.Tallies later) :
    (agreement id).Kept left (server.destroyProxy id proxy) := by
  intro later isLater few
  rcases removes_destroyProxy isLater with ⟨connection, connected, removed⟩
  have tallies := kept connection connected (Nat.lt_of_le_of_lt removed.handles few)
  exact removes connection later tallies removed

theorem upholds_agreement (id : ConnectionId) : (transport id).Upholds (agreement id) where
  subscribing {books server} kept _ := by
    have subscribed : ∀ left : Books, left.bound = books.bound → left.links = books.links →
        (agreement id).Kept left (answer id .subscribeGlobals server).2 := fun left bound links =>
      kept_of_answer kept rfl bound links
    simp only [transport]
    generalize answer id .subscribeGlobals server = answered at subscribed ⊢
    rcases answered with ⟨failure | ⟨⟩, changed⟩
    · exact subscribed books rfl rfl
    · exact subscribed { books with phase := .listening } rfl rfl
  waiting request kept waits := by
    apply kept_of_answer kept _ rfl rfl
    cases request <;> first | rfl | cases waits
  binding {books server} object kept free := by
    simp only [transport, answer]
    rcases granted : server.bindObject id object .port with ⟨_ | proxy, changed⟩
    · rw [bindObject_refused granted]
      exact kept
    · intro later isLater few
      rcases adds_bindObject granted isLater with ⟨connection, connected, adds⟩
      have tallies := kept connection connected (Nat.lt_of_le_of_lt adds.handles few)
      exact tallies.bind free adds few
  releasing kept listened := kept_of_removes kept fun _ _ tallies removed =>
    tallies.release listened removed
  linking {books server} output input kept := by
    simp only [transport, answer]
    rcases created : server.createByFactory id linkFactory .link (Link.properties output input) with
      ⟨_ | proxy, changed⟩
    · exact kept_of_retains kept (retains_createByFactory created) rfl rfl
    · intro later isLater few
      rcases adds_createByFactory created isLater with ⟨connection, object, connected, adds⟩
      have tallies := kept connection connected (Nat.lt_of_le_of_lt adds.handles few)
      exact tallies.link adds few
  unlinking link kept own := kept_of_removes kept fun _ _ tallies removed =>
    tallies.unlink (own trivial) removed
  enlisting {books server} props kept := by
    have enlisted : ∀ left : Books, left.bound = books.bound → left.links = books.links →
        (agreement id).Kept left (answer id (.createNode props) server).2 := fun left bound links =>
      kept_of_answer kept rfl bound links
    simp only [transport]
    generalize answer id (.createNode props) server = answered at enlisted ⊢
    rcases answered with ⟨_ | token, changed⟩
    · exact enlisted books rfl rfl
    · exact enlisted { books with nodes := books.nodes ++ [token] } rfl rfl
  attending kept attends _ := by
    apply kept_of_answer kept _ rfl rfl
    cases attends <;> rfl
  dismissing node kept _ := kept_of_answer kept rfl rfl rfl
  disbanding kept _ := kept_of_answer kept rfl rfl rfl
  leaving {books server} kept := by
    have untold : (agreement id).Kept { books with phase := .closed } server :=
      kept_of_retains kept (.refl id server) rfl rfl
    split
    · exact kept_of_answer kept rfl rfl rfl
    · exact untold
    · exact untold
  ending {links server} _ := get?_disconnect server id

end Server

/-! ## What others do -/

namespace Client

variable {id : ConnectionId} {client : Client Server} {links : List Link} {before after : Server}

/-- Nobody but the client itself changes the proxies of its connection. -/
theorem Stands.retains (stands : client.Stands (Server.agreement id) links before)
    (retains : Server.Retains id before after) :
    client.Stands (Server.agreement id) links after where
  kept transport opened := by
    rcases stands.kept transport opened with ⟨upholds, kept⟩
    exact ⟨upholds, Server.kept_of_retains kept retains rfl rfl⟩
  ended closed := by
    rcases stands.ended closed with ⟨nodes, gone⟩
    refine ⟨nodes, ?_⟩
    show after.connections.get? id = none
    rw [Option.eq_none_iff_forall_ne_some]
    intro later isLater
    rcases retains later isLater with ⟨connection, connected, -, -⟩
    have isGone : before.connections.get? id = none := gone
    rw [isGone] at connected
    cases connected

end Client

end MediaGraph
