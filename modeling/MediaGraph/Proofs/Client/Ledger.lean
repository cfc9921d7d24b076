import MediaGraph.Proofs.Client.Exchange
import MediaGraph.Script.Basic

/-!
# Every handle is given back once

A transport gives out handles: proxies of ports and of links, and tokens of nodes. The record of a
client's exchanges says what has been done with each of them, and the books say which are still
held. A `Ledger` is that the two agree: a handle that is held has been put to its proper uses so
far, and one that is not has been given back at the end of them.

It is kept by every call, so it holds of every run (`Client.handles_balanced`): when the client is
closed nothing is left but the links that its holder never gave back.
-/

namespace MediaGraph

/-- What a request can name. -/
inductive Handle where
  | proxy (id : ProxyId)
  | node (token : NodeToken)
  deriving DecidableEq

/-- What a handle has been given out for: a port that is bound, a link, or a node. -/
inductive Holding where
  | port (proxy : ProxyId)
  | link (proxy : ProxyId)
  | node (token : NodeToken)
  deriving DecidableEq

namespace Holding

def handle : Holding → Handle
  | port proxy | link proxy => .proxy proxy
  | node token => .node token

/-- The request that gives it back. -/
def release : Holding → Request
  | port proxy | link proxy => .destroyProxy proxy
  | node token => .destroyNode token

/-- What it may be used for until it is given back. -/
def Uses : Holding → List Request → Prop
  | port proxy, requests => requests = [.subscribeInfo proxy]
  | link _, requests => requests = []
  | node token, requests => .destroyNode token ∉ requests

end Holding

def Request.handle? : Request → Option Handle
  | subscribeInfo proxy | destroyProxy proxy => some (.proxy proxy)
  | addPort node .. | updatePort node .. | removePort node _ => some (.node node)
  | activateNode node | destroyNode node => some (.node node)
  | _ => none

theorem Holding.handle?_release (holding : Holding) :
    holding.release.handle? = some holding.handle := by
  cases holding <;> rfl

namespace Exchange

def granted? : Exchange → Option Holding
  | ⟨.bindObject .., answer⟩ => answer.map .port
  | ⟨.createObject .., answer⟩ => answer.map .link
  | ⟨.createNode _, answer⟩ => answer.map .node
  | _ => none

/-- A subscription that was granted, or its end. -/
def subscription? : Exchange → Option Request
  | ⟨.subscribeGlobals, .ok ()⟩ => some .subscribeGlobals
  | ⟨.unsubscribeGlobals, _⟩ => some .unsubscribeGlobals
  | _ => none

end Exchange

/-- A request that names a handle is not one that a handle is given out for. -/
theorem Exchange.granted?_of_names {exchange : Exchange} {handle : Handle}
    (names : exchange.request.handle? = some handle) : exchange.granted? = none := by
  rcases exchange with ⟨request, answer⟩
  cases request <;> first | rfl | cases names

/-! ## What a record says -/

def granted (record : List Exchange) : List Holding := record.filterMap Exchange.granted?

/-- The requests that name a handle, oldest first. -/
def naming (handle : Handle) (record : List Exchange) : List Request :=
  (record.map (·.request)).filter (·.handle? = some handle)

def subscriptions (record : List Exchange) : List Request :=
  record.filterMap Exchange.subscription?

/-- No handle has been given out twice. -/
def Distinct (record : List Exchange) : Prop := ((granted record).map Holding.handle).Nodup

instance (record : List Exchange) : Decidable (Distinct record) :=
  inferInstanceAs (Decidable (List.Nodup _))

variable {record news : List Exchange} {holding other : Holding} {handle : Handle}

@[simp]
theorem granted_append (record news : List Exchange) :
    granted (record ++ news) = granted record ++ granted news := List.filterMap_append

@[simp]
theorem naming_append (handle : Handle) (record news : List Exchange) :
    naming handle (record ++ news) = naming handle record ++ naming handle news := by
  simp [naming]

@[simp]
theorem subscriptions_append (record news : List Exchange) :
    subscriptions (record ++ news) = subscriptions record ++ subscriptions news :=
  List.filterMap_append

theorem naming_eq_nil (unnamed : ∀ exchange ∈ news, exchange.request.handle? ≠ some handle) :
    naming handle news = [] := by
  simpa [naming, List.filter_eq_nil_iff] using unnamed

theorem Distinct.of_append (distinct : Distinct (record ++ news)) : Distinct record := by
  rw [Distinct, granted_append, List.map_append] at distinct
  exact distinct.of_append_left

/-- What has been given out under one handle is one thing. -/
theorem Distinct.same (distinct : Distinct record) (first : holding ∈ granted record)
    (second : other ∈ granted record) (same : holding.handle = other.handle) : holding = other :=
  List.inj_on_of_nodup_map distinct first second same

theorem Distinct.fresh (distinct : Distinct (record ++ news)) (new : holding ∈ granted news) :
    holding.handle ∉ (granted record).map Holding.handle := by
  rw [Distinct, granted_append, List.map_append, List.nodup_append] at distinct
  intro old
  exact distinct.2.2 _ old _ (List.mem_map_of_mem new) rfl

/-! ## Ledgers -/

/-- What is held, and what is not held any more, has been used as it should be. -/
structure Ledger (held : Holding → Prop) (record : List Exchange) : Prop where
  issued : ∀ holding, held holding → holding ∈ granted record
  known : ∀ exchange ∈ record, ∀ handle, exchange.request.handle? = some handle →
    handle ∈ (granted record).map Holding.handle
  current : ∀ holding, held holding → holding.Uses (naming holding.handle record)
  settled : ∀ holding ∈ granted record, ¬held holding →
    ∃ uses, holding.Uses uses ∧ naming holding.handle record = uses ++ [holding.release]

namespace Ledger

variable {held later : Holding → Prop}

theorem nil (nothing : ∀ holding, ¬held holding) : Ledger held [] where
  issued holding isHeld := absurd isHeld (nothing holding)
  known _ member := by cases member
  current holding isHeld := absurd isHeld (nothing holding)
  settled _ member := by cases member

/-- Exchanges that have nothing to do with handles leave the ledger as it is. -/
theorem pass (ledger : Ledger held record) (same : ∀ holding, later holding ↔ held holding)
    (grants : granted news = []) (names : ∀ exchange ∈ news, exchange.request.handle? = none) :
    Ledger later (record ++ news) := by
  have unnamed : ∀ handle, naming handle news = [] := by
    intro handle
    apply naming_eq_nil
    intro exchange member
    simp [names exchange member]
  refine ⟨?_, ?_, ?_, ?_⟩
  all_goals
    simp only [granted_append, grants, List.append_nil, naming_append, unnamed, same]
  · exact ledger.issued
  · intro exchange member handle named
    rcases List.mem_append.1 member with old | new
    · exact ledger.known exchange old handle named
    · rw [names exchange new] at named
      cases named
  · exact ledger.current
  · exact ledger.settled

/-- A handle that has just been given out, with what it is used for at once. -/
theorem grant (ledger : Ledger held record) (holding : Holding)
    (distinct : Distinct (record ++ news)) (grants : granted news = [holding])
    (names : ∀ exchange ∈ news, ∀ handle, exchange.request.handle? = some handle →
      handle = holding.handle)
    (uses : holding.Uses (naming holding.handle news))
    (added : ∀ other, later other ↔ held other ∨ other = holding) :
    Ledger later (record ++ news) := by
  have fresh : holding.handle ∉ (granted record).map Holding.handle :=
    distinct.fresh (by rw [grants]; exact List.mem_singleton_self holding)
  have apart : ∀ other ∈ granted record, other.handle ≠ holding.handle := by
    intro other member same
    exact fresh (same ▸ List.mem_map_of_mem member)
  have unnamed : naming holding.handle record = [] := by
    apply naming_eq_nil
    intro exchange member named
    exact fresh (ledger.known exchange member _ named)
  have others : ∀ other ∈ granted record, naming other.handle news = [] := by
    intro other member
    apply naming_eq_nil
    intro exchange new named
    exact apart other member (names exchange new _ named)
  refine ⟨?_, ?_, ?_, ?_⟩
  all_goals simp only [granted_append, grants, naming_append]
  · intro other isLater
    rcases (added other).1 isLater with old | rfl
    · exact List.mem_append_left _ (ledger.issued other old)
    · exact List.mem_append_right _ (List.mem_singleton_self other)
  · intro exchange member handle named
    rw [List.map_append, List.mem_append]
    rcases List.mem_append.1 member with old | new
    · exact .inl (ledger.known exchange old handle named)
    · rw [names exchange new handle named]
      exact .inr (List.mem_singleton_self _)
  · intro other isLater
    rcases (added other).1 isLater with old | rfl
    · rw [others other (ledger.issued other old), List.append_nil]
      exact ledger.current other old
    · rw [unnamed, List.nil_append]
      exact uses
  · intro other member isOver
    rcases List.mem_append.1 member with old | new
    · rw [others other old, List.append_nil]
      exact ledger.settled other old fun isHeld => isOver ((added other).2 (.inl isHeld))
    · exact absurd ((added other).2 (.inr (List.mem_singleton.1 new))) isOver

/-- A handle that is held is used, or given back. -/
theorem name (ledger : Ledger held record) (holding : Holding) (distinct : Distinct record)
    (isHeld : held holding) {exchange : Exchange}
    (names : exchange.request.handle? = some holding.handle)
    (others : ∀ other, other ≠ holding → (later other ↔ held other))
    (used : later holding → ∀ uses, holding.Uses uses → holding.Uses (uses ++ [exchange.request]))
    (released : ¬later holding → exchange.request = holding.release) :
    Ledger later (record ++ [exchange]) := by
  have isGranted := ledger.issued holding isHeld
  have grants : granted [exchange] = [] := by
    simp [granted, Exchange.granted?_of_names names]
  have own : naming holding.handle [exchange] = [exchange.request] := by
    simp [naming, names]
  have unnamed : ∀ other ∈ granted record, other ≠ holding →
      naming other.handle [exchange] = [] := by
    intro other member apart
    apply naming_eq_nil
    intro named isNamed same
    rw [List.mem_singleton.1 isNamed, names] at same
    exact apart (distinct.same member isGranted (Option.some.inj same).symm)
  refine ⟨?_, ?_, ?_, ?_⟩
  all_goals simp only [granted_append, grants, List.append_nil, naming_append]
  · intro other isLater
    by_cases same : other = holding
    · rw [same]
      exact isGranted
    · exact ledger.issued other ((others other same).1 isLater)
  · intro named member handle isNamed
    rcases List.mem_append.1 member with old | new
    · exact ledger.known named old handle isNamed
    · rw [List.mem_singleton.1 new, names] at isNamed
      rw [← Option.some.inj isNamed]
      exact List.mem_map_of_mem isGranted
  · intro other isLater
    by_cases same : other = holding
    · subst same
      rw [own]
      exact used isLater _ (ledger.current other isHeld)
    · have wasHeld := (others other same).1 isLater
      rw [unnamed other (ledger.issued other wasHeld) same, List.append_nil]
      exact ledger.current other wasHeld
  · intro other member isOver
    by_cases same : other = holding
    · subst same
      refine ⟨_, ledger.current other isHeld, ?_⟩
      rw [own, released isOver]
    · rw [unnamed other member same, List.append_nil]
      exact ledger.settled other member fun wasHeld => isOver ((others other same).2 wasHeld)

theorem giveBack (ledger : Ledger held record) (holding : Holding) (distinct : Distinct record)
    (isHeld : held holding) {exchange : Exchange} (released : exchange.request = holding.release)
    (removed : ∀ other, later other ↔ held other ∧ other ≠ holding) :
    Ledger later (record ++ [exchange]) := by
  apply ledger.name holding distinct isHeld
  · rw [released, holding.handle?_release]
  · intro other apart
    simp [removed, apart]
  · intro isLater
    exact absurd rfl ((removed holding).1 isLater).2
  · exact fun _ => released

end Ledger

/-! ## Books -/

/-- The requests that neither begin nor end anything for the whole client. -/
def Request.isInner : Request → Bool
  | subscribeGlobals | unsubscribeGlobals | disconnect => false
  | _ => true

theorem subscriptions_eq_nil (inner : ∀ exchange ∈ news, exchange.request.isInner) :
    subscriptions news = [] := by
  refine List.filterMap_eq_nil_iff.2 ?_
  rintro ⟨request, answer⟩ member
  have isInner := inner _ member
  cases request <;> first | rfl | cases isInner

/-- What a subscriber has done about its subscription by the time of each phase. -/
def Phase.Accounts : Phase → List Request → Prop
  | .uninitialized, requests => requests = []
  | .listening, requests => requests = [.subscribeGlobals]
  | .closed, requests => requests = [] ∨ requests = [.subscribeGlobals, .unsubscribeGlobals]

namespace Books

def Holds (books : Books) : Holding → Prop
  | .port proxy => ∃ id, books.bound.get? id = some proxy
  | .link proxy => ∃ link ∈ books.links, link.proxy = proxy
  | .node token => token ∈ books.nodes

/-- The books and the record of a client that is still connected. -/
structure Agree (books : Books) (record : List Exchange) : Prop where
  ledger : Ledger books.Holds record
  bound : ∀ {id other proxy}, books.bound.get? id = some proxy →
    books.bound.get? other = some proxy → id = other
  links : (books.links.map (·.proxy)).Nodup
  nodes : books.nodes.Nodup
  subscribed : books.phase.Accounts (subscriptions record)
  connected : ∀ exchange ∈ record, exchange.request ≠ .disconnect

variable {books later : Books} {id : ObjectId} {proxy : ProxyId} {node : NodeToken}

theorem agree_nil : ({} : Books).Agree [] where
  ledger := by
    apply Ledger.nil
    rintro (proxy | proxy | token) isHeld
    · rcases isHeld with ⟨id, bound⟩
      cases bound
    · rcases isHeld with ⟨link, member, -⟩
      cases member
    · cases isHeld
  bound impossible := by cases impossible
  links := List.nodup_nil
  nodes := List.nodup_nil
  subscribed := rfl
  connected _ member := by cases member

namespace Agree

variable (agree : books.Agree record)

include agree

/-- Nothing but the ledger is affected by most requests. -/
theorem of_inner (inner : ∀ exchange ∈ news, exchange.request.isInner)
    (ledger : Ledger later.Holds (record ++ news)) (phase : later.phase = books.phase)
    (bound : ∀ {id other proxy}, later.bound.get? id = some proxy →
      later.bound.get? other = some proxy → id = other)
    (links : (later.links.map (·.proxy)).Nodup) (nodes : later.nodes.Nodup) :
    later.Agree (record ++ news) where
  ledger := ledger
  bound := bound
  links := links
  nodes := nodes
  subscribed := by
    rw [phase, subscriptions_append, subscriptions_eq_nil inner, List.append_nil]
    exact agree.subscribed
  connected exchange member := by
    rcases List.mem_append.1 member with old | new
    · exact agree.connected exchange old
    · intro ends
      have isInner := inner exchange new
      rw [ends] at isInner
      cases isInner

theorem pass {exchange : Exchange} (inner : exchange.request.isInner)
    (grants : exchange.granted? = none) (names : exchange.request.handle? = none) :
    books.Agree (record ++ [exchange]) := by
  refine agree.of_inner (by simpa using inner) ?_ rfl agree.bound agree.links agree.nodes
  exact agree.ledger.pass (fun _ => Iff.rfl) (by simp [granted, grants]) (by simpa using names)

/-- A port is bound, and its properties are asked for at once. -/
theorem bind (free : books.bound.get? id = none)
    (distinct : Distinct (record ++
      [⟨.bindObject id .port, some proxy⟩, ⟨.subscribeInfo proxy, ()⟩])) :
    Agree { books with bound := books.bound.insert id proxy } (record ++
      [⟨.bindObject id .port, some proxy⟩, ⟨.subscribeInfo proxy, ()⟩]) := by
  have new : Holding.port proxy ∈
      granted [⟨.bindObject id .port, some proxy⟩, ⟨.subscribeInfo proxy, ()⟩] := by
    simp [granted, Exchange.granted?]
  have fresh : ∀ other, books.bound.get? other ≠ some proxy := by
    intro other bound
    exact distinct.fresh new
      (List.mem_map_of_mem (agree.ledger.issued (.port proxy) ⟨other, bound⟩))
  refine agree.of_inner (by simp [Request.isInner]) ?_ rfl ?_ agree.links agree.nodes
  · refine agree.ledger.grant (.port proxy) distinct rfl ?_ ?_ ?_
    · simp [Request.handle?, Holding.handle]
    · simp [naming, Holding.Uses, Holding.handle, Request.handle?]
    · rintro (other | other | token)
      · simp only [Holds, Table.get?_insert, Holding.port.injEq]
        constructor
        · rintro ⟨place, bound⟩
          split at bound
          · exact .inr (Option.some.inj bound).symm
          · exact .inl ⟨place, bound⟩
        · rintro (⟨place, bound⟩ | rfl)
          · refine ⟨place, ?_⟩
            have apart : place ≠ id := by
              rintro rfl
              rw [free] at bound
              cases bound
            simp [apart, bound]
          · exact ⟨id, by simp⟩
      · simp [Holds]
      · simp [Holds]
  · intro first second same
    simp only [Table.get?_insert]
    intro isFirst isSecond
    split at isFirst <;> split at isSecond
    case isTrue.isTrue firstNew secondNew => rw [firstNew, secondNew]
    case isTrue.isFalse =>
      cases isFirst
      exact absurd isSecond (fresh second)
    case isFalse.isTrue =>
      cases isSecond
      exact absurd isFirst (fresh first)
    case isFalse.isFalse => exact agree.bound isFirst isSecond

theorem release (bound : books.bound.get? id = some proxy) (distinct : Distinct record) :
    Agree { books with bound := books.bound.erase id }
      (record ++ [⟨.destroyProxy proxy, ()⟩]) := by
  refine agree.of_inner (by simp [Request.isInner]) ?_ rfl ?_ agree.links agree.nodes
  · refine agree.ledger.giveBack (.port proxy) distinct ⟨id, bound⟩ rfl ?_
    rintro (other | other | token)
    · simp only [Holds, Table.get?_erase, Option.ite_none_left_eq_some, ne_eq, Holding.port.injEq]
      constructor
      · rintro ⟨place, apart, found⟩
        refine ⟨⟨place, found⟩, ?_⟩
        rintro rfl
        exact apart (agree.bound found bound)
      · rintro ⟨⟨place, found⟩, apart⟩
        refine ⟨place, ?_, found⟩
        rintro rfl
        rw [bound] at found
        exact apart (Option.some.inj found).symm
    · simp [Holds]
    · simp [Holds]
  · intro first second same
    simp only [Table.get?_erase, Option.ite_none_left_eq_some]
    rintro ⟨-, isFirst⟩ ⟨-, isSecond⟩
    exact agree.bound isFirst isSecond

theorem link {output input : ObjectId} {factory : String} {kind : ObjectKind} {props : Properties}
    (distinct : Distinct (record ++ [⟨.createObject factory kind props, some proxy⟩])) :
    Agree { books with links := { proxy, output, input } :: books.links }
      (record ++ [⟨.createObject factory kind props, some proxy⟩]) := by
  have new : Holding.link proxy ∈ granted [⟨.createObject factory kind props, some proxy⟩] := by
    simp [granted, Exchange.granted?]
  have fresh : ∀ link ∈ books.links, link.proxy ≠ proxy := by
    rintro link member rfl
    exact distinct.fresh new
      (List.mem_map_of_mem (agree.ledger.issued (.link link.proxy) ⟨link, member, rfl⟩))
  refine agree.of_inner (by simp [Request.isInner]) ?_ rfl agree.bound ?_ agree.nodes
  · refine agree.ledger.grant (.link proxy) distinct rfl ?_ rfl ?_
    · simp [Request.handle?]
    · rintro (other | other | token)
      · simp [Holds]
      · simp [Holds, eq_comm, or_comm]
      · simp [Holds]
  · rw [List.map_cons, List.nodup_cons]
    refine ⟨?_, agree.links⟩
    simpa using fresh

theorem unlink {link : Link} (member : link ∈ books.links) (distinct : Distinct record) :
    Agree { books with links := books.links.erase link }
      (record ++ [⟨.destroyProxy link.proxy, ()⟩]) := by
  refine agree.of_inner (by simp [Request.isInner]) ?_ rfl agree.bound ?_ agree.nodes
  · refine agree.ledger.giveBack (.link link.proxy) distinct ⟨link, member, rfl⟩ rfl ?_
    rintro (other | other | token)
    · simp [Holds]
    · simp only [Holds, agree.links.of_map.mem_erase_iff, ne_eq, Holding.link.injEq]
      constructor
      · rintro ⟨kept, ⟨apart, isKept⟩, rfl⟩
        refine ⟨⟨kept, isKept, rfl⟩, fun same => apart ?_⟩
        exact List.inj_on_of_nodup_map agree.links isKept member same
      · rintro ⟨⟨kept, isKept, rfl⟩, apart⟩
        refine ⟨kept, ⟨?_, isKept⟩, rfl⟩
        rintro rfl
        exact apart rfl
    · simp [Holds]
  · exact agree.links.sublist ((List.erase_sublist).map _)

theorem enlist {props : Properties}
    (distinct : Distinct (record ++ [⟨.createNode props, some node⟩])) :
    Agree { books with nodes := books.nodes ++ [node] }
      (record ++ [⟨.createNode props, some node⟩]) := by
  have new : Holding.node node ∈ granted [⟨.createNode props, some node⟩] := by
    simp [granted, Exchange.granted?]
  have fresh : node ∉ books.nodes := by
    intro member
    exact distinct.fresh new (List.mem_map_of_mem (agree.ledger.issued (.node node) member))
  refine agree.of_inner (by simp [Request.isInner]) ?_ rfl agree.bound agree.links ?_
  · refine agree.ledger.grant (.node node) distinct rfl ?_ ?_ ?_
    · simp [Request.handle?]
    · simp [naming, Holding.Uses, Request.handle?]
    · rintro (other | other | token)
      · simp [Holds]
      · simp [Holds]
      · simp [Holds]
  · rw [← List.concat_eq_append]
    exact agree.nodes.concat fresh

theorem attend {request : Request} {answer : request.Answer} (attends : request.Attends node)
    (member : node ∈ books.nodes) (distinct : Distinct record) :
    books.Agree (record ++ [⟨request, answer⟩]) := by
  refine agree.of_inner ?_ ?_ rfl agree.bound agree.links agree.nodes
  · cases attends <;> simp [Request.isInner]
  · refine agree.ledger.name (.node node) distinct member ?_ (fun _ _ => Iff.rfl) ?_ ?_
    · cases attends <;> rfl
    · intro _ uses proper
      cases attends <;> simpa [Holding.Uses] using proper
    · exact fun notHeld => absurd member notHeld

theorem dismiss (member : node ∈ books.nodes) (distinct : Distinct record) :
    Agree { books with nodes := books.nodes.filter (· ≠ node) }
      (record ++ [⟨.destroyNode node, ()⟩]) := by
  refine agree.of_inner (by simp [Request.isInner]) ?_ rfl agree.bound agree.links
    (agree.nodes.filter _)
  refine agree.ledger.giveBack (.node node) distinct member rfl ?_
  rintro (other | other | token)
  · simp [Holds]
  · simp [Holds]
  · simp [Holds]

/-- The subscription begins or ends, which concerns no handle. -/
theorem of_outer {phase : Phase} {exchange : Exchange} (grants : exchange.granted? = none)
    (names : exchange.request.handle? = none) (connected : exchange.request ≠ .disconnect)
    (subscribed : phase.Accounts (subscriptions record ++ subscriptions [exchange])) :
    Agree { books with phase } (record ++ [exchange]) where
  ledger := agree.ledger.pass (fun _ => Iff.rfl) (by simp [granted, grants]) (by simpa using names)
  bound := agree.bound
  links := agree.links
  nodes := agree.nodes
  subscribed := by
    rw [subscriptions_append]
    exact subscribed
  connected other member := by
    rcases List.mem_append.1 member with old | new
    · exact agree.connected other old
    · rw [List.mem_singleton.1 new]
      exact connected

theorem refuse (failure : TransportError) :
    books.Agree (record ++ [⟨.subscribeGlobals, .error failure⟩]) := by
  apply agree.of_outer rfl rfl (by simp)
  rw [show subscriptions [⟨.subscribeGlobals, .error failure⟩] = [] from rfl, List.append_nil]
  exact agree.subscribed

theorem subscribe (fresh : books.phase = .uninitialized) :
    Agree { books with phase := .listening } (record ++ [⟨.subscribeGlobals, .ok ()⟩]) := by
  have subscribed := agree.subscribed
  rw [fresh] at subscribed
  apply agree.of_outer rfl rfl (by simp)
  rw [show subscriptions record = [] from subscribed]
  rfl

theorem unsubscribe (listening : books.phase = .listening) :
    Agree { books with phase := .closed } (record ++ [⟨.unsubscribeGlobals, ()⟩]) := by
  have subscribed := agree.subscribed
  rw [listening] at subscribed
  apply agree.of_outer rfl rfl (by simp)
  rw [show subscriptions record = [.subscribeGlobals] from subscribed]
  exact .inr rfl

/-- A subscriber that is closed before it has subscribed does not unsubscribe. -/
theorem abandon (quiet : books.phase ≠ .listening) :
    Agree { books with phase := .closed } record := by
  refine { agree with subscribed := ?_ }
  have subscribed := agree.subscribed
  cases phase : books.phase with
  | uninitialized =>
      rw [phase] at subscribed
      exact .inl subscribed
  | listening => exact absurd phase quiet
  | closed =>
      rw [phase] at subscribed
      exact subscribed

end Agree

end Books

/-! ## The end of a connection -/

/--
What must have become of all handles when a client has been closed. The links that are still held
are those that calls have returned and that were not destroyed; they end with the connection.
-/
structure Balanced (held : List Link) (record : List Exchange) : Prop where
  ports : ∀ proxy, .port proxy ∈ granted record →
    naming (.proxy proxy) record = [.subscribeInfo proxy, .destroyProxy proxy]
  links : ∀ proxy, .link proxy ∈ granted record →
    naming (.proxy proxy) record =
      if proxy ∈ held.map (·.proxy) then [] else [.destroyProxy proxy]
  nodes : ∀ token, .node token ∈ granted record → ∃ uses, .destroyNode token ∉ uses ∧
    naming (.node token) record = uses ++ [.destroyNode token]
  subscription : subscriptions record = [] ∨
    subscriptions record = [.subscribeGlobals, .unsubscribeGlobals]
  disconnected : ∃ earlier, record.map (·.request) = earlier ++ [.disconnect] ∧
    .disconnect ∉ earlier

theorem Books.Agree.balanced {links : List Link}
    (agree : Agree { phase := .closed, links } record) :
    Balanced links (record ++ [⟨.disconnect, ()⟩]) := by
  have grants : granted (record ++ [⟨.disconnect, ()⟩]) = granted record := by
    rw [granted_append]
    exact List.append_nil _
  have names : ∀ handle, naming handle (record ++ [⟨.disconnect, ()⟩]) = naming handle record := by
    intro handle
    rw [naming_append]
    exact List.append_nil _
  have subscribed : subscriptions (record ++ [⟨.disconnect, ()⟩]) = subscriptions record := by
    rw [subscriptions_append]
    exact List.append_nil _
  refine ⟨?_, ?_, ?_, ?_, ?_⟩
  · rw [grants]
    intro proxy member
    have isOver : ¬Holds { phase := .closed, links } (.port proxy) := by
      simp [Holds]
    rcases agree.ledger.settled _ member isOver with ⟨uses, proper, whole⟩
    rw [names]
    rw [proper] at whole
    exact whole
  · rw [grants]
    intro proxy member
    rw [names]
    split
    case isTrue isHeld =>
      refine agree.ledger.current (.link proxy) ?_
      simpa [Holds] using isHeld
    case isFalse isOver =>
      have isOver : ¬Holds { phase := .closed, links } (.link proxy) := by
        simpa [Holds] using isOver
      rcases agree.ledger.settled _ member isOver with ⟨uses, proper, whole⟩
      rw [proper] at whole
      exact whole
  · rw [grants]
    intro token member
    have isOver : ¬Holds { phase := .closed, links } (.node token) := by
      simp [Holds]
    rw [names]
    exact agree.ledger.settled _ member isOver
  · rw [subscribed]
    exact agree.subscribed
  · refine ⟨record.map (·.request), by simp, ?_⟩
    intro member
    rcases List.mem_map.1 member with ⟨exchange, present, ends⟩
    exact agree.connected exchange present ends

/-! ## Every run -/

/-- The books agree with the record, if no handle has been given out twice. -/
def bookkeeping : Audit (List Exchange) where
  Kept books record := Distinct record → books.Agree record
  Ended links record := Distinct record → Balanced links record
  ownLinks := True
  ownNodes := True

section

variable {σ : Type} {recordOf : σ → List Exchange} {transport : Transport σ}

/-- What an exchange does to the books is settled on the record that it has been added to. -/
theorem kept_of_recorded {books later : Books} {world changed : σ} {news : List Exchange}
    (kept : (bookkeeping.along recordOf).Kept books world)
    (recorded : recordOf changed = recordOf world ++ news)
    (follows : books.Agree (recordOf world) → Distinct (recordOf world ++ news) →
      later.Agree (recordOf world ++ news)) :
    (bookkeeping.along recordOf).Kept later changed := by
  intro distinct
  rw [recorded] at distinct ⊢
  exact follows (kept distinct.of_append) distinct

theorem upholds_bookkeeping (records : transport.Records recordOf) :
    transport.Upholds (bookkeeping.along recordOf) where
  subscribing {books world} kept fresh := by
    have recorded := records .subscribeGlobals world
    generalize transport.answer .subscribeGlobals world = answered at recorded ⊢
    rcases answered with ⟨failure | ⟨⟩, changed⟩
    · exact kept_of_recorded kept recorded fun agree _ => agree.refuse failure
    · exact kept_of_recorded kept recorded fun agree _ => agree.subscribe fresh
  waiting {books world} request kept waits := by
    refine kept_of_recorded kept (records request world) fun agree _ => ?_
    apply agree.pass
    all_goals cases request <;> first | rfl | cases waits
  binding {books world} id kept free := by
    have recorded := records (.bindObject id .port) world
    generalize transport.answer (.bindObject id .port) world = answered at recorded ⊢
    rcases answered with ⟨_ | proxy, changed⟩
    · exact kept_of_recorded kept recorded fun agree _ => agree.pass rfl rfl rfl
    · have both := records (.subscribeInfo proxy) changed
      rw [recorded, List.append_assoc] at both
      exact kept_of_recorded kept both fun agree distinct => agree.bind free distinct
  releasing {books world id proxy} kept bound :=
    kept_of_recorded kept (records (.destroyProxy proxy) world) fun agree distinct =>
      agree.release bound distinct.of_append
  linking {books world} output input kept := by
    have recorded := records
      (.createObject linkFactory .link (Link.properties output input)) world
    generalize transport.answer (.createObject linkFactory .link (Link.properties output input))
      world = answered at recorded ⊢
    rcases answered with ⟨_ | proxy, changed⟩
    · exact kept_of_recorded kept recorded fun agree _ => agree.pass rfl rfl rfl
    · exact kept_of_recorded kept recorded fun agree distinct => agree.link distinct
  unlinking {books world} link kept own :=
    kept_of_recorded kept (records (.destroyProxy link.proxy) world) fun agree distinct =>
      agree.unlink (own trivial) distinct.of_append
  enlisting {books world} props kept := by
    have recorded := records (.createNode props) world
    generalize transport.answer (.createNode props) world = answered at recorded ⊢
    rcases answered with ⟨_ | token, changed⟩
    · exact kept_of_recorded kept recorded fun agree _ => agree.pass rfl rfl rfl
    · exact kept_of_recorded kept recorded fun agree distinct => agree.enlist distinct
  attending {books world node request} kept attends own :=
    kept_of_recorded kept (records request world) fun agree distinct =>
      agree.attend attends (own trivial) distinct.of_append
  dismissing {books world} node kept own :=
    kept_of_recorded kept (records (.destroyNode node) world) fun agree distinct =>
      agree.dismiss (own trivial) distinct.of_append
  disbanding {books world node rest} kept nodes := by
    refine kept_of_recorded kept (records (.destroyNode node) world) fun agree distinct => ?_
    have once := agree.nodes
    rw [nodes, List.nodup_cons] at once
    have dismissed := agree.dismiss (nodes ▸ List.mem_cons_self) distinct.of_append
    have others : books.nodes.filter (· ≠ node) = rest := by
      rw [nodes, List.filter_cons_of_neg (by simp), Books.forget_of_absent once.1]
    rw [others] at dismissed
    exact dismissed
  leaving {books world} kept := by
    cases phase : books.phase with
    | uninitialized => exact fun distinct => (kept distinct).abandon (by simp [phase])
    | listening =>
        exact kept_of_recorded kept (records .unsubscribeGlobals world) fun agree _ =>
          agree.unsubscribe phase
    | closed => exact fun distinct => (kept distinct).abandon (by simp [phase])
  ending {links world} kept distinct := by
    rw [records] at distinct ⊢
    exact (kept distinct.of_append).balanced

end

namespace Client

variable {σ : Type}

/--
What the owner of a client can do with what its calls have returned: a link is given back once, and
an endpoint is not used any more after it has been closed.
-/
def Owns (held : List Link) (client : Client σ) : Invocation → Prop
  | .destroyLink link => client.isOpen → link ∈ held
  | .addPort endpoint .. | .renamePort endpoint .. | .removePort endpoint _ | .activate endpoint
  | .closeEndpoint endpoint =>
    client.isOpen → endpoint.token ∈ client.localNodes
  | _ => True

/-- Runs that have come to an end: the client could not be opened, or it has been closed. -/
inductive Finished (record : σ → List Exchange)
    (Permits : List Link → Client σ → Invocation → Prop) (backend : Backend σ) (config : Config)
    (observers : List Observer) : List Link → σ → Prop where
  | refused {world reached changed : σ} {transport : Transport σ} {refusal : Refusal}
    (unused : record world = [])
    (connected : backend.connect config world = (.ok transport, reached))
    (failed : connect backend config observers world = (.error refusal, changed)) :
    Finished record Permits backend config observers [] changed
  | closed {held : List Link} {client : Client σ} {world : σ}
    (ran : Runs record Permits backend config observers held client world)
    (isClosed : client.isOpen = false) :
    Finished record Permits backend config observers held world

/--
Every handle is given back once and not used again, in whatever way a run has gone and ended, on
every transport that does not give out a handle twice.
-/
theorem handles_balanced {backend : Backend σ} {config : Config} {observers : List Observer}
    {held : List Link} {world : σ × List Exchange}
    (finished : Finished Prod.snd Owns backend.recorded config observers held world)
    (distinct : Distinct world.2) : Balanced held world.2 := by
  have fresh : bookkeeping.Kept {} [] := fun _ => Books.agree_nil
  cases finished with
  | refused unused connected failed =>
      have ended := stands_opened observers backend.records_recorded
        (fun _ records => upholds_bookkeeping records) fresh connected unused
      rw [failed] at ended
      exact ended distinct
  | @closed _ client _ ran isClosed =>
      have owns : ∀ held (client : Client (σ × List Exchange)) invocation,
          Owns held client invocation →
          client.Permits (bookkeeping.along Prod.snd) held invocation := by
        intro held client invocation owned
        cases invocation <;> first | exact trivial | exact fun _ => owned
      rcases ran.stands backend.records_recorded (fun _ records => upholds_bookkeeping records)
        fresh owns with ⟨-, stands⟩
      have closed : client.transport = none := by
        simpa [isOpen] using isClosed
      exact (stands.ended closed).2 distinct

/--
A port is listened to, a link is destroyed because it cannot be waited for, and a node is left to
the end.
-/
theorem handles_balanced_script :
    ∃ held world, Finished Prod.snd Owns Script.backend.recorded .standard [] held world ∧
      granted world.2 = [.port 1, .link 2, .node 3] ∧ Balanced held world.2 := by
  let script : Script :=
    { batches := [.ok [.event (.global 5 .port), .doneLast]]
      replies := [.echo, .echo, .failure .disconnected]
      assignment := some (0, 40) }
  let after (invocation : Invocation)
      (state : Client (Script × List Exchange) × Script × List Exchange) :=
    (invocation.call state.1 state.2).2
  let last (client : Client (Script × List Exchange)) (opened : Script × List Exchange) :=
    after .close (after (.publish "Synth" 0 0) (after (.createLink 5 6) (client, opened)))
  let probe : Option (Bool × List Holding × Bool) :=
    match connect Script.backend.recorded .standard [] (script, []) with
    | (.ok client, opened) =>
      let (closed, world) := last client opened
      some (closed.isOpen, granted world.2, decide (Distinct world.2))
    | (.error _, _) => none
  have probed : probe = some (false, [.port 1, .link 2, .node 3], true) := by decide +kernel
  rcases ready : connect Script.backend.recorded .standard [] (script, []) with
    ⟨refusal | client, opened⟩
  · simp only [probe, ready] at probed
    cases probed
  · simp only [probe, ready, Option.some.injEq, Prod.mk.injEq, decide_eq_true_eq] at probed
    rcases probed with ⟨isClosed, holdings, distinct⟩
    have begun : Runs Prod.snd Owns Script.backend.recorded .standard [] [] client opened :=
      .opened rfl ready
    have linked := Runs.call (.createLink 5 6) begun trivial
    have published := Runs.call (.publish "Synth" 0 0) linked trivial
    have finished := Finished.closed (Runs.call .close published trivial) isClosed
    exact ⟨_, _, finished, holdings, handles_balanced finished distinct⟩

end Client

end MediaGraph
