import MediaGraph.Instance
import MediaGraph.Proofs.Server.Runtime
import Mathlib.Data.Finset.Card
import Mathlib.Data.Finset.Range

/-!
# Who holds the instances of a server

Handles to instances are made, cloned and dropped, and clients are opened, used, closed and dropped,
all in any order (`Tenancy`). At any time the table of live instances counts the holders of each,
and the server has been taken down once for each instance that nobody holds any more
(`Host.Balanced`). The invariant is about a list of holders, so that a handle and a client count
alike, and whichever goes leaves the rest of the list.
-/

namespace MediaGraph

/-- Of the instances that have been created, those that nobody holds. -/
def abandoned (created : Nat) (holders : List InstanceId) : Finset InstanceId :=
  (Finset.range created).filter (· ∉ holders)

section Holders

variable {id : InstanceId} {holders others : List InstanceId} {host : Host Server}

theorem mem_cons_iff_of_mem (member : id ∈ holders) (other : InstanceId) :
    other ∈ id :: holders ↔ other ∈ holders := by
  rw [List.mem_cons, or_iff_right_of_imp]
  rintro rfl
  exact member

theorem abandoned_congr (created : Nat) (same : ∀ id, id ∈ holders ↔ id ∈ others) :
    abandoned created holders = abandoned created others := by
  simp only [abandoned, same]

/-- A new instance is held by whoever created it. -/
theorem abandoned_create (created : Nat) (holders : List InstanceId) :
    abandoned (created + 1) (created :: holders) = abandoned created holders := by
  ext id
  simp only [abandoned, Finset.mem_filter, Finset.mem_range, List.mem_cons, not_or]
  by_cases isNew : id = created
  · simp [isNew]
  · have below : id < created + 1 ↔ id < created := by
      rw [Nat.lt_succ_iff_lt_or_eq, or_iff_left isNew]
    simp [isNew, below]

theorem card_abandoned_release {created : Nat} (issued : id < created) (last : id ∉ holders) :
    (abandoned created holders).card = (abandoned created (id :: holders)).card + 1 := by
  have more : abandoned created holders = insert id (abandoned created (id :: holders)) := by
    ext other
    simp only [abandoned, Finset.mem_insert, Finset.mem_filter, Finset.mem_range, List.mem_cons,
      not_or]
    by_cases same : other = id
    · simp [same, issued, last]
    · simp [same]
  rw [more, Finset.card_insert_of_notMem]
  simp [abandoned]

namespace Host

/-! ## One holder more or less -/

/--
The instances that somebody holds are live, with as many holders as there are, and the server has
been set up once for each instance and taken down once for each that nobody holds.
-/
structure Balanced (host : Host Server) (holders : List InstanceId) : Prop where
  issued : ∀ id ∈ holders, id < host.next
  counted : ∀ id, host.instances.get? id =
    if id ∈ holders then some { backend := Server.backend, holders := holders.count id } else none
  calls : host.world.runtimeCalls = (host.next, (abandoned host.next holders).card)

namespace Balanced

theorem perm (balanced : host.Balanced holders) (perm : holders.Perm others) :
    host.Balanced others where
  issued id member := balanced.issued id (perm.mem_iff.2 member)
  counted id := by
    rw [balanced.counted, perm.count_eq]
    simp only [perm.mem_iff]
  calls := by rw [balanced.calls, abandoned_congr _ fun _ => perm.mem_iff]

theorem world {world : Server} (balanced : host.Balanced holders)
    (same : world.runtimeCalls = host.world.runtimeCalls) :
    ({ host with world } : Host Server).Balanced holders where
  issued := balanced.issued
  counted := balanced.counted
  calls := same.trans balanced.calls

theorem create (balanced : host.Balanced holders) :
    ∃ after, host.create Server.backend = (.ok host.next, after) ∧ after.next = host.next + 1 ∧
      after.Balanced (host.next :: holders) := by
  have unused : host.next ∉ holders := fun member =>
    Nat.lt_irrefl _ (balanced.issued host.next member)
  refine ⟨_, rfl, rfl, ?_, fun id => ?_, ?_⟩
  · intro id member
    rcases List.mem_cons.1 member with rfl | former
    · exact Nat.lt_succ_self _
    · exact Nat.lt_succ_of_lt (balanced.issued id former)
  · rw [Table.get?_insert, balanced.counted]
    by_cases isNew : id = host.next
    · simp [isNew, List.count_eq_zero_of_not_mem unused]
    · simp [isNew, List.count_cons_of_ne (Ne.symm isNew)]
  · rw [abandoned_create]
    rcases Prod.mk.inj balanced.calls with ⟨inits, deinits⟩
    simp only [Server.runtimeCalls, inits, deinits]

/-- Whoever holds an instance may let others hold it as well. -/
theorem hold (balanced : host.Balanced holders) (member : id ∈ holders) :
    (host.hold id).Balanced (id :: holders) where
  issued other isHolder := balanced.issued other ((mem_cons_iff_of_mem member other).1 isHolder)
  counted other := by
    simp only [Host.hold, Table.get?_modify, balanced.counted]
    by_cases same : other = id
    · simp [same, member]
    · simp [same, List.count_cons_of_ne (Ne.symm same)]
  calls := by
    rw [abandoned_congr _ (mem_cons_iff_of_mem member)]
    exact balanced.calls

theorem live (balanced : host.Balanced (id :: holders)) : host.instances.get? id =
    some { backend := Server.backend, holders := holders.count id + 1 } := by
  simp [balanced.counted]

theorem issued_of_tail (balanced : host.Balanced (id :: holders)) :
    ∀ other ∈ holders, other < host.next :=
  fun other member => balanced.issued other (List.mem_cons_of_mem id member)

theorem release_of_held (balanced : host.Balanced (id :: holders)) (held : id ∈ holders) :
    (host.release id).next = host.next ∧ (host.release id).Balanced holders := by
  have more : ¬holders.count id + 1 ≤ 1 := by
    have positive := List.count_pos_iff.2 held
    omega
  have released : host.release id = { host with
      instances := host.instances.insert id
        { backend := Server.backend, holders := holders.count id } } := by
    simp only [Host.release, balanced.live, more, if_false, Nat.add_sub_cancel]
  rw [released]
  refine ⟨rfl, balanced.issued_of_tail, fun other => ?_, ?_⟩
  · simp only [Table.get?_insert, balanced.counted]
    by_cases same : other = id
    · simp [same, held]
    · simp [same, List.count_cons_of_ne (Ne.symm same)]
  · rw [balanced.calls, abandoned_congr _ (mem_cons_iff_of_mem held)]

theorem release_of_last (balanced : host.Balanced (id :: holders)) (last : id ∉ holders) :
    (host.release id).next = host.next ∧ (host.release id).Balanced holders := by
  have single : holders.count id + 1 ≤ 1 := by
    rw [List.count_eq_zero_of_not_mem last]
  have released : host.release id = { host with
      world := Server.backend.deinit host.world, instances := host.instances.erase id } := by
    simp only [Host.release, balanced.live, single, if_true]
  rw [released]
  refine ⟨rfl, balanced.issued_of_tail, fun other => ?_, ?_⟩
  · simp only [Table.get?_erase, balanced.counted]
    by_cases same : other = id
    · simp [same, last]
    · simp [same, List.count_cons_of_ne (Ne.symm same)]
  · rw [card_abandoned_release (balanced.issued id List.mem_cons_self) last]
    rcases Prod.mk.inj balanced.calls with ⟨inits, deinits⟩
    simp only [Server.backend, Server.runtimeCalls, inits, deinits]

/-- The instance is taken down when its last holder lets go, and not before. -/
theorem release (balanced : host.Balanced (id :: holders)) :
    (host.release id).next = host.next ∧ (host.release id).Balanced holders := by
  by_cases held : id ∈ holders
  · exact balanced.release_of_held held
  · exact balanced.release_of_last held

/-- Whoever holds an instance can try to open a client, which holds it if it opens. -/
theorem openClient (balanced : host.Balanced holders) (member : id ∈ holders) (setup : Setup) :
    (∃ client after, host.openClient id setup = some (.ok client, after) ∧
      after.next = host.next ∧ after.Balanced (id :: holders) ∧
      ∃ connection, client.Connected connection) ∨
    ∃ refusal after, host.openClient id setup = some (.error refusal, after) ∧
      after.next = host.next ∧ after.Balanced holders := by
  have live : host.instance? id =
      some { backend := Server.backend, holders := holders.count id } := by
    simp [Host.instance?, balanced.counted, member]
  have held := balanced.hold member
  have untouched := Client.runtimeCalls_connect setup.config setup.observers host.world
  rcases ran : Client.connect Server.backend setup.config setup.observers host.world with
    ⟨refusal | client, world⟩
  · rw [ran] at untouched
    have same : world.runtimeCalls = (host.hold id).world.runtimeCalls := untouched.1
    refine .inr ⟨refusal, ({ host.hold id with world } : Host Server).release id, ?_,
      (held.world same).release⟩
    simp only [Host.openClient, live, Option.map_some, Setup.connect, Host.hold, ran]
  · rw [ran] at untouched
    have same : world.runtimeCalls = (host.hold id).world.runtimeCalls := untouched.1
    refine .inl ⟨client, { host.hold id with world }, ?_, rfl, held.world same,
      untouched.2 client rfl⟩
    simp only [Host.openClient, live, Option.map_some, Setup.connect, Host.hold, ran]

theorem dropClient {client : Client Server} {connection : ConnectionId}
    (balanced : host.Balanced (id :: holders)) (connected : client.Connected connection) :
    (host.dropClient id client).next = host.next ∧
      (host.dropClient id client).Balanced holders :=
  (balanced.world (Client.runtimeCalls_close connected host.world)).release

end Balanced

end Host

end Holders

/-! ## Tenancies -/

/-- What can be done with instances, and with the clients that hold them. -/
inductive Deed where
  | create
  /-- Clones a handle, of one's own or of a client. -/
  | clone (id : InstanceId)
  | dropHandle (id : InstanceId)
  /-- Opens a client on a hold of its own. Whoever gives a handle away for it drops the handle. -/
  | openClient (id : InstanceId) (setup : Setup)
  /-- Calls a client, which is given by position; to close it is a call as well. -/
  | call (position : Nat) (invocation : Invocation)
  | dropClient (position : Nat)
  | inject (injection : Injection)

def Deed.isCreate : Deed → Bool
  | create => true
  | _ => false

/-- The instances of one server with all that hold them. -/
structure Tenancy where
  host : Host Server := { world := {} }
  handles : List InstanceId := []
  clients : List (InstanceId × Client Server) := []

namespace Tenancy

/-- All holders, each as the instance that it holds. -/
def holders (tenancy : Tenancy) : List InstanceId :=
  tenancy.handles ++ tenancy.clients.map (·.1)

/-- Does what can be done: only holders can clone and open, and only what is there can be
dropped. -/
def perform (tenancy : Tenancy) : Deed → Tenancy
  | .create =>
    match tenancy.host.create Server.backend with
    | (.ok id, host) => { tenancy with host, handles := id :: tenancy.handles }
    | (.error _, host) => { tenancy with host }
  | .clone id =>
    if id ∈ tenancy.holders then
      { tenancy with host := tenancy.host.hold id, handles := id :: tenancy.handles }
    else tenancy
  | .dropHandle id =>
    if id ∈ tenancy.handles then
      { tenancy with host := tenancy.host.release id, handles := tenancy.handles.erase id }
    else tenancy
  | .openClient id setup =>
    if id ∈ tenancy.holders then
      match tenancy.host.openClient id setup with
      | some (.ok client, host) => { tenancy with host, clients := (id, client) :: tenancy.clients }
      | some (.error _, host) => { tenancy with host }
      | none => tenancy
    else tenancy
  | .call position invocation =>
    match tenancy.clients[position]? with
    | some (id, client) =>
      let (_, client, world) := invocation.call client tenancy.host.world
      { tenancy with
        host := { tenancy.host with world }
        clients := tenancy.clients.set position (id, client) }
    | none => tenancy
  | .dropClient position =>
    match tenancy.clients[position]? with
    | some (id, client) =>
      { tenancy with
        host := tenancy.host.dropClient id client
        clients := tenancy.clients.eraseIdx position }
    | none => tenancy
  | .inject injection =>
    { tenancy with host := { tenancy.host with world := tenancy.host.world.inject injection } }

/-- Whether a client opens that somebody tries to open. -/
def opens (tenancy : Tenancy) (id : InstanceId) (setup : Setup) : Bool :=
  match tenancy.host.openClient id setup with
  | some (.ok _, _) => id ∈ tenancy.holders
  | _ => false

def run (tenancy : Tenancy) (deeds : List Deed) : Tenancy := deeds.foldl perform tenancy

variable {tenancy : Tenancy}

/-- The holders are counted, and every client is on a connection of its own or closed. -/
structure Sound (tenancy : Tenancy) : Prop where
  balanced : tenancy.host.Balanced tenancy.holders
  connected : ∀ tenant ∈ tenancy.clients, ∃ connection, tenant.2.Connected connection

/-- What a deed leads to. No instance is held that was not, unless it is a new one. -/
structure Follows (deed : Deed) (before after : Tenancy) : Prop where
  sound : after.Sound
  next : after.host.next = before.host.next + [deed].countP Deed.isCreate
  held : ∀ id ∈ after.holders, id ∈ before.holders ∨ id = before.host.next

section Deeds

variable {id : InstanceId} {deed : Deed} {before after : Tenancy}

theorem follows_of_held (sound : after.Sound) (next : after.host.next = before.host.next)
    (uses : deed.isCreate = false) (held : ∀ id ∈ after.holders, id ∈ before.holders) :
    Follows deed before after where
  sound := sound
  next := by simp [next, uses]
  held id member := .inl (held id member)

theorem Sound.follows (sound : tenancy.Sound) (uses : deed.isCreate = false) :
    Follows deed tenancy tenancy :=
  follows_of_held sound rfl uses fun _ member => member

theorem follows_create (sound : tenancy.Sound) :
    Follows .create tenancy (tenancy.perform .create) := by
  rcases sound.balanced.create with ⟨after, created, next, balanced⟩
  simp only [perform, created]
  refine ⟨⟨balanced, sound.connected⟩, next, fun id member => ?_⟩
  rcases List.mem_cons.1 member with isNew | former
  · exact .inr isNew
  · exact .inl former

theorem follows_clone (sound : tenancy.Sound) (id : InstanceId) :
    Follows (.clone id) tenancy (tenancy.perform (.clone id)) := by
  simp only [perform]
  split
  case isTrue member =>
    refine follows_of_held ⟨sound.balanced.hold member, sound.connected⟩ rfl rfl ?_
    exact fun other isHolder => (mem_cons_iff_of_mem member other).1 isHolder
  case isFalse => exact sound.follows rfl

theorem follows_dropHandle (sound : tenancy.Sound) (id : InstanceId) :
    Follows (.dropHandle id) tenancy (tenancy.perform (.dropHandle id)) := by
  simp only [perform]
  split
  case isTrue member =>
    have perm := (List.perm_cons_erase member).append_right (tenancy.clients.map (·.1))
    rcases (sound.balanced.perm perm).release with ⟨next, balanced⟩
    refine follows_of_held ⟨balanced, sound.connected⟩ next rfl ?_
    intro other isHolder
    exact perm.mem_iff.2 (List.mem_cons_of_mem id isHolder)
  case isFalse => exact sound.follows rfl

theorem mem_of_opens {setup : Setup} (isOpen : tenancy.opens id setup) : id ∈ tenancy.holders := by
  simp only [opens] at isOpen
  split at isOpen
  · exact of_decide_eq_true isOpen
  · cases isOpen

/-- A client that opens holds the instance, and one that does not holds nothing. -/
theorem perform_openClient (sound : tenancy.Sound) (id : InstanceId) (setup : Setup) :
    (tenancy.perform (.openClient id setup)).Sound ∧
      (tenancy.perform (.openClient id setup)).host.next = tenancy.host.next ∧
      (tenancy.perform (.openClient id setup)).holders.Perm
        (if tenancy.opens id setup then id :: tenancy.holders else tenancy.holders) := by
  by_cases member : id ∈ tenancy.holders
  · rcases sound.balanced.openClient member setup with
      ⟨client, host, opened, next, balanced, connected⟩ | ⟨refusal, host, refused, next, balanced⟩
    · have perm : (tenancy.handles ++ id :: tenancy.clients.map (·.1)).Perm
          (id :: tenancy.holders) := List.perm_middle
      have opens : tenancy.opens id setup = true := by simp [opens, opened, member]
      simp only [perform, member, opened, opens, if_true]
      refine ⟨⟨balanced.perm perm.symm, fun tenant isTenant => ?_⟩, next, perm⟩
      rcases List.mem_cons.1 isTenant with rfl | former
      · exact connected
      · exact sound.connected tenant former
    · have fails : tenancy.opens id setup = false := by simp [opens, refused]
      simp only [perform, member, refused, fails, if_true]
      exact ⟨⟨balanced, sound.connected⟩, next, .refl _⟩
  · have fails : tenancy.opens id setup = false := by
      rw [Bool.eq_false_iff]
      exact fun isOpen => member (mem_of_opens isOpen)
    have unchanged : tenancy.perform (.openClient id setup) = tenancy := by
      simp only [perform, member, if_false]
    rw [unchanged, fails]
    exact ⟨sound, rfl, .refl _⟩

theorem follows_openClient (sound : tenancy.Sound) (id : InstanceId) (setup : Setup) :
    Follows (.openClient id setup) tenancy (tenancy.perform (.openClient id setup)) := by
  rcases perform_openClient sound id setup with ⟨still, next, perm⟩
  refine follows_of_held still next rfl fun other isHolder => ?_
  rw [perm.mem_iff] at isHolder
  split at isHolder
  case isTrue isOpen => exact (mem_cons_iff_of_mem (mem_of_opens isOpen) other).1 isHolder
  case isFalse => exact isHolder

/-- Whatever a client is called for, closing included, everybody holds what they held. -/
theorem perform_call (sound : tenancy.Sound) (position : Nat) (invocation : Invocation) :
    (tenancy.perform (.call position invocation)).Sound ∧
      (tenancy.perform (.call position invocation)).host.next = tenancy.host.next ∧
      (tenancy.perform (.call position invocation)).holders = tenancy.holders := by
  simp only [perform]
  split
  case h_1 id client found =>
    have tenants : (tenancy.clients.set position
        (id, (invocation.call client tenancy.host.world).2.1)).map (·.1) =
        tenancy.clients.map (·.1) := by
      apply List.ext_getElem?
      intro index
      simp only [List.getElem?_map, List.getElem?_set]
      split
      case isTrue same =>
        rcases List.getElem?_eq_some_iff.1 found with ⟨inside, isTenant⟩
        subst same
        simp [inside, isTenant]
      case isFalse => rfl
    rcases sound.connected (id, client) (List.mem_of_getElem? found) with ⟨number, connected⟩
    rcases Client.runtimeCalls_call connected invocation tenancy.host.world with ⟨still, same⟩
    have holders : ({ tenancy with
        host := { tenancy.host with world := (invocation.call client tenancy.host.world).2.2 }
        clients := tenancy.clients.set position
          (id, (invocation.call client tenancy.host.world).2.1) } : Tenancy).holders =
        tenancy.holders := congrArg (tenancy.handles ++ ·) tenants
    refine ⟨⟨holders ▸ sound.balanced.world same, fun tenant member => ?_⟩, rfl, holders⟩
    rcases List.mem_or_eq_of_mem_set member with former | isTenant
    · exact sound.connected tenant former
    · exact isTenant ▸ ⟨number, still⟩
  case h_2 => exact ⟨sound, rfl, rfl⟩

theorem follows_call (sound : tenancy.Sound) (position : Nat) (invocation : Invocation) :
    Follows (.call position invocation) tenancy (tenancy.perform (.call position invocation)) := by
  rcases perform_call sound position invocation with ⟨still, next, holders⟩
  exact follows_of_held still next rfl fun id member => holders ▸ member

theorem follows_dropClient (sound : tenancy.Sound) (position : Nat) :
    Follows (.dropClient position) tenancy (tenancy.perform (.dropClient position)) := by
  simp only [perform]
  split
  case h_1 id client found =>
    rcases List.getElem?_eq_some_iff.1 found with ⟨inside, isTenant⟩
    have apart := List.getElem_cons_eraseIdx_perm inside
    rw [isTenant] at apart
    have perm : tenancy.holders.Perm
        (id :: (tenancy.handles ++ (tenancy.clients.eraseIdx position).map (·.1))) :=
      ((apart.symm.map Prod.fst).append_left tenancy.handles).trans List.perm_middle
    rcases sound.connected (id, client) (List.mem_of_getElem? found) with ⟨_, connected⟩
    rcases (sound.balanced.perm perm).dropClient connected with ⟨next, balanced⟩
    refine follows_of_held ⟨balanced, fun tenant member => ?_⟩ next rfl fun other isHolder => ?_
    · exact sound.connected tenant (List.mem_of_mem_eraseIdx member)
    · exact perm.mem_iff.2 (List.mem_cons_of_mem id isHolder)
  case h_2 => exact sound.follows rfl

theorem follows_perform (sound : tenancy.Sound) (deed : Deed) :
    Follows deed tenancy (tenancy.perform deed) := by
  cases deed with
  | create => exact follows_create sound
  | clone id => exact follows_clone sound id
  | dropHandle id => exact follows_dropHandle sound id
  | openClient id setup => exact follows_openClient sound id setup
  | call position invocation => exact follows_call sound position invocation
  | dropClient position => exact follows_dropClient sound position
  | inject injection =>
      have balanced := sound.balanced.world (tenancy.host.world.runtimeCalls_inject injection)
      exact follows_of_held ⟨balanced, sound.connected⟩ rfl rfl fun _ member => member

/-! ## Runs -/

theorem Follows.spent {created : Nat} (follows : Follows deed before after)
    (past : created ≤ before.host.next) (spent : id ∈ abandoned created before.holders) :
    id ∈ abandoned created after.holders := by
  simp only [abandoned, Finset.mem_filter, Finset.mem_range] at spent ⊢
  refine ⟨spent.1, fun isHeld => ?_⟩
  rcases follows.held id isHeld with former | isNew
  · exact spent.2 former
  · exact absurd (isNew ▸ spent.1) (Nat.not_lt.2 past)

theorem run_append (tenancy : Tenancy) (first second : List Deed) :
    tenancy.run (first ++ second) = (tenancy.run first).run second := List.foldl_append

theorem Sound.run (sound : tenancy.Sound) (deeds : List Deed) : (tenancy.run deeds).Sound := by
  induction deeds generalizing tenancy with
  | nil => exact sound
  | cons deed rest ih => exact ih (follows_perform sound deed).sound

theorem next_run (sound : tenancy.Sound) (deeds : List Deed) :
    (tenancy.run deeds).host.next = tenancy.host.next + deeds.countP Deed.isCreate := by
  induction deeds generalizing tenancy with
  | nil => rfl
  | cons deed rest ih =>
      have follows := follows_perform sound deed
      have later : ((tenancy.perform deed).run rest).host.next = _ := ih follows.sound
      rw [follows.next, Nat.add_assoc, ← List.countP_append, List.singleton_append] at later
      exact later

/-- Nobody comes to hold an instance again that was held by nobody. -/
theorem spent_run (sound : tenancy.Sound) (deeds : List Deed) {created : Nat}
    (past : created ≤ tenancy.host.next) (spent : id ∈ abandoned created tenancy.holders) :
    id ∈ abandoned created (tenancy.run deeds).holders := by
  induction deeds generalizing tenancy with
  | nil => exact spent
  | cons deed rest ih =>
      have follows := follows_perform sound deed
      have still : created ≤ (tenancy.perform deed).host.next := by
        rw [follows.next]
        exact Nat.le_add_right_of_le past
      exact ih follows.sound still (follows.spent past spent)

/-- As long as the same instances are held, there are no calls. -/
theorem Sound.calls_eq (sound : before.Sound) (still : after.Sound)
    (next : after.host.next = before.host.next)
    (same : ∀ id, id ∈ after.holders ↔ id ∈ before.holders) :
    after.host.world.runtimeCalls = before.host.world.runtimeCalls := by
  rw [still.balanced.calls, sound.balanced.calls, next, abandoned_congr _ same]

end Deeds

theorem sound_initial : ({} : Tenancy).Sound where
  balanced := ⟨nofun, fun _ => rfl, rfl⟩
  connected := nofun

/--
Instances of one server are created, and handles to them cloned and dropped, and clients of them
opened, used, closed and dropped, in any order. At any time the server has been set up once for each
instance that was created, and taken down once for each that neither a handle nor a client holds. An
instance that is not held is not held again, and one that is held is live. To open a client makes
one holder more if it succeeds and none if it fails, and to call a client, be it to close it, makes
none less; neither is a set-up or a take-down.
-/
theorem runtime_balanced (deeds : List Deed) :
    (run {} deeds).host.world.runtimeCalls = (deeds.countP Deed.isCreate,
      (abandoned (deeds.countP Deed.isCreate) (run {} deeds).holders).card) ∧
    (∀ early late, deeds = early ++ late →
      abandoned (early.countP Deed.isCreate) (run {} early).holders ⊆
        abandoned (deeds.countP Deed.isCreate) (run {} deeds).holders) ∧
    (∀ id, ((run {} deeds).host.instance? id).isSome ↔ id ∈ (run {} deeds).holders) ∧
    (∀ id setup, ((run {} deeds).perform (.openClient id setup)).holders.Perm
        (if (run {} deeds).opens id setup then id :: (run {} deeds).holders
          else (run {} deeds).holders) ∧
      ((run {} deeds).perform (.openClient id setup)).host.world.runtimeCalls =
        (run {} deeds).host.world.runtimeCalls) ∧
    ∀ position invocation,
      ((run {} deeds).perform (.call position invocation)).holders = (run {} deeds).holders ∧
      ((run {} deeds).perform (.call position invocation)).host.world.runtimeCalls =
        (run {} deeds).host.world.runtimeCalls := by
  have sound := sound_initial.run deeds
  have next : (run {} deeds).host.next = deeds.countP Deed.isCreate :=
    (next_run sound_initial deeds).trans (Nat.zero_add _)
  refine ⟨?_, ?_, ?_, ?_, ?_⟩
  · rw [← next]
    exact sound.balanced.calls
  · rintro early late rfl id spent
    have upTo := sound_initial.run early
    have past : early.countP Deed.isCreate ≤ (run {} early).host.next := by
      rw [next_run sound_initial]
      exact Nat.le_add_left _ _
    have stays := spent_run upTo late past spent
    rw [← run_append] at stays
    simp only [abandoned, Finset.mem_filter, Finset.mem_range] at stays ⊢
    refine ⟨Nat.lt_of_lt_of_le stays.1 ?_, stays.2⟩
    rw [List.countP_append]
    exact Nat.le_add_right _ _
  · intro id
    rw [Host.instance?, sound.balanced.counted]
    split <;> simp [*]
  · intro id setup
    rcases perform_openClient sound id setup with ⟨still, sameNext, perm⟩
    refine ⟨perm, sound.calls_eq still sameNext fun other => ?_⟩
    rw [perm.mem_iff]
    split
    case isTrue isOpen => exact mem_cons_iff_of_mem (mem_of_opens isOpen) other
    case isFalse => rfl
  · intro position invocation
    rcases perform_call sound position invocation with ⟨still, sameNext, holders⟩
    exact ⟨holders, sound.calls_eq still sameNext fun other => by rw [holders]⟩

/-- Two instances are left: one client is refused, and one outlives the handles and is closed. -/
def leaving : List Deed :=
  [.create, .create, .clone 0, .openClient 0 {},
    .inject (.setPolicy fun policy => { policy with refuseConnections := true }),
    .openClient 1 {}, .dropHandle 0, .dropHandle 1, .dropHandle 0, .call 0 .close]

theorem runtime_balanced_leaving :
    (run {} leaving).host.world.runtimeCalls = (2, 1) ∧
      (run {} (leaving ++ [.dropClient 0])).host.world.runtimeCalls = (2, 2) := by
  have early := (runtime_balanced leaving).1
  have late := (runtime_balanced (leaving ++ [Deed.dropClient 0])).1
  rw [early, late]
  decide +kernel

end Tenancy

end MediaGraph
