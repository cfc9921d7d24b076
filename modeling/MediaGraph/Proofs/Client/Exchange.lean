import MediaGraph.Proofs.Client.Books

/-!
# What a client asks of its transport

An `Exchange` is a request with its answer. Any transport can be made to keep a record of the
exchanges on it (`Transport.recorded`); the record is part of the world, and the client never looks
at it. So what holds of the record at the end of every run holds of every transport.

A call keeps the client on its connection and adds exchanges to the record. `Client.Asks` says which
requests they can be; it goes from call to call, so each call is followed down to its requests once.
-/

namespace MediaGraph

/-- A request and how it was answered. -/
structure Exchange where
  request : Request
  answer : request.Answer

/-- The requests that the event loop makes: those of barriers, and those that follow the ports. -/
def Request.isLooping : Request → Bool
  | drive _ | sync _ => true
  | bindObject .. | subscribeInfo _ | destroyProxy _ => true
  | _ => false

theorem Request.isLooping_of_isBinding {request : Request} (binding : request.isBinding) :
    request.isLooping := by
  cases request <;> first | rfl | cases binding

namespace Exchange

def node? : Exchange → Option NodeToken
  | ⟨.createNode _, answer⟩ => answer
  | _ => none

def port? : Exchange → Option PortToken
  | ⟨.addPort .., answer⟩ => answer
  | _ => none

end Exchange

variable {σ : Type}

/-- The world has a record to which every exchange is added. -/
def Transport.Records (transport : Transport σ) (record : σ → List Exchange) : Prop :=
  ∀ request world, record (transport.answer request world).2 =
    record world ++ [⟨request, (transport.answer request world).1⟩]

def Transport.recorded (transport : Transport σ) : Transport (σ × List Exchange) where
  answer request world :=
    let (answer, changed) := transport.answer request world.1
    (answer, changed, world.2 ++ [⟨request, answer⟩])
  nodeId token world := transport.nodeId token world.1
  descriptor world := transport.descriptor world.1
  patience world := transport.patience world.1

/-- A backend whose connections keep a record in the world, whatever they are like otherwise. -/
def Backend.recorded (backend : Backend σ) : Backend (σ × List Exchange) where
  name := backend.name
  init world :=
    let (result, changed) := backend.init world.1
    (result, changed, world.2)
  deinit world := (backend.deinit world.1, world.2)
  connect config world :=
    match backend.connect config world.1 with
    | (.ok transport, changed) => (.ok transport.recorded, changed, world.2)
    | (.error failure, changed) => (.error failure, changed, world.2)

theorem Transport.records_recorded (transport : Transport σ) :
    transport.recorded.Records Prod.snd := fun _ _ => rfl

/-- The connections of the backend keep the record, and to get one adds nothing to it. -/
def Backend.Records (backend : Backend σ) (record : σ → List Exchange) : Prop :=
  ∀ config world transport reached, backend.connect config world = (.ok transport, reached) →
    transport.Records record ∧ record reached = record world

theorem Backend.records_recorded (backend : Backend σ) : backend.recorded.Records Prod.snd := by
  rintro config ⟨world, record⟩ transport reached connected
  simp only [Backend.recorded] at connected
  split at connected
  case h_1 inner changed _ =>
    cases connected
    exact ⟨inner.records_recorded, rfl⟩
  case h_2 => cases connected

/-- An audit of records is one of the worlds that keep a record. -/
def Audit.along (audit : Audit (List Exchange)) (record : σ → List Exchange) : Audit σ where
  Kept books world := audit.Kept books (record world)
  Ended links world := audit.Ended links (record world)
  ownLinks := audit.ownLinks
  ownNodes := audit.ownNodes

namespace Client

variable {record : σ → List Exchange} {Allowed : Request → Prop} {client : Client σ}

/-! ## Calls and their requests -/

/-- The open connection of the client keeps the record. -/
def Records (client : Client σ) (record : σ → List Exchange) : Prop :=
  ∀ transport, client.transport = some transport → transport.Records record

/-- What the event loop leaves alone: the connection, and what the client has set up on it. -/
def standing (client : Client σ) : Option (Transport σ) × Config × List NodeToken :=
  (client.transport, client.config, client.localNodes)

/-- The record has grown by exchanges whose requests are allowed. -/
def Grows (record : σ → List Exchange) (Allowed : Request → Prop) (world changed : σ) : Prop :=
  ∃ news, record changed = record world ++ news ∧ ∀ exchange ∈ news, Allowed exchange.request

theorem Grows.refl (world : σ) : Grows record Allowed world world := ⟨[], by simp, by simp⟩

theorem Grows.trans {first second third : σ} (start : Grows record Allowed first second)
    (rest : Grows record Allowed second third) : Grows record Allowed first third := by
  rcases start with ⟨early, isEarly, earlyAllowed⟩
  rcases rest with ⟨late, isLate, lateAllowed⟩
  refine ⟨early ++ late, by rw [isLate, isEarly, List.append_assoc], fun exchange member => ?_⟩
  exact (List.mem_append.1 member).elim (earlyAllowed exchange) (lateAllowed exchange)

theorem grows_answer {transport : Transport σ} (records : transport.Records record)
    {request : Request} (allowed : Allowed request) (world : σ) :
    Grows record Allowed world (transport.answer request world).2 := by
  refine ⟨_, records request world, fun exchange member => ?_⟩
  rw [List.mem_singleton.1 member]
  exact allowed

/-- The client stands as it did, and has asked for nothing but what is allowed. -/
structure Asked (record : σ → List Exchange) (Allowed : Request → Prop)
    (before after : Client σ × σ) : Prop where
  standing : after.1.standing = before.1.standing
  grows : Grows record Allowed before.2 after.2

def Asks (record : σ → List Exchange) (Allowed : Request → Prop)
    (before after : Client σ × σ) : Prop :=
  before.1.Records record → Asked record Allowed before after

theorem Asked.transport {before after : Client σ × σ} (asked : Asked record Allowed before after) :
    after.1.transport = before.1.transport := congrArg Prod.fst asked.standing

theorem Asked.config {before after : Client σ × σ} (asked : Asked record Allowed before after) :
    after.1.config = before.1.config := congrArg (·.2.1) asked.standing

theorem Asked.nodes {before after : Client σ × σ} (asked : Asked record Allowed before after) :
    after.1.localNodes = before.1.localNodes := congrArg (·.2.2) asked.standing

theorem Records.of_transport {after : Client σ} (records : client.Records record)
    (same : after.transport = client.transport) : after.Records record := by
  intro transport opened
  exact records transport (same.symm.trans opened)

theorem Asked.of_same {before after : Client σ × σ}
    (standing : after.1.standing = before.1.standing) (world : after.2 = before.2) :
    Asked record Allowed before after :=
  ⟨standing, by rw [world]; exact .refl before.2⟩

theorem composes_asks : Call.Composes (Asks record Allowed) where
  refl state _ := .of_same rfl rfl
  trans {first second third} start rest records := by
    have begun := start records
    have ended := rest (records.of_transport begun.transport)
    exact ⟨ended.standing.trans begun.standing, begun.grows.trans ended.grows⟩

theorem asked_answer {world : σ} {transport : Transport σ} {request : Request}
    (opened : client.transport = some transport) (allowed : Allowed request) :
    Asks record Allowed (client, world) (client, (transport.answer request world).2) :=
  fun records => ⟨rfl, grows_answer (records transport opened) allowed world⟩

theorem asks_request {request : Request} (allowed : Allowed request) :
    (Call.request request).Within Halt.Never (Asks record Allowed) :=
  .request composes_asks fun _ _ _ opened => asked_answer opened allowed

section

variable (loops : ∀ request : Request, request.isLooping → Allowed request)

include loops

theorem asks_batch (transport : Transport σ) (events : List Event)
    (opened : client.transport = some transport) (world : σ) :
    Asks record Allowed (client, world) (applyBatch transport events client world).2 := by
  intro records
  have follows : transport.Follows (Grows record Allowed) :=
    ⟨.refl, .trans, fun request world binding =>
      grows_answer (records transport opened)
        (loops request (Request.isLooping_of_isBinding binding)) world⟩
  have asked := related_deliverAll follows events client world
  have frame := frame_of_deliverAll transport events client world
  rw [← world_applyBatch] at asked
  refine ⟨?_, asked⟩
  simp only [applyBatch]
  generalize deliverAll transport events client world = result at frame ⊢
  rcases result with ⟨_ | malformed, after, changed⟩
  all_goals
    simp only [standing, notify]
    rw [show after = _ from frame]

theorem looping_asks : Call.Looping (Asks record Allowed) where
  toComposes := composes_asks
  driving _ _ _ timeout opened := asked_answer opened (loops (.drive timeout) rfl)
  syncing _ _ _ sequence opened := asked_answer opened (loops (.sync sequence) rfl)
  batch _ world transport events opened := asks_batch loops transport events opened world
  barrier _ _ _ _ := .of_same rfl rfl
  poison _ _ _ _ := .of_same rfl rfl

theorem attends_asks {node : NodeToken} (attends : ∀ request : Request, request.Attends node →
    Allowed request) : Call.Attends node fun {α : Type} (call : Call σ α) =>
      call.Within Halt.Never (Asks record Allowed) where
  toComposable := Call.composable_within composes_asks
  attending request isAttending := asks_request (attends request isAttending)
  synchronize := (looping_asks loops).synchronize

/-! ## Runs of one client -/

end

/--
A client has been opened and calls have been made on it. Between calls the world can become any
other, as long as nothing is added to the record. The links are those that calls have returned and
that have not been destroyed.
-/
inductive Runs (record : σ → List Exchange)
    (Permits : List Link → Client σ → Invocation → Prop) (backend : Backend σ) (config : Config)
    (observers : List Observer) : List Link → Client σ → σ → Prop where
  | opened {client : Client σ} {world changed : σ} (unused : record world = [])
    (ready : connect backend config observers world = (.ok client, changed)) :
    Runs record Permits backend config observers [] client changed
  | elsewhere {held : List Link} {client : Client σ} {world : σ} (other : σ)
    (ran : Runs record Permits backend config observers held client world)
    (recorded : record other = record world) :
    Runs record Permits backend config observers held client other
  | call {held : List Link} {client : Client σ} {world : σ} (invocation : Invocation)
    (ran : Runs record Permits backend config observers held client world)
    (permitted : Permits held client invocation) :
    Runs record Permits backend config observers
      (invocation.leaves client.isOpen held (invocation.call client world).1)
      (invocation.call client world).2.1 (invocation.call client world).2.2

variable {audit : Audit (List Exchange)} {backend : Backend σ} {config : Config}
  {observers : List Observer} {world changed : σ}

/-- Opening a client on an unused connection, whether it succeeds or not. -/
theorem stands_opened (observers : List Observer) (keeps : backend.Records record)
    (upholds : ∀ transport : Transport σ, transport.Records record →
      transport.Upholds (audit.along record)) (fresh : audit.Kept {} [])
    {transport : Transport σ} {reached : σ}
    (connected : backend.connect config world = (.ok transport, reached))
    (unused : record world = []) :
    match connect backend config observers world with
    | (.ok client, changed) =>
      client.transport = some transport ∧ client.Stands (audit.along record) [] changed
    | (.error _, changed) => audit.Ended [] (record changed) := by
  rcases keeps config world transport reached connected with ⟨records, same⟩
  apply stands_connect observers connected (upholds transport records)
  simp only [Audit.along, same, unused]
  exact fresh

theorem elementary_records : Call.Elementary fun before after : Client σ × σ =>
    before.1.Records record → after.1.Records record where
  refl _ records := records
  trans start rest records := rest (start records)
  asking _ _ _ _ _ records := records
  batch client world transport events _ records :=
    records.of_transport (frame_of_applyBatch transport events client world).1
  barrier _ _ _ records := records
  poison _ _ _ records := records
  bookkeeping _ _ _ records := records
  observe _ _ _ records := records
  close client world records := by
    simp only [close]
    split
    case h_1 => exact records
    case h_2 =>
      intro _ isOpen
      cases isOpen

/-- Whatever the transports of a backend uphold about the record holds throughout a run. -/
theorem Runs.stands {Permits : List Link → Client σ → Invocation → Prop} {held : List Link}
    (ran : Runs record Permits backend config observers held client world)
    (keeps : backend.Records record)
    (upholds : ∀ transport : Transport σ, transport.Records record →
      transport.Upholds (audit.along record)) (fresh : audit.Kept {} [])
    (permits : ∀ held client invocation, Permits held client invocation →
      client.Permits (audit.along record) held invocation) :
    client.Records record ∧ client.Stands (audit.along record) held world := by
  induction ran with
  | @opened client world changed unused ready =>
      rcases connected : backend.connect config world with ⟨failure | transport, reached⟩
      · simp only [connect, connected] at ready
        cases ready
      · have opened := stands_opened observers keeps upholds fresh connected unused
        rw [ready] at opened
        refine ⟨fun other isOpen => ?_, opened.2⟩
        rw [← Option.some.inj (opened.1.symm.trans isOpen)]
        exact (keeps config world transport reached connected).1
  | elsewhere other _ recorded ih =>
      rcases ih with ⟨records, stands⟩
      refine ⟨records, fun transport isOpen => ?_, fun isClosed => ?_⟩
      · rcases stands.kept transport isOpen with ⟨upheld, kept⟩
        refine ⟨upheld, ?_⟩
        simp only [Audit.along, recorded]
        exact kept
      · rcases stands.ended isClosed with ⟨nodes, ended⟩
        refine ⟨nodes, ?_⟩
        simp only [Audit.along, recorded]
        exact ended
  | @call held client world invocation _ permitted ih =>
      rcases ih with ⟨records, stands⟩
      have stillRecords := (elementary_records.invocation invocation).always client world records
      exact ⟨stillRecords, stands.call (permits _ _ _ permitted)⟩

end Client

end MediaGraph
