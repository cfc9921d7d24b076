import MediaGraph.Proofs.Client.Invocation
import MediaGraph.Script.Basic

/-!
# Links between named ports

A text may be the name, the alias or the path of a port, and of several ports at once. Which of them
a search comes upon depends on the order in which a graph lists its ports, so nothing that is said
here does: `Client.linkAlong` searches along any walk through the graph, and `Finds` says what a
search may come to. The output is looked up first, and what is found wrong with it hides what is
wrong with the input.

Once both ports are found a link is asked for, and from there on the call no longer halts because of
a name: a link is refused, or the event loop halts (`Client.halt_of_createLink`).
-/

namespace MediaGraph

/-- A text is the name, the alias or the path of a port. The empty text is none of these. -/
def Port.HasName (port : Port) (text : String) : Prop :=
  text ≠ "" ∧ (port.name = text ∨ port.aliasName = text ∨ port.path = text)

theorem Port.isNamed_iff {port : Port} {text : String} :
    port.isNamed text = true ↔ port.HasName text := by
  simp [Port.isNamed, Port.HasName, or_assoc]

/-! ## What a search comes to -/

/-- What the search for a port by its name, in an expected direction, may come to. -/
inductive Finds (ports : List Port) (name : String) (expected : Direction) :
    Except Error ObjectId → Prop where
  | unknown (nowhere : ∀ port ∈ ports, ¬port.HasName name) :
    Finds ports name expected (.error (.portNotFound name))
  | reversed {port : Port} (member : port ∈ ports) (named : port.HasName name)
    (reversed : port.direction ≠ expected) :
    Finds ports name expected (.error (.wrongDirection port.id expected))
  | found {port : Port} (member : port ∈ ports) (named : port.HasName name)
    (directed : port.direction = expected) : Finds ports name expected (.ok port.id)

/-- A text is the name of one port only. -/
structure OnlyPort (ports : List Port) (name : String) (port : Port) : Prop where
  member : port ∈ ports
  named : port.HasName name
  only : ∀ other ∈ ports, other.HasName name → other = port

namespace Finds

variable {ports : List Port} {name text : String} {expected direction : Direction} {id : ObjectId}
  {result : Except Error ObjectId}

theorem nowhere (finds : Finds ports name expected (.error (.portNotFound text))) :
    text = name ∧ ∀ port ∈ ports, ¬port.HasName name := by
  cases finds with
  | unknown nowhere => exact ⟨rfl, nowhere⟩

theorem reverse (finds : Finds ports name expected (.error (.wrongDirection id direction))) :
    direction = expected ∧
      ∃ port ∈ ports, port.id = id ∧ port.HasName name ∧ port.direction ≠ expected := by
  cases finds with
  | reversed member named reversed => exact ⟨rfl, _, member, rfl, named, reversed⟩

/-- If only one port has the name, the search comes upon it. -/
theorem eq_of_onlyPort {port : Port} (finds : Finds ports name expected result)
    (only : OnlyPort ports name port) :
    result = if port.direction = expected then .ok port.id
      else .error (.wrongDirection port.id expected) := by
  cases finds with
  | unknown nowhere => exact absurd only.named (nowhere port only.member)
  | reversed member named reversed =>
      cases only.only _ member named
      rw [if_neg reversed]
  | found member named directed =>
      cases only.only _ member named
      rw [if_pos directed]

end Finds

/-- The port that a text names, if it runs in the expected direction, of those along a walk. -/
def namedAlong (walk : List Port) (name : String) (expected : Direction) :
    Except Error ObjectId :=
  match walk.find? fun port => port.isNamed name with
  | none => .error (.portNotFound name)
  | some port =>
    if port.direction = expected then .ok port.id else .error (.wrongDirection port.id expected)

theorem finds_namedAlong {walk ports : List Port} (complete : walk.Perm ports) (name : String)
    (expected : Direction) : Finds ports name expected (namedAlong walk name expected) := by
  simp only [namedAlong]
  cases found : walk.find? fun port => port.isNamed name with
  | none =>
      apply Finds.unknown
      intro port member named
      exact List.find?_eq_none.1 found port (complete.mem_iff.2 member) (Port.isNamed_iff.2 named)
  | some port =>
      have member := complete.mem_iff.1 (List.mem_of_find?_eq_some found)
      have isNamed : port.isNamed name = true := by
        simpa using List.find?_some found
      have named := Port.isNamed_iff.1 isNamed
      simp only
      split
      case isTrue directed => exact .found member named directed
      case isFalse reversed => exact .reversed member named reversed

/-! ## Why a link is not created -/

/-- The reasons for which the event loop halts. -/
inductive Halt.OfLoop : Halt → Prop where
  | transport (failure : TransportError) : OfLoop (.failed (.transport failure))
  | malformed (malformed : MalformedNode) : OfLoop (.failed (.ofMalformed malformed))
  | stalled : OfLoop .stalled

variable {σ α β : Type}

namespace Call

open Client

/-- The call halts for no other reason than the event loop, in whatever state it is made. -/
structure HaltsAsLoop (call : Call σ α) : Prop where
  reason : ∀ client world reason, (call client world).1 = .error reason → reason.OfLoop

theorem HaltsAsLoop.bind {first : Call σ α} {next : α → Call σ β} (start : first.HaltsAsLoop)
    (rest : ∀ value, (next value).HaltsAsLoop) : (first >>= next).HaltsAsLoop where
  reason client world reason halted := by
    rcases ran : first client world with ⟨cause | value, after, changed⟩
    · rw [bind_of_error next ran] at halted
      cases halted
      exact start.reason client world reason (by rw [ran])
    · rw [bind_of_ok next ran] at halted
      exact (rest value).reason after changed reason halted

theorem HaltsAsLoop.onHalt {call : Call σ α} (halts : call.HaltsAsLoop)
    (cleanUp : Halt → Call σ Unit) : (call.onHalt cleanUp).HaltsAsLoop where
  reason client world reason halted := by
    apply halts.reason client world
    simp only [Call.onHalt] at halted
    split at halted
    case h_1 cause after changed ran =>
      rw [ran]
      exact halted
    case h_2 => exact halted

theorem HaltsAsLoop.of_ok {call : Call σ α}
    (returns : ∀ client world, ∃ value, (call client world).1 = .ok value) :
    call.HaltsAsLoop where
  reason client world reason halted := by
    rcases returns client world with ⟨value, returned⟩
    cases returned.symm.trans halted

theorem haltsAsLoop_pure (value : α) : (pure value : Call σ α).HaltsAsLoop :=
  .of_ok fun _ _ => ⟨value, rfl⟩

theorem haltsAsLoop_client : (client : Call σ (Client σ)).HaltsAsLoop :=
  .of_ok fun client _ => ⟨client, rfl⟩

theorem haltsAsLoop_update (change : Client σ → Client σ) : (update change).HaltsAsLoop :=
  .of_ok fun _ _ => ⟨(), rfl⟩

theorem haltsAsLoop_transport : (transport : Call σ (Transport σ)).HaltsAsLoop where
  reason client world reason halted := by
    simp only [transport] at halted
    split at halted
    · cases halted
    · cases halted
      exact .transport .disconnected

theorem haltsAsLoop_received (answer : Except TransportError α) :
    (received answer : Call σ α).HaltsAsLoop where
  reason client world reason halted := by
    cases answer with
    | ok value => cases halted
    | error failure =>
        cases halted
        exact .transport failure

theorem haltsAsLoop_request (asked : Request) :
    (Call.request asked : Call σ asked.Answer).HaltsAsLoop :=
  .bind haltsAsLoop_transport fun _ => .of_ok fun _ _ => ⟨_, rfl⟩

theorem haltsAsLoop_applyBatch (transport : Transport σ) (events : List Event) :
    (applyBatch transport events).HaltsAsLoop where
  reason client world reason halted := by
    simp only [applyBatch] at halted
    split at halted
    · cases halted
    · cases halted
      exact .malformed _

theorem haltsAsLoop_turn : (turn : Call σ Unit).HaltsAsLoop := by
  apply HaltsAsLoop.bind haltsAsLoop_transport
  intro transport
  apply HaltsAsLoop.bind haltsAsLoop_client
  intro _
  apply HaltsAsLoop.bind (haltsAsLoop_request _)
  intro _
  apply HaltsAsLoop.bind (haltsAsLoop_received _)
  intro events
  apply HaltsAsLoop.bind (haltsAsLoop_update _)
  intro _
  exact haltsAsLoop_applyBatch transport events

theorem haltsAsLoop_settle (patience : Nat) : (settle patience : Call σ Unit).HaltsAsLoop := by
  induction patience with
  | zero =>
      apply HaltsAsLoop.bind haltsAsLoop_client
      intro _
      split
      · exact haltsAsLoop_pure ()
      · constructor
        rintro _ _ _ ⟨⟩
        exact .stalled
  | succ patience ih =>
      apply HaltsAsLoop.bind haltsAsLoop_client
      intro _
      split
      · exact haltsAsLoop_pure ()
      · exact haltsAsLoop_turn.bind fun _ => ih

theorem haltsAsLoop_awaitSync : (awaitSync : Call σ Unit).HaltsAsLoop := by
  apply HaltsAsLoop.bind haltsAsLoop_client
  intro _
  apply HaltsAsLoop.bind (haltsAsLoop_update _)
  intro _
  apply HaltsAsLoop.bind haltsAsLoop_transport
  intro _
  apply HaltsAsLoop.bind (haltsAsLoop_request _)
  intro _
  apply HaltsAsLoop.bind (haltsAsLoop_received _)
  intro _
  apply HaltsAsLoop.bind (haltsAsLoop_update _)
  intro _
  exact .bind (.of_ok fun _ _ => ⟨_, rfl⟩) haltsAsLoop_settle

end Call

namespace Client

variable {client : Client σ} {output input : String} {walk : Graph → List Port} {world : σ}
  {reason : Halt}

theorem halt_of_synchronize (healthy : client.poison = none)
    (halted : (synchronize client world).1 = .error reason) : reason.OfLoop := by
  rw [synchronize_of_healthy healthy] at halted
  exact (Call.haltsAsLoop_awaitSync.onHalt _).reason client world reason halted

/-- A healthy client creates a link, unless the link is refused or the event loop halts. -/
theorem halt_of_createLink (healthy : client.poison = none) {source target : ObjectId}
    (halted : (createLink source target client world).1 = .error reason) :
    reason = .failed (.linkRefused source target) ∨ reason.OfLoop := by
  rw [createLink, Call.bind_of_ok _ (Call.check_of_healthy healthy world)] at halted
  cases opened : client.transport with
  | none =>
      rw [Call.bind_of_error _ (Call.request_of_closed opened _ world)] at halted
      cases halted
      exact .inr (.transport .disconnected)
  | some transport =>
      rw [Call.bind_of_ok _ (Call.request_of_open opened _ world)] at halted
      generalize transport.answer
        (.createObject linkFactory .link (Link.properties source target)) world = answered at halted
      rcases answered with ⟨_ | proxy, changed⟩
      · cases halted
        exact .inl rfl
      · right
        rcases waited : synchronize client changed with ⟨cause | ⟨⟩, after, last⟩
        · simp only [Call.granted, Call.onHalt, bind, Call.bind, pure, waited] at halted
          cases halted
          have halts : (synchronize client changed).1 = .error reason := by rw [waited]
          exact halt_of_synchronize healthy halts
        · simp only [Call.granted, Call.onHalt, bind, Call.bind, pure, waited] at halted
          cases halted

theorem createLink_ne_portNotFound (healthy : client.poison = none) {source target : ObjectId}
    (name : String) :
    (createLink source target client world).1 ≠ .error (.failed (.portNotFound name)) := by
  intro halted
  rcases halt_of_createLink healthy halted with refused | ofLoop
  · cases refused
  · cases ofLoop

theorem createLink_ne_wrongDirection (healthy : client.poison = none) {source target : ObjectId}
    (id : ObjectId) (expected : Direction) :
    (createLink source target client world).1 ≠ .error (.failed (.wrongDirection id expected)) := by
  intro halted
  rcases halt_of_createLink healthy halted with refused | ofLoop
  · cases refused
  · cases ofLoop

/-! ## Linking what two names mean -/

/-- Asks for a link between two ports given by name, which are searched along a walk. -/
def linkAlong (walk : Graph → List Port) (output input : String) : Call σ Link := do
  Call.check
  let ports := walk (← Call.client).graph
  let outputPort ← Call.require (namedAlong ports output .output)
  let inputPort ← Call.require (namedAlong ports input .input)
  createLink outputPort inputPort

theorem linkByName_eq_linkAlong : (linkByName : String → String → Call σ Link) =
    linkAlong Graph.allPorts := rfl

/-- What a call on two names comes to, given what their searches come to. -/
def resolve (client : Client σ) (world : σ) :
    Except Error ObjectId → Except Error ObjectId → Except Halt Link × Client σ × σ
  | .error error, _ => (.error (.failed error), client, world)
  | .ok _, .error error => (.error (.failed error), client, world)
  | .ok output, .ok input => createLink output input client world

theorem linkAlong_of_healthy (healthy : client.poison = none) (world : σ) :
    linkAlong walk output input client world =
      client.resolve world (namedAlong (walk client.graph) output .output)
        (namedAlong (walk client.graph) input .input) := by
  rw [linkAlong, Call.bind_of_ok _ (Call.check_of_healthy healthy world), Call.bind_of_ok _ rfl]
  rcases namedAlong (walk client.graph) output .output with error | source
  · rfl
  · rcases namedAlong (walk client.graph) input .input with error | target <;> rfl

/-- The name that a port was searched by, if it was expected to run in a direction. -/
def nameFor (output input : String) : Direction → String
  | .output => output
  | .input => input

/--
A call that was given two names has linked what they mean, or has told what is wrong with one of
them and has not changed anything. The world is whatever there is outside the client, with all that
has been asked of a transport, so nothing has been asked of it then.
-/
structure LinksNamed (client : Client σ) (world : σ) (output input : String)
    (source : Except Error ObjectId) (run : Except Halt Link × Client σ × σ) : Prop where
  /-- The output is looked up first, and what is wrong with it is all that is told. -/
  outputFirst : ∀ error, source = .error error → run = (.error (.failed error), client, world)
  unknown : ∀ name, run.1 = .error (.failed (.portNotFound name)) →
    (name = output ∨ name = input) ∧ (∀ port ∈ client.graph.allPorts, ¬port.HasName name) ∧
      run.2 = (client, world)
  reversed : ∀ id expected, run.1 = .error (.failed (.wrongDirection id expected)) →
    (∃ port ∈ client.graph.allPorts, port.id = id ∧
      port.HasName (nameFor output input expected) ∧ port.direction ≠ expected) ∧
        run.2 = (client, world)
  linked : (∀ name, run.1 ≠ .error (.failed (.portNotFound name))) →
    (∀ id expected, run.1 ≠ .error (.failed (.wrongDirection id expected))) →
    ∃ first ∈ client.graph.allPorts, ∃ second ∈ client.graph.allPorts,
      first.HasName output ∧ first.direction = .output ∧
        second.HasName input ∧ second.direction = .input ∧
          run = createLink first.id second.id client world
  determined : ∀ first second, OnlyPort client.graph.allPorts output first →
    OnlyPort client.graph.allPorts input second →
    run = if first.direction = .output then
        if second.direction = .input then createLink first.id second.id client world
        else (.error (.failed (.wrongDirection second.id .input)), client, world)
      else (.error (.failed (.wrongDirection first.id .output)), client, world)

/-- Whatever names a call is given, it links what they mean; the input has no say in the output. -/
def LinksNames (client : Client σ) (world : σ) (link : String → String → Call σ Link) : Prop :=
  ∀ output, ∃ source, Finds client.graph.allPorts output .output source ∧
    ∀ input, client.LinksNamed world output input source (link output input client world)

variable {source target : Except Error ObjectId}

theorem linksNamed_resolve (healthy : client.poison = none)
    (first : Finds client.graph.allPorts output .output source)
    (second : Finds client.graph.allPorts input .input target) :
    client.LinksNamed world output input source (client.resolve world source target) where
  outputFirst error failed := by
    rw [failed, resolve]
  unknown name halted := by
    rcases source with error | sourcePort
    · cases halted
      rcases first.nowhere with ⟨rfl, nowhere⟩
      exact ⟨.inl rfl, nowhere, rfl⟩
    · rcases target with error | targetPort
      · cases halted
        rcases second.nowhere with ⟨rfl, nowhere⟩
        exact ⟨.inr rfl, nowhere, rfl⟩
      · exact absurd halted (createLink_ne_portNotFound healthy name)
  reversed id expected halted := by
    rcases source with error | sourcePort
    · cases halted
      rcases first.reverse with ⟨rfl, reversed⟩
      exact ⟨reversed, rfl⟩
    · rcases target with error | targetPort
      · cases halted
        rcases second.reverse with ⟨rfl, reversed⟩
        exact ⟨reversed, rfl⟩
      · exact absurd halted (createLink_ne_wrongDirection healthy id expected)
  linked known directed := by
    cases first with
    | unknown => exact absurd rfl (known output)
    | @reversed port => exact absurd rfl (directed port.id .output)
    | @found sourcePort member named outputs =>
        cases second with
        | unknown => exact absurd rfl (known input)
        | @reversed port => exact absurd rfl (directed port.id .input)
        | @found targetPort among called inputs =>
            exact ⟨sourcePort, member, targetPort, among, named, outputs, called, inputs, rfl⟩
  determined sourcePort targetPort onlySource onlyTarget := by
    rw [first.eq_of_onlyPort onlySource, second.eq_of_onlyPort onlyTarget]
    split
    · split <;> rfl
    · rfl

theorem linksNames_linkAlong (healthy : client.poison = none)
    (complete : (walk client.graph).Perm client.graph.allPorts) :
    client.LinksNames world (linkAlong walk) := by
  intro output
  refine ⟨_, finds_namedAlong complete output .output, ?_⟩
  intro input
  rw [linkAlong_of_healthy healthy]
  exact linksNamed_resolve healthy (finds_namedAlong complete output .output)
    (finds_namedAlong complete input .input)

/-- A healthy client links what it is told to by name, in whatever order its graph lists ports. -/
theorem linkByName_links_named (healthy : client.poison = none) (world : σ) :
    client.LinksNames world linkByName ∧
      ∀ walk : Graph → List Port, (walk client.graph).Perm client.graph.allPorts →
        client.LinksNames world (linkAlong walk) := by
  refine ⟨?_, fun walk complete => linksNames_linkAlong healthy complete⟩
  rw [linkByName_eq_linkAlong]
  exact linksNames_linkAlong healthy (List.Perm.refl _)

/-- An input and an output of the same name, and another input that is known by its path. -/
def namesakes : Client Script where
  config := .standard
  backend := "script"
  transport := some Script.transport
  subscriber :=
    { graph := ⟨.ofList [(⟨⟨.software, .midi⟩, 10⟩,
      { inputs := [{ Port.blank with id := 2, aliasName := "Keys" },
          { Port.blank with id := 3, path := "synth/in" }],
        outputs := [{ Port.blank with id := 1, name := "Keys", direction := .output }] })]⟩ }

/--
Which of the two namesakes is meant depends on the walk. Along either one, the call links ports that
have the given names or tells what is wrong with one of the names.
-/
theorem linkByName_links_named_namesakes :
    let backwards : Graph → List Port := fun graph => graph.allPorts.reverse
    (linkByName "Keys" "synth/in" namesakes {}).1 = .error (.failed (.wrongDirection 2 .output)) ∧
      (linkAlong backwards "Keys" "synth/in" namesakes {}).1 =
        .ok { proxy := 1, output := 1, input := 3 } ∧
      (linkByName "Keys" "" namesakes {}).1 = .error (.failed (.wrongDirection 2 .output)) ∧
      (linkAlong backwards "Keys" "" namesakes {}).1 = .error (.failed (.portNotFound "")) ∧
      namesakes.LinksNames {} linkByName ∧ namesakes.LinksNames {} (linkAlong backwards) := by
  intro backwards
  have healthy : namesakes.poison = none := rfl
  have kept := linkByName_links_named healthy {}
  refine ⟨rfl, rfl, rfl, rfl, kept.1, ?_⟩
  exact kept.2 backwards (List.reverse_perm _)

end Client

end MediaGraph
