import MediaGraph.Proofs.Client.Invocation

/-!
# Which names pass

A node can be published if its own name passes and if every port that is generated for it fits
behind the name. `publishable_iff` says that this is just what is checked before anything is asked
of the server, so the checks that follow port by port never fail.
-/

namespace MediaGraph

/-- A failure that says something about a name. -/
def Error.isNaming : Error → Bool
  | invalidName _ | nameTooLong .. => true
  | _ => false

namespace Client

variable {config : Config} {name node : String}

theorem validateName_eq_ok_iff : validateName config name = .ok () ↔
    name ≠ "" ∧ '\x00' ∉ name.toList ∧ name.utf8ByteSize ≤ config.maxNameLen.toNat := by
  simp only [validateName]
  split
  case isTrue empty => simp [empty]
  case isFalse named =>
    split
    case isTrue nul => simp [nul]
    case isFalse clean => simp [named, clean]

theorem validatePortName_eq_ok_iff : validatePortName config node name = .ok () ↔
    validateName config name = .ok () ∧
      fullNameLength node name ≤ config.maxNameLen.toNat := by
  simp only [validatePortName]
  rcases validateName config name with error | ⟨⟩
  · simp
  · simp

theorem validateAll_eq_ok_iff {ports : List (String × Direction)} :
    validateAll config node ports = .ok () ↔
      validateName config node = .ok () ∧
        ∀ port ∈ ports, validatePortName config node port.1 = .ok () := by
  simp only [validateAll]
  rcases validateName config node with error | ⟨⟩
  · simp
  · simp only [true_and]
    induction ports with
    | nil => simp [pure, Except.pure]
    | cons port rest ih =>
        rw [List.forall_mem_cons, ← ih]
        simp only [List.forM]
        rcases validatePortName config node port.1 with error | ⟨⟩
        · simp [bind, Except.bind]
        · simp [bind, Except.bind]

/-! ## Generated names -/

theorem not_mem_decimal {c : Char} (notDigit : c.isDigit = false) (number : Nat) :
    c ∉ (Text.decimal number).toList := by
  intro member
  rw [Text.decimal, String.toList_ofList] at member
  have digit := Nat.isDigit_of_mem_toDigits (by decide) (by decide) member
  rw [notDigit] at digit
  cases digit

/-- A generated name is one of two texts with a number behind it. -/
theorem generatedPorts_names {inputs outputs : Nat} {port : String × Direction}
    (generated : port ∈ generatedPorts inputs outputs) :
    ∃ number, port.1 = "midi_in_" ++ Text.decimal number ∨
      port.1 = "midi_out_" ++ Text.decimal number := by
  simp only [generatedPorts, List.mem_append, List.mem_map] at generated
  rcases generated with ⟨index, -, rfl⟩ | ⟨index, -, rfl⟩
  · exact ⟨index + 1, .inl rfl⟩
  · exact ⟨index + 1, .inr rfl⟩

/-- Of a generated name only the length can be wrong. -/
theorem generated_wellFormed {inputs outputs : Nat} {port : String × Direction}
    (generated : port ∈ generatedPorts inputs outputs) :
    port.1 ≠ "" ∧ '\x00' ∉ port.1.toList := by
  rcases generatedPorts_names generated with ⟨number, named | named⟩
  all_goals
    rw [named]
    constructor
    · intro empty
      have lengths := congrArg (·.toList.length) empty
      simp at lengths
    · rw [String.toList_append, List.mem_append, not_or]
      exact ⟨by decide, not_mem_decimal (by decide) number⟩

/-- The name of the node is well-formed, and it fits with each of the names that are generated. -/
structure Publishable (config : Config) (name : String) (inputs outputs : Nat) : Prop where
  named : name ≠ ""
  clean : '\x00' ∉ name.toList
  short : name.utf8ByteSize ≤ config.maxNameLen.toNat
  ports : ∀ port ∈ generatedPorts inputs outputs,
    fullNameLength name port.1 ≤ config.maxNameLen.toNat

theorem publishable_iff {inputs outputs : Nat} :
    validateAll config name (generatedPorts inputs outputs) = .ok () ↔
      Publishable config name inputs outputs := by
  rw [validateAll_eq_ok_iff, validateName_eq_ok_iff]
  constructor
  · rintro ⟨⟨named, clean, short⟩, ports⟩
    exact ⟨named, clean, short, fun port generated =>
      (validatePortName_eq_ok_iff.1 (ports port generated)).2⟩
  · rintro ⟨named, clean, short, ports⟩
    refine ⟨⟨named, clean, short⟩, fun port generated => ?_⟩
    have fits := ports port generated
    rcases generated_wellFormed generated with ⟨portNamed, portClean⟩
    refine validatePortName_eq_ok_iff.2 ⟨validateName_eq_ok_iff.2 ⟨portNamed, portClean, ?_⟩, fits⟩
    simp only [fullNameLength] at fits
    omega

/-! ## Publishing -/

variable {σ : Type}

/-- When an endpoint can be published, its node is asked for; the rest can be undone. -/
theorem publish_cases (name : String) (inputs outputs : Nat) (client : Client σ) (world : σ) :
    (client.Unable (validateAll client.config name (generatedPorts inputs outputs)) ∧
        ∃ reason, publish name inputs outputs client world = (.error reason, client, world)) ∨
      ∃ transport, client.transport = some transport ∧ client.poison = none ∧
        Publishable client.config name inputs outputs ∧
        match transport.answer (.createNode (nodeProperties client.config name)) world with
        | (none, changed) => publish name inputs outputs client world =
            (.error (.failed (.nodeRefused name)), client, changed)
        | (some token, changed) => publish name inputs outputs client world =
            (bringUp { token, name } (generatedPorts inputs outputs)).onHalt
              (fun _ => closeEndpoint { token, name })
              { client with localNodes := client.localNodes ++ [token] } changed := by
  rcases Option.eq_none_or_eq_some client.poison with healthy | ⟨error, poisoned⟩
  · simp only [publish, Call.bind_of_ok _ (Call.check_of_healthy healthy world)]
    rw [Call.bind_of_ok _ rfl]
    rcases checked : validateAll client.config name (generatedPorts inputs outputs) with
      error | ⟨⟩
    · exact .inl ⟨.inr (.inl nofun), .failed error, rfl⟩
    · have publishable := publishable_iff.1 checked
      simp only [Call.require, pure_bind]
      rcases createEndpoint_cases name client world with
        ⟨unable, reason, failed⟩ | ⟨transport, opened, asked⟩
      · rw [Call.bind_of_error _ failed]
        rcases unable with poisoned | invalid | closed
        · simp [healthy] at poisoned
        · exact absurd (validateAll_eq_ok_iff.1 checked).1 invalid
        · exact .inl ⟨.inr (.inr closed), reason, rfl⟩
      · refine .inr ⟨transport, opened, healthy, publishable, ?_⟩
        rcases answered : transport.answer
          (.createNode (nodeProperties client.config name)) world with ⟨_ | token, changed⟩
        · rw [answered] at asked
          exact Call.bind_of_error _ asked
        · rw [answered] at asked
          exact Call.bind_of_ok _ asked
  · refine .inl ⟨.inl (by simp [poisoned]), .failed error, ?_⟩
    rw [publish, Call.bind_of_error _ (Call.check_of_poison poisoned world)]

end Client

end MediaGraph
