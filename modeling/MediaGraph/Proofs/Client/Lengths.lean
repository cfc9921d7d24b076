import MediaGraph.Proofs.Client.Publishing

/-!
# Names that are too long

A port is addressed by the name of its node, a colon and its own name, and the limit on names
applies to the three together. `portName_limit` says that every call that names a port refuses a
name exactly when this full length exceeds the limit, before anything is asked of the server, and
that nothing that comes later finds a name too long.

The length that is told with the refusal is the full one only as long as the port's own name is
within the limit. One that exceeds it without its node is refused first, with its own length
(`TooLong.length`, `addPort_length_without_node`).
-/

namespace MediaGraph

namespace Client

variable {config : Config} {node name : String} {length limit : Nat}

/-! ## What is checked -/

/-- A port name is too long behind the name of its node, and refused with a length and a limit. -/
structure TooLong (config : Config) (node name : String) (length limit : Nat) : Prop where
  exceeds : config.maxNameLen.toNat < fullNameLength node name
  limit : limit = config.maxNameLen.toNat
  length : length =
    if name.utf8ByteSize ≤ config.maxNameLen.toNat then fullNameLength node name
    else name.utf8ByteSize

theorem validateName_of_wellFormed (named : name ≠ "") (clean : '\x00' ∉ name.toList) :
    validateName config name =
      if config.maxNameLen.toNat < name.utf8ByteSize then
        .error (.nameTooLong name.utf8ByteSize config.maxNameLen.toNat)
      else .ok () := by
  simp only [validateName, named, clean, if_false]

/-- Of a well-formed port name nothing but its length can be wrong. -/
theorem validatePortName_eq_error_iff (named : name ≠ "") (clean : '\x00' ∉ name.toList) :
    validatePortName config node name = .error (.nameTooLong length limit) ↔
      TooLong config node name length limit := by
  simp only [validatePortName, validateName_of_wellFormed named clean]
  by_cases alone : config.maxNameLen.toNat < name.utf8ByteSize
  · have exceeds : config.maxNameLen.toNat < fullNameLength node name := by
      simp only [fullNameLength]
      omega
    simp only [alone, if_true, Except.error.injEq, Error.nameTooLong.injEq]
    constructor
    · rintro ⟨rfl, rfl⟩
      exact ⟨exceeds, rfl, (if_neg (Nat.not_le.2 alone)).symm⟩
    · rintro ⟨-, isLimit, isLength⟩
      rw [if_neg (Nat.not_le.2 alone)] at isLength
      exact ⟨isLength.symm, isLimit.symm⟩
  · simp only [alone, if_false]
    by_cases exceeds : config.maxNameLen.toNat < fullNameLength node name
    · simp only [exceeds, if_true, Except.error.injEq, Error.nameTooLong.injEq]
      constructor
      · rintro ⟨rfl, rfl⟩
        exact ⟨exceeds, rfl, (if_pos (Nat.not_lt.1 alone)).symm⟩
      · rintro ⟨-, isLimit, isLength⟩
        rw [if_pos (Nat.not_lt.1 alone)] at isLength
        exact ⟨isLength.symm, isLimit.symm⟩
    · simp only [exceeds, if_false]
      constructor
      · intro impossible
        cases impossible
      · exact fun tooLong => absurd tooLong.exceeds exceeds

/-- Checks in order fail with the first that fails. -/
theorem forM_eq_error_iff {α ε : Type} {check : α → Except ε Unit} {error : ε} {items : List α} :
    items.forM check = .error error ↔
      ∃ early item late, items = early ++ item :: late ∧
        (∀ earlier ∈ early, check earlier = .ok ()) ∧ check item = .error error := by
  induction items with
  | nil => simp [pure, Except.pure]
  | cons item rest ih =>
      simp only [List.forM, bind, Except.bind]
      cases checked : check item with
      | error other =>
          simp only [Except.error.injEq]
          constructor
          · rintro rfl
            exact ⟨[], item, rest, rfl, by simp, checked⟩
          · rintro ⟨early, found, late, split, fine, failed⟩
            rcases List.cons_eq_append_iff.1 split with ⟨rfl, same⟩ | ⟨tail, rfl, -⟩
            · cases same
              exact Except.error.inj (checked.symm.trans failed)
            · cases (fine item List.mem_cons_self).symm.trans checked
      | ok value =>
          refine ih.trans ⟨?_, ?_⟩
          · rintro ⟨early, found, late, rfl, fine, failed⟩
            exact ⟨item :: early, found, late, rfl, List.forall_mem_cons.2 ⟨checked, fine⟩, failed⟩
          · rintro ⟨early, found, late, split, fine, failed⟩
            rcases List.cons_eq_append_iff.1 split with ⟨rfl, same⟩ | ⟨tail, rfl, rfl⟩
            · cases same
              cases checked.symm.trans failed
            · exact ⟨tail, found, late, rfl, (List.forall_mem_cons.1 fine).2, failed⟩

/-- A generated port fits behind the name of its node. -/
def Fits (config : Config) (node : String) (port : String × Direction) : Prop :=
  fullNameLength node port.1 ≤ config.maxNameLen.toNat

theorem validatePortName_of_generated {inputs outputs : Nat} {port : String × Direction}
    (generated : port ∈ generatedPorts inputs outputs) :
    validatePortName config node port.1 = .ok () ↔ Fits config node port := by
  rcases generated_wellFormed generated with ⟨named, clean⟩
  rw [validatePortName_eq_ok_iff, validateName_eq_ok_iff, Fits]
  constructor
  · exact fun checked => checked.2
  · intro fits
    refine ⟨⟨named, clean, ?_⟩, fits⟩
    simp only [fullNameLength] at fits
    omega

/-- Behind a valid node name, the first generated port that does not fit is the one refused. -/
theorem validateAll_generated_eq_error_iff {inputs outputs : Nat}
    (valid : validateName config node = .ok ()) :
    validateAll config node (generatedPorts inputs outputs) = .error (.nameTooLong length limit) ↔
      ∃ early port late, generatedPorts inputs outputs = early ++ port :: late ∧
        (∀ earlier ∈ early, Fits config node earlier) ∧
        TooLong config node port.1 length limit := by
  simp only [validateAll, valid, forM_eq_error_iff]
  apply exists_congr
  intro early
  apply exists_congr
  intro port
  apply exists_congr
  intro late
  apply and_congr_right
  intro split
  have generated : ∀ other ∈ early ++ port :: late, other ∈ generatedPorts inputs outputs :=
    fun other member => split ▸ member
  apply and_congr
  · apply forall₂_congr
    intro earlier member
    exact validatePortName_of_generated (generated earlier (List.mem_append_left _ member))
  · rcases generated_wellFormed (generated port (by simp)) with ⟨named, clean⟩
    exact validatePortName_eq_error_iff named clean

/-! ## Calls that check a name first -/

variable {σ α : Type} {client after : Client σ} {world changed : σ} {transport : Transport σ}
  {endpoint : Endpoint}

/-- If nothing after a check is wrong with names, the call finds wrong what the check does. -/
theorem failed_iff_of_checked {call : Call σ α} {checked : Except Error Unit} {error : Error}
    (naming : error.isNaming)
    (refused : ∀ error, checked = .error error →
      call client world = (.error (.failed error), client, world))
    (sound : checked = .ok () → ∀ reason, (call client world).1 = .error reason →
      ¬reason.IsNaming) :
    call client world = (.error (.failed error), after, changed) ↔
      checked = .error error ∧ after = client ∧ changed = world := by
  rcases checked with other | ⟨⟩
  · rw [refused other rfl]
    constructor
    · intro same
      cases same
      exact ⟨rfl, rfl, rfl⟩
    · rintro ⟨same, rfl, rfl⟩
      cases same
      rfl
  · constructor
    · intro failed
      exact absurd ⟨error, rfl, naming⟩ (sound rfl (.failed error) (by rw [failed]))
    · rintro ⟨impossible, -⟩
      cases impossible

theorem addPort_eq_error_iff (healthy : client.poison = none)
    (opened : client.transport = some transport) {error : Error} (naming : error.isNaming)
    (direction : Direction) :
    addPort endpoint name direction client world = (.error (.failed error), after, changed) ↔
      validatePortName client.config endpoint.name name = .error error ∧
        after = client ∧ changed = world := by
  apply failed_iff_of_checked naming
  · intro error invalid
    simp only [addPort, Call.bind_of_ok _ (Call.check_of_healthy healthy world)]
    simp only [Call.client, bind, Call.bind, invalid, Call.require, Call.fail, Call.halt]
  · intro valid reason failed
    rw [addPort_of_valid healthy opened valid] at failed
    split at failed
    · cases failed
    · cases failed
      exact Halt.not_isNaming rfl

theorem renamePort_eq_error_iff (healthy : client.poison = none)
    (opened : client.transport = some transport) {error : Error} (naming : error.isNaming)
    {token : PortToken} (known : endpoint.hasPort token) :
    renamePort endpoint token name client world = (.error (.failed error), after, changed) ↔
      validatePortName client.config endpoint.name name = .error error ∧
        after = client ∧ changed = world := by
  apply failed_iff_of_checked naming
  · intro error invalid
    simp only [renamePort, Call.bind_of_ok _ (Call.check_of_healthy healthy world)]
    simp only [Call.client, bind, Call.bind, invalid, Call.require, Call.fail, Call.halt]
  · intro valid reason failed
    simp only [renamePort, Call.bind_of_ok _ (Call.check_of_healthy healthy world)] at failed
    simp only [Call.client, bind, Call.bind, valid, Call.require, pure, known, if_true,
      Call.request_of_open opened] at failed
    cases failed

/-- After a check, ports are refused by the server only. -/
theorem not_naming_of_addPorts (healthy : client.poison = none)
    (opened : client.transport = some transport) {ports : List (String × Direction)}
    (valid : ∀ port ∈ ports, validatePortName client.config endpoint.name port.1 = .ok ())
    (world : σ) :
    (∃ added changed, addPorts endpoint ports client world = (.ok added, client, changed)) ∨
      ∃ refused changed, addPorts endpoint ports client world =
        (.error (.failed (.portRefused refused)), client, changed) := by
  induction ports generalizing endpoint world with
  | nil => exact .inl ⟨endpoint, world, rfl⟩
  | cons port rest ih =>
      rcases port with ⟨name, direction⟩
      rw [List.forall_mem_cons] at valid
      have asked := addPort_of_valid healthy opened valid.1 direction world
      rcases answered : transport.answer (.addPort endpoint.token direction
        (.ofList [(Key.format, midiFormat), (Key.portName, name)])) world with
        ⟨_ | token, between⟩
      · rw [answered] at asked
        exact .inr ⟨name, between, by rw [addPorts, Call.bind_of_error _ asked]⟩
      · rw [answered] at asked
        rw [addPorts, Call.bind_of_ok _ asked]
        refine ih ?_ between
        exact valid.2

theorem not_naming_of_bringUp (healthy : client.poison = none)
    (opened : client.transport = some transport) {ports : List (String × Direction)}
    (valid : ∀ port ∈ ports, validatePortName client.config endpoint.name port.1 = .ok ())
    {reason : Halt} (failed : (bringUp endpoint ports client world).1 = .error reason) :
    ¬reason.IsNaming := by
  rcases not_naming_of_addPorts healthy opened valid world with
    ⟨added, middle, adding⟩ | ⟨refused, middle, adding⟩
  · rw [bringUp, Call.bind_of_ok _ adding] at failed
    have unnamed : (activate added >>= fun active => waitForEndpoint active >>= fun publication =>
        pure (publication, active) : Call σ _).Unnamed :=
      (Call.unnamed_activate added).bind fun active =>
        (Call.unnamed_waitForEndpoint active).bind fun _ => Call.unnamed_pure _
    exact unnamed.sound client middle reason _ _ healthy (Prod.ext failed rfl)
  · rw [bringUp, Call.bind_of_error _ adding] at failed
    cases failed
    exact Halt.not_isNaming rfl

theorem publish_eq_error_iff (healthy : client.poison = none)
    (opened : client.transport = some transport) {error : Error} (naming : error.isNaming)
    {inputs outputs : Nat} :
    publish name inputs outputs client world = (.error (.failed error), after, changed) ↔
      validateAll client.config name (generatedPorts inputs outputs) = .error error ∧
        after = client ∧ changed = world := by
  apply failed_iff_of_checked naming
  · intro error invalid
    simp only [publish, Call.bind_of_ok _ (Call.check_of_healthy healthy world)]
    simp only [Call.client, bind, Call.bind, invalid, Call.require, Call.fail, Call.halt]
  · intro valid reason failed
    rcases publish_cases name inputs outputs client world with
      ⟨unable, -⟩ | ⟨other, isOpen, -, publishable, asked⟩
    · rcases unable with poisoned | invalid | closed
      · simp [healthy] at poisoned
      · exact absurd valid invalid
      · cases opened.symm.trans closed
    · have ports := (validateAll_eq_ok_iff.1 valid).2
      split at asked
      · rw [asked] at failed
        cases failed
        exact Halt.not_isNaming rfl
      case h_2 token between _ =>
        have sound : ∀ reason, (bringUp { token, name } (generatedPorts inputs outputs)
            { client with localNodes := client.localNodes ++ [token] } between).1 =
              .error reason → ¬reason.IsNaming := fun reason raised =>
          not_naming_of_bringUp (by exact healthy) (by exact isOpen) ports raised
        rw [asked, Call.onHalt] at failed
        split at failed
        case h_1 halted next final ran =>
          cases failed
          exact sound _ (congrArg Prod.fst ran)
        case h_2 => exact sound reason failed

/-! ## The limit on names -/

/--
A port name that is well-formed is refused if its full name is longer than the limit, and only then:
when a port is added, when it is renamed and when it is generated for a node that is published. A
refusal changes nothing and sends nothing. Of generated ports, it is the first that does not fit.
-/
theorem portName_limit (healthy : client.poison = none) (opened : client.isOpen) (world : σ) :
    (∀ endpoint name, name ≠ "" → '\x00' ∉ name.toList →
      (∀ direction length limit after changed,
        addPort endpoint name direction client world =
            (.error (.failed (.nameTooLong length limit)), after, changed) ↔
          TooLong client.config endpoint.name name length limit ∧
            after = client ∧ changed = world) ∧
      ∀ token, endpoint.hasPort token → ∀ length limit after changed,
        renamePort endpoint token name client world =
            (.error (.failed (.nameTooLong length limit)), after, changed) ↔
          TooLong client.config endpoint.name name length limit ∧
            after = client ∧ changed = world) ∧
    ∀ node inputs outputs, validateName client.config node = .ok () →
      ∀ length limit after changed,
        publish node inputs outputs client world =
            (.error (.failed (.nameTooLong length limit)), after, changed) ↔
          (∃ early port late, generatedPorts inputs outputs = early ++ port :: late ∧
            (∀ earlier ∈ early, Fits client.config node earlier) ∧
            TooLong client.config node port.1 length limit) ∧ after = client ∧ changed = world := by
  rcases Option.isSome_iff_exists.1 opened with ⟨transport, isOpen⟩
  refine ⟨fun endpoint name named clean => ⟨?_, ?_⟩, ?_⟩
  · intro direction length limit after changed
    rw [addPort_eq_error_iff healthy isOpen rfl, validatePortName_eq_error_iff named clean]
  · intro token known length limit after changed
    rw [renamePort_eq_error_iff healthy isOpen rfl known,
      validatePortName_eq_error_iff named clean]
  · intro node inputs outputs valid length limit after changed
    rw [publish_eq_error_iff healthy isOpen rfl, validateAll_generated_eq_error_iff valid]

/--
Lengths are counted in bytes. The added port is refused with its full length; the generated one is
too long even without its node.
-/
theorem portName_limit_bytes :
    let client : Client Script :=
      { config := { maxNameLen := 9 }, backend := "script", transport := some Script.transport }
    client.poison = none ∧ client.isOpen ∧ validateName client.config "né" = .ok () ∧
      addPort { token := 1, name := "né" } "éçéé" .input client {} =
        (.error (.failed (.nameTooLong 12 9)), client, {}) ∧
      publish "né" 0 2 client {} = (.error (.failed (.nameTooLong 10 9)), client, {}) := by
  intro client
  have valid : validateName client.config "né" = .ok () := by decide +kernel
  have healthy : client.poison = none := rfl
  rcases portName_limit healthy rfl {} with ⟨naming, publishing⟩
  refine ⟨rfl, rfl, valid, ?_, ?_⟩
  · have named := (naming { token := 1, name := "né" } "éçéé" (by decide) (by decide)).1
    apply (named .input 12 9 client {}).2
    exact ⟨⟨by decide +kernel, rfl, by decide +kernel⟩, rfl, rfl⟩
  · apply (publishing "né" 0 2 valid 10 9 client {}).2
    refine ⟨⟨[], ("midi_out_1", .output), [("midi_out_2", .output)], ?_, ?_, ?_⟩, rfl, rfl⟩
    · decide +kernel
    · simp
    · exact ⟨by decide +kernel, rfl, by decide +kernel⟩

/-- A port name that is too long by itself is refused with its own length, not with the full one. -/
theorem addPort_length_without_node :
    let client : Client Script :=
      { config := { maxNameLen := 5 }, backend := "script", transport := some Script.transport }
    (addPort { token := 1, name := "n" } "pppppp" .input client {}).1 =
        .error (.failed (.nameTooLong 6 5)) ∧
      client.config.maxNameLen.toNat < fullNameLength "n" "pppppp" ∧
      fullNameLength "n" "pppppp" ≠ 6 := by
  decide +kernel

end Client

end MediaGraph
