import MediaGraph.Proofs.Graph.Listing
import MediaGraph.Server.Node
import Mathlib.Data.List.Induction

/-!
# How dictionaries are classified

A port comes to the graph as a dictionary of texts, and where it is filed depends on what a few of
them say. This is said here without the functions that read them: which texts write a number
(`Text.Writes`), which formats name a kind of media (`MediaKind.Named`), and so at which place a
dictionary puts its port (`Properties.PutsAt`) or why it cannot be filed (`Properties.Garbles`).

`insert_classifies` says that filing follows these rules on any graph. A number may have a plus sign
and leading zeros, and has to fit a word; the numbers that the server writes do.
-/

namespace MediaGraph

namespace Text

variable {text : String} {word : UInt32} {digits : List Char} {value : Nat}

/-! ## Numbers -/

/-- A run of digits that writes a number. -/
inductive Numeral : List Char → Nat → Prop where
  | one {c : Char} (digit : c.isDigit) : Numeral [c] (c.toNat - '0'.toNat)
  | more {c : Char} {digits : List Char} {value : Nat} (start : Numeral digits value)
    (digit : c.isDigit) : Numeral (digits ++ [c]) (10 * value + (c.toNat - '0'.toNat))

/-- A text writes a word if its digits do; one plus sign may stand before them. -/
def Writes (text : String) (word : UInt32) : Prop :=
  ∃ digits, (text.toList = digits ∨ text.toList = '+' :: digits) ∧ Numeral digits word.toNat

theorem numeral_iff : Numeral digits value ↔
    digits ≠ [] ∧ (∀ c ∈ digits, c.isDigit) ∧ value = Nat.ofDigitChars 10 digits 0 := by
  constructor
  · intro numeral
    induction numeral with
    | one digit => simpa [Nat.ofDigitChars] using digit
    | more start digit ih =>
        rcases ih with ⟨-, digits, rfl⟩
        refine ⟨by simp, ?_, by simp [Nat.ofDigitChars_append, Nat.ofDigitChars_cons]⟩
        simpa [or_imp, forall_and] using ⟨digits, digit⟩
  · rintro ⟨written, allDigits, rfl⟩
    induction digits using List.reverseRecOn with
    | nil => exact absurd rfl written
    | append_singleton digits c ih =>
        have digit : c.isDigit := allDigits c (by simp)
        by_cases first : digits = []
        · subst first
          simpa [Nat.ofDigitChars] using Numeral.one digit
        · have start := ih first fun other member => allDigits other (List.mem_append_left _ member)
          simpa [Nat.ofDigitChars_append, Nat.ofDigitChars_cons] using start.more digit

/-- Only a leading plus sign is taken off. -/
theorem eq_unsigned_or (chars : List Char) :
    chars = unsigned chars ∨ chars = '+' :: unsigned chars := by
  unfold unsigned
  split
  · exact .inr rfl
  · exact .inl rfl

theorem Writes.unsigned (writes : Writes text word) :
    Numeral (Text.unsigned text.toList) word.toNat := by
  rcases writes with ⟨digits, bare | signed, numeral⟩
  · have allDigits := (numeral_iff.1 numeral).2.1
    rwa [bare, unsigned_of_isDigit allDigits]
  · rwa [signed]

/-- A word is read from a text exactly if the text writes it. -/
theorem readWord?_eq_some_iff : readWord? text = some word ↔ Writes text word := by
  constructor
  · intro read
    simp only [readWord?] at read
    split at read
    case isFalse => cases read
    case isTrue isNumeral =>
      split at read
      case isFalse => cases read
      case isTrue small =>
        cases read
        refine ⟨unsigned text.toList, eq_unsigned_or _, numeral_iff.2 ⟨isNumeral.1, ?_, ?_⟩⟩
        · exact List.all_eq_true.1 isNumeral.2
        · exact UInt32.toNat_ofNat_of_lt' small
  · intro writes
    rcases numeral_iff.1 writes.unsigned with ⟨written, allDigits, value⟩
    have small : word.toNat < UInt32.size := word.toNat_lt
    simp only [readWord?, written, List.all_eq_true.2 allDigits, ← value, small, ne_eq,
      not_false_eq_true, and_self, if_true, UInt32.ofNat_toNat]

theorem readWord?_eq_none_iff : readWord? text = none ↔ ∀ word, ¬Writes text word := by
  simp only [Option.eq_none_iff_forall_ne_some, ne_eq, readWord?_eq_some_iff]

theorem not_writes_empty : ¬Writes "" word := by
  rw [← readWord?_eq_some_iff, show readWord? "" = none from rfl]
  nofun

/-! ## Substrings -/

/-- The pattern stands somewhere in the text. -/
def Occurs (pattern text : String) : Prop :=
  ∃ before after : String, text = before ++ pattern ++ after

theorem contains_iff {pattern text : String} : contains text pattern ↔ Occurs pattern text := by
  simp only [contains, occursIn_iff, Occurs]
  constructor
  · rintro ⟨before, after, split⟩
    refine ⟨.ofList before, .ofList after, ?_⟩
    apply String.toList_injective
    simpa using split
  · rintro ⟨before, after, rfl⟩
    exact ⟨before.toList, after.toList, by simp⟩

end Text

/-! ## What a dictionary says -/

/-- A format names the kinds that occur in it, but midi only if audio does not. -/
inductive MediaKind.Named (format : String) : MediaKind → Prop where
  | audio (occurs : Text.Occurs "audio" format) : Named format .audio
  | midi (silent : ¬Text.Occurs "audio" format) (occurs : Text.Occurs "midi" format) :
    Named format .midi

theorem MediaKind.ofFormat?_eq_some_iff {format : String} {kind : MediaKind} :
    ofFormat? format = some kind ↔ Named format kind := by
  simp only [ofFormat?]
  constructor
  · intro found
    split at found
    case isTrue occurs =>
      cases found
      exact .audio (Text.contains_iff.1 occurs)
    case isFalse silent =>
      split at found
      case isTrue occurs =>
        cases found
        exact .midi (mt Text.contains_iff.2 silent) (Text.contains_iff.1 occurs)
      case isFalse => cases found
  · rintro (occurs | ⟨silent, occurs⟩)
    · rw [if_pos (Text.contains_iff.2 occurs)]
    · rw [if_neg (mt Text.contains_iff.1 silent), if_pos (Text.contains_iff.2 occurs)]

/-- A format is of no kind exactly if neither word occurs in it. -/
theorem MediaKind.ofFormat?_eq_none_iff {format : String} :
    ofFormat? format = none ↔
      ¬Text.Occurs "audio" format ∧ ¬Text.Occurs "midi" format := by
  simp only [ofFormat?, ← Text.contains_iff]
  split
  case isTrue audio => simp [audio]
  case isFalse silent => split <;> simp_all

namespace Properties

variable {props : Properties} {place : Place}

/-- The node id is a text that writes no word. -/
def Garbles (props : Properties) (value : String) : Prop :=
  props.get? Key.nodeId = some value ∧ value ≠ "" ∧ ∀ word, ¬Text.Writes value word

/-- The dictionary says which node a port belongs to, and which category. -/
structure PutsAt (props : Properties) (place : Place) : Prop where
  node : ∃ value, props.get? Key.nodeId = some value ∧ Text.Writes value place.node
  kind : ∃ format, props.get? Key.format = some format ∧ place.category.kind.Named format
  origin : place.category.origin = .physical ↔ props.get? Key.portPhysical = some "true"

/-- There is no node id, or an empty one, or the format names neither kind. -/
def Unplaced (props : Properties) : Prop :=
  props.get? Key.nodeId = none ∨ props.get? Key.nodeId = some "" ∨
    ∀ format, props.get? Key.format = some format →
      ¬Text.Occurs "audio" format ∧ ¬Text.Occurs "midi" format

theorem Unplaced.not_putsAt (unplaced : props.Unplaced) : ¬props.PutsAt place := by
  rintro ⟨⟨value, isValue, writes⟩, ⟨format, isFormat, named⟩, -⟩
  rcases unplaced with absent | empty | unnamed
  · rw [absent] at isValue
    cases isValue
  · rw [empty] at isValue
    cases isValue
    exact Text.not_writes_empty writes
  · rcases unnamed format isFormat with ⟨noAudio, noMidi⟩
    generalize place.category.kind = kind at named
    cases named with
    | audio occurs => exact noAudio occurs
    | midi _ occurs => exact noMidi occurs

/-- A text that is not empty is read exactly if it is the value of its key. -/
theorem text_eq_iff {key value : String} (written : value ≠ "") :
    props.text key = value ↔ props.get? key = some value := by
  simp only [text]
  cases props.get? key with
  | none => simpa using written.symm
  | some other => simp

end Properties

namespace Port

variable {id : ObjectId} {props others : Properties} {place : Place} {malformed : MalformedNode}

/-! ## Where its port belongs -/

theorem nodeId?_eq_some_iff {node : ObjectId} :
    (ofProperties id props).nodeId? = .ok (some node) ↔
      ∃ value, props.get? Key.nodeId = some value ∧ Text.Writes value node := by
  have isNode : (ofProperties id props).nodeId? = .ok (some node) ↔
      props.text Key.nodeId ≠ "" ∧ Text.Writes (props.text Key.nodeId) node := by
    rw [← Text.readWord?_eq_some_iff, nodeId?]
    by_cases named : props.text Key.nodeId = ""
    · simp [ofProperties, named]
    · cases read : Text.readWord? (props.text Key.nodeId) <;> simp [ofProperties, named, read]
  rw [isNode]
  constructor
  · rintro ⟨written, writes⟩
    exact ⟨_, (Properties.text_eq_iff written).1 rfl, writes⟩
  · rintro ⟨value, isValue, writes⟩
    have written : value ≠ "" := fun empty => Text.not_writes_empty (empty ▸ writes)
    rw [(Properties.text_eq_iff written).2 isValue]
    exact ⟨written, writes⟩

theorem kind?_eq_some_iff {kind : MediaKind} :
    (ofProperties id props).kind? = some kind ↔
      ∃ format, props.get? Key.format = some format ∧ kind.Named format := by
  have isKind : (ofProperties id props).kind? = some kind ↔
      MediaKind.Named (props.text Key.format) kind := MediaKind.ofFormat?_eq_some_iff
  rw [isKind, Properties.text]
  cases props.get? Key.format with
  | none =>
      have unnamed : MediaKind.ofFormat? "" = none := by decide
      simp [← MediaKind.ofFormat?_eq_some_iff, unnamed]
  | some format => simp

theorem origin_eq_iff {origin : Origin} :
    (ofProperties id props).origin = origin ↔
      (origin = .physical ↔ props.get? Key.portPhysical = some "true") := by
  simp only [Port.origin, ofProperties, Properties.flag]
  cases origin <;> simp

theorem direction_eq_iff {direction : Direction} :
    (ofProperties id props).direction = direction ↔
      (direction = .output ↔ props.get? Key.portDirection = some "out") := by
  rw [← Properties.text_eq_iff (by decide)]
  simp only [ofProperties, Direction.ofProperty]
  cases direction <;> split <;> simp_all

theorem place?_eq_error_iff :
    (ofProperties id props).place? = .error malformed ↔
      malformed.port = id ∧ props.Garbles malformed.value := by
  have isError : (ofProperties id props).place? = .error malformed ↔
      (ofProperties id props).nodeId? = .error malformed := by
    simp only [place?]
    split <;> simp_all
  rw [isError, nodeId?_eq_error_iff, Text.readWord?_eq_none_iff]
  constructor
  · rintro ⟨rfl, written, unread⟩
    exact ⟨rfl, (Properties.text_eq_iff written).1 rfl, written, unread⟩
  · rintro ⟨rfl, isValue, written, unread⟩
    have read := (Properties.text_eq_iff written).2 isValue
    rcases malformed with ⟨port, value⟩
    simp only [ofProperties, read]
    exact ⟨trivial, written, unread⟩

theorem place?_eq_ok_some_iff :
    (ofProperties id props).place? = .ok (some place) ↔ props.PutsAt place := by
  rcases place with ⟨category, node⟩
  rw [place?_eq_some_iff, nodeId?_eq_some_iff, category?_eq_some_iff, kind?_eq_some_iff,
    origin_eq_iff]
  constructor
  · rintro ⟨isNode, isKind, isOrigin⟩
    exact ⟨isNode, isKind, isOrigin⟩
  · rintro ⟨isNode, isKind, isOrigin⟩
    exact ⟨isNode, isKind, isOrigin⟩

theorem place?_eq_ok_none_iff :
    (ofProperties id props).place? = .ok none ↔
      props.Unplaced ∧ ∀ value, ¬props.Garbles value := by
  constructor
  · intro unplaced
    refine ⟨?_, fun value garbles => ?_⟩
    · have missing := (isSome_place unplaced).not.1 nofun
      by_cases named : props.text Key.nodeId = ""
      · cases found : props.get? Key.nodeId with
        | none => exact .inl found
        | some value =>
            simp only [Properties.text, found, Option.getD_some] at named
            exact .inr (.inl (named ▸ found))
      · have unclassified : MediaKind.ofFormat? (props.text Key.format) = none := by
          simpa [named, ofProperties, category?, kind?] using missing
        refine .inr (.inr fun format isFormat => ?_)
        simp only [Properties.text, isFormat, Option.getD_some] at unclassified
        exact MediaKind.ofFormat?_eq_none_iff.1 unclassified
    · have malformed : (ofProperties id props).place? = .error ⟨id, value⟩ :=
        place?_eq_error_iff.2 ⟨rfl, garbles⟩
      cases unplaced.symm.trans malformed
  · rintro ⟨unplaced, legible⟩
    rcases found : (ofProperties id props).place? with malformed | _ | place
    · exact absurd (place?_eq_error_iff.1 found).2 (legible malformed.value)
    · rfl
    · exact absurd (place?_eq_ok_some_iff.1 found) unplaced.not_putsAt

end Port

/-- The keys that a port is read from. -/
def Key.ofPort : List String :=
  [Key.format, Key.portName, Key.portAlias, Key.objectPath, Key.nodeId, Key.portIndex,
   Key.portPhysical, Key.portTerminal, Key.portMonitor, Key.portDirection]

theorem Port.ofProperties_congr (id : ObjectId) {props others : Properties}
    (agree : ∀ key ∈ Key.ofPort, props.get? key = others.get? key) :
    Port.ofProperties id props = Port.ofProperties id others := by
  simp only [Key.ofPort, List.forall_mem_cons] at agree
  simp only [Port.ofProperties, Properties.text, Properties.flag, agree]

/-- The server writes the id of a node in the one way that is read as this id. -/
theorem OfferedPort.writes_node (port : OfferedPort) (node : ObjectId) (index : Nat) :
    ∃ value, (port.shownProperties node index).get? Key.nodeId = some value ∧
      ∀ word, Text.Writes value word ↔ word = node := by
  refine ⟨Text.decimal node.toNat, ?_, fun word => ?_⟩
  · simp [shownProperties, Key.nodeId, Key.portDirection, Key.portIndex]
  · rw [← Text.readWord?_eq_some_iff, Text.readWord?_decimal, Option.some.injEq, eq_comm]

namespace Graph

/-- Filing a port goes by its place: it stays out, it only drops its former record, or it lands. -/
theorem perform_insert (graph : Graph) (port : Port) :
    graph.perform (.insert port) =
      match port.place? with
      | .error malformed => (.malformed malformed, graph)
      | .ok none => (.landed none, (graph.remove port.id).2)
      | .ok (some place) => (.landed (some place), (graph.remove port.id).2.file place port) := by
  simp only [perform, insert]
  rcases port.place? with malformed | _ | place <;> rfl

theorem malformed_iff {graph : Graph} {port : Port} {malformed : MalformedNode} :
    (graph.perform (.insert port)).1 = .malformed malformed ↔ port.place? = .error malformed := by
  rw [perform_insert]
  rcases port.place? with other | _ | place <;> simp

theorem landed_iff {graph : Graph} {port : Port} {place : Option Place} :
    (graph.perform (.insert port)).1 = .landed place ↔ port.place? = .ok place := by
  rw [perform_insert]
  rcases port.place? with other | _ | other <;> simp

/--
A dictionary whose node id is no number is refused, and the graph stays as it is. A dictionary that
names no node or no known kind of media drops the former record of its port. Any other lands: at
the node whose number it writes, in the category that it says, and among the outputs exactly if its
direction is `out`. Nothing but the keys of a port counts, and the numbers that the server writes
are read as they are.
-/
theorem insert_classifies (graph : Graph) (id : ObjectId) (props : Properties) :
    let port := Port.ofProperties id props
    let filed := graph.perform (.insert port)
    (∀ malformed, filed.1 = .malformed malformed ↔
      malformed.port = id ∧ props.Garbles malformed.value) ∧
    (filed.1 = .landed none ↔ props.Unplaced ∧ ∀ value, ¬props.Garbles value) ∧
    (∀ place, filed.1 = .landed (some place) ↔ props.PutsAt place) ∧
    (∀ malformed, filed.1 = .malformed malformed → filed.2 = graph) ∧
    (filed.1 = .landed none → filed.2 = (graph.remove id).2) ∧
    (∀ place, filed.1 = .landed (some place) → ∀ other direction,
      filed.2.ports other direction =
        if other = place ∧
            (direction = .output ↔ props.get? Key.portDirection = some "out") then
          (graph.remove id).2.ports other direction ++ [port]
        else (graph.remove id).2.ports other direction) ∧
    (∀ others : Properties, (∀ key ∈ Key.ofPort, props.get? key = others.get? key) →
      graph.perform (.insert (Port.ofProperties id others)) = filed) ∧
    ∀ (offered : OfferedPort) (node : ObjectId) (index : Nat),
      ∃ value, (offered.shownProperties node index).get? Key.nodeId = some value ∧
        ∀ word, Text.Writes value word ↔ word = node := by
  intro port filed
  refine ⟨?_, ?_, ?_, ?_, ?_, ?_, ?_, OfferedPort.writes_node⟩
  · intro malformed
    exact malformed_iff.trans Port.place?_eq_error_iff
  · exact landed_iff.trans Port.place?_eq_ok_none_iff
  · intro place
    exact landed_iff.trans Port.place?_eq_ok_some_iff
  · intro malformed refused
    simp only [filed, perform_insert, malformed_iff.1 refused]
  · intro dropped
    simp only [filed, perform_insert, landed_iff.1 dropped]
    rfl
  · intro place landed other direction
    simp only [filed, perform_insert, landed_iff.1 landed, ports_file]
    exact if_congr (and_congr_right fun _ => Port.direction_eq_iff) rfl rfl
  · intro others agree
    simp only [filed, port, Port.ofProperties_congr id agree]

/-- An output of a device that names both kinds of media. -/
def deviceOutput (node : String) : Properties :=
  .ofList [(Key.nodeId, node), (Key.format, "midi and audio"), (Key.portPhysical, "true"),
    (Key.portDirection, "out")]

/-- A port that is filed already comes with a number too large, and then at another node. -/
theorem insert_classifies_moved :
    let graph := (empty.perform (.insert (Port.ofProperties 8 (deviceOutput "4")))).2
    let tooLarge := graph.perform (.insert (Port.ofProperties 8 (deviceOutput "4294967296")))
    let moved := graph.perform (.insert (Port.ofProperties 8 (deviceOutput "+0010")))
    let place : Place := ⟨⟨.physical, .audio⟩, 10⟩
    (deviceOutput "4294967296").Garbles "4294967296" ∧ tooLarge.2 = graph ∧
      (deviceOutput "+0010").PutsAt place ∧
      moved.2.ports place .output = [Port.ofProperties 8 (deviceOutput "+0010")] ∧
      graph.perform (.insert (Port.ofProperties 8
        ((deviceOutput "+0010").insert Key.nodeName "synth"))) = moved := by
  intro graph tooLarge moved place
  rcases insert_classifies graph 8 (deviceOutput "4294967296") with ⟨garbles, -, -, kept, -⟩
  rcases insert_classifies graph 8 (deviceOutput "+0010") with ⟨-, -, puts, -, -, lands, same, -⟩
  have refused : tooLarge.1 = .malformed ⟨8, "4294967296"⟩ := by decide +kernel
  have landed : moved.1 = .landed (some place) := by decide +kernel
  refine ⟨((garbles _).1 refused).2, kept _ refused, (puts place).1 landed, ?_, ?_⟩
  · have dropped : (graph.remove 8).2.ports place .output = [] := by decide +kernel
    have out : (deviceOutput "+0010").get? Key.portDirection = some "out" := by decide +kernel
    rw [lands place landed, if_pos ⟨rfl, by simp [out]⟩, dropped]
    rfl
  · exact same _ (by decide +kernel)

end Graph

end MediaGraph
