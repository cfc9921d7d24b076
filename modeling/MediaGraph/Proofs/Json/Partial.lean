import MediaGraph.Proofs.Json.Layout
import MediaGraph.Proofs.Json.Records

/-!
# Partial configurations

A configuration may be given in part: an object gives some of the fields, each once, in any order
and among members of other names, and the fields that it leaves out keep their defaults. Members of
other names are read and dropped, however they are nested.

`Config.ofJson?_object_eq_some_iff` says exactly which objects are read, and as what. The readers of
the single fields come into it only by what they accept (`Config.Field.Writes`), so both halves of
`Config.partial_configurations` follow from it without a look at the readers.
-/

namespace MediaGraph

/-! ## Values and their readers -/

namespace Json

variable {json : Json} {members others : List (Option String × Json)} {key : String}

theorem text?_eq_some_iff {value : String} : json.text? = some value ↔ json = text value := by
  constructor
  · intro read
    match json with
    | scalar (.string _) =>
        cases read
        rfl
  · rintro rfl
    rfl

theorem longWord?_eq_some_iff {word : UInt64} :
    json.longWord? = some word ↔ json = natural word.toNat := by
  constructor
  · intro read
    match json with
    | natural value =>
        simp only [longWord?, below?] at read
        split at read
        case isTrue small =>
          cases read
          rw [UInt64.toNat_ofNat_of_lt' small]
        case isFalse => cases read
  · rintro rfl
    exact longWord?_natural word

theorem valuesOf_append (key : String) (members others : List (Option String × Json)) :
    valuesOf key (members ++ others) = valuesOf key members ++ valuesOf key others :=
  List.filterMap_append

theorem valuesOf_perm (key : String) (perm : members.Perm others) :
    (valuesOf key members).Perm (valuesOf key others) :=
  perm.filterMap _

theorem mem_valuesOf : json ∈ valuesOf key members ↔ (some key, json) ∈ members := by
  rw [valuesOf, List.mem_filterMap]
  constructor
  · rintro ⟨⟨name, value⟩, member, named⟩
    split at named
    case isTrue same =>
      cases named
      cases same
      exact member
    case isFalse => cases named
  · intro member
    exact ⟨_, member, if_pos rfl⟩

theorem valuesOf_eq_nil (absent : ∀ member ∈ members, member.1 ≠ some key) :
    valuesOf key members = [] := by
  rw [valuesOf, List.filterMap_eq_nil_iff]
  intro member isMember
  exact if_neg (absent member isMember)

end Json

theorem Properties.mapM_entry?_eq_some_iff {members : List (Option String × Json)}
    {entries : List (String × String)} : members.mapM entry? = some entries ↔
      members = entries.map fun entry => (some entry.1, Json.text entry.2) := by
  constructor
  · intro read
    induction members generalizing entries with
    | nil =>
        cases read
        rfl
    | cons member members ih =>
        simp only [List.mapM_cons, bind, Option.bind_eq_some_iff] at read
        rcases read with ⟨entry, isEntry, rest, isRest, same⟩
        cases same
        rw [List.map_cons, ← ih isRest]
        rcases member with ⟨_ | name, value⟩
        · cases isEntry
        · simp only [ entry?, bind, Option.bind_eq_some_iff] at isEntry
          rcases isEntry with ⟨_, ⟨⟩, text, isText, ⟨⟩⟩
          rw [Json.text?_eq_some_iff.1 isText]
  · rintro rfl
    exact mapM_entry? entries

theorem Properties.ofJson?_eq_some_iff {json : Json} {props : Properties} :
    ofJson? json = some props ↔ ∃ entries : List (String × String),
      json = .object (entries.map fun entry => (some entry.1, .text entry.2)) ∧
        props = Table.ofList entries := by
  constructor
  · intro read
    match json with
    | .object members =>
        rw [ofJson?, Option.map_eq_some_iff] at read
        rcases read with ⟨entries, isEntries, rfl⟩
        exact ⟨entries, by rw [mapM_entry?_eq_some_iff.1 isEntries], rfl⟩
  · rintro ⟨entries, rfl, rfl⟩
    rw [ofJson?, mapM_entry?, Option.map_some]

namespace Config

/-! ## Fields -/

inductive Field where
  | clientName
  | syncRetryLimit
  | loopTimeoutMs
  | maxNameLen
  | nodeProperties
  deriving DecidableEq

namespace Field

def all : List Field := [clientName, syncRetryLimit, loopTimeoutMs, maxNameLen, nodeProperties]

def name : Field → String
  | clientName => "client_name"
  | syncRetryLimit => "sync_retry_limit"
  | loopTimeoutMs => "loop_timeout_ms"
  | maxNameLen => "max_name_len"
  | nodeProperties => "node_properties"

/-- The value that a configuration has in a field. -/
def toJson (config : Config) : Field → Json
  | clientName => .text config.clientName
  | syncRetryLimit => .natural config.syncRetryLimit.toNat
  | loopTimeoutMs => .natural config.loopTimeoutMs.toNat
  | maxNameLen => .natural config.maxNameLen.toNat
  | nodeProperties => config.nodeProperties.toJson

/-- The values that a field can take: strings, numbers below 2^64 and objects of strings. -/
def Fits : Field → Json → Prop
  | clientName, json => ∃ value : String, json = .text value
  | syncRetryLimit, json | loopTimeoutMs, json | maxNameLen, json =>
    ∃ value < UInt64.size, json = .natural value
  | nodeProperties, json => ∃ entries : List (String × String),
    json = .object (entries.map fun entry => (some entry.1, .text entry.2))

/-- The value is what a configuration has in a field. A dictionary may be given in any order. -/
def Writes (config : Config) : Field → Json → Prop
  | clientName, json => json = .text config.clientName
  | syncRetryLimit, json => json = .natural config.syncRetryLimit.toNat
  | loopTimeoutMs, json => json = .natural config.loopTimeoutMs.toNat
  | maxNameLen, json => json = .natural config.maxNameLen.toNat
  | nodeProperties, json => ∃ entries : List (String × String),
    json = .object (entries.map fun entry => (some entry.1, .text entry.2)) ∧
      config.nodeProperties = .ofList entries

/-- Two configurations have the same in a field. -/
def Agrees (first second : Config) : Field → Prop
  | clientName => first.clientName = second.clientName
  | syncRetryLimit => first.syncRetryLimit = second.syncRetryLimit
  | loopTimeoutMs => first.loopTimeoutMs = second.loopTimeoutMs
  | maxNameLen => first.maxNameLen = second.maxNameLen
  | nodeProperties => first.nodeProperties = second.nodeProperties

/-- The field is read, from its value or its default, as what the configuration has there. -/
def Reads (config : Config) (given : Option Json) : Field → Prop
  | clientName => field? standard.clientName Json.text? given = some config.clientName
  | syncRetryLimit =>
    field? standard.syncRetryLimit Json.longWord? given = some config.syncRetryLimit
  | loopTimeoutMs => field? standard.loopTimeoutMs Json.longWord? given = some config.loopTimeoutMs
  | maxNameLen => field? standard.maxNameLen Json.longWord? given = some config.maxNameLen
  | nodeProperties =>
    field? standard.nodeProperties Properties.ofJson? given = some config.nodeProperties

variable {field : Field} {config first second : Config} {json : Json}

theorem name_injective : Function.Injective name := by
  intro first second same
  cases first <;> cases second <;> first | rfl | exact absurd same (by decide)

theorem name_mem (field : Field) : field.name ∈ fieldNames := by
  cases field <;> decide

theorem Writes.fits (writes : field.Writes config json) : field.Fits json := by
  cases field with
  | clientName => exact ⟨_, writes⟩
  | syncRetryLimit | loopTimeoutMs | maxNameLen => exact ⟨_, UInt64.toNat_lt _, writes⟩
  | nodeProperties =>
      rcases writes with ⟨entries, same, -⟩
      exact ⟨entries, same⟩

theorem not_fits_null (field : Field) : ¬field.Fits .null := by
  cases field <;> rintro ⟨_, impossible⟩ <;> simp at impossible

/-- No field takes a number that is no 64-bit word. -/
theorem not_fits_natural {number : Nat} (large : UInt64.size ≤ number) (field : Field) :
    ¬field.Fits (.natural number) := by
  cases field with
  | clientName | nodeProperties =>
      rintro ⟨_, impossible⟩
      simp at impossible
  | syncRetryLimit | loopTimeoutMs | maxNameLen =>
      rintro ⟨value, small, same⟩
      cases same
      omega

theorem writes_toJson (agrees : field.Agrees first second) :
    field.Writes first (field.toJson second) := by
  cases field with
  | clientName | syncRetryLimit | loopTimeoutMs | maxNameLen =>
      simp only [Agrees] at agrees
      simp only [Writes, toJson, agrees]
  | nodeProperties =>
      refine ⟨second.nodeProperties.entries, ?_, ?_⟩
      · simp [toJson, Properties.toJson, Json.ofFields]
      · rw [show first.nodeProperties = second.nodeProperties from agrees, Table.ofList_entries]

/-- A field that is given at most once is read as its value, or as the default. -/
theorem field?_iff {α : Type} {default value : α} {read : Json → Option α} {writes : Json → Prop}
    (accepts : ∀ json, read json = some value ↔ writes json) {values : List Json} :
    values.length ≤ 1 ∧ field? default read values.head? = some value ↔
      (values = [] ∧ value = default) ∨ ∃ json, values = [json] ∧ writes json := by
  match values with
  | [] => simp [field?, eq_comm]
  | [json] => simp [field?, accepts]
  | _ :: _ :: _ => simp

theorem reads_iff {values : List Json} :
    values.length ≤ 1 ∧ field.Reads config values.head? ↔
      (values = [] ∧ field.Agrees config standard) ∨
        ∃ json, values = [json] ∧ field.Writes config json := by
  cases field with
  | clientName => exact field?_iff fun _ => Json.text?_eq_some_iff
  | syncRetryLimit | loopTimeoutMs | maxNameLen =>
      exact field?_iff fun _ => Json.longWord?_eq_some_iff
  | nodeProperties => exact field?_iff fun _ => Properties.ofJson?_eq_some_iff

theorem forall_iff {holds : Field → Prop} :
    (∀ field, holds field) ↔ ∀ field ∈ all, holds field := by
  constructor
  · exact fun every field _ => every field
  · intro every field
    exact every field (by cases field <;> decide)

end Field

variable {config : Config} {members : List (Option String × Json)}

/-! ## Which objects are read -/

theorem ofFieldValues?_eq_some_iff (given : Field → Option Json) :
    ofFieldValues? (Field.all.map given) = some config ↔
      ∀ field : Field, field.Reads config (given field) := by
  simp only [Field.all, List.map_cons, List.map_nil, ofFieldValues?, bind, pure,
    Option.bind_eq_some_iff, Option.some.injEq]
  constructor
  · rintro ⟨_, name, _, retries, _, timeout, _, length, _, props, rfl⟩ field
    cases field <;> assumption
  · intro reads
    exact ⟨_, reads .clientName, _, reads .syncRetryLimit, _, reads .loopTimeoutMs, _,
      reads .maxNameLen, _, reads .nodeProperties, rfl⟩

/-- The values that an object gives to a field. -/
def given (members : List (Option String × Json)) (field : Field) : List Json :=
  Json.valuesOf field.name members

/--
An object is read as a configuration if its names are readable and each field is either left out,
and has its default, or given once, by a value for what the configuration has there.
-/
theorem ofJson?_object_eq_some_iff : ofJson? (.object members) = some config ↔
    (∀ member ∈ members, member.1.isSome) ∧ ∀ field,
      (given members field = [] ∧ field.Agrees config standard) ∨
        ∃ json, given members field = [json] ∧ field.Writes config json := by
  have positions : (fieldNames.map fun name => Json.valuesOf name members) =
      Field.all.map (given members) := rfl
  have proper : (members.all (·.1.isSome) && (Field.all.map (given members)).all (·.length ≤ 1)) ↔
      (∀ member ∈ members, member.1.isSome) ∧ ∀ field, (given members field).length ≤ 1 := by
    simp [Field.forall_iff]
  simp only [ofJson?, Json.record?, positions]
  split
  case isTrue isProper =>
    rcases proper.1 isProper with ⟨named, single⟩
    rw [Option.bind_some, List.map_map]
    refine (ofFieldValues?_eq_some_iff _).trans ?_
    constructor
    · intro reads
      exact ⟨named, fun field => Field.reads_iff.1 ⟨single field, reads field⟩⟩
    · rintro ⟨-, fields⟩ field
      exact (Field.reads_iff.2 (fields field)).2
  case isFalse improper =>
    constructor
    · intro impossible
      cases impossible
    · rintro ⟨named, fields⟩
      exact absurd (proper.2 ⟨named, fun field => (Field.reads_iff.2 (fields field)).1⟩) improper

/-! ## Which texts are read -/

/-- What a configuration has in some fields, and the defaults in the others. -/
def only (config : Config) (fields : List Field) : Config where
  clientName := if .clientName ∈ fields then config.clientName else standard.clientName
  syncRetryLimit :=
    if .syncRetryLimit ∈ fields then config.syncRetryLimit else standard.syncRetryLimit
  loopTimeoutMs := if .loopTimeoutMs ∈ fields then config.loopTimeoutMs else standard.loopTimeoutMs
  maxNameLen := if .maxNameLen ∈ fields then config.maxNameLen else standard.maxNameLen
  nodeProperties :=
    if .nodeProperties ∈ fields then config.nodeProperties else standard.nodeProperties

theorem agrees_only (config : Config) (fields : List Field) (field : Field) :
    field.Agrees (config.only fields) (if field ∈ fields then config else standard) := by
  cases field <;> simp only [Field.Agrees, only] <;> split <;> rfl

/-- The members that give some fields what a configuration has there. -/
def membersOf (config : Config) (fields : List Field) : List (Option String × Json) :=
  fields.map fun field => (some field.name, field.toJson config)

theorem given_membersOf {fields : List Field} (distinct : fields.Nodup) (field : Field) :
    given (config.membersOf fields) field =
      if field ∈ fields then [field.toJson config] else [] := by
  induction fields with
  | nil => rfl
  | cons first fields ih =>
      rcases List.nodup_cons.1 distinct with ⟨absent, others⟩
      have further := ih others
      have split : given (config.membersOf (first :: fields)) field =
          given [(some first.name, first.toJson config)] field ++
            given (config.membersOf fields) field :=
        Json.valuesOf_append field.name [_] _
      rw [split, further]
      by_cases same : first = field
      · subst same
        simp [given, Json.valuesOf, absent]
      · have apart : first.name ≠ field.name := fun named => same (Field.name_injective named)
        simp [given, Json.valuesOf, apart, Ne.symm same]

/--
The members give some fields, each once, what a configuration has there. Between them there may be
members of any other names.
-/
def Offers (config : Config) (fields : List Field) (members : List (Option String × Json)) : Prop :=
  fields.Nodup ∧ ∃ foreign : List (String × Json),
    (∀ member ∈ foreign, member.1 ∉ fieldNames) ∧
      members.Perm (config.membersOf fields ++ foreign.map fun member => (some member.1, member.2))

/-- The members give a field twice, or a value that does not fit it. -/
inductive Spoils (members : List (Option String × Json)) (field : Field) : Prop where
  | repeated (twice : 1 < members.countP fun member => member.1 = some field.name)
  | unfit {json : Json} (member : (some field.name, json) ∈ members) (unfit : ¬field.Fits json)

theorem given_of_offers {fields : List Field} (offers : config.Offers fields members)
    (field : Field) :
    given members field = if field ∈ fields then [field.toJson config] else [] := by
  rcases offers with ⟨distinct, foreign, unknown, placed⟩
  have passed : Json.valuesOf field.name
      (foreign.map fun member => (some member.1, member.2)) = [] := by
    apply Json.valuesOf_eq_nil
    intro member isMember named
    rcases List.mem_map.1 isMember with ⟨other, isOther, rfl⟩
    apply unknown other isOther
    rw [Option.some.inj named]
    exact field.name_mem
  have perm : (given members field).Perm (given (config.membersOf fields) field) := by
    have perm := Json.valuesOf_perm field.name placed
    rw [Json.valuesOf_append, passed, List.append_nil] at perm
    exact perm
  rw [given_membersOf distinct] at perm
  split at perm
  case isTrue offered =>
    rw [if_pos offered]
    exact List.perm_singleton.1 perm
  case isFalse missing =>
    rw [if_neg missing]
    exact List.perm_nil.1 perm

theorem ofJson?_of_offers {fields : List Field} (offers : config.Offers fields members) :
    ofJson? (.object members) = some (config.only fields) := by
  rw [ofJson?_object_eq_some_iff]
  constructor
  · rcases offers with ⟨-, foreign, -, placed⟩
    intro member isMember
    rcases List.mem_append.1 (placed.mem_iff.1 isMember) with inside | outside
    · rcases List.mem_map.1 inside with ⟨_, -, rfl⟩
      rfl
    · rcases List.mem_map.1 outside with ⟨_, -, rfl⟩
      rfl
  · intro field
    have agrees := config.agrees_only fields field
    rw [given_of_offers offers]
    by_cases offered : field ∈ fields
    · rw [if_pos offered] at agrees ⊢
      exact .inr ⟨_, rfl, Field.writes_toJson agrees⟩
    · rw [if_neg offered] at agrees ⊢
      exact .inl ⟨rfl, agrees⟩

theorem length_given (members : List (Option String × Json)) (field : Field) :
    (given members field).length = members.countP fun member => member.1 = some field.name := by
  rw [given, Json.valuesOf, List.length_filterMap_eq_countP]
  apply List.countP_congr
  intro member _
  by_cases named : member.1 = some field.name <;> simp [named]

theorem ofJson?_of_spoils {field : Field} (spoils : Spoils members field) :
    ofJson? (.object members) = none := by
  rw [Option.eq_none_iff_forall_ne_some]
  intro config read
  have fields := (ofJson?_object_eq_some_iff.1 read).2 field
  cases spoils with
  | repeated twice =>
      rw [← length_given] at twice
      rcases fields with ⟨missing, -⟩ | ⟨json, single, -⟩
      · simp [missing] at twice
      · simp [single] at twice
  | @unfit json member unfit =>
      have listed : json ∈ given members field := Json.mem_valuesOf.2 member
      rcases fields with ⟨missing, -⟩ | ⟨other, single, writes⟩
      · simp [missing] at listed
      · rw [single, List.mem_singleton] at listed
        exact unfit (listed ▸ writes.fits)

/--
A text that gives some fields of a configuration, whatever else it gives and in whatever order and
layout, is read as these fields and the defaults. One that gives a field twice, or a value that
does not fit it, is not read at all.
-/
theorem partial_configurations :
    (∀ (config : Config) (fields : List Field) members (text : String),
      config.Offers fields members → Token.Layout (Json.object members).tokens text.toList →
        (Json.parse? text).bind ofJson? = some (config.only fields)) ∧
    ∀ members (field : Field) (text : String),
      Spoils members field → Token.Layout (Json.object members).tokens text.toList →
        (Json.parse? text).bind ofJson? = none := by
  constructor
  · intro config fields members text offers layout
    rw [Json.parse?_of_layout layout, Option.bind_some, ofJson?_of_offers offers]
  · intro members field text spoils layout
    rw [Json.parse?_of_layout layout, Option.bind_some, ofJson?_of_spoils spoils]

/-- Blanks and escapes, here the one for the first underscore of a name, make no difference. -/
example : (Json.parse? "\x7b\"client_name\": \"synth\",\n \"max\\u005fname_len\" : 64\x7d").bind
    ofJson? = some { clientName := "synth", maxNameLen := 64 } := by
  decide +kernel

/-- A text of the tokens with a blank before each of them. -/
def spaced (tokens : List Token) : String :=
  String.ofList (tokens.flatMap fun token => ' ' :: token.write)

/--
Two fields of five are given in another order, around an array with half a surrogate pair and a
fraction in it. With one of them given twice, as null or by too large a number nothing is read.
-/
theorem partial_configurations_spaced :
    let config : Config := { clientName := "synth", maxNameLen := 64, loopTimeoutMs := 5 }
    let parts : Json := .array [.scalar (.string none), .scalar (.number "0.5")]
    let vendor : Option String × Json := (some "vendor", parts)
    let name : Option String × Json := (some "client_name", .text "synth")
    let length (json : Json) : Option String × Json := (some "max_name_len", json)
    let read (members : List (Option String × Json)) : Option Config :=
      (Json.parse? (spaced (Json.object members).tokens)).bind ofJson?
    config.only [.maxNameLen, .clientName] = { clientName := "synth", maxNameLen := 64 } ∧
      read [length (.natural 64), vendor, name] = some (config.only [.maxNameLen, .clientName]) ∧
      read [length (.natural 64), vendor, length (.natural 64)] = none ∧
      read [vendor, length .null] = none ∧ read [vendor, length (.natural UInt64.size)] = none := by
  intro config parts vendor name length read
  have skipped : parts.Legible := by
    intro token member
    simp only [parts, Json.tokens, Json.itemTokens, List.mem_append, List.mem_cons,
      List.not_mem_nil, or_false] at member
    rcases member with rfl | rfl | rfl | rfl | rfl
    · trivial
    · trivial
    · trivial
    · exact ⟨by decide, by decide⟩
    · trivial
  have null : Json.null.Legible := Json.legible_scalar trivial
  have layout {members : List (Option String × Json)}
      (legible : ∀ member ∈ members, member.2.Legible) :
      Token.Layout (Json.object members).tokens (spaced (Json.object members).tokens).toList := by
    rw [spaced, String.toList_ofList]
    exact Token.layout_spaced (Json.legible_object legible)
  have offers : config.Offers [.maxNameLen, .clientName] [length (.natural 64), vendor, name] :=
    ⟨by decide, [("vendor", parts)], by decide, (List.Perm.swap _ _ []).cons _⟩
  have twice : Spoils [length (.natural 64), vendor, length (.natural 64)] .maxNameLen :=
    .repeated (by decide)
  have isNull : Spoils [vendor, length .null] .maxNameLen :=
    .unfit (by simp [length, Field.name]) (Field.not_fits_null _)
  have tooLarge : Spoils [vendor, length (.natural UInt64.size)] .maxNameLen :=
    .unfit (by simp [length, Field.name]) (Field.not_fits_natural (Nat.le_refl _) _)
  have reads := partial_configurations.1
  have refuses := partial_configurations.2
  refine ⟨by decide, ?_, ?_, ?_, ?_⟩
  · exact reads config _ _ _ offers (layout (by simp [length, vendor, name, skipped]))
  · exact refuses _ .maxNameLen _ twice (layout (by simp [length, vendor, skipped]))
  · exact refuses _ .maxNameLen _ isNull (layout (by simp [length, vendor, skipped, null]))
  · exact refuses _ .maxNameLen _ tooLarge (layout (by simp [length, vendor, skipped]))

end Config

end MediaGraph
