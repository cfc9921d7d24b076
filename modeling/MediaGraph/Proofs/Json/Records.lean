import MediaGraph.Config
import MediaGraph.Port.Json
import MediaGraph.Proofs.Json.Reading
import MediaGraph.Proofs.Table

/-!
# Dictionaries and records in JSON

A dictionary is written as an object whose members stand in key order, and a record as an object
with one member for each field. Reading an object of fields gives each field its value
(`Json.record?_ofFields`), and words fit the fields that they were written to, so dictionaries,
ports and configurations are all recovered from their texts.
-/

namespace MediaGraph

namespace Json

variable {names : List String} {values : List Json}

/-! ## Records -/

/-- The members of an object that gives each name its value. -/
def namedMembers (names : List String) (values : List Json) : List (Option String × Json) :=
  (names.zip values).map fun field => (some field.1, field.2)

theorem valuesOf_of_absent {name : String} (absent : name ∉ names) (values : List Json) :
    valuesOf name (namedMembers names values) = [] := by
  rw [valuesOf, List.filterMap_eq_nil_iff]
  intro member isMember
  rcases List.mem_map.1 isMember with ⟨⟨other, value⟩, isField, rfl⟩
  have isName := (List.of_mem_zip isField).1
  rw [if_neg]
  rintro ⟨⟩
  exact absent isName

theorem valuesOf_named (name key : String) (value : Json) (names : List String)
    (values : List Json) :
    valuesOf key (namedMembers (name :: names) (value :: values)) =
      if name = key then value :: valuesOf key (namedMembers names values)
      else valuesOf key (namedMembers names values) := by
  have same : namedMembers (name :: names) (value :: values) =
      (some name, value) :: namedMembers names values := rfl
  rw [same, valuesOf, List.filterMap_cons]
  by_cases isKey : name = key <;> simp [isKey, valuesOf]

theorem map_valuesOf (distinct : names.Nodup) (complete : names.length = values.length) :
    names.map (fun name => valuesOf name (namedMembers names values)) = values.map ([·]) := by
  induction names generalizing values with
  | nil => rw [List.eq_nil_of_length_eq_zero complete.symm, List.map_nil, List.map_nil]
  | cons name names ih =>
      rcases List.nodup_cons.1 distinct with ⟨absent, others⟩
      cases values with
      | nil => cases complete
      | cons value values =>
          have further : names.map (fun other =>
              valuesOf other (namedMembers (name :: names) (value :: values))) =
              values.map ([·]) := by
            rw [← ih others (Nat.succ.inj complete)]
            apply List.map_congr_left
            intro other member
            have apart : name ≠ other := fun same => absent (same ▸ member)
            rw [valuesOf_named, if_neg apart]
          rw [List.map_cons, further, valuesOf_named, if_pos rfl, valuesOf_of_absent absent,
            List.map_cons]

/-- Each field of a written record is read with its value. -/
theorem record?_ofFields (distinct : names.Nodup) (complete : names.length = values.length) :
    (ofFields (names.zip values)).record? names = some (values.map some) := by
  have given := map_valuesOf distinct complete
  have named : (namedMembers names values).all (·.1.isSome) := by
    simp [namedMembers]
  have single : (values.map ([·])).all (·.length ≤ 1) := by
    simp
  have heads : (values.map ([·])).map List.head? = values.map some := by
    rw [List.map_map]
    rfl
  have written : ofFields (names.zip values) = object (namedMembers names values) := rfl
  simp only [written, record?, given, named, single, heads, Bool.and_self, if_true]

theorem word?_natural (word : UInt32) : (natural word.toNat).word? = some word := by
  have small : word.toNat < UInt32.size := word.toNat_lt
  simp [Json.word?, below?, small]

theorem longWord?_natural (word : UInt64) : (natural word.toNat).longWord? = some word := by
  have small : word.toNat < UInt64.size := word.toNat_lt
  simp [longWord?, below?, small]

theorem legible_ofFields {fields : List (String × Json)}
    (legible : ∀ field ∈ fields, field.2.Legible) : (ofFields fields).Legible := by
  apply legible_object
  intro member isMember
  rcases List.mem_map.1 isMember with ⟨field, isField, rfl⟩
  exact legible field isField

theorem legible_record (names : List String) (legible : ∀ value ∈ values, value.Legible) :
    (ofFields (names.zip values)).Legible :=
  legible_ofFields fun _ isField => legible _ (List.of_mem_zip isField).2

end Json

/-! ## Dictionaries -/

namespace Properties

theorem mapM_entry? (entries : List (String × String)) :
    (entries.map fun entry => (some entry.1, Json.text entry.2)).mapM entry? = some entries := by
  induction entries with
  | nil => rfl
  | cons entry rest ih =>
      rw [List.map_cons, List.mapM_cons, ih]
      rfl

theorem ofJson?_toJson (props : Properties) : ofJson? props.toJson = some props := by
  have members : props.toJson =
      .object (props.entries.map fun entry => (some entry.1, Json.text entry.2)) := by
    simp [toJson, Json.ofFields]
  rw [members, ofJson?, mapM_entry?, Option.map_some, Table.ofList_entries]

theorem legible_toJson (props : Properties) : props.toJson.Legible := by
  apply Json.legible_ofFields
  intro field isField
  rcases List.mem_map.1 isField with ⟨entry, -, rfl⟩
  exact Json.legible_text entry.2

theorem recovers_toJson : Json.Recovers toJson ofJson? := ⟨legible_toJson, ofJson?_toJson⟩

end Properties

/-! ## Ports -/

namespace Port

theorem ofJson?_toJson (port : Port) : ofJson? port.toJson = some port := by
  have direction : Direction.ofJson? port.direction.toJson = some port.direction := by
    cases port.direction <;> rfl
  have read : port.toJson.record? fieldNames = some (port.fieldValues.map some) :=
    Json.record?_ofFields (by decide) rfl
  rw [ofJson?, read, Option.bind_some]
  simp [fieldValues, ofFieldValues?, direction, Json.word?_natural, Json.text?, Json.bool?]

theorem legible_toJson (port : Port) : port.toJson.Legible := by
  apply Json.legible_record
  simp [fieldValues, Direction.toJson]

theorem recovers_toJson : Json.Recovers toJson ofJson? := ⟨legible_toJson, ofJson?_toJson⟩

end Port

/-! ## Configurations -/

namespace Config

theorem ofJson?_toJson (config : Config) : ofJson? config.toJson = some config := by
  have read : config.toJson.record? fieldNames = some _ :=
    Json.record?_ofFields (by decide) rfl
  rw [ofJson?, read, Option.bind_some]
  simp [ofFieldValues?, field?, Json.longWord?_natural, Json.text?, Properties.ofJson?_toJson]

theorem legible_toJson (config : Config) : config.toJson.Legible := by
  apply Json.legible_record
  simp [config.nodeProperties.legible_toJson]

theorem recovers_toJson : Json.Recovers toJson ofJson? := ⟨legible_toJson, ofJson?_toJson⟩

end Config

/--
Dictionaries, ports and configurations are read back from the texts that they are written to,
whatever characters their strings have and up to the largest of their words. So no two of a kind
are written alike.
-/
theorem texts_round_trip :
    (∀ props : Properties,
      (Json.parse? props.toJson.render).bind Properties.ofJson? = some props) ∧
    (∀ port : Port, (Json.parse? port.toJson.render).bind Port.ofJson? = some port) ∧
    (∀ config : Config, (Json.parse? config.toJson.render).bind Config.ofJson? = some config) ∧
    Function.Injective (fun props : Properties => props.toJson.render) ∧
    Function.Injective (fun port : Port => port.toJson.render) ∧
    Function.Injective (fun config : Config => config.toJson.render) :=
  ⟨Properties.recovers_toJson.parse, Port.recovers_toJson.parse, Config.recovers_toJson.parse,
    Properties.recovers_toJson.injective, Port.recovers_toJson.injective,
    Config.recovers_toJson.injective⟩

/-- The quote, the backslash and control characters are escaped, and nothing else is. -/
example : (Properties.toJson (.ofList [("key", "\"\x00\n\\\x7f")])).render =
    "\x7b\"key\":\"\\\"\\u0000\\n\\\\\x7f\"\x7d" := by
  decide +kernel

end MediaGraph
