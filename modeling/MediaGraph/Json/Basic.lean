/-!
# JSON values

A JSON text denotes a value of `Json`. Two details of a text are kept because readers of records
depend on them:

* a numeral of plain digits is a `natural`; any other number (signed, with a point or an exponent)
  keeps its literal, because no field of this library accepts one;
* a string may escape half of a surrogate pair without the other half. No text corresponds to it,
  so such a string is `none`: it can be skipped but never read.

Members of an object keep their order and their repetitions.
-/

namespace MediaGraph

/-- A JSON value without parts. -/
inductive Scalar where
  | null
  | bool (value : Bool)
  | natural (value : Nat)
  | number (literal : String)
  | string (text : Option String)
  deriving DecidableEq

inductive Json where
  | scalar (value : Scalar)
  | array (items : List Json)
  | object (members : List (Option String × Json))

namespace Json

@[match_pattern]
abbrev null : Json := scalar .null

@[match_pattern]
abbrev bool (value : Bool) : Json := scalar (.bool value)

@[match_pattern]
abbrev natural (value : Nat) : Json := scalar (.natural value)

@[match_pattern]
abbrev text (value : String) : Json := scalar (.string (some value))

def ofFields (fields : List (String × Json)) : Json :=
  object (fields.map fun field => (some field.1, field.2))

def integer : Int → Json
  | .ofNat value => natural value
  | .negSucc value => scalar (.number ("-" ++ String.ofList (Nat.toDigits 10 (value + 1))))

def ofOption {α : Type} (encode : α → Json) : Option α → Json
  | some value => encode value
  | none => null

def text? : Json → Option String
  | scalar (.string value) => value
  | _ => none

def bool? : Json → Option Bool
  | bool value => some value
  | _ => none

/-- A number without sign, point and exponent. -/
def natural? : Json → Option Nat
  | natural value => some value
  | _ => none

/-- A number without point and exponent. -/
def integer? : Json → Option Int
  | natural value => some value
  | scalar (.number literal) => literal.toInt?
  | _ => none

/-- The values of an array, each read alike. -/
def list? {α : Type} (read : Json → Option α) : Json → Option (List α)
  | array items => items.mapM read
  | _ => none

/-- A value in whose place `null` may stand. -/
def nullable? {α : Type} (read : Json → Option α) : Json → Option (Option α)
  | null => some none
  | json => (read json).map some

def below? (bound : Nat) : Json → Option Nat
  | natural value => if value < bound then some value else none
  | _ => none

def word? (json : Json) : Option UInt32 := (json.below? UInt32.size).map UInt32.ofNat

def longWord? (json : Json) : Option UInt64 := (json.below? UInt64.size).map UInt64.ofNat

/-- The values of the members called `key`, in order. -/
def valuesOf (key : String) (members : List (Option String × Json)) : List Json :=
  members.filterMap fun member => if member.1 = some key then some member.2 else none

def field? (key : String) : Json → Option Json
  | object members => (valuesOf key members).getLast?
  | _ => none

/-- The last member called `key` of an object, read by `read`; a default if there is none. -/
def fieldOr? {α : Type} (key : String) (default : α) (read : Json → Option α) (json : Json) :
    Option α :=
  match json.field? key with
  | some value => read value
  | none => some default

/--
The fields of a record by position, `none` for one that is not given. A record is an object, whose
other members are skipped but whose named members come at most once, or an array of the fields in
their order, which may end early.
-/
def record? (names : List String) : Json → Option (List (Option Json))
  | object members =>
    let given := names.map fun name => valuesOf name members
    if members.all (·.1.isSome) && given.all (·.length ≤ 1) then some (given.map List.head?)
    else none
  | array items =>
    if items.length ≤ names.length then
      some (items.map some ++ List.replicate (names.length - items.length) none)
    else none
  | scalar _ => none

end Json

end MediaGraph
