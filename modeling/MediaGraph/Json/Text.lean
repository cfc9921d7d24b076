import MediaGraph.Json.Token

/-!
# Reading and writing JSON texts

Reading is one pass over the tokens with a stack of the arrays and objects that are still open, so
it needs no bound on nesting. Writing is compact: no blanks, members in their order.
-/

namespace MediaGraph.Json

/-- An array or object that is still open and waits for a value. Earlier parts stand newest
first. -/
inductive Frame where
  | array (before : List Json)
  | object (before : List (Option String × Json)) (key : Option String)

mutual

/-- Reads a value and puts it into the innermost open frame. -/
def readValue (stack : List Frame) : List Token → Option Json
  | .openArray :: .closeArray :: rest => afterValue stack (array []) rest
  | .openArray :: rest => readValue (.array [] :: stack) rest
  | .openObject :: .closeObject :: rest => afterValue stack (object []) rest
  | .openObject :: .scalar (.string key) :: .colon :: rest =>
    readValue (.object [] key :: stack) rest
  | .scalar value :: rest => afterValue stack (scalar value) rest
  | _ => none

/-- Goes on behind a finished value: to the next one, to the end of its frame, or to the end. -/
def afterValue (stack : List Frame) (value : Json) (tokens : List Token) : Option Json :=
  match tokens, stack with
  | [], [] => some value
  | .comma :: rest, .array before :: stack => readValue (.array (value :: before) :: stack) rest
  | .closeArray :: rest, .array before :: stack =>
    afterValue stack (array (value :: before).reverse) rest
  | .comma :: .scalar (.string next) :: .colon :: rest, .object before key :: stack =>
    readValue (.object ((key, value) :: before) next :: stack) rest
  | .closeObject :: rest, .object before key :: stack =>
    afterValue stack (object ((key, value) :: before).reverse) rest
  | _, _ => none

end

def ofTokens? (tokens : List Token) : Option Json := readValue [] tokens

def parse? (text : String) : Option Json := (Token.scan text.toList).bind ofTokens?

mutual

def tokens : Json → List Token
  | scalar value => [.scalar value]
  | array [] => [.openArray, .closeArray]
  | array (first :: others) => .openArray :: (tokens first ++ itemTokens others)
  | object [] => [.openObject, .closeObject]
  | object ((key, value) :: others) =>
    .openObject :: .scalar (.string key) :: .colon :: (tokens value ++ memberTokens others)

/-- The tokens behind the first item of an array. -/
def itemTokens : List Json → List Token
  | [] => [.closeArray]
  | item :: others => .comma :: (tokens item ++ itemTokens others)

/-- The tokens behind the first member of an object. -/
def memberTokens : List (Option String × Json) → List Token
  | [] => [.closeObject]
  | (key, value) :: others =>
    .comma :: .scalar (.string key) :: .colon :: (tokens value ++ memberTokens others)

end

def render (json : Json) : String := String.ofList (json.tokens.flatMap Token.write)

end MediaGraph.Json
