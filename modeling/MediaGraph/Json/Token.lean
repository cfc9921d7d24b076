import MediaGraph.Json.Basic
import MediaGraph.Text.Quoted

/-!
# Tokens of a JSON text

A JSON text is a run of tokens with blanks between them: four brackets, the comma, the colon, and
the scalar values. `Token.scan` cuts a text into its tokens, `Token.write` writes one token with
the shortest escapes.

A written string escapes the quote, the backslash and the characters below U+0020, the latter by a
letter where one exists and else by four lower-case hexadecimal digits. All other characters stand
for themselves.
-/

namespace MediaGraph

inductive Token where
  | openArray
  | closeArray
  | openObject
  | closeObject
  | comma
  | colon
  | scalar (value : Scalar)
  deriving DecidableEq

namespace Token

/-! ## Writing -/

def fourHexDigits (code : Nat) : List Char :=
  let digits := Text.hexDigits code
  List.replicate (4 - digits.length) '0' ++ digits

def writeChar (c : Char) : List Char :=
  if c = '"' then ['\\', '"']
  else if c = '\\' then ['\\', '\\']
  else if c = '\x08' then ['\\', 'b']
  else if c = '\x0c' then ['\\', 'f']
  else if c = '\n' then ['\\', 'n']
  else if c = '\r' then ['\\', 'r']
  else if c = '\t' then ['\\', 't']
  else if c.toNat < 0x20 then ['\\', 'u'] ++ fourHexDigits c.toNat
  else [c]

/-- A string literal; a text with half a surrogate pair is written as such a half. -/
def writeString : Option String → List Char
  | some text => '"' :: text.toList.flatMap writeChar ++ ['"']
  | none => "\"\\ud800\"".toList

def writeScalar : Scalar → List Char
  | .null => "null".toList
  | .bool true => "true".toList
  | .bool false => "false".toList
  | .natural value => Nat.toDigits 10 value
  | .number literal => literal.toList
  | .string text => writeString text

def write : Token → List Char
  | openArray => ['[']
  | closeArray => [']']
  | openObject => ['\x7b']
  | closeObject => ['\x7d']
  | comma => [',']
  | colon => [':']
  | scalar value => writeScalar value

/-! ## String literals -/

def hexValue? (c : Char) : Option Nat :=
  if '0' ≤ c ∧ c ≤ '9' then some (c.toNat - '0'.toNat)
  else if 'a' ≤ c ∧ c ≤ 'f' then some (c.toNat - 'a'.toNat + 10)
  else if 'A' ≤ c ∧ c ≤ 'F' then some (c.toNat - 'A'.toNat + 10)
  else none

def hexUnit? (a b c d : Char) : Option Nat := do
  let a ← hexValue? a
  let b ← hexValue? b
  let c ← hexValue? c
  let d ← hexValue? d
  return ((a * 16 + b) * 16 + c) * 16 + d

/-- The character that a letter stands for behind a backslash. -/
def escaped? (c : Char) : Option Char :=
  if c = '"' ∨ c = '\\' ∨ c = '/' then some c
  else if c = 'b' then some '\x08'
  else if c = 'f' then some '\x0c'
  else if c = 'n' then some '\n'
  else if c = 'r' then some '\r'
  else if c = 't' then some '\t'
  else none

/-- The code units of a string literal up to its closing quote, and what follows the quote. -/
def scanUnits : List Char → Option (List Nat × List Char)
  | [] => none
  | '"' :: rest => some ([], rest)
  | '\\' :: 'u' :: a :: b :: c :: d :: rest => do
    let unit ← hexUnit? a b c d
    let (units, rest) ← scanUnits rest
    return (unit :: units, rest)
  | '\\' :: letter :: rest => do
    let c ← escaped? letter
    let (units, rest) ← scanUnits rest
    return (c.toNat :: units, rest)
  | c :: rest => do
    if c.toNat < 0x20 ∨ c = '\\' then none
    else
      let (units, rest) ← scanUnits rest
      return (c.toNat :: units, rest)

def isHighSurrogate (unit : Nat) : Bool := 0xd800 ≤ unit && unit ≤ 0xdbff

def isLowSurrogate (unit : Nat) : Bool := 0xdc00 ≤ unit && unit ≤ 0xdfff

/-- Joins surrogate pairs into characters; a half without its other half has no text. -/
def joinUnits : List Nat → Option (List Char)
  | [] => some []
  | [unit] =>
    if isHighSurrogate unit || isLowSurrogate unit then none else some [Char.ofNat unit]
  | high :: low :: rest =>
    if isHighSurrogate high && isLowSurrogate low then
      (joinUnits rest).map (Char.ofNat (0x10000 + (high - 0xd800) * 0x400 + (low - 0xdc00)) :: ·)
    else if isHighSurrogate high || isLowSurrogate high then none
    else (joinUnits (low :: rest)).map (Char.ofNat high :: ·)

/-! ## Numerals and words -/

def isNumeralChar (c : Char) : Bool :=
  c.isDigit || c = '-' || c = '+' || c = '.' || c = 'e' || c = 'E'

/-- Digits without a leading zero, unless zero itself. -/
def isWhole (digits : List Char) : Bool :=
  digits.all Char.isDigit && digits ≠ [] && (digits.head? ≠ some '0' || digits.length = 1)

/-- An exponent, with or without a sign, or nothing. -/
def isExponent : List Char → Bool
  | [] => true
  | mark :: rest =>
    let digits := match rest with
      | '+' :: digits => digits
      | '-' :: digits => digits
      | digits => digits
    (mark = 'e' || mark = 'E') && digits ≠ [] && digits.all Char.isDigit

/-- A point with digits and an exponent, each of which may be missing. -/
def isFraction : List Char → Bool
  | '.' :: rest =>
    rest.takeWhile Char.isDigit ≠ [] && isExponent (rest.dropWhile Char.isDigit)
  | rest => isExponent rest

/-- A number: an optional minus sign, a whole part, a fraction and an exponent. -/
def isNumber (literal : List Char) : Bool :=
  let unsigned := match literal with
    | '-' :: rest => rest
    | rest => rest
  isWhole (unsigned.takeWhile Char.isDigit) && isFraction (unsigned.dropWhile Char.isDigit)

/-- The scalar that a run of numeral characters writes. -/
def numeral? (literal : List Char) : Option Scalar :=
  if isWhole literal then some (.natural (Nat.ofDigitChars 10 literal 0))
  else if isNumber literal then some (.number (String.ofList literal))
  else none

def word? (word : List Char) : Option Scalar :=
  if word = "null".toList then some .null
  else if word = "true".toList then some (.bool true)
  else if word = "false".toList then some (.bool false)
  else none

/-! ## Scanning -/

/-- The token at the head of a text without leading blanks, and what follows it. -/
def next? : List Char → Option (Token × List Char)
  | [] => none
  | '[' :: rest => some (openArray, rest)
  | ']' :: rest => some (closeArray, rest)
  | '\x7b' :: rest => some (openObject, rest)
  | '\x7d' :: rest => some (closeObject, rest)
  | ',' :: rest => some (comma, rest)
  | ':' :: rest => some (colon, rest)
  | '"' :: rest => do
    let (units, rest) ← scanUnits rest
    return (scalar (.string ((joinUnits units).map String.ofList)), rest)
  | c :: rest =>
    let input := c :: rest
    if isNumeralChar c then
      (numeral? (input.takeWhile isNumeralChar)).map fun value =>
        (scalar value, input.dropWhile isNumeralChar)
    else
      (word? (input.takeWhile Char.isAlpha)).map fun value =>
        (scalar value, input.dropWhile Char.isAlpha)

/-- The four blanks that may stand between tokens. -/
def isBlank (c : Char) : Bool := c = ' ' || c = '\n' || c = '\t' || c = '\r'

/-- Cuts off tokens until the text ends; every token has at least one character. -/
def scanWithin : Nat → List Char → Option (List Token)
  | 0, _ => none
  | budget + 1, input =>
    match input.dropWhile isBlank with
    | [] => some []
    | c :: rest => do
      let (token, rest) ← next? (c :: rest)
      let tokens ← scanWithin budget rest
      return token :: tokens

def scan (input : List Char) : Option (List Token) := scanWithin (input.length + 1) input

end Token

end MediaGraph
