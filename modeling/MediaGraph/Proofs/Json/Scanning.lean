import MediaGraph.Json.Token
import Mathlib.Data.List.Chain

/-!
# Scanning what was written

A text spells tokens if it writes them out one after the other, with blanks wherever one likes, and
no scalar is followed by a character that could belong to it (`Token.Spells`). A text that spells
tokens is cut into these tokens and no others (`Token.scan_of_spells`).

Strings and numerals are the two kinds of token that are longer than they look: a string is read as
code units that are joined to characters again, and a numeral ends where its characters end.
-/

namespace MediaGraph.Token

variable {c : Char} {token : Token} {tokens : List Token} {text rest : List Char}

/-! ## Characters of a string -/

/-- Puts a code unit before those that are scanned from a text. -/
def before (unit : Nat) (text : List Char) : Option (List Nat × List Char) :=
  (scanUnits text).map fun found => (unit :: found.1, found.2)

theorem scanUnits_letter {letter : Char} (apart : letter ≠ 'u') (stands : escaped? letter = some c)
    (rest : List Char) : scanUnits ('\\' :: letter :: rest) = before c.toNat rest := by
  rw [scanUnits, stands, before]
  · cases scanUnits rest <;> rfl
  · exact fun _ _ _ _ _ isU _ => apart isU

theorem scanUnits_unit {first second third fourth : Char} {unit : Nat}
    (isUnit : hexUnit? first second third fourth = some unit) (rest : List Char) :
    scanUnits ('\\' :: 'u' :: first :: second :: third :: fourth :: rest) = before unit rest := by
  rw [scanUnits, isUnit, before]
  cases scanUnits rest <;> rfl

theorem scanUnits_plain (quote : c ≠ '"') (backslash : c ≠ '\\') (printable : ¬c.toNat < 0x20)
    (rest : List Char) : scanUnits (c :: rest) = before c.toNat rest := by
  rw [scanUnits, before]
  · rw [if_neg (not_or.2 ⟨printable, backslash⟩)]
    cases scanUnits rest <;> rfl
  · exact quote
  · exact fun _ _ _ _ _ isBackslash _ => backslash isBackslash
  · exact fun _ _ isBackslash _ => backslash isBackslash

/-- The code unit that four digits write. -/
def unit? : List Char → Option Nat
  | [first, second, third, fourth] => hexUnit? first second third fourth
  | _ => none

theorem unit?_fourHexDigits : ∀ code < 0x20, unit? (fourHexDigits code) = some code := by
  decide

theorem scanUnits_control (control : c.toNat < 0x20) (rest : List Char) :
    scanUnits (['\\', 'u'] ++ fourHexDigits c.toNat ++ rest) = before c.toNat rest := by
  have isUnit := unit?_fourHexDigits c.toNat control
  generalize fourHexDigits c.toNat = digits at isUnit ⊢
  match digits with
  | [first, second, third, fourth] => exact scanUnits_unit isUnit rest
  | [] | [_] | [_, _] | [_, _, _] | _ :: _ :: _ :: _ :: _ :: _ => cases isUnit

/-- A character is written with a letter that stands for it, as a code unit, or as itself. -/
theorem writeChar_cases (c : Char) :
    (∃ letter, letter ≠ 'u' ∧ escaped? letter = some c ∧ writeChar c = ['\\', letter]) ∨
    (c.toNat < 0x20 ∧ writeChar c = ['\\', 'u'] ++ fourHexDigits c.toNat) ∨
    (c ≠ '"' ∧ c ≠ '\\' ∧ ¬c.toNat < 0x20 ∧ writeChar c = [c]) := by
  unfold writeChar
  split_ifs with quote backslash backspace formFeed newline carriageReturn tab control
  · exact .inl ⟨'"', by decide, by rw [quote]; rfl, rfl⟩
  · exact .inl ⟨'\\', by decide, by rw [backslash]; rfl, rfl⟩
  · exact .inl ⟨'b', by decide, backspace ▸ rfl, rfl⟩
  · exact .inl ⟨'f', by decide, formFeed ▸ rfl, rfl⟩
  · exact .inl ⟨'n', by decide, newline ▸ rfl, rfl⟩
  · exact .inl ⟨'r', by decide, carriageReturn ▸ rfl, rfl⟩
  · exact .inl ⟨'t', by decide, tab ▸ rfl, rfl⟩
  · exact .inr (.inl ⟨control, rfl⟩)
  · exact .inr (.inr ⟨quote, backslash, control, rfl⟩)

/-- Whatever way a character is written in, it is scanned as its code. -/
theorem scanUnits_writeChar (c : Char) (rest : List Char) :
    scanUnits (writeChar c ++ rest) = before c.toNat rest := by
  rcases writeChar_cases c with ⟨letter, apart, stands, written⟩ | ⟨control, written⟩ |
    ⟨quote, backslash, printable, written⟩
  · rw [written]
    exact scanUnits_letter apart stands rest
  · rw [written]
    exact scanUnits_control control rest
  · rw [written]
    exact scanUnits_plain quote backslash printable rest

theorem scanUnits_flatMap (chars rest : List Char) :
    scanUnits (chars.flatMap writeChar ++ '"' :: rest) = some (chars.map Char.toNat, rest) := by
  induction chars with
  | nil => simp [scanUnits]
  | cons c chars ih =>
      rw [List.flatMap_cons, List.append_assoc, scanUnits_writeChar, before, ih]
      rfl

/-! ## Characters from code units -/

/-- A character is no half of a surrogate pair. -/
theorem not_surrogate (c : Char) :
    isHighSurrogate c.toNat = false ∧ isLowSurrogate c.toNat = false := by
  have valid : c.toNat < 0xd800 ∨ 0xdfff < c.toNat ∧ c.toNat < 0x110000 := c.valid
  simp only [isHighSurrogate, isLowSurrogate, Bool.and_eq_false_iff, decide_eq_false_iff_not]
  omega

theorem joinUnits_cons (c : Char) (units : List Nat) :
    joinUnits (c.toNat :: units) = (joinUnits units).map (c :: ·) := by
  rcases not_surrogate c with ⟨high, low⟩
  cases units with
  | nil => simp [joinUnits, high, low]
  | cons unit rest => simp [joinUnits, high, low]

theorem joinUnits_toNat (chars : List Char) : joinUnits (chars.map Char.toNat) = some chars := by
  induction chars with
  | nil => rfl
  | cons c chars ih => rw [List.map_cons, joinUnits_cons, ih, Option.map_some]

/-! ## Numerals -/

/-- No numeral but zero itself begins with a zero. -/
theorem head_toDigits {value : Nat} (positive : 0 < value) :
    (Nat.toDigits 10 value).head? ≠ some '0' := by
  induction value using Nat.strongRecOn with
  | ind value ih =>
      rcases Nat.lt_or_ge value 10 with small | large
      · have digits : ∀ digit < 10, 0 < digit → digit.digitChar ≠ '0' := by decide
        rw [Nat.toDigits_of_lt_base small]
        simpa using digits value small positive
      · have shorter : 0 < value / 10 := Nat.div_pos large (by decide)
        have further := ih (value / 10) (Nat.div_lt_self positive (by decide)) shorter
        have start : (Nat.toDigits 10 value).head? = (Nat.toDigits 10 (value / 10)).head? := by
          rw [Nat.toDigits_of_base_le (by decide) large, List.head?_append,
            List.head?_eq_some_head Nat.toDigits_ne_nil, Option.some_or]
        rwa [start]

theorem all_toDigits (value : Nat) : (Nat.toDigits 10 value).all Char.isDigit :=
  List.all_eq_true.2 fun _ member => Nat.isDigit_of_mem_toDigits (by decide) (by decide) member

theorem numerals_toDigits (value : Nat) : (Nat.toDigits 10 value).all isNumeralChar := by
  have digits := all_toDigits value
  rw [List.all_eq_true] at digits ⊢
  intro c member
  simp [isNumeralChar, digits c member]

theorem isWhole_toDigits (value : Nat) : isWhole (Nat.toDigits 10 value) := by
  rcases Nat.eq_zero_or_pos value with rfl | positive
  · decide
  · simp [isWhole, all_toDigits, Nat.toDigits_ne_nil, head_toDigits positive]

theorem numeral?_toDigits (value : Nat) :
    numeral? (Nat.toDigits 10 value) = some (.natural value) := by
  rw [numeral?, if_pos (isWhole_toDigits value),
    Nat.ofDigitChars_toDigits (by decide) (by decide)]

/-! ## Single tokens -/

def isScalar : Token → Bool
  | scalar _ => true
  | _ => false

/-- A literal that is no numeral of plain digits is the literal of a number. -/
def Legible : Token → Prop
  | scalar (.number literal) =>
    literal.toList.all isNumeralChar ∧ numeral? literal.toList = some (.number literal)
  | _ => True

/-- No numeral and no word goes on with the character. -/
def isBreak (c : Char) : Bool := !isNumeralChar c && !c.isAlpha

/-- The text does not begin with a character that a scalar could go on with. -/
def Breaks (text : List Char) : Prop := ∀ c ∈ text.head?, isBreak c

theorem Breaks.ends (breaks : Breaks text) :
    ∀ c ∈ text.head?, isNumeralChar c = false ∧ c.isAlpha = false := by
  intro c isHead
  have isBreak := breaks c isHead
  simpa only [Token.isBreak, Bool.and_eq_true, Bool.not_eq_true'] using isBreak

theorem breaks_cons (first : isBreak c) : Breaks (c :: text) := by
  simpa [Breaks] using first

/-- Nothing but a scalar begins with a character that a scalar could go on with. -/
theorem breaks_write (apart : token.isScalar = false) : Breaks (token.write ++ rest) := by
  cases token with
  | openArray | closeArray | openObject | closeObject | comma | colon => exact breaks_cons rfl
  | scalar value => cases apart

/-- A run of characters ends where the first other one stands. -/
theorem takeWhile_append_of_head {run : List Char} {part : Char → Bool} (all : run.all part)
    (ends : ∀ c ∈ rest.head?, part c = false) :
    (run ++ rest).takeWhile part = run ∧ (run ++ rest).dropWhile part = rest := by
  have members := List.all_eq_true.1 all
  rw [List.takeWhile_append_of_pos members, List.dropWhile_append_of_pos members]
  cases rest with
  | nil => simp
  | cons c rest => simp [ends c rfl]

theorem next?_numeral {run : List Char} {value : Scalar} (numeral : run.all isNumeralChar)
    (written : numeral? run = some value) (breaks : Breaks rest) :
    next? (run ++ rest) = some (scalar value, rest) := by
  rcases takeWhile_append_of_head numeral fun c isHead => (breaks.ends c isHead).1 with
    ⟨taken, dropped⟩
  cases run with
  | nil => cases written
  | cons c run =>
      have first : isNumeralChar c = true := by
        simp only [List.all_cons, Bool.and_eq_true] at numeral
        exact numeral.1
      rw [List.cons_append] at taken dropped ⊢
      rw [next?, if_pos first, taken, dropped, written, Option.map_some]
      all_goals
        rintro rfl
        exact absurd first (by decide)

/-- A word begins with a letter that is not used in numerals. -/
theorem next?_word {letters : List Char} {value : Scalar} (first : isNumeralChar c = false)
    (word : (c :: letters).all Char.isAlpha) (written : word? (c :: letters) = some value)
    (breaks : Breaks rest) : next? (c :: letters ++ rest) = some (scalar value, rest) := by
  rcases takeWhile_append_of_head word fun c isHead => (breaks.ends c isHead).2 with
    ⟨taken, dropped⟩
  have letter : c.isAlpha = true := List.all_eq_true.1 word c List.mem_cons_self
  rw [List.cons_append] at taken dropped ⊢
  rw [next?, first, if_neg Bool.false_ne_true, taken, dropped, written, Option.map_some]
  all_goals
    rintro rfl
    exact absurd letter (by decide)

theorem next?_quote (text : List Char) : next? ('"' :: text) = (scanUnits text).map fun found =>
    (scalar (.string ((joinUnits found.1).map String.ofList)), found.2) := by
  rw [next?]
  cases scanUnits text <;> rfl

theorem next?_string (text : Option String) (rest : List Char) :
    next? (writeString text ++ rest) = some (scalar (.string text), rest) := by
  cases text with
  | none =>
      have written : writeString none ++ rest =
          '"' :: '\\' :: 'u' :: 'd' :: '8' :: '0' :: '0' :: '"' :: rest := rfl
      have isUnit : hexUnit? 'd' '8' '0' '0' = some 0xd800 := by decide
      have unread : joinUnits [0xd800] = none := by decide
      rw [written, next?_quote, scanUnits_unit isUnit, before, scanUnits, Option.map_some,
        Option.map_some, unread, Option.map_none]
  | some text =>
      have written : writeString (some text) ++ rest =
          '"' :: (text.toList.flatMap writeChar ++ '"' :: rest) := by
        exact List.append_assoc ('"' :: text.toList.flatMap writeChar) ['"'] rest
      rw [written, next?_quote, scanUnits_flatMap, Option.map_some, joinUnits_toNat,
        Option.map_some, String.ofList_toList]

/-- Every token is read back, as long as no scalar runs on into what follows it. -/
theorem next?_write (legible : token.Legible) (breaks : token.isScalar → Breaks rest) :
    next? (token.write ++ rest) = some (token, rest) := by
  match token with
  | openArray | closeArray | openObject | closeObject | comma | colon =>
      rw [write, List.singleton_append, next?]
  | scalar .null =>
      have null : word? ['n', 'u', 'l', 'l'] = some .null := by decide
      exact next?_word rfl rfl null (breaks rfl)
  | scalar (.bool true) =>
      have true : word? ['t', 'r', 'u', 'e'] = some (.bool true) := by decide
      exact next?_word rfl rfl true (breaks rfl)
  | scalar (.bool false) =>
      have false : word? ['f', 'a', 'l', 's', 'e'] = some (.bool false) := by decide
      exact next?_word rfl rfl false (breaks rfl)
  | scalar (.natural value) =>
      exact next?_numeral (numerals_toDigits value) (numeral?_toDigits value) (breaks rfl)
  | scalar (.number literal) => exact next?_numeral legible.1 legible.2 (breaks rfl)
  | scalar (.string text) => exact next?_string text rest

/-! ## Texts -/

theorem isBlank_of_numeral (numeral : isNumeralChar c) : isBlank c = false := by
  rw [Bool.eq_false_iff]
  intro blank
  simp only [isBlank, Bool.or_eq_true, decide_eq_true_eq] at blank
  rcases blank with ((rfl | rfl) | rfl) | rfl <;> exact absurd numeral (by decide)

theorem head_of_numerals {run : List Char} (numeral : run.all isNumeralChar) (some : run ≠ []) :
    ∃ c text, run = c :: text ∧ isBlank c = false := by
  rcases List.exists_cons_of_ne_nil some with ⟨c, text, rfl⟩
  exact ⟨c, text, rfl, isBlank_of_numeral (List.all_eq_true.1 numeral c List.mem_cons_self)⟩

/-- A token is written with at least one character, and does not begin with a blank. -/
theorem write_head (legible : token.Legible) :
    ∃ c text, token.write = c :: text ∧ isBlank c = false := by
  match token with
  | openArray | closeArray | openObject | closeObject | comma | colon => exact ⟨_, [], rfl, rfl⟩
  | scalar .null => exact ⟨'n', "ull".toList, rfl, rfl⟩
  | scalar (.bool true) => exact ⟨'t', "rue".toList, rfl, rfl⟩
  | scalar (.bool false) => exact ⟨'f', "alse".toList, rfl, rfl⟩
  | scalar (.natural value) => exact head_of_numerals (numerals_toDigits value) Nat.toDigits_ne_nil
  | scalar (.number literal) =>
      refine head_of_numerals legible.1 fun empty => ?_
      have written := legible.2
      rw [show literal.toList = [] from empty] at written
      cases written
  | scalar (.string none) | scalar (.string (some text)) => exact ⟨'"', _, rfl, rfl⟩

/-- The tokens are written one after the other, with blanks around them. -/
inductive Spells : List Token → List Char → Prop where
  | nil {blanks : List Char} (blank : blanks.all isBlank) : Spells [] blanks
  | cons {blanks text : List Char} {token : Token} {tokens : List Token}
    (blank : blanks.all isBlank) (legible : token.Legible)
    (breaks : token.isScalar → Breaks text) (others : Spells tokens text) :
    Spells (token :: tokens) (blanks ++ (token.write ++ text))

theorem Spells.length_le (spells : Spells tokens text) : tokens.length ≤ text.length := by
  induction spells with
  | nil => exact Nat.zero_le _
  | cons _ legible _ _ ih =>
      rcases write_head legible with ⟨c, written, head, -⟩
      simp only [List.length_cons, List.length_append, head]
      omega

theorem scanWithin_of_spells (spells : Spells tokens text) {budget : Nat}
    (enough : tokens.length < budget) : scanWithin budget text = some tokens := by
  induction spells generalizing budget with
  | @nil blanks blank =>
      cases budget with
      | zero => exact absurd enough (Nat.not_lt_zero _)
      | succ budget =>
          have passed : (blanks ++ []).dropWhile isBlank = [] :=
            (takeWhile_append_of_head blank (by simp)).2
          rw [List.append_nil] at passed
          rw [scanWithin, passed]
  | @cons blanks text token tokens blank legible breaks others ih =>
      cases budget with
      | zero => exact absurd enough (Nat.not_lt_zero _)
      | succ budget =>
          have read := next?_write legible breaks
          rcases write_head legible with ⟨c, written, head, visible⟩
          rw [head, List.cons_append] at read ⊢
          have reached : (blanks ++ c :: (written ++ text)).dropWhile isBlank =
              c :: (written ++ text) :=
            (takeWhile_append_of_head blank (by simpa using visible)).2
          have onward := ih (Nat.lt_of_succ_lt_succ enough)
          simp only [scanWithin, reached, read, onward, Option.bind_eq_bind, Option.bind_some,
            Option.pure_def]

/-- A text that spells tokens is cut into them. -/
theorem scan_of_spells (spells : Spells tokens text) : scan text = some tokens :=
  scanWithin_of_spells spells (Nat.lt_succ_of_le spells.length_le)

/-- Scalars do not stand side by side. -/
def Parted (tokens : List Token) : Prop :=
  tokens.IsChain fun first second => first.isScalar = false ∨ second.isScalar = false

/-- No blanks are needed between tokens of which no two are scalars side by side. -/
theorem spells_write (legible : ∀ token ∈ tokens, token.Legible) (parted : Parted tokens) :
    Spells tokens (tokens.flatMap write) := by
  induction tokens with
  | nil => exact .nil rfl
  | cons token tokens ih =>
      have others := ih (fun other member => legible other (List.mem_cons_of_mem _ member))
        parted.tail
      have unblanked : ([] : List Char).all isBlank := rfl
      refine .cons unblanked (legible token List.mem_cons_self) (fun isScalar => ?_) others
      cases tokens with
      | nil => simp [Breaks]
      | cons next tokens =>
          have apart : next.isScalar = false := by
            rcases (List.isChain_cons_cons.1 parted).1 with notScalar | notScalar
            · rw [isScalar] at notScalar
              cases notScalar
            · exact notScalar
          exact breaks_write apart

end MediaGraph.Token
