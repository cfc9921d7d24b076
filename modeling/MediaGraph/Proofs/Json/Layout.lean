import MediaGraph.Proofs.Json.Reading

/-!
# Texts in any layout

There is more than one text for a value. Blanks may stand before and behind every token, and a
string literal may escape any of its characters, by a letter or as one or two code units, also where
there is no need to. `Token.Layout` has all the texts of a list of tokens; whichever of them is
parsed, the value is the same (`Json.parse?_of_layout`).
-/

namespace MediaGraph

namespace Token

variable {tokens : List Token} {token : Token} {chars rest text : List Char} {units : List Nat}

/-- What may stand between the quotes of a string literal, and the code units that it stands for. -/
inductive Quotes : List Char → List Nat → Prop where
  | nil : Quotes [] []
  | plain {c : Char} {chars : List Char} {units : List Nat} (quote : c ≠ '"')
    (backslash : c ≠ '\\') (printable : ¬c.toNat < 0x20) (others : Quotes chars units) :
    Quotes (c :: chars) (c.toNat :: units)
  | letter {letter c : Char} {chars : List Char} {units : List Nat}
    (stands : escaped? letter = some c) (others : Quotes chars units) :
    Quotes ('\\' :: letter :: chars) (c.toNat :: units)
  | unit {first second third fourth : Char} {unit : Nat} {chars : List Char} {units : List Nat}
    (isUnit : hexUnit? first second third fourth = some unit) (others : Quotes chars units) :
    Quotes ('\\' :: 'u' :: first :: second :: third :: fourth :: chars) (unit :: units)

/-- The ways to write a token: as short as can be, and any literal of a string. -/
inductive Spelling : Token → List Char → Prop where
  | shortest {token : Token} (legible : token.Legible) : Spelling token token.write
  | string {chars : List Char} {units : List Nat} (quotes : Quotes chars units) :
    Spelling (scalar (.string ((joinUnits units).map String.ofList))) ('"' :: chars ++ ['"'])

/-- The tokens are written one after the other, in any way and with blanks around them. -/
inductive Layout : List Token → List Char → Prop where
  | nil {blanks : List Char} (blank : blanks.all isBlank) : Layout [] blanks
  | cons {blanks run text : List Char} {token : Token} {tokens : List Token}
    (blank : blanks.all isBlank) (spelling : Spelling token run)
    (breaks : token.isScalar → Breaks text) (others : Layout tokens text) :
    Layout (token :: tokens) (blanks ++ (run ++ text))

theorem scanUnits_of_quotes (quotes : Quotes chars units) (rest : List Char) :
    scanUnits (chars ++ '"' :: rest) = some (units, rest) := by
  induction quotes with
  | nil => simp [scanUnits]
  | plain quote backslash printable _ ih =>
      rw [List.cons_append, scanUnits_plain quote backslash printable, before, ih, Option.map_some]
  | @letter letter _ _ _ stands _ ih =>
      have apart : letter ≠ 'u' := by
        rintro rfl
        cases stands
      rw [List.cons_append, List.cons_append, scanUnits_letter apart stands, before, ih,
        Option.map_some]
  | unit isUnit _ ih =>
      simp only [List.cons_append]
      rw [scanUnits_unit isUnit, before, ih, Option.map_some]

theorem next?_of_spelling {run : List Char} (spelling : Spelling token run)
    (breaks : token.isScalar → Breaks rest) : next? (run ++ rest) = some (token, rest) := by
  cases spelling with
  | shortest legible => exact next?_write legible breaks
  | string quotes =>
      rw [List.append_assoc, List.cons_append, next?_quote, List.singleton_append,
        scanUnits_of_quotes quotes, Option.map_some]

theorem head_of_spelling {run : List Char} (spelling : Spelling token run) :
    ∃ c others, run = c :: others ∧ isBlank c = false := by
  cases spelling with
  | shortest legible => exact write_head legible
  | string quotes => exact ⟨'"', _, rfl, rfl⟩

theorem Layout.length_le (layout : Layout tokens text) : tokens.length ≤ text.length := by
  induction layout with
  | nil => exact Nat.zero_le _
  | cons _ spelling _ _ ih =>
      rcases head_of_spelling spelling with ⟨c, others, head, -⟩
      simp only [List.length_cons, List.length_append, head]
      omega

/-- With a budget for all tokens, each token is cut off behind its blanks. -/
theorem scanWithin_of_layout (layout : Layout tokens text) {budget : Nat}
    (enough : tokens.length < budget) : scanWithin budget text = some tokens := by
  induction layout generalizing budget with
  | @nil blanks blank =>
      cases budget with
      | zero => exact absurd enough (Nat.not_lt_zero _)
      | succ budget => exact scanWithin_of_spells (.nil blank) enough
  | @cons blanks run text token tokens blank spelling breaks others ih =>
      cases budget with
      | zero => exact absurd enough (Nat.not_lt_zero _)
      | succ budget =>
          have read := next?_of_spelling spelling breaks
          rcases head_of_spelling spelling with ⟨c, inner, head, visible⟩
          rw [head, List.cons_append] at read ⊢
          have reached : (blanks ++ c :: (inner ++ text)).dropWhile isBlank =
              c :: (inner ++ text) :=
            (takeWhile_append_of_head blank (by simpa using visible)).2
          have onward := ih (Nat.lt_of_succ_lt_succ enough)
          simp only [scanWithin, reached, read, onward, Option.bind_eq_bind, Option.bind_some,
            Option.pure_def]

theorem scan_of_layout (layout : Layout tokens text) : scan text = some tokens :=
  scanWithin_of_layout layout (Nat.lt_succ_of_le layout.length_le)

/-- Blanks may stand before every token, also where none are needed. -/
theorem layout_spaced (legible : ∀ token ∈ tokens, token.Legible) :
    Layout tokens (tokens.flatMap fun token => ' ' :: token.write) := by
  induction tokens with
  | nil => exact .nil rfl
  | cons token tokens ih =>
      have blank : [' '].all isBlank := rfl
      have others := ih fun other member => legible other (List.mem_cons_of_mem _ member)
      refine .cons blank (.shortest (legible token List.mem_cons_self)) (fun _ => ?_) others
      cases tokens with
      | nil => simp [Breaks]
      | cons next tokens => exact breaks_cons rfl

end Token

/-- Whatever the layout of a value, it is parsed. -/
theorem Json.parse?_of_layout {json : Json} {text : String}
    (layout : Token.Layout json.tokens text.toList) : parse? text = some json := by
  rw [parse?, Token.scan_of_layout layout, Option.bind_some, ofTokens?_tokens]

end MediaGraph
