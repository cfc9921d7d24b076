import MediaGraph.Json.Text
import MediaGraph.Proofs.Json.Scanning

/-!
# Reading what was written

The tokens of a value are read as that value, whatever is open around it and whatever follows it
(`Json.readValue_tokens`). The induction is on the value; inside an array or object it goes on over
the items or members behind the first. As no two scalars stand side by side among the tokens, they
can be written without blanks between them, so every value that is legible is parsed back from its
text (`Json.parse?_render`).
-/

namespace MediaGraph.Json

variable {json : Json} {text : String}

/-! ## Trees -/

/-- An array with a first item is not taken for an empty one. -/
theorem readValue_openArray (stack : List Frame) (first : Json) (rest : List Token) :
    readValue stack (.openArray :: (first.tokens ++ rest)) =
      readValue (.array [] :: stack) (first.tokens ++ rest) := by
  match first with
  | scalar _ | array [] | array (_ :: _) | object [] | object ((_, _) :: _) =>
      simp [tokens, readValue]

mutual

theorem readValue_tokens (stack : List Frame) (json : Json) (rest : List Token) :
    readValue stack (json.tokens ++ rest) = afterValue stack json rest := by
  match json with
  | scalar value => simp [tokens, readValue]
  | array [] => simp [tokens, readValue]
  | array (first :: others) =>
      rw [tokens, List.cons_append, List.append_assoc, readValue_openArray, readValue_tokens,
        afterValue_itemTokens]
      rfl
  | object [] => simp [tokens, readValue]
  | object ((key, value) :: others) =>
      rw [tokens, List.cons_append, List.cons_append, List.cons_append, List.append_assoc,
        readValue, readValue_tokens, afterValue_memberTokens]
      rfl

theorem afterValue_itemTokens (stack : List Frame) (before : List Json) (value : Json)
    (items : List Json) (rest : List Token) :
    afterValue (.array before :: stack) value (itemTokens items ++ rest) =
      afterValue stack (array ((value :: before).reverse ++ items)) rest := by
  match items with
  | [] => simp [itemTokens, afterValue]
  | item :: others =>
      rw [itemTokens, List.cons_append, List.append_assoc, afterValue, readValue_tokens,
        afterValue_itemTokens, List.reverse_cons, List.append_assoc]
      rfl

theorem afterValue_memberTokens (stack : List Frame) (before : List (Option String × Json))
    (key : Option String) (value : Json) (members : List (Option String × Json))
    (rest : List Token) :
    afterValue (.object before key :: stack) value (memberTokens members ++ rest) =
      afterValue stack (object (((key, value) :: before).reverse ++ members)) rest := by
  match members with
  | [] => simp [memberTokens, afterValue]
  | (next, member) :: others =>
      rw [memberTokens, List.cons_append, List.cons_append, List.cons_append, List.append_assoc,
        afterValue, readValue_tokens, afterValue_memberTokens, List.reverse_cons,
        List.append_assoc]
      rfl

end

theorem ofTokens?_tokens (json : Json) : ofTokens? json.tokens = some json := by
  have read := readValue_tokens [] json []
  rw [List.append_nil] at read
  rw [ofTokens?, read, afterValue]

/-- Whatever blanks stand between the tokens of a value, the value is parsed. -/
theorem parse?_of_spells (spells : Token.Spells json.tokens text.toList) :
    parse? text = some json := by
  rw [parse?, Token.scan_of_spells spells, Option.bind_some, ofTokens?_tokens]

/-! ## Scalars among the tokens -/

theorem parted_cons {token : Token} {rest : List Token} (apart : token.isScalar = false)
    (parted : Token.Parted rest) : Token.Parted (token :: rest) :=
  List.isChain_cons.2 ⟨fun _ _ => .inl apart, parted⟩

/-- The text does not go on with a scalar. -/
def Resumes (rest : List Token) : Prop := ∀ token ∈ rest.head?, token.isScalar = false

theorem parted_scalar {rest : List Token} (value : Scalar) (resumes : Resumes rest)
    (parted : Token.Parted rest) : Token.Parted (.scalar value :: rest) :=
  List.isChain_cons.2 ⟨fun token isHead => .inr (resumes token isHead), parted⟩

theorem resumes_itemTokens (items : List Json) (rest : List Token) :
    Resumes (itemTokens items ++ rest) := by
  cases items <;> simp [Resumes, itemTokens, Token.isScalar]

theorem resumes_memberTokens (members : List (Option String × Json)) (rest : List Token) :
    Resumes (memberTokens members ++ rest) := by
  cases members <;> simp [Resumes, memberTokens, Token.isScalar]

mutual

theorem parted_tokens (json : Json) {rest : List Token} (resumes : Resumes rest)
    (parted : Token.Parted rest) : Token.Parted (json.tokens ++ rest) := by
  match json with
  | scalar value => exact parted_scalar value resumes parted
  | array [] => exact parted_cons rfl (parted_cons rfl parted)
  | array (first :: others) =>
      rw [tokens, List.cons_append, List.append_assoc]
      exact parted_cons rfl (parted_tokens first (resumes_itemTokens others rest)
        (parted_itemTokens others parted))
  | object [] => exact parted_cons rfl (parted_cons rfl parted)
  | object ((key, value) :: others) =>
      rw [tokens, List.cons_append, List.cons_append, List.cons_append, List.append_assoc]
      have inner := parted_tokens value (resumes_memberTokens others rest)
        (parted_memberTokens others parted)
      exact parted_cons rfl (parted_scalar _ (by simp [Resumes, Token.isScalar])
        (parted_cons rfl inner))

theorem parted_itemTokens (items : List Json) {rest : List Token} (parted : Token.Parted rest) :
    Token.Parted (itemTokens items ++ rest) := by
  match items with
  | [] => exact parted_cons rfl parted
  | item :: others =>
      rw [itemTokens, List.cons_append, List.append_assoc]
      exact parted_cons rfl (parted_tokens item (resumes_itemTokens others rest)
        (parted_itemTokens others parted))

theorem parted_memberTokens (members : List (Option String × Json)) {rest : List Token}
    (parted : Token.Parted rest) : Token.Parted (memberTokens members ++ rest) := by
  match members with
  | [] => exact parted_cons rfl parted
  | (next, member) :: others =>
      rw [memberTokens, List.cons_append, List.cons_append, List.cons_append, List.append_assoc]
      have inner := parted_tokens member (resumes_memberTokens others rest)
        (parted_memberTokens others parted)
      exact parted_cons rfl (parted_scalar _ (by simp [Resumes, Token.isScalar])
        (parted_cons rfl inner))

end

/-! ## Legible values -/

/-- All numbers in the value have literals of numbers. -/
def Legible (json : Json) : Prop := ∀ token ∈ json.tokens, token.Legible

/-- A legible value is parsed back from its text. -/
theorem parse?_render (legible : json.Legible) : parse? json.render = some json := by
  apply parse?_of_spells
  have ends : Resumes [] := by simp [Resumes]
  have parted := parted_tokens json ends .nil
  rw [List.append_nil] at parted
  rw [render, String.toList_ofList]
  exact Token.spells_write legible parted

theorem legible_scalar {value : Scalar} (legible : (Token.scalar value).Legible) :
    (scalar value).Legible := by
  simpa [Legible, tokens] using legible

@[simp]
theorem legible_natural (value : Nat) : (natural value).Legible := legible_scalar trivial

@[simp]
theorem legible_text (value : String) : (Json.text value).Legible := legible_scalar trivial

@[simp]
theorem legible_bool (value : Bool) : (bool value).Legible := legible_scalar trivial

theorem legible_memberTokens {members : List (Option String × Json)}
    (legible : ∀ member ∈ members, member.2.Legible) :
    ∀ token ∈ memberTokens members, token.Legible := by
  induction members with
  | nil => simp [memberTokens, Token.Legible]
  | cons member others ih =>
      rcases member with ⟨key, value⟩
      intro token isToken
      simp only [memberTokens, List.mem_cons, List.mem_append] at isToken
      rcases isToken with rfl | rfl | rfl | inside | behind
      · trivial
      · trivial
      · trivial
      · exact legible (key, value) List.mem_cons_self token inside
      · exact ih (fun other member => legible other (List.mem_cons_of_mem _ member)) token behind

theorem mem_tokens_object {members : List (Option String × Json)} {token : Token}
    (isToken : token ∈ (object members).tokens) :
    token = .openObject ∨ token ∈ memberTokens members := by
  cases members with
  | nil => simpa [tokens, memberTokens] using isToken
  | cons member others =>
      rcases List.mem_cons.1 isToken with isFirst | further
      · exact .inl isFirst
      · exact .inr (List.mem_cons_of_mem _ further)

theorem legible_object {members : List (Option String × Json)}
    (legible : ∀ member ∈ members, member.2.Legible) : (object members).Legible := by
  intro token isToken
  rcases mem_tokens_object isToken with rfl | listed
  · trivial
  · exact legible_memberTokens legible token listed

/-! ## Encodings -/

variable {α : Type} {encode : α → Json} {decode : Json → Option α}

/-- Every value is encoded legibly and decoded again. -/
structure Recovers (encode : α → Json) (decode : Json → Option α) : Prop where
  legible : ∀ value, (encode value).Legible
  decoded : ∀ value, decode (encode value) = some value

/-- A value that is written as a text is read back from it. -/
theorem Recovers.parse (recovers : Recovers encode decode) (value : α) :
    (parse? (encode value).render).bind decode = some value := by
  rw [parse?_render (recovers.legible value), Option.bind_some, recovers.decoded]

/-- So no two values are written alike. -/
theorem Recovers.injective (recovers : Recovers encode decode) :
    Function.Injective fun value => (encode value).render := by
  intro first second (same : (encode first).render = (encode second).render)
  have read := recovers.parse second
  rw [← same, recovers.parse first] at read
  exact Option.some.inj read

end MediaGraph.Json
