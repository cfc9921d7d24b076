/-!
# Substring search

`occursIn pattern text` decides whether `pattern` stands anywhere in `text` as a run of
neighbouring characters (`occursIn_iff`). The empty pattern occurs in every text.
-/

namespace MediaGraph.Text

/-- Whether the first list is a run of neighbouring members of the second. -/
def occursIn (pattern : List Char) : List Char → Bool
  | [] => pattern.isEmpty
  | c :: rest => pattern.isPrefixOf (c :: rest) || occursIn pattern rest

theorem occursIn_iff (pattern text : List Char) :
    occursIn pattern text = true ↔ ∃ before after, text = before ++ pattern ++ after := by
  induction text with
  | nil => simp [occursIn, eq_comm (a := ([] : List Char))]
  | cons c rest ih =>
    simp only [occursIn, Bool.or_eq_true, ih, List.isPrefixOf_iff_prefix]
    constructor
    · rintro (⟨after, start⟩ | ⟨before, after, rfl⟩)
      · exact ⟨[], after, by simp [start]⟩
      · exact ⟨c :: before, after, by simp⟩
    · rintro ⟨before, after, equal⟩
      match before, equal with
      | [], equal => exact .inl ⟨after, by simp [equal]⟩
      | _ :: before, equal =>
        simp only [List.cons_append, List.cons.injEq] at equal
        exact .inr ⟨before, after, equal.2⟩

def contains (text pattern : String) : Bool := occursIn pattern.toList text.toList

end MediaGraph.Text
