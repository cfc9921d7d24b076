/-!
# Decimal numerals

Numbers are written without sign and without leading zeros. Reading a 32-bit word is more
lenient: one plus sign may stand in front, and leading zeros do no harm. Every written word
reads back (`readWord?_decimal`).
-/

namespace MediaGraph.Text

def decimal (number : Nat) : String := String.ofList (Nat.toDigits 10 number)

/-- The digits of a numeral: what is left after one optional plus sign. -/
def unsigned : List Char → List Char
  | '+' :: digits => digits
  | digits => digits

/-- Reads a 32-bit word: an optional plus sign, then one or more ASCII digits. -/
def readWord? (text : String) : Option UInt32 :=
  let digits := unsigned text.toList
  if digits ≠ [] ∧ digits.all Char.isDigit then
    let value := Nat.ofDigitChars 10 digits 0
    if value < UInt32.size then some (UInt32.ofNat value) else none
  else none

theorem unsigned_of_isDigit {digits : List Char} (allDigits : ∀ c ∈ digits, c.isDigit = true) :
    unsigned digits = digits := by
  match digits with
  | [] => rfl
  | c :: rest =>
    by_cases plus : c = '+'
    · subst plus
      exact absurd (allDigits '+' List.mem_cons_self) (by decide)
    · simp [unsigned, plus]

/-- Every word is read back from its decimal text. -/
theorem readWord?_decimal (word : UInt32) : readWord? (decimal word.toNat) = some word := by
  have allDigits : ∀ c ∈ Nat.toDigits 10 word.toNat, c.isDigit = true := fun c member =>
    Nat.isDigit_of_mem_toDigits (by decide) (by decide) member
  have small : word.toNat < UInt32.size := word.toNat_lt
  simp only [readWord?, decimal, String.toList_ofList, unsigned_of_isDigit allDigits,
    List.all_eq_true.2 allDigits, Nat.toDigits_ne_nil, ne_eq, not_false_eq_true, and_self, if_true,
    Nat.ofDigitChars_toDigits (b := 10) (by decide) (by decide), small, UInt32.ofNat_toNat]

end MediaGraph.Text
