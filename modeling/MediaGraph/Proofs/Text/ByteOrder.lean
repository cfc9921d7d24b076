import MediaGraph.Table
import Mathlib.Algebra.GroupWithZero.Nat
import Mathlib.Tactic.SplitIfs

/-!
# The order of texts in UTF-8

Texts are compared character by character. Their encodings are compared byte by byte, and the two
orders agree (`Text.bytes_lt`), although a character takes one to four bytes.

What carries the proof is that the encodings of two characters differ before either of them ends
(`Text.Departs`), so that it does not matter which characters follow. They differ in the first byte
if they are of different lengths, as more bytes to come mean a greater mark. If the lengths are the
same, the bytes hold the code in blocks of six bits, and the first block that differs decides.
-/

namespace MediaGraph.Text

/-- The bytes of a text in UTF-8. -/
def bytes (text : String) : List UInt8 := text.toByteArray.data.toList

variable {left right : List UInt8} {low high : Nat}

/-! ## Bytes -/

/-- The first run of bytes comes before the second, whatever either of them goes on with. -/
def Departs (left right : List UInt8) : Prop :=
  ∀ behindLeft behindRight, left ++ behindLeft < right ++ behindRight

theorem departs_of_head (less : low < high) (small : high < UInt8.size) (left right : List UInt8) :
    Departs (UInt8.ofNat low :: left) (UInt8.ofNat high :: right) := by
  intro behindLeft behindRight
  have before : UInt8.ofNat low < UInt8.ofNat high :=
    (UInt8.ofNat_lt_iff_lt (Nat.lt_trans less small) small).2 less
  exact List.cons_lt_cons_iff.2 (.inl before)

theorem Departs.cons (departs : Departs left right) (byte : UInt8) :
    Departs (byte :: left) (byte :: right) := by
  intro behindLeft behindRight
  exact List.cons_lt_cons_iff.2 (.inr ⟨rfl, departs behindLeft behindRight⟩)

/-! ## Characters -/

/-- The last bytes of a character: six bits each of its code, the upper ones first. -/
def continuation (code : Nat) : Nat → List UInt8
  | 0 => []
  | count + 1 => UInt8.ofNat (code / 64 ^ count % 64 + 0x80) :: continuation code count

/-- Codes with the same upper bits differ in those that the continuation holds. -/
theorem departs_continuation {count : Nat} (less : low < high)
    (upper : low / 64 ^ count = high / 64 ^ count) :
    Departs (continuation low count) (continuation high count) := by
  induction count with
  | zero =>
      rw [pow_zero, Nat.div_one, Nat.div_one] at upper
      exact absurd upper (Nat.ne_of_lt less)
  | succ count ih =>
      have ordered : low / 64 ^ count ≤ high / 64 ^ count :=
        Nat.div_le_div_right (Nat.le_of_lt less)
      rw [pow_succ, ← Nat.div_div_eq_div_mul, ← Nat.div_div_eq_div_mul] at upper
      rw [continuation, continuation]
      by_cases same : low / 64 ^ count = high / 64 ^ count
      · rw [same]
        exact (ih same).cons _
      · apply departs_of_head
        · omega
        · rw [UInt8.size]
          omega

/-- How many bytes of a character follow its first one. -/
def continuationLength (code : Nat) : Nat :=
  if code ≤ 0x7f then 0 else if code ≤ 0x7ff then 1 else if code ≤ 0xffff then 2 else 3

/-- What marks the first byte of a character, by how many bytes follow. -/
def leadMark : Nat → Nat
  | 0 => 0
  | 1 => 0xc0
  | 2 => 0xe0
  | _ => 0xf0

def leadByte (code : Nat) : Nat :=
  code / 64 ^ continuationLength code + leadMark (continuationLength code)

theorem code_lt (c : Char) : c.toNat < 0x110000 := by
  have valid : c.toNat < 0xd800 ∨ 0xdfff < c.toNat ∧ c.toNat < 0x110000 := c.valid
  omega

theorem leadByte_lt (c : Char) : leadByte c.toNat < UInt8.size := by
  have bound := code_lt c
  simp only [leadByte, continuationLength, UInt8.size]
  split_ifs <;> simp only [leadMark] <;> omega

theorem utf8EncodeChar_eq (c : Char) : String.utf8EncodeChar c =
    UInt8.ofNat (leadByte c.toNat) :: continuation c.toNat (continuationLength c.toNat) := by
  have bound := code_lt c
  simp only [String.utf8EncodeChar, Char.toNat_val, leadByte, continuationLength]
  split_ifs
  · simp [continuation, leadMark]
  · have upper : c.toNat / 64 % 32 = c.toNat / 64 := by omega
    simp [continuation, leadMark, upper]
  · have upper : c.toNat / 4096 % 16 = c.toNat / 4096 := by omega
    simp [continuation, leadMark, upper]
  · have upper : c.toNat / 262144 % 8 = c.toNat / 262144 := by omega
    simp [continuation, leadMark, upper]

/-- The first bytes of two characters are in order; if they are the same, so is what they say. -/
theorem leadByte_cases (less : low < high) (bound : high < 0x110000) :
    leadByte low < leadByte high ∨
      leadByte low = leadByte high ∧ continuationLength low = continuationLength high ∧
        low / 64 ^ continuationLength low = high / 64 ^ continuationLength low := by
  simp only [leadByte, continuationLength]
  split_ifs <;> simp only [leadMark, true_and] <;> omega

theorem departs_utf8EncodeChar {first second : Char} (less : first < second) :
    Departs (String.utf8EncodeChar first) (String.utf8EncodeChar second) := by
  have below : first.toNat < second.toNat := less
  rw [utf8EncodeChar_eq, utf8EncodeChar_eq]
  rcases leadByte_cases below (code_lt second) with earlier | ⟨sameLead, sameLength, upper⟩
  · exact departs_of_head earlier (leadByte_lt second) _ _
  · rw [sameLead, ← sameLength]
    exact (departs_continuation below upper).cons _

/-! ## Texts -/

theorem flatMap_utf8EncodeChar_lt {left right : List Char} (less : left < right) :
    left.flatMap String.utf8EncodeChar < right.flatMap String.utf8EncodeChar := by
  induction less with
  | nil =>
      rw [List.flatMap_nil, List.flatMap_cons, utf8EncodeChar_eq]
      exact List.nil_lt_cons _ _
  | rel earlier =>
      rw [List.flatMap_cons, List.flatMap_cons]
      exact departs_utf8EncodeChar earlier _ _
  | cons _ ih =>
      rw [List.flatMap_cons, List.flatMap_cons]
      exact List.append_left_lt ih

theorem bytes_eq (text : String) : bytes text = text.toList.flatMap String.utf8EncodeChar := by
  rw [bytes, ← String.utf8Encode_toList, List.utf8Encode, List.toList_data_toByteArray]

/-- A text that comes before another one has the smaller encoding. -/
theorem bytes_lt {left right : String} (before : compare left right = .lt) :
    bytes left < bytes right := by
  have less : left < right := compareOfLessAndEq_eq_lt.1 before
  rw [bytes_eq, bytes_eq]
  exact flatMap_utf8EncodeChar_lt (String.lt_iff.1 less)

end MediaGraph.Text
