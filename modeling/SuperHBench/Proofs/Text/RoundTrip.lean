import SuperHBench.Text.Utf8

/-! # Text there and back

Text that is written in UTF-8 reads back as it was: no character of it is damage. -/

namespace SuperHBench.Text

def encode (text : String) : List UInt8 :=
  text.toList.flatMap String.utf8EncodeChar

theorem toByteArray_encode (text : String) : (encode text).toByteArray = text.toUTF8 :=
  String.utf8Encode_toList

/-! ## Bytes of one character -/

deriving instance DecidableEq for Lead

theorem lead?_two : ∀ high : Fin 32, 2 ≤ high →
    lead? (UInt8.ofNat (high + 192)) = some ⟨high, 1, 0x80, 0xbf⟩ := by
  decide

/-- The first byte that follows is kept off overlong forms and surrogates. -/
theorem lead?_three : ∀ high : Fin 16,
    lead? (UInt8.ofNat (high + 224)) =
      some ⟨high, 2, if high.val = 0 then 0xa0 else 0x80,
        if high.val = 13 then 0x9f else 0xbf⟩ := by
  decide

theorem lead?_four : ∀ high : Fin 5,
    lead? (UInt8.ofNat (high + 240)) =
      some ⟨high, 3, if high.val = 0 then 0x90 else 0x80, if high.val = 4 then 0x8f else 0xbf⟩ := by
  decide

theorem complete_following {bits following low : Nat} {first last : UInt8} (rest : List UInt8)
    (small : low < 64) (above : first.toNat ≤ low + 128) (below : low + 128 ≤ last.toNat) :
    complete bits first last (following + 1) (UInt8.ofNat (low + 128) :: rest) =
      complete (bits * 64 + low) 0x80 0xbf following rest := by
  have value : (UInt8.ofNat (low + 128)).toNat = low + 128 := by
    rw [UInt8.toNat_ofNat']
    omega
  have inRange : first ≤ UInt8.ofNat (low + 128) ∧ UInt8.ofNat (low + 128) ≤ last := by
    rw [UInt8.le_iff_toNat_le, UInt8.le_iff_toNat_le, value]
    exact ⟨above, below⟩
  rw [complete, if_pos inRange, value, show (low + 128) % 64 = low by omega]

theorem complete_later {bits following low : Nat} (rest : List UInt8) (small : low < 64) :
    complete bits 0x80 0xbf (following + 1) (UInt8.ofNat (low + 128) :: rest) =
      complete (bits * 64 + low) 0x80 0xbf following rest :=
  complete_following rest small (by simp) (by simp; omega)

/-! ## Characters -/

theorem decodeSteps_of_lead {steps : Nat} {byte : UInt8} {bytes rest : List UInt8} {lead : Lead}
    {code : Nat} (high : 0x80 ≤ byte.toNat) (leads : lead? byte = some lead)
    (completes : complete lead.bits lead.first lead.last lead.following bytes = (some code, rest)) :
    decodeSteps (steps + 1) (byte :: bytes) = Char.ofNat code :: decodeSteps steps rest := by
  have notAscii : ¬byte < 0x80 := by
    rw [UInt8.lt_iff_toNat_lt]
    exact Nat.not_lt.mpr high
  rw [decodeSteps, if_neg notAscii]
  simp [leads, completes]

variable (steps : Nat) (rest : List UInt8)

theorem decodeSteps_one {code : Nat} (ascii : code ≤ 0x7f) :
    decodeSteps (steps + 1) (UInt8.ofNat code :: rest) =
      Char.ofNat code :: decodeSteps steps rest := by
  have value : (UInt8.ofNat code).toNat = code := by
    rw [UInt8.toNat_ofNat']
    omega
  have small : UInt8.ofNat code < 0x80 := by
    rw [UInt8.lt_iff_toNat_lt, value]
    exact Nat.lt_succ_of_le ascii
  rw [decodeSteps, if_pos small, value]

theorem decodeSteps_two {high low : Nat} (highBound : high < 32) (lowBound : low < 64)
    (notOverlong : 2 ≤ high) :
    decodeSteps (steps + 1) (UInt8.ofNat (high + 192) :: UInt8.ofNat (low + 128) :: rest) =
      Char.ofNat (high * 64 + low) :: decodeSteps steps rest := by
  apply decodeSteps_of_lead
  · rw [UInt8.toNat_ofNat']
    omega
  · exact lead?_two ⟨high, highBound⟩ notOverlong
  · rw [complete_later rest lowBound, complete]

theorem decodeSteps_three {high middle low : Nat} (highBound : high < 16)
    (middleBound : middle < 64) (lowBound : low < 64) (notOverlong : high = 0 → 32 ≤ middle)
    (noSurrogate : high = 13 → middle < 32) :
    decodeSteps (steps + 1)
        (UInt8.ofNat (high + 224) :: UInt8.ofNat (middle + 128) :: UInt8.ofNat (low + 128) ::
          rest) =
      Char.ofNat ((high * 64 + middle) * 64 + low) :: decodeSteps steps rest := by
  apply decodeSteps_of_lead
  · rw [UInt8.toNat_ofNat']
    omega
  · exact lead?_three ⟨high, highBound⟩
  · rw [complete_following _ middleBound, complete_later rest lowBound, complete]
    · by_cases zero : high = 0
      · simp [zero, notOverlong zero]
      · simp [zero]
    · by_cases thirteen : high = 13
      · have low := noSurrogate thirteen
        simp [thirteen]
        omega
      · simp [thirteen]
        omega

theorem decodeSteps_four {high upper middle low : Nat} (highBound : high < 5)
    (upperBound : upper < 64) (middleBound : middle < 64) (lowBound : low < 64)
    (notOverlong : high = 0 → 16 ≤ upper) (inRange : high = 4 → upper < 16) :
    decodeSteps (steps + 1)
        (UInt8.ofNat (high + 240) :: UInt8.ofNat (upper + 128) :: UInt8.ofNat (middle + 128) ::
          UInt8.ofNat (low + 128) :: rest) =
      Char.ofNat (((high * 64 + upper) * 64 + middle) * 64 + low) :: decodeSteps steps rest := by
  apply decodeSteps_of_lead
  · rw [UInt8.toNat_ofNat']
    omega
  · exact lead?_four ⟨high, highBound⟩
  · rw [complete_following _ upperBound, complete_later _ middleBound,
      complete_later rest lowBound, complete]
    · by_cases zero : high = 0
      · simp [zero, notOverlong zero]
      · simp [zero]
    · by_cases four : high = 4
      · have low := inRange four
        simp [four]
        omega
      · simp [four]
        omega

theorem decodeSteps_utf8EncodeChar (character : Char) :
    decodeSteps (steps + 1) (String.utf8EncodeChar character ++ rest) =
      character :: decodeSteps steps rest := by
  have valid : character.toNat < 0xd800 ∨ 0xdfff < character.toNat ∧ character.toNat < 0x110000 :=
    character.valid
  have again : Char.ofNat character.toNat = character := Char.ofNat_toNat character
  have value : character.val.toNat = character.toNat := rfl
  simp only [String.utf8EncodeChar, value]
  generalize character.toNat = code at valid again
  subst again
  split
  · exact decodeSteps_one steps rest ‹_›
  · split
    · have parts : code = code / 64 % 32 * 64 + code % 64 := by omega
      conv => rhs; rw [parts]
      apply decodeSteps_two steps rest <;> omega
    · split
      · have parts : code = (code / 4096 % 16 * 64 + code / 64 % 64) * 64 + code % 64 := by omega
        conv => rhs; rw [parts]
        apply decodeSteps_three steps rest <;> omega
      · have parts :
            code = ((code / 262144 % 8 * 64 + code / 4096 % 64) * 64 + code / 64 % 64) * 64 +
              code % 64 := by
          omega
        conv => rhs; rw [parts]
        apply decodeSteps_four steps rest <;> omega

theorem decodeSteps_flatMap (steps : Nat) (characters : List Char)
    (enough : characters.length ≤ steps) :
    decodeSteps steps (characters.flatMap String.utf8EncodeChar) = characters := by
  induction characters generalizing steps with
  | nil => cases steps <;> rfl
  | cons character rest induction =>
      rcases Nat.exists_eq_add_one_of_ne_zero
          (Nat.ne_of_gt (Nat.lt_of_lt_of_le (Nat.succ_pos _) enough)) with ⟨steps, rfl⟩
      rw [List.flatMap_cons, decodeSteps_utf8EncodeChar,
        induction steps (Nat.le_of_succ_le_succ enough)]

theorem length_le_length_flatMap (characters : List Char) :
    characters.length ≤ (characters.flatMap String.utf8EncodeChar).length := by
  induction characters with
  | nil => exact Nat.le_refl 0
  | cons character rest induction =>
      have positive : 0 < (String.utf8EncodeChar character).length := by
        rw [String.length_utf8EncodeChar]
        exact Char.utf8Size_pos character
      rw [List.flatMap_cons, List.length_append, List.length_cons]
      omega

theorem decode_encode (text : String) : decode (encode text) = text := by
  unfold decode encode
  rw [decodeSteps_flatMap _ _ (length_le_length_flatMap _), String.ofList_toList]

end SuperHBench.Text
