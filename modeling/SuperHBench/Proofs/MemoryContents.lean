import SuperHBench.Memory

/-! # Contents of memory

Values and memory byte by byte: what it is for memory to hold a value at an address and
to receive one there. Reads find what memory holds, writes make memory receive. -/

namespace SuperHBench

namespace Value

def byteAt (value : Value) (offset : Nat) : UInt8 :=
  UInt8.ofNat (value.raw.toNat / Word.count (8 * offset))

def signed (value : Value) : Int :=
  Int.bmod value.raw.toNat (Word.count value.bits)

theorem toNat_byteAt (value : Value) (offset : Nat) :
    (value.byteAt offset).toNat = value.raw.toNat / Word.count (8 * offset) % 256 := by
  simp [byteAt]

theorem toBytes_eq (value : Value) :
    value.toBytes = (List.range value.width.bytes).map value.byteAt := by
  cases value with
  | byte contents =>
      simp [toBytes, byteAt, width, Width.bytes, raw, List.range_succ, Word.count]
  | word contents =>
      simp only [toBytes, byteAt, width, Width.bytes, raw, List.range_succ, List.range_zero,
        List.nil_append, List.cons_append, List.map_cons, List.map_nil, Word.count]
      congr 2 <;> apply UInt8.toNat_inj.mp <;> simp [Nat.shiftRight_eq_div_pow]
  | long contents =>
      simp only [toBytes, byteAt, width, Width.bytes, raw, List.range_succ, List.range_zero,
        List.nil_append, List.cons_append, List.map_cons, List.map_nil, Word.count]
      congr 4 <;> apply UInt8.toNat_inj.mp <;> simp [Nat.shiftRight_eq_div_pow]

theorem long_eq_of_byteAt {first second : UInt32}
    (same : ∀ offset < 4, (long first).byteAt offset = (long second).byteAt offset) :
    first = second := by
  have digits (offset : Nat) (within : offset < 4) :
      first.toNat / Word.count (8 * offset) % 256 =
        second.toNat / Word.count (8 * offset) % 256 := by
    have equal := congrArg UInt8.toNat (same offset within)
    rwa [toNat_byteAt, toNat_byteAt] at equal
  have lowest := digits 0 (by decide)
  have low := digits 1 (by decide)
  have high := digits 2 (by decide)
  have highest := digits 3 (by decide)
  have firstBound := first.toNat_lt
  have secondBound := second.toNat_lt
  simp only [Word.count, Nat.reduceMul, Nat.reducePow, Nat.pow_eq] at lowest low high highest
  apply UInt32.toNat_inj.mp
  omega

theorem toInt_extended (value : Value) : value.extended.toInt32.toInt = value.signed := by
  cases value with
  | byte contents =>
      simp only [extended, Int32.toInt32_toUInt32, Int8.toInt_toInt32]
      exact BitVec.toInt_eq_toNat_bmod contents.toBitVec
  | word contents =>
      simp only [extended, Int32.toInt32_toUInt32, Int16.toInt_toInt32]
      exact BitVec.toInt_eq_toNat_bmod contents.toBitVec
  | long contents => exact BitVec.toInt_eq_toNat_bmod contents.toBitVec

end Value

namespace Memory

/-- From an address inside memory on stand the bytes of a value. Past the end there are
zeros. -/
structure Holds (memory : Memory) (address : UInt32) (value : Value) : Prop where
  inside : address.toNat < memory.size
  bytes : ∀ offset < value.width.bytes,
    memory.byte (address.toNat + offset) = value.byteAt offset

/-- The bytes of a value replace those from an address on, as far as memory goes. All
others stay as they are. -/
structure Receives (memory : Memory) (address : UInt32) (value : Value) (after : Memory) :
    Prop where
  size : after.size = memory.size
  bytes : ∀ index < memory.size,
    after.byte index =
      if address.toNat ≤ index ∧ index < address.toNat + value.width.bytes then
        value.byteAt (index - address.toNat)
      else
        memory.byte index

/-! ## Reading -/

theorem toNat_wordAt (memory : Memory) (index : Nat) :
    (memory.wordAt index).toNat =
      (memory.byte index).toNat + 256 * (memory.byte (index + 1)).toNat := by
  have low := (memory.byte index).toNat_lt
  have high := (memory.byte (index + 1)).toNat_lt
  have sum := Nat.shiftLeft_add_eq_or_of_lt (i := 8) low (memory.byte (index + 1)).toNat
  simp only [wordAt, UInt16.toNat_or, UInt8.toNat_toUInt16, UInt16.toNat_shiftLeft]
  simp only [Nat.shiftLeft_eq, UInt16.reduceToNat, Nat.reduceMod, Nat.reducePow] at sum ⊢
  rw [Nat.mod_eq_of_lt (by omega), Nat.or_comm, ← sum]
  omega

theorem toNat_longAt (memory : Memory) (index : Nat) :
    (memory.longAt index).toNat =
      (memory.wordAt index).toNat + 65536 * (memory.wordAt (index + 2)).toNat := by
  have low := (memory.wordAt index).toNat_lt
  have high := (memory.wordAt (index + 2)).toNat_lt
  have sum := Nat.shiftLeft_add_eq_or_of_lt (i := 16) low (memory.wordAt (index + 2)).toNat
  simp only [longAt, UInt32.toNat_or, UInt16.toNat_toUInt32, UInt32.toNat_shiftLeft]
  simp only [Nat.shiftLeft_eq, UInt32.reduceToNat, Nat.reduceMod, Nat.reducePow] at sum ⊢
  rw [Nat.mod_eq_of_lt (by omega), Nat.or_comm, ← sum]
  omega

theorem byteAt_valueAt (memory : Memory) (index : Nat) (width : Width) {offset : Nat}
    (within : offset < width.bytes) :
    (memory.valueAt index width).byteAt offset = memory.byte (index + offset) := by
  have first := (memory.byte index).toNat_lt
  have second := (memory.byte (index + 1)).toNat_lt
  have third := (memory.byte (index + 2)).toNat_lt
  have fourth := (memory.byte (index + 3)).toNat_lt
  have low := memory.toNat_wordAt index
  have high := memory.toNat_wordAt (index + 2)
  apply UInt8.toNat_inj.mp
  rw [Value.toNat_byteAt]
  cases width with
  | byte =>
      obtain rfl : offset = 0 := Nat.lt_one_iff.mp within
      simp [valueAt, Value.raw, Word.count]
  | word =>
      have cases : offset = 0 ∨ offset = 1 := by
        simp only [Width.bytes] at within
        omega
      rcases cases with rfl | rfl
      all_goals
        simp only [valueAt, Value.raw, Word.count, UInt16.toNat_toUInt32]
        simp
        omega
  | long =>
      have cases : offset = 0 ∨ offset = 1 ∨ offset = 2 ∨ offset = 3 := by
        simp only [Width.bytes] at within
        omega
      rcases cases with rfl | rfl | rfl | rfl
      all_goals
        simp only [valueAt, Value.raw, Word.count, toNat_longAt]
        simp [Nat.add_assoc] at high ⊢
        omega

theorem holds_of_read {memory : Memory} {width : Width} {address : UInt32} {value : Value}
    (found : memory.read width address = .ok value) :
    value.width = width ∧ memory.Holds address value := by
  unfold read locate at found
  split at found
  · rename_i inside
    cases found
    refine ⟨memory.width_valueAt _ width, inside, ?_⟩
    intro offset within
    rw [width_valueAt] at within
    exact (memory.byteAt_valueAt _ width within).symm
  · cases found

/-! ## Writing -/

theorem receives_write (memory : Memory) (address : UInt32) (value : Value) :
    memory.Receives address value (memory.write address value) := by
  refine ⟨memory.size_write address value, ?_⟩
  intro index inside
  rw [write, writeBytes, byte_writeFrom memory _ _ _ inside, Value.toBytes_eq]
  by_cases start : address.toNat ≤ index
  · by_cases within : index - address.toNat < value.width.bytes
    · have covered : index < address.toNat + value.width.bytes := by omega
      simp [start, within, covered]
    · have past : ¬index < address.toNat + value.width.bytes := by omega
      simp [start, within, past]
  · simp [start]

/-! ## Writes that lie apart -/

theorem setByte_comm (memory : Memory) {index other : Nat} (value another : UInt8)
    (different : index ≠ other) :
    (memory.setByte index value).setByte other another =
      (memory.setByte other another).setByte index value := by
  have swapped : (memory.written.insert index value).insert other another =
      (memory.written.insert other another).insert index value := by
    apply Std.ExtTreeMap.ext_getElem?
    intro place
    simp only [Std.ExtTreeMap.getElem?_insert, Std.LawfulEqCmp.compare_eq_iff_eq]
    by_cases here : index = place
    · subst here
      simp only [different.symm, if_true, if_false]
    · simp only [here, if_false]
  unfold setByte
  by_cases inside : index < memory.size
  · by_cases within : other < memory.size
    · simp only [inside, within, if_true, swapped]
    · simp only [inside, within, if_true, if_false]
  · by_cases within : other < memory.size
    · simp only [inside, within, if_true, if_false]
    · simp only [inside, within, if_false]

theorem writeFrom_setByte (memory : Memory) {start index : Nat} (value : UInt8)
    {bytes : List UInt8} (apart : index < start ∨ start + bytes.length ≤ index) :
    (memory.setByte index value).writeFrom start bytes =
      (memory.writeFrom start bytes).setByte index value := by
  induction bytes generalizing memory start with
  | nil => rfl
  | cons head rest induction =>
      rw [List.length_cons] at apart
      rw [writeFrom, writeFrom, memory.setByte_comm value head (by omega),
        induction _ (by omega)]

theorem writeFrom_comm (memory : Memory) {start other : Nat} {bytes more : List UInt8}
    (apart : start + bytes.length ≤ other ∨ other + more.length ≤ start) :
    (memory.writeFrom start bytes).writeFrom other more =
      (memory.writeFrom other more).writeFrom start bytes := by
  induction bytes generalizing memory start with
  | nil => rfl
  | cons head rest induction =>
      rw [List.length_cons] at apart
      rw [writeFrom, writeFrom, induction _ (by omega), memory.writeFrom_setByte head (by omega)]

end Memory

end SuperHBench
