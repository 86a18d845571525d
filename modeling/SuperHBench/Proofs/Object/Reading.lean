import SuperHBench.Object.Cursor

/-! # Reading what was written

A cursor stands before the bytes that are left of its file. A reader reads a value from
certain bytes if it returns the value wherever it stands before these bytes, whatever
comes after them, and stops right behind them. -/

namespace SuperHBench

namespace Cursor

structure Before (cursor : Cursor) (bytes : List UInt8) : Prop where
  inside : cursor.position ≤ cursor.file.size
  left : cursor.file.toList.drop cursor.position = bytes

def advance (cursor : Cursor) (count : Nat) : Cursor :=
  { cursor with position := cursor.position + count }

variable {cursor : Cursor} {bytes rest : List UInt8}

theorem Before.end_eq (before : cursor.Before bytes) :
    cursor.position + bytes.length = cursor.file.size := by
  have inside := before.inside
  have length := congrArg List.length before.left
  rw [List.length_drop, Array.length_toList] at length
  omega

theorem Before.advance (before : cursor.Before (bytes ++ rest)) :
    (cursor.advance bytes.length).Before rest := by
  constructor
  · have bound := before.end_eq
    rw [List.length_append] at bound
    change cursor.position + bytes.length ≤ cursor.file.size
    omega
  · change cursor.file.toList.drop (cursor.position + bytes.length) = rest
    rw [← List.drop_drop, before.left, List.drop_left]

theorem Before.not_atEnd {byte : UInt8} (before : cursor.Before (byte :: bytes)) :
    cursor.atEnd = false := by
  have bound := before.end_eq
  rw [List.length_cons] at bound
  simp only [atEnd, decide_eq_false_iff_not]
  omega

theorem Before.seek_position (before : cursor.Before bytes) :
    cursor.seek cursor.position = cursor := by
  rw [seek, Nat.min_eq_left before.inside]

/-! ## Readers -/

def Reads (reading : Reading α) (bytes : List UInt8) (value : α) : Prop :=
  ∀ cursor rest, cursor.Before (bytes ++ rest) →
    reading.run cursor = .ok value (cursor.advance bytes.length)

theorem reads_pure (value : α) : Reads (pure value) [] value :=
  fun _ _ _ => rfl

theorem Reads.bind {reading : Reading α} {next : α → Reading β} {first second : List UInt8}
    {value : α} {result : β} (reads : Reads reading first value)
    (others : Reads (next value) second result) :
    Reads (reading >>= next) (first ++ second) result := by
  intro cursor rest before
  rw [List.append_assoc] at before
  rw [EStateM.run_bind, reads cursor _ before]
  dsimp only
  rw [others _ rest before.advance, List.length_append]
  simp only [Cursor.advance, Nat.add_assoc]

theorem reads_take {count : Nat} (length : bytes.length = count) :
    Reads (take count) bytes bytes := by
  intro cursor rest before
  subst length
  have bound := before.end_eq
  rw [List.length_append] at bound
  have taken :
      (cursor.file.extract cursor.position (cursor.position + bytes.length)).toList = bytes := by
    rw [Array.toList_extract, List.extract_eq_take_drop, Nat.add_sub_cancel_left, before.left,
      List.take_left]
  simp only [EStateM.run, take]
  rw [if_pos (by omega), taken]
  rfl

theorem Reads.map {reading : Reading α} {value : α} (reads : Reads reading bytes value)
    (change : α → β) :
    Reads (do return change (← reading)) bytes (change value) := by
  have both : Reads (reading >>= fun value => pure (change value)) (bytes ++ []) (change value) :=
    reads.bind (reads_pure (change value))
  rwa [List.append_nil] at both

theorem reads_skip {count : Nat} (length : bytes.length = count) : Reads (skip count) bytes ⟨⟩ :=
  (reads_take length).map fun _ => PUnit.unit

theorem reads_byte (value : UInt8) : Reads byte [value] value :=
  (reads_take rfl).map fun bytes => bytes.headD 0

/-! ## Numbers -/

def littleBytes : (count : Nat) → (number : Nat) → List UInt8
  | 0, _ => []
  | count + 1, number => UInt8.ofNat number :: littleBytes count (number / 256)

def bigBytes (count number : Nat) : List UInt8 :=
  (littleBytes count number).reverse

@[simp] theorem length_littleBytes (count number : Nat) :
    (littleBytes count number).length = count := by
  induction count generalizing number with
  | zero => rfl
  | succ count induction => simp [littleBytes, induction]

@[simp] theorem length_bigBytes (count number : Nat) : (bigBytes count number).length = count := by
  simp [bigBytes]

theorem bigEndian_reverse (bytes : List UInt8) :
    bigEndian bytes.reverse = littleEndian bytes := by
  rw [bigEndian, List.foldl_reverse]
  induction bytes with
  | nil => rfl
  | cons byte rest induction =>
      rw [List.foldr_cons, induction, littleEndian]
      omega

theorem littleEndian_two {number : Nat} (small : number < 65536) :
    littleEndian (littleBytes 2 number) = number := by
  simp only [littleBytes, littleEndian, UInt8.toNat_ofNat']
  omega

theorem littleEndian_four {number : Nat} (small : number < 4294967296) :
    littleEndian (littleBytes 4 number) = number := by
  simp only [littleBytes, littleEndian, UInt8.toNat_ofNat']
  omega

theorem bigEndian_two {number : Nat} (small : number < 65536) :
    bigEndian (bigBytes 2 number) = number := by
  rw [bigBytes, bigEndian_reverse, littleEndian_two small]

theorem bigEndian_four {number : Nat} (small : number < 4294967296) :
    bigEndian (bigBytes 4 number) = number := by
  rw [bigBytes, bigEndian_reverse, littleEndian_four small]

theorem reads_bigWord (value : UInt16) : Reads bigWord (bigBytes 2 value.toNat) value := by
  have reads := (reads_take (length_bigBytes 2 value.toNat)).map
    fun bytes => UInt16.ofNat (bigEndian bytes)
  rwa [bigEndian_two value.toNat_lt, UInt16.ofNat_toNat] at reads

theorem reads_littleWord (value : UInt16) :
    Reads littleWord (littleBytes 2 value.toNat) value := by
  have reads := (reads_take (length_littleBytes 2 value.toNat)).map
    fun bytes => UInt16.ofNat (littleEndian bytes)
  rwa [littleEndian_two value.toNat_lt, UInt16.ofNat_toNat] at reads

theorem reads_bigLong (value : UInt32) : Reads bigLong (bigBytes 4 value.toNat) value := by
  have reads := (reads_take (length_bigBytes 4 value.toNat)).map
    fun bytes => UInt32.ofNat (bigEndian bytes)
  rwa [bigEndian_four value.toNat_lt, UInt32.ofNat_toNat] at reads

theorem reads_littleLong (value : UInt32) :
    Reads littleLong (littleBytes 4 value.toNat) value := by
  have reads := (reads_take (length_littleBytes 4 value.toNat)).map
    fun bytes => UInt32.ofNat (littleEndian bytes)
  rwa [littleEndian_four value.toNat_lt, UInt32.ofNat_toNat] at reads

/-! ## Bytes with their length -/

def prefixedBytes (bytes : List UInt8) : List UInt8 :=
  UInt8.ofNat bytes.length :: bytes

@[simp] theorem length_prefixedBytes (bytes : List UInt8) :
    (prefixedBytes bytes).length = bytes.length + 1 := rfl

theorem reads_prefixed (short : bytes.length < 256) :
    Reads prefixed (prefixedBytes bytes) bytes := by
  have length : (UInt8.ofNat bytes.length).toNat = bytes.length := by
    rw [UInt8.toNat_ofNat']
    exact Nat.mod_eq_of_lt short
  exact (reads_byte _).bind (reads_take length.symm)

end Cursor

end SuperHBench
