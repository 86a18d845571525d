import SuperHBench.Text.Digits

/-! # Machine words

Words of a fixed width wrap around; signedness is a way of reading them and not a
property they have. `Value` is a word tagged with the width of the memory access
that moves it. -/

namespace SuperHBench

structure RangeError where
  value : Int
  bits : Nat
deriving DecidableEq, Repr

def RangeError.message (error : RangeError) : String :=
  s!"value {error.value} does not fit in an unsigned {error.bits}-bit integer"

/-! ## Words of any width -/

namespace Word

def count (width : Nat) : Nat :=
  Nat.pow 2 width

def ofInt (width : Nat) (value : Int) : Except RangeError (BitVec width) :=
  if 0 ≤ value ∧ value < count width then
    .ok (BitVec.ofInt width value)
  else
    .error ⟨value, width⟩

def divide? (dividend divisor : BitVec width) : Option (BitVec width) :=
  if divisor = 0 then none else some (dividend / divisor)

def remainder? (dividend divisor : BitVec width) : Option (BitVec width) :=
  if divisor = 0 then none else some (dividend % divisor)

/-- Logical left shift. An amount of the width or more leaves nothing, and such
an amount is never handed to the shifter. -/
def shiftLeft (word : BitVec width) (amount : Nat) : BitVec width :=
  if amount < width then word <<< amount else 0

def shiftRight (word : BitVec width) (amount : Nat) : BitVec width :=
  if amount < width then word >>> amount else 0

def hex (word : BitVec width) : String :=
  Text.hexDigits (width / 4) word.toNat

def signedHex (word : BitVec width) : String :=
  if word.toInt < 0 then
    "-" ++ Text.hexDigits (width / 4) word.toInt.natAbs
  else
    hex word

def readable (word : BitVec width) : String :=
  s!"{word.toNat} (0x{hex word})"

theorem shiftLeft_eq (word : BitVec width) (amount : Nat) :
    shiftLeft word amount = word <<< amount := by
  by_cases small : amount < width
  · simp [shiftLeft, small]
  · simp [shiftLeft, small, BitVec.shiftLeft_eq_zero (Nat.le_of_not_lt small)]

theorem shiftRight_eq (word : BitVec width) (amount : Nat) :
    shiftRight word amount = word >>> amount := by
  by_cases small : amount < width
  · simp [shiftRight, small]
  · simp [shiftRight, small, BitVec.ushiftRight_eq_zero (Nat.le_of_not_lt small)]

example : signedHex (0xff : BitVec 8) = "-01" := by decide
example : readable (10 : BitVec 32) = "10 (0x0000000a)" := by decide

end Word

/-! ## Access widths -/

inductive Width where
  | byte
  | word
  | long
deriving DecidableEq, Repr

namespace Width

def bytes : Width → Nat
  | .byte => 1
  | .word => 2
  | .long => 4

def bits (width : Width) : Nat :=
  8 * width.bytes

def ofBits? : Nat → Option Width
  | 8 => some .byte
  | 16 => some .word
  | 32 => some .long
  | _ => none

theorem ofBits?_bits (width : Width) : ofBits? width.bits = some width := by
  cases width <;> rfl

theorem ofBits?_eq_some_iff {bits : Nat} {width : Width} :
    ofBits? bits = some width ↔ bits = width.bits := by
  constructor
  · intro found
    unfold ofBits? at found
    split at found <;> cases found <;> rfl
  · rintro rfl
    exact width.ofBits?_bits

end Width

/-! ## Values of an access -/

inductive Value where
  | byte (contents : UInt8)
  | word (contents : UInt16)
  | long (contents : UInt32)
deriving DecidableEq, Repr

namespace Value

def width : Value → Width
  | .byte _ => .byte
  | .word _ => .word
  | .long _ => .long

def bits (value : Value) : Nat :=
  value.width.bits

def raw : Value → UInt32
  | .byte contents => contents.toUInt32
  | .word contents => contents.toUInt32
  | .long contents => contents

/-- The contents as a register receives them: extended with the sign. -/
def extended : Value → UInt32
  | .byte contents => contents.toInt8.toInt32.toUInt32
  | .word contents => contents.toInt16.toInt32.toUInt32
  | .long contents => contents

def truncate (width : Width) (contents : UInt32) : Value :=
  match width with
  | .byte => .byte contents.toUInt8
  | .word => .word contents.toUInt16
  | .long => .long contents

def toBytes : Value → List UInt8
  | .byte contents => [contents]
  | .word contents => [contents.toUInt8, (contents >>> 8).toUInt8]
  | .long contents =>
      [contents.toUInt8, (contents >>> 8).toUInt8,
        (contents >>> 16).toUInt8, (contents >>> 24).toUInt8]

def readable : Value → String
  | .byte contents => Word.readable contents.toBitVec
  | .word contents => Word.readable contents.toBitVec
  | .long contents => Word.readable contents.toBitVec

/-- The value a number stands for at a width of `bits`. A bit pattern may be
written signed or unsigned; numbers outside both readings are refused. -/
def ofInt (bits : Nat) (value : Int) : Except RangeError Value :=
  match Width.ofBits? bits with
  | none => .error ⟨value, bits⟩
  | some width =>
      if -Word.count (width.bits - 1) ≤ value ∧ value < Word.count width.bits then
        .ok (truncate width (UInt32.ofInt value))
      else
        .error ⟨value, bits⟩

def patternOfInt (value : Int) : Except RangeError UInt32 :=
  (ofInt 32 value).map raw

@[simp] theorem width_truncate (width : Width) (contents : UInt32) :
    (truncate width contents).width = width := by
  cases width <;> rfl

@[simp] theorem length_toBytes (value : Value) :
    value.toBytes.length = value.width.bytes := by
  cases value <;> rfl

theorem eq_of_width_eq_of_raw_eq {left right : Value}
    (sameWidth : left.width = right.width) (sameRaw : left.raw = right.raw) :
    left = right := by
  cases left <;> cases right <;> simp [width] at sameWidth
  · rename_i left right
    have equal := congrArg UInt32.toUInt8 sameRaw
    simpa [raw] using equal
  · rename_i left right
    have equal := congrArg UInt32.toUInt16 sameRaw
    simpa [raw] using equal
  · simpa [raw] using sameRaw

end Value

end SuperHBench
