/-! # Single-precision arithmetic

Arithmetic on the bit patterns of binary32 numbers, rounding to nearest with ties
to even. Results that are no number are one canonical pattern; only moves and
negation keep the bits of a NaN. -/

namespace SuperHBench.SinglePrecision

open Float.Model (Format UnpackedFloat)

def add (left right : UInt32) : UInt32 :=
  (Float32.Model.ofBits left + Float32.Model.ofBits right).toBits

def subtract (left right : UInt32) : UInt32 :=
  (Float32.Model.ofBits left - Float32.Model.ofBits right).toBits

def multiply (left right : UInt32) : UInt32 :=
  (Float32.Model.ofBits left * Float32.Model.ofBits right).toBits

def divide (left right : UInt32) : UInt32 :=
  (Float32.Model.ofBits left / Float32.Model.ofBits right).toBits

def negate (bits : UInt32) : UInt32 :=
  bits ^^^ 0x80000000

/-- A product and a sum with one rounding at the end. Where the addend is zero the
product alone is rounded, so a product too small to show keeps its sign. -/
def fuse : UnpackedFloat → UnpackedFloat → UnpackedFloat → UnpackedFloat
  | .finite sign mantissa exponent positive, .finite sign' mantissa' exponent' positive',
    .finite sign'' mantissa'' exponent'' positive'' =>
      .add Format.binary32
        (.finite (sign * sign') (mantissa * mantissa') (exponent + exponent')
          (Nat.mul_pos positive positive'))
        (.finite sign'' mantissa'' exponent'' positive'')
  | left@(.finite ..), right@(.finite ..), .zero _ => .mul Format.binary32 left right
  | left, right, addend => .add Format.binary32 (.mul Format.binary32 left right) addend

def multiplyAdd (left right addend : UInt32) : UInt32 :=
  (Float32.Model.pack (fuse (Float32.Model.ofBits left).unpack
    (Float32.Model.ofBits right).unpack (Float32.Model.ofBits addend).unpack)).toBits

/-! ## Comparisons -/

def equal (left right : UInt32) : Bool :=
  (Float32.Model.ofBits left).beq (Float32.Model.ofBits right)

def greater (left right : UInt32) : Bool :=
  (Float32.Model.ofBits right).lt (Float32.Model.ofBits left)

/-! ## Conversions -/

def zero : UInt32 :=
  0

def one : UInt32 :=
  0x3f800000

def isNaN (bits : UInt32) : Bool :=
  bits &&& 0x7fffffff > 0x7f800000

def ofInteger (value : UInt32) : UInt32 :=
  (Float32.Model.ofInt32 value.toInt32).toBits

/-- The integer part, cut off at the ends of the signed range; zero for a NaN. -/
def toInteger (bits : UInt32) : UInt32 :=
  (Float32.Model.ofBits bits).toInt32.toUInt32

example : add one one = 0x40000000 := by decide
example : multiplyAdd 0x3f800001 0x3f800001 0xbf800002 = 0x28800000 := by decide
example : ofInteger 0xffffffff = negate one := by decide
example : toInteger 0xcf000001 = 0x80000000 := by decide

end SuperHBench.SinglePrecision
