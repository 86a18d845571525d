import SuperHBench.Word

/-! # Numbers as they are written

Integers are an optional sign and digits, all of which have to be understood and to
fit a machine type. They are read from the left, and the first thing wrong decides
what is reported. Single-precision numbers are decimal fractions with an optional
exponent, or the names of infinity and of no number. -/

namespace SuperHBench.CommandLine

/-! ## Integers -/

inductive IntegerError where
  | empty
  | invalidDigit
  | tooLarge
  | tooSmall
deriving DecidableEq, Repr

def IntegerError.message : IntegerError → String
  | .empty => "cannot parse integer from empty string"
  | .invalidDigit => "invalid digit found in string"
  | .tooLarge => "number too large to fit in target type"
  | .tooSmall => "number too small to fit in target type"

def digitValue (c : Char) : Nat :=
  if '0' ≤ c ∧ c ≤ '9' then c.toNat - '0'.toNat
  else if 'a' ≤ c ∧ c ≤ 'z' then c.toNat - 'a'.toNat + 10
  else if 'A' ≤ c ∧ c ≤ 'Z' then c.toNat - 'A'.toNat + 10
  else 36

/-- Continue a number with more digits. It may not come to exceed a limit. -/
def readDigits (radix limit : Nat) (excess : IntegerError) (number : Nat) :
    List Char → Except IntegerError Nat
  | [] => .ok number
  | c :: rest =>
      if digitValue c < radix then
        let longer := number * radix + digitValue c
        if longer ≤ limit then readDigits radix limit excess longer rest else .error excess
      else
        .error .invalidDigit

structure IntegerType where
  signed : Bool
  bits : Nat
deriving DecidableEq, Repr

namespace IntegerType

def greatest (type : IntegerType) : Nat :=
  Word.count (if type.signed then type.bits - 1 else type.bits) - 1

def depth (type : IntegerType) : Nat :=
  if type.signed then Word.count (type.bits - 1) else 0

/-- Read a number. Types without negative numbers take a minus for a wrong digit. -/
def read (type : IntegerType) (radix : Nat) (text : List Char) : Except IntegerError Int :=
  let upward (digits : List Char) : Except IntegerError Int :=
    (readDigits radix type.greatest .tooLarge 0 digits).map Int.ofNat
  match text with
  | [] => .error .empty
  | ['+'] | ['-'] => .error .invalidDigit
  | '+' :: digits => upward digits
  | '-' :: digits =>
      if type.signed then
        (readDigits radix type.depth .tooSmall 0 digits).map fun magnitude => -Int.ofNat magnitude
      else
        .error .invalidDigit
  | digits => upward digits

def address : IntegerType :=
  ⟨false, 32⟩

def count : IntegerType :=
  ⟨false, 64⟩

def integer : IntegerType :=
  ⟨true, 64⟩

example : address.read 16 "ff".toList = .ok 255 := by rfl
example : address.read 10 "4294967296".toList = .error .tooLarge := by rfl
example : integer.read 10 "-5".toList = .ok (-5) := by rfl
example : address.read 10 "-5".toList = .error .invalidDigit := by rfl

end IntegerType

/-! ## Single-precision numbers -/

inductive FloatError where
  | empty
  | invalid
deriving DecidableEq, Repr

def FloatError.message : FloatError → String
  | .empty => "cannot parse float from empty string"
  | .invalid => "invalid float literal"

/-- A decimal fraction taken apart: its digits as one number and how far the point
has to move. -/
structure Fraction where
  digits : Nat
  exponent : Int
deriving DecidableEq, Repr

def splitDigits (text : List Char) : List Char × List Char :=
  (text.takeWhile Char.isDigit, text.dropWhile Char.isDigit)

def digitsValue (digits : List Char) : Nat :=
  digits.foldl (fun number c => number * 10 + digitValue c) 0

def readExponent : List Char → Option Int
  | [] => some 0
  | mark :: text =>
      let (negative, digits) := match text with
        | '-' :: digits => (true, digits)
        | '+' :: digits => (false, digits)
        | digits => (false, digits)
      if (mark = 'e' ∨ mark = 'E') ∧ digits ≠ [] ∧ digits.all Char.isDigit then
        some (if negative then -Int.ofNat (digitsValue digits) else digitsValue digits)
      else
        none

def readFraction (text : List Char) : Option Fraction :=
  let (whole, rest) := splitDigits text
  let (places, rest) := match rest with
    | '.' :: rest => splitDigits rest
    | rest => ([], rest)
  if whole = [] ∧ places = [] then
    none
  else
    (readExponent rest).map fun exponent =>
      ⟨digitsValue (whole ++ places), exponent - places.length⟩

def readMagnitude (text : List Char) : Option UInt32 :=
  match String.ofList (text.map Char.toLower) with
  | "inf" | "infinity" => some 0x7f800000
  | "nan" => some 0x7fc00000
  | _ => (readFraction text).map fun fraction =>
      (Float32.Model.ofScientific fraction.digits fraction.exponent).toBits

def readSingle (text : String) : Except FloatError UInt32 :=
  let (negative, magnitude) := match text.toList with
    | '-' :: rest => (true, rest)
    | '+' :: rest => (false, rest)
    | rest => (false, rest)
  match readMagnitude magnitude with
  | some bits => .ok (if negative then bits ^^^ 0x80000000 else bits)
  | none => .error (if text.isEmpty then .empty else .invalid)

end SuperHBench.CommandLine
