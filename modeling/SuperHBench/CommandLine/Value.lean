import SuperHBench.CommandLine.Number
import SuperHBench.Resolution
import SuperHBench.Text.Characters

/-! # Values of options

Integers may be written in hexadecimal with a leading `0x`, and blanks around a
number do not count. Bindings are written as a name and an address, initial memory
as a width, an address and a value. -/

namespace SuperHBench.CommandLine

inductive ValueError where
  | hexadecimal (input : String) (cause : IntegerError)
  | decimal (input : String) (cause : IntegerError)
  | bindingForm (input : String)
  | missingName (input : String)
  | initializationForm (input : String)
  | width (input : String) (cause : IntegerError)
  | unsupportedWidth (bits : Int)
  | count (cause : IntegerError)
  | float (cause : FloatError)
deriving DecidableEq, Repr

def ValueError.message : ValueError → String
  | .hexadecimal input cause => s!"invalid hex value '{input}': {cause.message}"
  | .decimal input cause => s!"invalid decimal value '{input}': {cause.message}"
  | .bindingForm input => s!"expected NAME=ADDR, got '{input}'"
  | .missingName input => s!"missing symbol name in '{input}'"
  | .initializationForm input => s!"expected BITS:ADDR=VALUE, got '{input}'"
  | .width input cause => s!"invalid width '{input}': {cause.message}"
  | .unsupportedWidth bits => s!"width must be 8, 16 or 32, got {bits}"
  | .count cause => cause.message
  | .float cause => cause.message

/-! ## Numbers -/

def radixOf : List Char → Nat × List Char
  | '0' :: 'x' :: digits | '0' :: 'X' :: digits => (16, digits)
  | digits => (10, digits)

def readMarked (type : IntegerType) (input : String) (text : List Char) :
    Except ValueError Int :=
  let (radix, digits) := radixOf text
  (type.read radix digits).mapError
    (if radix = 16 then ValueError.hexadecimal input else ValueError.decimal input)

def readAddress (input : String) : Except ValueError UInt32 :=
  (readMarked .address input (Text.trim input.toList)).map UInt32.ofInt

/-- A sign in front of the mark of hexadecimal digits counts for them. It reverses
the number within the 64 bits of its type. -/
def readInteger (input : String) : Except ValueError Int :=
  match Text.trim input.toList with
  | '-' :: magnitude =>
      (readMarked .integer input magnitude).map fun value => Int.bmod (-value) (Word.count 64)
  | text => readMarked .integer input text

def readCount (input : String) : Except ValueError Nat :=
  ((IntegerType.count.read 10 input.toList).mapError ValueError.count).map Int.toNat

def readFloat (input : String) : Except ValueError UInt32 :=
  (readSingle input).mapError ValueError.float

/-! ## Assignments -/

def splitOnce? (separator : Char) (text : String) : Option (String × String) :=
  let before := text.toList.takeWhile (· ≠ separator)
  match text.toList.dropWhile (· ≠ separator) with
  | [] => none
  | _ :: after => some (String.ofList before, String.ofList after)

def readBinding (input : String) : Except ValueError Binding :=
  match splitOnce? '=' input with
  | none => .error (.bindingForm input)
  | some (name, address) =>
      if name.isEmpty then
        .error (.missingName input)
      else
        (readAddress address).map (⟨name, ·⟩)

/-- Initial memory as it was asked for. Whether the value fits is seen later. -/
structure InitialValue where
  bits : Nat
  address : UInt32
  value : Int
deriving DecidableEq, Repr

def readWidth (input : String) : Except ValueError Nat := do
  let bits ←
    (IntegerType.address.read 10 (Text.trim input.toList)).mapError (ValueError.width input)
  match Width.ofBits? bits.toNat with
  | some width => return width.bits
  | none => throw (.unsupportedWidth bits)

def readInitialValue (input : String) : Except ValueError InitialValue :=
  match splitOnce? ':' input with
  | none => .error (.initializationForm input)
  | some (bits, rest) =>
      match splitOnce? '=' rest with
      | none => .error (.initializationForm input)
      | some (address, value) => do
          let bits ← readWidth bits
          let address ← readAddress address
          let value ← readInteger value
          return ⟨bits, address, value⟩

end SuperHBench.CommandLine
