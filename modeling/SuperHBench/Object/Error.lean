import SuperHBench.Text.Digits

/-! # What can be wrong with an object file

Errors end the reading of a file. Warnings are about single records, which are
left out, or about oddities in records that are kept. -/

namespace SuperHBench

inductive FormatError where
  | badMagic (found : List UInt8)
  | unexpectedEnd (offset : Nat)
  | invalidChunkLength (offset : Nat) (length : UInt8)
  | multipleModules
  | multipleUnits
  | unitBeforeModule (offset : Nat)
  | missingModule (offset : Nat)
  | missingUnit (offset : Nat)
  | noSection (offset : Nat)
  | unknownSection (index offset : Nat)
  | unsupportedOperator (operator : UInt8) (offset : Nat)
  | unsupportedRelocationLength (length : UInt8) (offset : Nat)
  | wrongTerminator (found : UInt8) (offset : Nat)
  | backwardObjectData (section_ : Nat) (address : UInt32) (length : Nat)
deriving DecidableEq, Repr

def Text.byteList (bytes : List UInt8) : String :=
  "[" ++ ", ".intercalate (bytes.map fun byte => hexDigits 2 byte.toNat) ++ "]"

open Text in
def FormatError.message : FormatError → String
  | .badMagic found => s!"invalid magic {byteList found}, expected 80 21 00 80"
  | .unexpectedEnd offset => s!"unexpected end of file at offset {hexNumber offset}"
  | .invalidChunkLength offset length =>
      s!"chunk at offset {hexNumber offset} declares length {length.toNat}, " ++
        "shorter than its header"
  | .multipleModules => "multiple modules are unsupported"
  | .multipleUnits => "multiple units are unsupported"
  | .unitBeforeModule offset =>
      s!"unit header at offset {hexNumber offset} appears before any module header"
  | .missingModule offset =>
      s!"object ends at offset {hexNumber offset} without a module header"
  | .missingUnit offset => s!"chunk at offset {hexNumber offset} requires a unit header first"
  | .noSection offset =>
      "object declares no sections but carries section data at offset " ++ hexNumber offset
  | .unknownSection index offset =>
      s!"unknown section index {index} referenced at offset {hexNumber offset}"
  | .unsupportedOperator operator offset =>
      s!"unsupported relocation operator {operator.toNat} at offset {hexNumber offset}"
  | .unsupportedRelocationLength length offset =>
      s!"unsupported relocation length {length.toNat} at offset {hexNumber offset}"
  | .wrongTerminator found offset =>
      s!"wrong terminator {hexNumberDigits 2 found.toNat} at offset {hexNumber offset}, " ++
        "expected 0xff"
  | .backwardObjectData index address length =>
      s!"unexpected object data address {hexNumber address.toNat} in section {index}, " ++
        s!"current length is {hexNumber length}"

inductive FormatWarning where
  | unknownChunk (kind : UInt8) (offset : Nat)
  | importOutOfRange (index count offset : Nat)
  | unsupportedRelocationVariant (discriminator length : UInt8) (offset : Nat)
  | nonZeroHighByte (value : UInt8) (offset : Nat)
deriving DecidableEq, Repr

open Text in
def FormatWarning.message : FormatWarning → String
  | .unknownChunk kind offset =>
      s!"ignoring unknown chunk type {hexNumberDigits 2 kind.toNat} " ++
        s!"at offset {hexNumber offset}"
  | .importOutOfRange index count offset =>
      s!"skipping relocation at offset {hexNumber offset}: " ++
        s!"import index {index} out of range ({count} imports)"
  | .unsupportedRelocationVariant discriminator length offset =>
      s!"unsupported relocation variant {discriminator.toNat} (length {length.toNat}) " ++
        s!"at offset {hexNumber offset}"
  | .nonZeroHighByte value offset =>
      s!"relocation high nibble byte is {hexNumberDigits 2 value.toNat} " ++
        s!"at offset {hexNumber offset}, expected zero"

end SuperHBench
