/-! # Digits and columns

The hexadecimal spellings and the padding that messages, listings and summaries
share. Digits are lower case throughout. -/

namespace SuperHBench.Text

def padLeft (width : Nat) (fill : Char) (text : String) : String :=
  String.ofList (List.replicate (width - text.length) fill) ++ text

def padRight (width : Nat) (text : String) : String :=
  text ++ String.ofList (List.replicate (width - text.length) ' ')

def hex (value : Nat) : String :=
  String.ofList (Nat.toDigits 16 value)

def hexDigits (width value : Nat) : String :=
  padLeft width '0' (hex value)

/-- A number marked as hexadecimal, such as `0x1f`. -/
def hexNumber (value : Nat) : String :=
  "0x" ++ hex value

def hexNumberDigits (width value : Nat) : String :=
  "0x" ++ hexDigits width value

def address (value : UInt32) : String :=
  hexNumberDigits 8 value.toNat

example : hexNumber 0x1f = "0x1f" := by decide
example : address 0x1f = "0x0000001f" := by decide
example : padRight 4 "ab" = "ab  " := by decide

end SuperHBench.Text
