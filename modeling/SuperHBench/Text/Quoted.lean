import SuperHBench.Text.Characters
import SuperHBench.Text.Utf8

/-! # Quoted text

Text between double quotes with everything escaped that could not be read back
from a terminal. -/

namespace SuperHBench.Text

def codePoint (c : Char) : String :=
  "\\u\x7b" ++ hex c.toNat ++ "\x7d"

def escape (c : Char) : String :=
  if c = '"' then "\\\""
  else if c = '\\' then "\\\\"
  else if c = '\n' then "\\n"
  else if c = '\r' then "\\r"
  else if c = '\t' then "\\t"
  else if c.toNat = 0 then "\\0"
  else if 0x20 ≤ c.toNat ∧ c.toNat < 0x7f then c.toString
  else if extendsGrapheme c || !isPrintable c then codePoint c
  else c.toString

def quote (text : String) : String :=
  "\"" ++ String.join (text.toList.map escape) ++ "\""

def quoteBytes (bytes : List UInt8) : String :=
  quote (decode bytes)

example : quote "a\"b\n" = "\"a\\\"b\\n\"" := by decide +kernel
example : escape '\x1b' = "\\u\x7b1b\x7d" := by decide +kernel

end SuperHBench.Text
