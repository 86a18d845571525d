/-! # Reading text from bytes

UTF-8 in which damage is shown: every maximal run of bytes that begins a
character but does not complete it becomes one replacement character. -/

namespace SuperHBench.Text

structure Lead where
  bits : Nat
  following : Nat
  /-- The range of the first byte that follows. Narrower than for later bytes
  where it keeps out overlong forms, surrogates and code points past the last. -/
  first : UInt8
  last : UInt8

def lead? (byte : UInt8) : Option Lead :=
  if 0xc2 ≤ byte ∧ byte ≤ 0xdf then some ⟨byte.toNat - 0xc0, 1, 0x80, 0xbf⟩
  else if byte = 0xe0 then some ⟨0, 2, 0xa0, 0xbf⟩
  else if byte = 0xed then some ⟨0xd, 2, 0x80, 0x9f⟩
  else if 0xe1 ≤ byte ∧ byte ≤ 0xef then some ⟨byte.toNat - 0xe0, 2, 0x80, 0xbf⟩
  else if byte = 0xf0 then some ⟨0, 3, 0x90, 0xbf⟩
  else if 0xf1 ≤ byte ∧ byte ≤ 0xf3 then some ⟨byte.toNat - 0xf0, 3, 0x80, 0xbf⟩
  else if byte = 0xf4 then some ⟨4, 3, 0x80, 0x8f⟩
  else none

/-- Read the bytes that complete a character. The first result is absent when a
byte is missing or out of range; the second is what was not consumed. -/
def complete (bits : Nat) (first last : UInt8) :
    (following : Nat) → List UInt8 → Option Nat × List UInt8
  | 0, bytes => (some bits, bytes)
  | _ + 1, [] => (none, [])
  | following + 1, byte :: rest =>
      if first ≤ byte ∧ byte ≤ last then
        complete (bits * 64 + byte.toNat % 64) 0x80 0xbf following rest
      else
        (none, byte :: rest)

def replacement : Char :=
  '\ufffd'

def decodeSteps : (steps : Nat) → List UInt8 → List Char
  | 0, _ => []
  | _ + 1, [] => []
  | steps + 1, byte :: rest =>
      if byte < 0x80 then
        Char.ofNat byte.toNat :: decodeSteps steps rest
      else
        match lead? byte with
        | none => replacement :: decodeSteps steps rest
        | some lead =>
            let (code, rest) := complete lead.bits lead.first lead.last lead.following rest
            (code.map Char.ofNat).getD replacement :: decodeSteps steps rest

def decode (bytes : List UInt8) : String :=
  String.ofList (decodeSteps bytes.length bytes)

example : decode [0x41, 0xc3, 0xa9] = "Aé" := by decide
example : decode [0xe2, 0x82, 0x41, 0xff] = "\ufffdA\ufffd" := by decide

end SuperHBench.Text
