import SuperHBench.Object.Error

/-! # A cursor over a file

The file format mixes byte orders from one record to the next, so there are
readers for both. A failed read leaves the cursor where the read began. -/

namespace SuperHBench

structure Cursor where
  file : Array UInt8
  position : Nat

abbrev Reading := EStateM FormatError Cursor

namespace Cursor

def start (file : Array UInt8) : Cursor :=
  ⟨file, 0⟩

def atEnd (cursor : Cursor) : Bool :=
  cursor.file.size ≤ cursor.position

/-- Move to a position. There is nothing past the end of the file. -/
def seek (cursor : Cursor) (position : Nat) : Cursor :=
  { cursor with position := min position cursor.file.size }

def bigEndian (bytes : List UInt8) : Nat :=
  bytes.foldl (fun number byte => number * 256 + byte.toNat) 0

def littleEndian : List UInt8 → Nat
  | [] => 0
  | byte :: rest => byte.toNat + 256 * littleEndian rest

def take (count : Nat) : Reading (List UInt8) := fun cursor =>
  let next := cursor.position + count
  if next ≤ cursor.file.size then
    .ok (cursor.file.extract cursor.position next).toList { cursor with position := next }
  else
    .error (.unexpectedEnd cursor.position) cursor

def skip (count : Nat) : Reading PUnit := do
  let _ ← take count

def byte : Reading UInt8 := do
  return (← take 1).headD 0

def bigWord : Reading UInt16 := do
  return UInt16.ofNat (bigEndian (← take 2))

def littleWord : Reading UInt16 := do
  return UInt16.ofNat (littleEndian (← take 2))

def bigLong : Reading UInt32 := do
  return UInt32.ofNat (bigEndian (← take 4))

def littleLong : Reading UInt32 := do
  return UInt32.ofNat (littleEndian (← take 4))

/-- A length in one byte and that many bytes. The length stays consumed when the
bytes are missing. -/
def prefixed : Reading (List UInt8) := do
  take (← byte).toNat

example : bigEndian [0x12, 0x34] = 0x1234 := by decide
example : littleEndian [0x12, 0x34] = 0x3412 := by decide

end Cursor

end SuperHBench
