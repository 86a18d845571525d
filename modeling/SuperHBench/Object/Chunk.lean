/-! # Chunks

A file is a magic number, some filler and a sequence of chunks. A chunk starts
with three bytes: one of no meaning, its kind, and its length with the three
bytes included. -/

namespace SuperHBench

/-- The kind of a chunk. The high bit of the byte marks a chunk that is continued
and is no part of the kind. -/
inductive ChunkKind where
  | moduleHeader
  | unitHeader
  | sectionHeader
  | imports
  | exports
  | sectionSelection
  | objectData
  | relocation
  | termination
  | unknown (code : UInt8)
deriving DecidableEq, Repr

namespace ChunkKind

def ofCode (code : UInt8) : ChunkKind :=
  let code := code &&& 0x7f
  match code.toNat with
  | 0x04 => .moduleHeader
  | 0x06 => .unitHeader
  | 0x08 => .sectionHeader
  | 0x0c => .imports
  | 0x14 => .exports
  | 0x1a => .sectionSelection
  | 0x1c => .objectData
  | 0x20 => .relocation
  | 0x7f => .termination
  | _ => .unknown code

example : ofCode 0x94 = ofCode 0x14 := by decide

end ChunkKind

namespace Chunk

def magic : List UInt8 :=
  [0x80, 0x21, 0x00, 0x80]

def firstOffset : Nat :=
  0x20

def headerLength : Nat :=
  3

end Chunk

end SuperHBench
