import SuperHBench.Image

/-! # Objects of one section

Programs that are written out by hand: one section of code at the start of memory. -/

namespace SuperHBench

def bytesOfCode (code : List UInt16) : List UInt8 :=
  code.flatMap fun (word : UInt16) => [word.toUInt8, (word >>> 8).toUInt8]

theorem length_bytesOfCode (code : List UInt16) :
    (bytesOfCode code).length = 2 * code.length := by
  induction code with
  | nil => rfl
  | cons word rest induction =>
      change (bytesOfCode rest).length + 2 = 2 * (rest.length + 1)
      omega

/-- Code with the offsets of the names in it and of the slots for imported names. -/
structure CodeText where
  code : List UInt16
  exports : List (String × UInt32)
  imports : List (String × UInt32)
deriving DecidableEq, Repr

namespace CodeText

def part (text : CodeText) : Section where
  index := 0
  name := "P"
  fragments := [⟨0, 0, bytesOfCode text.code⟩]
  relocations := text.imports.map fun (name, offset) =>
    { flags := 0, address := offset, bitLocation := 0, fieldLength := 32, bitCount := 32,
      operator := 0, sectionField := 0, opcode := 0, addendLength := 0, relocationLength := 0,
      importIndex := 0, name, offset := 0, linkedAddress := none }
  exports := text.exports.map fun (name, offset) => ⟨name, 0, 0, offset, none⟩

def object (text : CodeText) (part : Section) : ObjectFile where
  module := ⟨0, [], 1, [], 0, false, 0, 0, 0, 0, none, [], [], [], []⟩
  unit := ⟨0, 1, 0, 0, [], [], [], [part]⟩
  imports := text.imports.map fun (name, _) => ⟨name, 0⟩
  warnings := []

def file (text : CodeText) : ObjectFile :=
  text.object text.part

def linked (text : CodeText) : LinkedObject where
  file := text.object (text.part.relocate 0)
  image := ⟨2 * text.code.length, [⟨0, (bytesOfCode text.code).toArray⟩]⟩

theorem link_file (text : CodeText) (fits : 2 * text.code.length < Word.count 32) :
    text.file.link = .ok text.linked := by
  have length : 0 + text.part.dataLength = 2 * text.code.length := by
    change 0 + (max 0 0 + (bytesOfCode text.code).length) = 2 * text.code.length
    rw [length_bytesOfCode]
    omega
  have base : alignUp 0 text.part.alignment.toNat = 0 := rfl
  have unplaced : text.part.linkedAddress = none := rfl
  have start : 0 < Word.count 32 := by omega
  simp only [ObjectFile.link, file, object, place, unplaced, base, length, if_pos start,
    if_pos fits]
  rfl

end CodeText

/-! ## Results that are computed -/

theorem exists_ok_of_any {result : Except ε α} {check : α → Bool}
    (holds : result.toOption.any check = true) :
    ∃ value, result = .ok value ∧ check value = true := by
  cases result with
  | error error => cases holds
  | ok value => exact ⟨value, rfl, holds⟩

end SuperHBench
