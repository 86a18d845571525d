import SuperHBench.Object.Error

/-! # Sections

A section collects the fragments of its data and the records that refer to it.
Fragments arrive in ascending order; the gaps between them are zeros. Until the
section is placed in an image nothing in it has a linked address. -/

namespace SuperHBench

inductive SectionContents where
  | code
  | data
  | stack
  | dummy
  | special
  | other (number : UInt8)
deriving DecidableEq, Repr

def SectionContents.ofCode (code : UInt8) : SectionContents :=
  match code.toNat with
  | 0 => .code
  | 1 => .data
  | 2 => .stack
  | 3 => .dummy
  | 4 => .special
  | _ => .other code

def SectionContents.name : SectionContents → String
  | .code => "Code"
  | .data => "Data"
  | .stack => "Stack"
  | .dummy => "Dummy"
  | .special => "Special"
  | .other number => s!"Other({number.toNat})"

structure Fragment where
  flags : UInt8
  address : UInt32
  data : List UInt8
deriving DecidableEq, Repr

namespace Fragment

def compressedFlag : UInt8 :=
  0x40

def isCompressed (fragment : Fragment) : Bool :=
  fragment.flags &&& compressedFlag != 0

def endOffset (fragment : Fragment) : Nat :=
  fragment.address.toNat + fragment.data.length

def reach (fragments : List Fragment) : Nat :=
  (fragments.getLast?.map endOffset).getD 0

theorem reach_nil : reach [] = 0 :=
  rfl

theorem reach_concat (fragments : List Fragment) (fragment : Fragment) :
    reach (fragments ++ [fragment]) = fragment.endOffset := by
  rw [reach, List.getLast?_concat]
  rfl

end Fragment

structure ExportSymbol where
  name : String
  sectionIndex : Nat
  kind : UInt8
  offset : UInt32
  linkedAddress : Option UInt32
deriving DecidableEq, Repr

structure RelocationHead where
  flags : UInt8
  address : UInt32
  bitLocation : UInt8
  fieldLength : UInt8
  bitCount : UInt8
  operator : UInt8
  sectionField : UInt16
  opcode : UInt8
  addendLength : UInt8
  relocationLength : UInt8
deriving DecidableEq, Repr

structure ExternalRelocation extends RelocationHead where
  importIndex : Nat
  name : String
  offset : UInt32
  linkedAddress : Option UInt32
deriving DecidableEq, Repr

/-- A slot that is to point at an offset in some section, given in the record. -/
structure LongRelocation where
  sectionIndex : Nat
  address : UInt32
  target : UInt32
  linkedAddress : Option UInt32
deriving DecidableEq, Repr

/-- A slot that is to point into some section, at the offset found in the slot. -/
structure ShortRelocation where
  sectionIndex : Nat
  address : UInt32
  linkedAddress : Option UInt32
deriving DecidableEq, Repr

structure Section where
  index : Nat
  name : String
  format : UInt8 := 0
  address : UInt32 := 0
  length : UInt32 := 0
  alignment : UInt32 := 0
  contents : UInt8 := 0
  concatenation : UInt8 := 0
  read : UInt8 := 0
  write : UInt8 := 0
  execute : UInt8 := 0
  initial : UInt8 := 0
  flags : UInt8 := 0
  fragments : List Fragment := []
  /-- The length of the data, counted as the fragments come in. -/
  assembledLength : Nat := Fragment.reach fragments
  assembledLength_eq : assembledLength = Fragment.reach fragments := by rfl
  relocations : List ExternalRelocation := []
  longRelocations : List LongRelocation := []
  shortRelocations : List ShortRelocation := []
  exports : List ExportSymbol := []
  linkedAddress : Option UInt32 := none
deriving DecidableEq, Repr

namespace Section

def kind (part : Section) : SectionContents :=
  .ofCode part.contents

/-! ## Data -/

def append (part : Section) (fragment : Fragment) : Section :=
  { part with
    fragments := part.fragments ++ [fragment]
    assembledLength := fragment.endOffset
    assembledLength_eq := (Fragment.reach_concat _ _).symm }

@[simp] theorem fragments_append (part : Section) (fragment : Fragment) :
    (part.append fragment).fragments = part.fragments ++ [fragment] := rfl

def push (part : Section) (fragment : Fragment) : Except FormatError Section :=
  if fragment.address.toNat < part.assembledLength then
    .error (.backwardObjectData part.index fragment.address part.assembledLength)
  else
    .ok (part.append fragment)

/-- Lay out fragments when `position` bytes are laid out already. -/
def layOut (position : Nat) : List Fragment → List UInt8
  | [] => []
  | fragment :: rest =>
      let start := max position fragment.address.toNat
      List.replicate (start - position) 0 ++ fragment.data ++
        layOut (start + fragment.data.length) rest

def assemble (part : Section) : List UInt8 :=
  layOut 0 part.fragments

def layOutEnd (position : Nat) : List Fragment → Nat
  | [] => position
  | fragment :: rest =>
      layOutEnd (max position fragment.address.toNat + fragment.data.length) rest

theorem length_layOut (position : Nat) (fragments : List Fragment) :
    position + (layOut position fragments).length = layOutEnd position fragments := by
  induction fragments generalizing position with
  | nil => rfl
  | cons fragment rest induction =>
      simp only [layOutEnd, ← induction, layOut, List.length_append, List.length_replicate]
      omega

def dataLength (part : Section) : Nat :=
  layOutEnd 0 part.fragments

@[simp] theorem length_assemble (part : Section) : part.assemble.length = part.dataLength := by
  have length := length_layOut 0 part.fragments
  rwa [Nat.zero_add] at length

/-! ## Placement -/

def relocate (part : Section) (base : UInt32) : Section :=
  { part with
    linkedAddress := some base
    relocations := part.relocations.map fun relocation =>
      { relocation with linkedAddress := some (base + relocation.address) }
    exports := part.exports.map fun symbol =>
      { symbol with linkedAddress := some (base + symbol.offset) }
    longRelocations := part.longRelocations.map fun relocation =>
      { relocation with linkedAddress := some (base + relocation.address) }
    shortRelocations := part.shortRelocations.map fun relocation =>
      { relocation with linkedAddress := some (base + relocation.address) } }

@[simp] theorem fragments_relocate (part : Section) (base : UInt32) :
    (part.relocate base).fragments = part.fragments := rfl

@[simp] theorem assemble_relocate (part : Section) (base : UInt32) :
    (part.relocate base).assemble = part.assemble := rfl

@[simp] theorem assembledLength_relocate (part : Section) (base : UInt32) :
    (part.relocate base).assembledLength = part.assembledLength := rfl

example : layOut 0 [⟨0x80, 0, [1, 2]⟩, ⟨0x80, 4, [3]⟩] = [1, 2, 0, 0, 3] := by decide

end Section

end SuperHBench
