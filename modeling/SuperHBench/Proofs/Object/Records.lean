import SuperHBench.Object.Decoder
import SuperHBench.Proofs.Object.Reading
import SuperHBench.Proofs.Text.RoundTrip

/-! # Records as bytes

How the records of an object file are laid out, apart from how they are read. Bytes and
bits that mean nothing are zeros. -/

namespace SuperHBench

open Cursor (littleBytes bigBytes prefixedBytes length_prefixedBytes)

/-! ## Chunks -/

namespace ChunkKind

def code : ChunkKind → UInt8
  | .moduleHeader => 0x04
  | .unitHeader => 0x06
  | .sectionHeader => 0x08
  | .imports => 0x0c
  | .exports => 0x14
  | .sectionSelection => 0x1a
  | .objectData => 0x1c
  | .relocation => 0x20
  | .termination => 0x7f
  | .unknown code => code

theorem ofCode_code {kind : ChunkKind} (known : ∀ code, kind ≠ .unknown code) :
    ofCode kind.code = kind := by
  cases kind with
  | unknown code => exact absurd rfl (known code)
  | _ => decide

end ChunkKind

/-- A chunk with its kind as it is coded. The code has a bit for a chunk that is
continued. -/
structure ChunkText where
  code : UInt8
  payload : List UInt8
deriving DecidableEq, Repr

namespace ChunkText

/-- The most bytes whose number, with those of the header, is a byte. -/
def maxPayload : Nat :=
  252

def bytes (chunk : ChunkText) : List UInt8 :=
  [0, chunk.code, UInt8.ofNat (chunk.payload.length + Chunk.headerLength)] ++ chunk.payload

def kind (chunk : ChunkText) : ChunkKind :=
  .ofCode chunk.code

structure IsPiece (chunk : ChunkText) (kind : ChunkKind) : Prop where
  kind_eq : chunk.kind = kind
  nonempty : chunk.payload ≠ []
  short : chunk.payload.length ≤ maxPayload

def termination : ChunkText :=
  ⟨ChunkKind.termination.code, []⟩

end ChunkText

/-! ## Headers -/

/-- The entry point of a module, after a byte that says whether there is one. -/
def EntryPoint.bytes : Option EntryPoint → List UInt8
  | none => [0]
  | some (.absolute address) => 1 :: littleBytes 4 address.toNat
  | some (.relative unit index) =>
      1 :: (littleBytes 2 unit.toNat ++ littleBytes 2 index.toNat)

namespace ModuleHeader

def segmentByte (header : ModuleHeader) : UInt8 :=
  (if header.segmented then (0x80 : UInt8) else 0) ||| header.addressFieldLength <<< 3

def bytes (header : ModuleHeader) : List UInt8 :=
  [header.kind] ++ header.buildDate ++ bigBytes 2 header.unitCount.toNat ++ [0] ++
    header.version ++
    [header.addressUpdate, header.segmentByte, header.spaceWithinSegment, header.segmentSize,
      header.segmentShift] ++
    EntryPoint.bytes header.entry ++ prefixedBytes header.operatingSystem ++
    prefixedBytes header.system ++ prefixedBytes header.name ++ prefixedBytes header.cpu

end ModuleHeader

namespace ObjectUnit

def bytes (unit : ObjectUnit) : List UInt8 :=
  [unit.format] ++ littleBytes 2 unit.sectionCount.toNat ++
    littleBytes 2 unit.externalReferences.toNat ++
    littleBytes 2 unit.externalDefinitions.toNat ++ prefixedBytes unit.name ++
    prefixedBytes unit.toolName ++ unit.toolDate

end ObjectUnit

structure SectionHeader where
  name : String
  format : UInt8
  address : UInt32
  length : UInt32
  alignment : UInt32
  contents : UInt8
  concatenation : UInt8
  read : UInt8
  write : UInt8
  execute : UInt8
  initial : UInt8
  flags : UInt8
  format_lt : format < 4
  contents_lt : contents < 16
  concatenation_lt : concatenation < 16
  read_lt : read < 4
  write_lt : write < 4
  execute_lt : execute < 4
  initial_lt : initial < 4

namespace SectionHeader

def layoutByte (header : SectionHeader) : UInt8 :=
  header.contents <<< 4 ||| header.concatenation

def accessByte (header : SectionHeader) : UInt8 :=
  header.read <<< 6 ||| header.write <<< 4 ||| header.execute <<< 2 ||| header.initial

def bytes (header : SectionHeader) : List UInt8 :=
  [header.format <<< 6] ++ bigBytes 4 header.address.toNat ++ bigBytes 4 header.length.toNat ++
    bigBytes 4 header.alignment.toNat ++ [header.layoutByte, header.accessByte, header.flags] ++
    prefixedBytes (Text.encode header.name)

def part (header : SectionHeader) (index : Nat) : Section where
  index := index
  name := header.name
  format := header.format
  address := header.address
  length := header.length
  alignment := header.alignment
  contents := header.contents
  concatenation := header.concatenation
  read := header.read
  write := header.write
  execute := header.execute
  initial := header.initial
  flags := header.flags
  assembledLength_eq := Fragment.reach_nil

end SectionHeader

/-! ## Symbols -/

structure ImportRecord where
  kind : UInt8
  name : List UInt8
deriving DecidableEq, Repr

structure ExportRecord where
  sectionIndex : UInt16
  kind : UInt8
  offset : UInt32
  name : List UInt8
deriving DecidableEq, Repr

namespace ImportRecord

def bytes (record : ImportRecord) : List UInt8 :=
  [record.kind] ++ prefixedBytes record.name

theorem length_name_lt (record : ImportRecord) : record.name.length < record.bytes.length := by
  simp only [bytes, List.length_append, length_prefixedBytes]
  omega

def symbol (record : ImportRecord) : ImportSymbol :=
  ⟨Text.decode record.name, record.kind⟩

end ImportRecord

namespace ExportRecord

def bytes (record : ExportRecord) : List UInt8 :=
  bigBytes 2 record.sectionIndex.toNat ++ [record.kind] ++ bigBytes 4 record.offset.toNat ++
    prefixedBytes record.name

theorem length_name_lt (record : ExportRecord) : record.name.length < record.bytes.length := by
  simp only [bytes, List.length_append, length_prefixedBytes]
  omega

def symbol (record : ExportRecord) : ExportSymbol :=
  ⟨Text.decode record.name, record.sectionIndex.toNat, record.kind, record.offset, none⟩

end ExportRecord

def Section.withExports (part : Section) (symbols : List ExportSymbol) : Section :=
  { part with exports := part.exports ++ symbols }

@[simp] theorem Section.withExports_nil (part : Section) : part.withExports [] = part := by
  rw [withExports, List.append_nil]

@[simp] theorem Section.withExports_withExports (part : Section)
    (first second : List ExportSymbol) :
    (part.withExports first).withExports second = part.withExports (first ++ second) := by
  simp only [withExports, List.append_assoc]

def selectionBytes (sectionIndex : UInt16) : List UInt8 :=
  bigBytes 2 0 ++ bigBytes 2 sectionIndex.toNat

/-! ## Data -/

structure DataRecord where
  flags : UInt8
  address : UInt32
  /-- How many times the bytes stand in the data. Only compressed records say. -/
  count : UInt32
  contents : List UInt8
deriving DecidableEq, Repr

namespace DataRecord

def isCompressed (record : DataRecord) : Bool :=
  record.flags &&& Fragment.compressedFlag != 0

def bytes (record : DataRecord) : List UInt8 :=
  [record.flags] ++ bigBytes 4 record.address.toNat ++
    (if record.isCompressed then bigBytes 4 record.count.toNat else []) ++
    prefixedBytes record.contents

def fragment (record : DataRecord) : Fragment where
  flags := record.flags
  address := record.address
  data :=
    if record.isCompressed then
      (List.replicate record.count.toNat record.contents).flatten
    else
      record.contents

end DataRecord

/-! ## Relocations -/

inductive RelocationShape where
  | external (importIndex : UInt8)
  | externalOffset (importIndex offset : UInt8)
  | sectionStart (sectionIndex : UInt16)
  | sectionTarget (sectionIndex : UInt8) (target : UInt32)
deriving DecidableEq, Repr

namespace RelocationShape

/-- How many bytes follow the head, less the one that tells shapes apart. -/
def length : RelocationShape → UInt8
  | .external _ | .sectionStart _ => 4
  | .externalOffset _ _ | .sectionTarget _ _ => 11

def bytes : RelocationShape → List UInt8
  | .external importIndex => [2, 0, importIndex, Decoder.terminator]
  | .externalOffset importIndex offset =>
      [3, 0, 0, 0, 0, offset, 0, 0, importIndex, 0, Decoder.terminator]
  | .sectionStart sectionIndex =>
      [0] ++ bigBytes 2 sectionIndex.toNat ++ [Decoder.terminator]
  | .sectionTarget sectionIndex target =>
      [0, 0, sectionIndex, 0, 0] ++ bigBytes 4 target.toNat ++ [0, Decoder.terminator]

def RefersInto (imports : List ImportSymbol) : RelocationShape → Prop
  | .external importIndex | .externalOffset importIndex _ => importIndex.toNat < imports.length
  | .sectionStart _ | .sectionTarget _ _ => True

instance (imports : List ImportSymbol) (shape : RelocationShape) :
    Decidable (shape.RefersInto imports) := by
  cases shape <;> unfold RefersInto <;> infer_instance

end RelocationShape

structure RelocationRecord where
  head : RelocationHead
  shape : RelocationShape
  operator_eq : head.operator = Decoder.replaceOperator
  length_eq : head.relocationLength = shape.length

namespace RelocationHead

def bytes (head : RelocationHead) : List UInt8 :=
  [head.flags] ++ bigBytes 4 head.address.toNat ++
    [head.bitLocation, head.fieldLength, head.bitCount, head.operator] ++
    littleBytes 2 head.sectionField.toNat ++
    [head.opcode, head.addendLength, head.relocationLength]

end RelocationHead

namespace RelocationRecord

def bytes (record : RelocationRecord) : List UInt8 :=
  record.head.bytes ++ record.shape.bytes

def external (record : RelocationRecord) (imports : List ImportSymbol) (importIndex : UInt8)
    (offset : UInt32) : ExternalRelocation where
  toRelocationHead := record.head
  importIndex := importIndex.toNat
  name := (imports[importIndex.toNat]?.map (·.name)).getD ""
  offset := offset
  linkedAddress := none

def addTo (record : RelocationRecord) (imports : List ImportSymbol) (part : Section) : Section :=
  match record.shape with
  | .external importIndex =>
      { part with relocations := part.relocations ++ [record.external imports importIndex 0] }
  | .externalOffset importIndex offset =>
      { part with
        relocations :=
          part.relocations ++ [record.external imports importIndex offset.toUInt32] }
  | .sectionStart sectionIndex =>
      { part with
        shortRelocations :=
          part.shortRelocations ++ [⟨sectionIndex.toNat, record.head.address, none⟩] }
  | .sectionTarget sectionIndex target =>
      { part with
        longRelocations :=
          part.longRelocations ++ [⟨sectionIndex.toNat, record.head.address, target, none⟩] }

end RelocationRecord

end SuperHBench
