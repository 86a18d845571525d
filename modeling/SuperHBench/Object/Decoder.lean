import SuperHBench.Object.Chunk
import SuperHBench.Object.Cursor
import SuperHBench.Object.File
import SuperHBench.Text.Utf8

/-! # Decoding object files

The decoder walks over the chunks of a file and collects what they declare.
Import and export records may run on into the next chunk; whatever else a chunk
holds, the next one starts where the length of this one says.

Chunk headers are read at ascending offsets and every record takes at least one
byte, so the size of the file bounds the number of chunks and of records. -/

namespace SuperHBench

/-- A byte that was handed to a record that may run on: where it stands, and the chunk
that was the current one. -/
structure Delivery where
  offset : Nat
  chunkBase : Nat
  chunkEnd : Nat
deriving DecidableEq, Repr

structure Decoder where
  cursor : Cursor
  /-- Where the chunk header starts that is being read. -/
  entering : Option Nat := none
  /-- Where the chunk headers read so far start, the latest one first. -/
  chunkBases : List Nat := []
  chunkEnd : Nat := 0
  /-- The bytes delivered so far, the latest one first. -/
  deliveries : List Delivery := []
  module : Option ModuleHeader := none
  unit : Option ObjectUnit := none
  selected : Option Nat := none
  imports : List ImportSymbol := []
  warnings : List FormatWarning := []

abbrev Decoding := EStateM FormatError Decoder

instance : MonadLift Reading Decoding where
  monadLift reading := fun decoder =>
    match reading decoder.cursor with
    | .ok value cursor => .ok value { decoder with cursor := cursor }
    | .error error cursor => .error error { decoder with cursor := cursor }

namespace Decoder

def start (file : Array UInt8) : Decoder :=
  { cursor := (Cursor.start file).seek Chunk.firstOffset }

def position (decoder : Decoder) : Nat :=
  decoder.cursor.position

def chunkBase (decoder : Decoder) : Nat :=
  decoder.chunkBases.headD 0

def inChunk (decoder : Decoder) : Bool :=
  decoder.position < decoder.chunkEnd

def enter (decoder : Decoder) : Decoder :=
  { decoder with entering := some decoder.position }

def deliver (decoder : Decoder) : Decoder :=
  { decoder with
    deliveries := ⟨decoder.position - 1, decoder.chunkBase, decoder.chunkEnd⟩ ::
      decoder.deliveries }

def sectionCount (decoder : Decoder) : Nat :=
  (decoder.unit.map fun unit => unit.sections.length).getD 0

def nameOf (bytes : List UInt8) : String :=
  Text.decode bytes

def warn (warning : FormatWarning) : Decoding PUnit :=
  modify fun decoder => { decoder with warnings := decoder.warnings ++ [warning] }

def seek (position : Nat) : Decoding PUnit :=
  modify fun decoder => { decoder with cursor := decoder.cursor.seek position }

/-! ## Chunk boundaries -/

def beginChunk : Decoding ChunkKind := do
  let base := (← get).position
  modify enter
  let _ ← Cursor.byte
  let kind := ChunkKind.ofCode (← Cursor.byte)
  let length ← Cursor.byte
  if length.toNat < Chunk.headerLength ∧ kind ≠ .termination then
    throw (.invalidChunkLength base length)
  modify fun decoder =>
    { decoder with
      entering := none
      chunkBases := base :: decoder.chunkBases
      chunkEnd := base + max length.toNat Chunk.headerLength }
  return kind

/-- Go on in the next chunk, whatever its kind. -/
def continueChunk : Decoding PUnit := do
  seek (← get).chunkEnd
  let _ ← beginChunk

/-- A byte of a record that may run on into the next chunk. -/
def spanningByte : Decoding UInt8 := do
  unless (← get).inChunk do
    continueChunk
  let byte ← Cursor.byte
  modify deliver
  return byte

def spanningBytes : (count : Nat) → Decoding (List UInt8)
  | 0 => return []
  | count + 1 => do
      let byte ← spanningByte
      let rest ← spanningBytes count
      return byte :: rest

def spanningNumber (count : Nat) : Decoding Nat := do
  return Cursor.bigEndian (← spanningBytes count)

def spanningName : Decoding String := do
  return nameOf (← spanningBytes (← spanningByte).toNat)

def records (record : Decoding PUnit) : (limit : Nat) → Decoding PUnit
  | 0 => return
  | limit + 1 => do
      if (← get).inChunk then
        record
        records record limit

def allRecords (record : Decoding PUnit) : Decoding PUnit := do
  records record (← get).cursor.file.size

/-! ## Sections -/

def requireUnit : Decoding ObjectUnit := do
  let decoder ← get
  match decoder.unit with
  | some unit => return unit
  | none => throw (.missingUnit decoder.chunkBase)

def updateSection (unit : ObjectUnit) (index : Nat) (missing : FormatError)
    (update : Section → Except FormatError Section) : Decoding PUnit :=
  match unit.sections[index]? with
  | none => throw missing
  | some part =>
      match update part with
      | .error error => throw error
      | .ok part =>
          modify fun decoder =>
            { decoder with
              unit := some { unit with sections := unit.sections.set index part } }

/-- Update the section that data and relocations go to: the selected one, else
the one declared last. -/
def updateCurrentSection (update : Section → Except FormatError Section) :
    Decoding PUnit := do
  let unit ← requireUnit
  let decoder ← get
  let index ← match decoder.selected, unit.sections.length with
    | some index, _ => pure index
    | none, 0 => throw (.noSection decoder.chunkBase)
    | none, count + 1 => pure count
  updateSection unit index (.unknownSection index decoder.chunkBase) update

/-! ## Headers -/

def entryPoint (kind : UInt8) : Reading (Option EntryPoint) := do
  if (← Cursor.byte) = 0 then
    return none
  else if kind = ModuleHeader.absoluteKind then
    return some (.absolute (← Cursor.littleLong))
  else
    let unit ← Cursor.littleWord
    let index ← Cursor.littleWord
    return some (.relative unit index)

def moduleHeader : Decoding PUnit := do
  if (← get).module.isSome then
    throw .multipleModules
  let kind ← Cursor.byte
  let buildDate ← Cursor.take 12
  let unitCount ← Cursor.bigWord
  if 1 < unitCount then
    throw .multipleUnits
  Cursor.skip 1
  let version ← Cursor.take 4
  let addressUpdate ← Cursor.byte
  let segments ← Cursor.byte
  let spaceWithinSegment ← Cursor.byte
  let segmentSize ← Cursor.byte
  let segmentShift ← Cursor.byte
  let entry ← entryPoint kind
  let operatingSystem ← Cursor.prefixed
  let system ← Cursor.prefixed
  let name ← Cursor.prefixed
  let cpu ← Cursor.prefixed
  let segmented := segments &&& 0x80 != 0
  let addressFieldLength := (segments >>> 3) &&& 0xf
  let header : ModuleHeader :=
    { kind, buildDate, unitCount, version, addressUpdate, segmented, addressFieldLength
      spaceWithinSegment, segmentSize, segmentShift, entry, operatingSystem, system, name, cpu }
  modify fun decoder => { decoder with module := some header }

def unitHeader : Decoding PUnit := do
  let decoder ← get
  if decoder.module.isNone then
    throw (.unitBeforeModule decoder.chunkBase)
  if decoder.unit.isSome then
    throw .multipleUnits
  let format := (← Cursor.byte) &&& 3
  let sectionCount ← Cursor.littleWord
  let externalReferences ← Cursor.littleWord
  let externalDefinitions ← Cursor.littleWord
  let name ← Cursor.prefixed
  let toolName ← Cursor.prefixed
  let toolDate ← Cursor.take 12
  let unit : ObjectUnit :=
    { format, sectionCount, externalReferences, externalDefinitions, name, toolName, toolDate }
  modify fun decoder => { decoder with unit := some unit }

def sectionHeader : Decoding PUnit := do
  let index := (← get).sectionCount
  let format := ((← Cursor.byte) >>> 6) &&& 3
  let address ← Cursor.bigLong
  let length ← Cursor.bigLong
  let alignment ← Cursor.bigLong
  let layout ← Cursor.byte
  let access ← Cursor.byte
  let flags ← Cursor.byte
  let name := nameOf (← Cursor.prefixed)
  let contents := layout >>> 4
  let concatenation := layout &&& 0xf
  let read := (access >>> 6) &&& 3
  let write := (access >>> 4) &&& 3
  let execute := (access >>> 2) &&& 3
  let initial := access &&& 3
  let part : Section :=
    { index, name, format, address, length, alignment, contents, concatenation
      read, write, execute, initial, flags, assembledLength_eq := Fragment.reach_nil }
  let unit ← requireUnit
  modify fun decoder =>
    { decoder with unit := some { unit with sections := unit.sections ++ [part] } }

def sectionSelection : Decoding PUnit := do
  let decoder ← get
  Cursor.skip 2
  let index := (← Cursor.bigWord).toNat
  if decoder.sectionCount ≤ index then
    throw (.unknownSection index decoder.chunkBase)
  modify fun decoder => { decoder with selected := some index }

/-! ## Symbols -/

def importRecord : Decoding PUnit := do
  let kind ← spanningByte
  let name ← spanningName
  modify fun decoder => { decoder with imports := decoder.imports ++ [⟨name, kind⟩] }

def exportRecord : Decoding PUnit := do
  let start := (← get).position
  let sectionIndex ← spanningNumber 2
  let kind ← spanningByte
  let offset := UInt32.ofNat (← spanningNumber 4)
  let name ← spanningName
  let symbol : ExportSymbol := ⟨name, sectionIndex, kind, offset, none⟩
  let unit ← requireUnit
  updateSection unit sectionIndex (.unknownSection sectionIndex start) fun part =>
    .ok { part with exports := part.exports ++ [symbol] }

/-! ## Data -/

def repeated (count : Nat) (bytes : List UInt8) : List UInt8 :=
  if bytes.isEmpty then [] else Nat.repeat (bytes ++ ·) count []

theorem repeated_eq (count : Nat) (bytes : List UInt8) :
    repeated count bytes = (List.replicate count bytes).flatten := by
  cases bytes with
  | nil => simp [repeated]
  | cons head tail =>
      simp only [repeated, List.isEmpty_cons, Bool.false_eq_true, if_false]
      induction count with
      | zero => rfl
      | succ count induction => rw [Nat.repeat, induction, List.replicate_succ, List.flatten_cons]

def objectData : Decoding PUnit := do
  let flags ← Cursor.byte
  let address ← Cursor.bigLong
  let compressed := flags &&& Fragment.compressedFlag != 0
  let count ← if compressed then pure (← Cursor.bigLong).toNat else pure 1
  let bytes ← Cursor.prefixed
  updateCurrentSection (·.push ⟨flags, address, repeated count bytes⟩)

/-! ## Relocations -/

def replaceOperator : UInt8 :=
  8

def terminator : UInt8 :=
  0xff

def expectTerminator : Decoding PUnit := do
  let start := (← get).position
  let found ← Cursor.byte
  if found ≠ terminator then
    throw (.wrongTerminator found start)

def relocationHead : Decoding RelocationHead := do
  let start := (← get).position
  let flags ← Cursor.byte
  let address ← Cursor.bigLong
  let bitLocation ← Cursor.byte
  let fieldLength ← Cursor.byte
  let bitCount ← Cursor.byte
  let operator ← Cursor.byte
  if operator ≠ replaceOperator then
    throw (.unsupportedOperator operator start)
  let sectionField ← Cursor.littleWord
  let opcode ← Cursor.byte
  let addendLength ← Cursor.byte
  let relocationLength ← Cursor.byte
  return { flags, address, bitLocation, fieldLength, bitCount, operator, sectionField
           opcode, addendLength, relocationLength }

/-- The rest of a relocation against an import. A record whose import does not
exist is dropped. -/
def externalRelocation (head : RelocationHead) (start importIndex : Nat) (offset : UInt32) :
    Decoding PUnit := do
  let imports := (← get).imports
  match imports[importIndex]? with
  | none =>
      warn (.importOutOfRange importIndex imports.length start)
      expectTerminator
  | some symbol =>
      expectTerminator
      let relocation : ExternalRelocation :=
        { toRelocationHead := head, importIndex, name := symbol.name, offset
          linkedAddress := none }
      updateCurrentSection fun part =>
        .ok { part with relocations := part.relocations ++ [relocation] }

def longRelocation (address : UInt32) : Decoding PUnit := do
  Cursor.skip 1
  let sectionIndex := (← Cursor.byte).toNat
  Cursor.skip 2
  let target ← Cursor.bigLong
  Cursor.skip 1
  expectTerminator
  updateCurrentSection fun part =>
    .ok { part with
          longRelocations := part.longRelocations ++ [⟨sectionIndex, address, target, none⟩] }

def shortRelocation (address : UInt32) : Decoding PUnit := do
  let sectionIndex := (← Cursor.bigWord).toNat
  expectTerminator
  updateCurrentSection fun part =>
    .ok { part with
          shortRelocations := part.shortRelocations ++ [⟨sectionIndex, address, none⟩] }

def relocationRecord : Decoding PUnit := do
  let start := (← get).position
  let head ← relocationHead
  let discriminator ← Cursor.byte
  match head.relocationLength.toNat, discriminator.toNat with
  | 4, 2 =>
      let highOffset := (← get).position
      let high ← Cursor.byte
      if high ≠ 0 then
        warn (.nonZeroHighByte high highOffset)
      let importIndex := (← Cursor.byte).toNat
      externalRelocation head start importIndex 0
  | 11, 3 =>
      Cursor.skip 4
      let offset := (← Cursor.byte).toUInt32
      Cursor.skip 2
      let importIndex := (← Cursor.byte).toNat
      Cursor.skip 1
      externalRelocation head start importIndex offset
  | 4, 0 => shortRelocation head.address
  | 11, 0 => longRelocation head.address
  | 4, _ | 11, _ =>
      warn (.unsupportedRelocationVariant discriminator head.relocationLength start)
      Cursor.skip (head.relocationLength.toNat - 1)
  | _, _ => throw (.unsupportedRelocationLength head.relocationLength start)

/-! ## Files -/

def chunkBody : ChunkKind → Decoding PUnit
  | .moduleHeader => moduleHeader
  | .unitHeader => unitHeader
  | .sectionHeader => sectionHeader
  | .imports => allRecords importRecord
  | .exports => allRecords exportRecord
  | .sectionSelection => sectionSelection
  | .objectData => objectData
  | .relocation => allRecords relocationRecord
  | .termination => return
  | .unknown code => do warn (.unknownChunk code (← get).chunkBase)

def chunks : (limit : Nat) → Decoding PUnit
  | 0 => return
  | limit + 1 => do
      if !(← get).cursor.atEnd then
        let kind ← beginChunk
        if kind ≠ .termination then
          chunkBody kind
          seek (← get).chunkEnd
          chunks limit

def finish : Decoding ObjectFile := do
  let decoder ← get
  match decoder.module, decoder.unit with
  | none, _ => throw (.missingModule decoder.position)
  | some _, none => throw (.missingUnit decoder.position)
  | some module, some unit => return ⟨module, unit, decoder.imports, decoder.warnings⟩

def decodeFile : Decoding ObjectFile := do
  chunks (← get).cursor.file.size
  finish

end Decoder

def ObjectFile.decode (bytes : List UInt8) : Except FormatError ObjectFile :=
  if bytes.take Chunk.magic.length ≠ Chunk.magic then
    .error (.badMagic (bytes.take Chunk.magic.length))
  else
    match Decoder.decodeFile.run (Decoder.start bytes.toArray) with
    | .ok file _ => .ok file
    | .error error _ => .error error

end SuperHBench
