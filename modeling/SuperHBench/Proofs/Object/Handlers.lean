import SuperHBench.Proofs.Object.Windows

/-! # Handlers of chunks

Every handler uses up the bytes that its records are laid out as, and collects what the
records say. -/

namespace SuperHBench

open Decoder

variable {window : Window} {tail : List UInt8} {before : Collected} {unit : ObjectUnit}

/-! ## The module -/

namespace ModuleHeader

/-- Only a module of final addresses has an entry point that is an address. -/
def EntryFits (header : ModuleHeader) : Prop :=
  match header.entry with
  | none => True
  | some (.absolute _) => header.kind = absoluteKind
  | some (.relative _ _) => header.kind ≠ absoluteKind

instance (header : ModuleHeader) : Decidable header.EntryFits := by
  unfold EntryFits
  split <;> infer_instance

structure Codable (header : ModuleHeader) : Prop where
  unitCount_le : header.unitCount ≤ 1
  buildDate_length : header.buildDate.length = 12
  version_length : header.version.length = 4
  addressFieldLength_lt : header.addressFieldLength < 16
  entryFits : header.EntryFits
  short : header.bytes.length ≤ ChunkText.maxPayload

theorem reads_entryPoint {header : ModuleHeader} (fits : header.EntryFits) :
    Cursor.Reads (entryPoint header.kind) (EntryPoint.bytes header.entry) header.entry := by
  rw [EntryFits] at fits
  rw [entryPoint]
  match entry : header.entry with
  | none => exact (Cursor.reads_byte 0).bind (Cursor.reads_pure none)
  | some (.absolute address) =>
      rw [entry] at fits
      rw [fits]
      exact (Cursor.reads_byte 1).bind ((Cursor.reads_littleLong address).map _)
  | some (.relative unit index) =>
      rw [entry] at fits
      refine (Cursor.reads_byte 1).bind ?_
      rw [if_neg (by decide), if_neg fits]
      exact (Cursor.reads_littleWord unit).bind ((Cursor.reads_littleWord index).map _)

theorem unpack_segmentByte {header : ModuleHeader} (small : header.addressFieldLength < 16) :
    (header.segmentByte &&& 0x80 != 0) = header.segmented ∧
      header.segmentByte >>> 3 &&& 0xf = header.addressFieldLength := by
  have all : ∀ (segmented : Bool) (length : Fin 16),
      (((if segmented then (0x80 : UInt8) else 0) ||| UInt8.ofNat length <<< 3) &&& 0x80 != 0)
          = segmented ∧
        ((if segmented then (0x80 : UInt8) else 0) ||| UInt8.ofNat length <<< 3) >>> 3 &&& 0xf
          = UInt8.ofNat length := by decide
  have found := all header.segmented ⟨header.addressFieldLength.toNat, small⟩
  rwa [UInt8.ofNat_toNat] at found

theorem usesUp_moduleHeader {header : ModuleHeader} (codable : header.Codable)
    (module_eq : before.module = none) :
    UsesUp (.Within tail) moduleHeader before header.bytes ⟨⟩
      { before with module := some header } := by
  rcases unpack_segmentByte codable.addressFieldLength_lt with ⟨segmented, addressFieldLength⟩
  have short := codable.short
  simp only [bytes, List.length_append, Cursor.length_prefixedBytes, ChunkText.maxPayload] at short
  rw [moduleHeader, bytes]
  simp only [List.append_assoc, List.cons_append, List.nil_append]
  refine usesUp_get_bind fun decoder collected => usesUp_unless ?_ ?_
  · have missing : decoder.module = none := (congrArg Collected.module collected).trans module_eq
    simp [missing]
  refine usesUp_byte_bind ?_
  refine (usesUp_liftM (Cursor.reads_take codable.buildDate_length)).bind ?_
  refine (usesUp_liftM (Cursor.reads_bigWord header.unitCount)).bind ?_
  refine usesUp_unless (UInt16.not_lt.mpr codable.unitCount_le) ?_
  refine usesUp_skip_bind [0] ?_
  refine (usesUp_liftM (Cursor.reads_take codable.version_length)).bind ?_
  iterate 5 refine usesUp_byte_bind ?_
  refine (usesUp_liftM (reads_entryPoint codable.entryFits)).bind ?_
  refine (usesUp_liftM (Cursor.reads_prefixed (by omega))).bind ?_
  refine (usesUp_liftM (Cursor.reads_prefixed (by omega))).bind ?_
  refine (usesUp_liftM (Cursor.reads_prefixed (by omega))).bind ?_
  refine (usesUp_liftM (Cursor.reads_prefixed (by omega))).andThen ?_
  rw [segmented, addressFieldLength]
  exact usesUp_modify (fun _ => rfl) (fun _ => rfl) fun _ collected => by rw [← collected]; rfl

end ModuleHeader

/-! ## The unit -/

namespace ObjectUnit

structure Codable (unit : ObjectUnit) : Prop where
  format_lt : unit.format < 4
  toolDate_length : unit.toolDate.length = 12
  sections_eq : unit.sections = []
  short : unit.bytes.length ≤ ChunkText.maxPayload

theorem usesUp_unitHeader {header : ModuleHeader} (codable : unit.Codable)
    (module_eq : before.module = some header) (unit_eq : before.unit = none) :
    UsesUp (.Within tail) unitHeader before unit.bytes ⟨⟩ { before with unit := some unit } := by
  have format : unit.format &&& 3 = unit.format := by
    have all : ∀ format : Fin 4, UInt8.ofNat format &&& 3 = UInt8.ofNat format := by decide
    have found := all ⟨unit.format.toNat, codable.format_lt⟩
    rwa [UInt8.ofNat_toNat] at found
  have short := codable.short
  simp only [bytes, List.length_append, Cursor.length_prefixedBytes, ChunkText.maxPayload] at short
  rw [unitHeader, bytes]
  simp only [List.append_assoc, List.cons_append, List.nil_append]
  refine usesUp_get_bind fun decoder collected => ?_
  have module_found : decoder.module = some header :=
    (congrArg Collected.module collected).trans module_eq
  have unit_found : decoder.unit = none := (congrArg Collected.unit collected).trans unit_eq
  refine usesUp_unless (by simp [module_found]) (usesUp_unless (by simp [unit_found]) ?_)
  refine usesUp_byte_bind ?_
  refine (usesUp_liftM (Cursor.reads_littleWord unit.sectionCount)).bind ?_
  refine (usesUp_liftM (Cursor.reads_littleWord unit.externalReferences)).bind ?_
  refine (usesUp_liftM (Cursor.reads_littleWord unit.externalDefinitions)).bind ?_
  refine (usesUp_liftM (Cursor.reads_prefixed (by omega))).bind ?_
  refine (usesUp_liftM (Cursor.reads_prefixed (by omega))).bind ?_
  refine (usesUp_liftM (Cursor.reads_take codable.toolDate_length)).andThen ?_
  rw [format, ← codable.sections_eq]
  exact usesUp_setUnit unit

end ObjectUnit

/-! ## Sections -/

namespace SectionHeader

theorem unpack_layoutByte (header : SectionHeader) :
    header.layoutByte >>> 4 = header.contents ∧
      header.layoutByte &&& 0xf = header.concatenation := by
  have all : ∀ contents concatenation : Fin 16,
      (UInt8.ofNat contents <<< 4 ||| UInt8.ofNat concatenation) >>> 4 = UInt8.ofNat contents ∧
        (UInt8.ofNat contents <<< 4 ||| UInt8.ofNat concatenation) &&& 0xf =
          UInt8.ofNat concatenation := by decide
  have found := all ⟨header.contents.toNat, header.contents_lt⟩
    ⟨header.concatenation.toNat, header.concatenation_lt⟩
  rwa [UInt8.ofNat_toNat, UInt8.ofNat_toNat] at found

theorem unpack_accessByte (header : SectionHeader) :
    header.accessByte >>> 6 &&& 3 = header.read ∧ header.accessByte >>> 4 &&& 3 = header.write ∧
      header.accessByte >>> 2 &&& 3 = header.execute ∧
      header.accessByte &&& 3 = header.initial := by
  have all : ∀ read write execute initial : Fin 4,
      let byte := UInt8.ofNat read <<< 6 ||| UInt8.ofNat write <<< 4 |||
        UInt8.ofNat execute <<< 2 ||| UInt8.ofNat initial
      byte >>> 6 &&& 3 = UInt8.ofNat read ∧ byte >>> 4 &&& 3 = UInt8.ofNat write ∧
        byte >>> 2 &&& 3 = UInt8.ofNat execute ∧ byte &&& 3 = UInt8.ofNat initial := by
    decide +kernel
  have found := all ⟨header.read.toNat, header.read_lt⟩ ⟨header.write.toNat, header.write_lt⟩
    ⟨header.execute.toNat, header.execute_lt⟩ ⟨header.initial.toNat, header.initial_lt⟩
  simp only [UInt8.ofNat_toNat] at found
  exact found

theorem usesUp_sectionHeader (header : SectionHeader)
    (short : header.bytes.length ≤ ChunkText.maxPayload) (unit_eq : before.unit = some unit) :
    UsesUp (.Within tail) sectionHeader before header.bytes ⟨⟩
      (before.withSections unit
        (unit.sections ++ [header.part unit.sections.length])) := by
  have format : header.format <<< 6 >>> 6 &&& 3 = header.format := by
    have all : ∀ format : Fin 4,
        UInt8.ofNat format <<< 6 >>> 6 &&& 3 = UInt8.ofNat format := by decide
    have found := all ⟨header.format.toNat, header.format_lt⟩
    rwa [UInt8.ofNat_toNat] at found
  rcases header.unpack_layoutByte with ⟨contents, concatenation⟩
  rcases header.unpack_accessByte with ⟨read, write, execute, initial⟩
  simp only [bytes, List.length_append, Cursor.length_prefixedBytes, ChunkText.maxPayload] at short
  rw [sectionHeader, bytes]
  simp only [List.append_assoc, List.cons_append, List.nil_append]
  refine usesUp_get_bind fun decoder collected => ?_
  have count : decoder.sectionCount = unit.sections.length := by
    have found : decoder.unit = some unit := (congrArg Collected.unit collected).trans unit_eq
    rw [sectionCount, found, Option.map_some, Option.getD_some]
  rw [count]
  refine usesUp_byte_bind ?_
  refine (usesUp_liftM (Cursor.reads_bigLong header.address)).bind ?_
  refine (usesUp_liftM (Cursor.reads_bigLong header.length)).bind ?_
  refine (usesUp_liftM (Cursor.reads_bigLong header.alignment)).bind ?_
  iterate 3 refine usesUp_byte_bind ?_
  refine (usesUp_liftM (Cursor.reads_prefixed (by omega))).andThen ?_
  refine (usesUp_requireUnit unit_eq).andThen ?_
  rw [nameOf, Text.decode_encode, format, contents, concatenation, read, write, execute, initial]
  exact usesUp_setUnit _

end SectionHeader

theorem usesUp_sectionSelection {sectionIndex : UInt16} (unit_eq : before.unit = some unit)
    (declared : sectionIndex.toNat < unit.sections.length) :
    UsesUp (.Within tail) sectionSelection before (selectionBytes sectionIndex) ⟨⟩
      { before with selected := some sectionIndex.toNat } := by
  refine usesUp_get_bind fun decoder collected => ?_
  have count : decoder.sectionCount = unit.sections.length := by
    have found : decoder.unit = some unit := (congrArg Collected.unit collected).trans unit_eq
    rw [sectionCount, found, Option.map_some, Option.getD_some]
  refine usesUp_skip_bind (Cursor.bigBytes 2 0) ?_
  refine (usesUp_liftM (Cursor.reads_bigWord sectionIndex)).andThen ?_
  refine usesUp_unless (by omega) ?_
  exact usesUp_modify (fun _ => rfl) (fun _ => rfl) fun _ collected => by rw [← collected]; rfl

/-! ## Symbols -/

theorem usesUp_importRecord (delivers : window.Delivers) {record : ImportRecord}
    (short : record.name.length < 256) :
    UsesUp window importRecord before record.bytes ⟨⟩
      { before with imports := before.imports ++ [record.symbol] } := by
  refine (delivers before record.kind).bind ?_
  refine (usesUp_spanningName delivers short).andThen ?_
  exact usesUp_modify (fun _ => rfl) (fun _ => rfl) fun _ collected => by rw [← collected]; rfl

theorem usesUp_exportRecord (delivers : window.Delivers) {record : ExportRecord} {part : Section}
    (short : record.name.length < 256) (unit_eq : before.unit = some unit)
    (found : unit.sections[record.sectionIndex.toNat]? = some part) :
    UsesUp window exportRecord before record.bytes ⟨⟩
      (before.withSections unit (unit.sections.set record.sectionIndex.toNat
        (part.withExports [record.symbol]))) := by
  rw [exportRecord, ExportRecord.bytes]
  simp only [List.append_assoc]
  refine usesUp_get_bind fun decoder collected => ?_
  refine (usesUp_spanningNumber delivers (Cursor.length_bigBytes 2 _)).bind ?_
  refine (delivers before record.kind).bind ?_
  refine (usesUp_spanningNumber delivers (Cursor.length_bigBytes 4 _)).bind ?_
  refine (usesUp_spanningName delivers short).andThen ?_
  refine (usesUp_requireUnit unit_eq).andThen ?_
  rw [Cursor.bigEndian_two record.sectionIndex.toNat_lt,
    Cursor.bigEndian_four record.offset.toNat_lt, UInt32.ofNat_toNat]
  exact usesUp_updateSection found rfl

/-! ## Data -/

theorem usesUp_objectData {record : DataRecord} {part changed : Section}
    (short : record.bytes.length ≤ ChunkText.maxPayload) (unit_eq : before.unit = some unit)
    (found : unit.sections[before.target unit]? = some part)
    (pushed : part.push record.fragment = .ok changed) :
    UsesUp (.Within tail) objectData before record.bytes ⟨⟩
      (before.withSections unit (unit.sections.set (before.target unit) changed)) := by
  simp only [DataRecord.bytes, List.length_append, Cursor.length_prefixedBytes,
    ChunkText.maxPayload] at short
  rw [objectData, DataRecord.bytes]
  simp only [List.append_assoc, List.cons_append, List.nil_append]
  refine usesUp_byte_bind ?_
  refine (usesUp_liftM (Cursor.reads_bigLong record.address)).bind ?_
  rw [DataRecord.fragment] at pushed
  change UsesUp _ (if record.isCompressed = true then _ else _) _ _ _ _
  cases compressed : record.isCompressed with
  | true =>
      rw [compressed, if_pos rfl, ← repeated_eq] at pushed
      refine (usesUp_liftM (Cursor.reads_bigLong record.count)).bind ?_
      refine (usesUp_liftM (Cursor.reads_prefixed (by omega))).andThen ?_
      exact usesUp_updateCurrentSection unit_eq found pushed
  | false =>
      have once : repeated 1 record.contents = record.contents := by
        simp [repeated_eq]
      rw [compressed, if_neg (by decide), ← once] at pushed
      refine (usesUp_liftM (Cursor.reads_prefixed (by omega))).andThen ?_
      exact usesUp_updateCurrentSection unit_eq found pushed

/-! ## Relocations -/

theorem usesUp_expectTerminator :
    UsesUp (.Within tail) expectTerminator before [terminator] ⟨⟩ before := by
  refine usesUp_get_bind fun decoder _ => (usesUp_liftM (Cursor.reads_byte terminator)).andThen ?_
  rw [if_neg (not_not_intro rfl)]
  exact usesUp_pure _

theorem RelocationHead.usesUp_relocationHead (head : RelocationHead)
    (operator_eq : head.operator = replaceOperator) :
    UsesUp (.Within tail) relocationHead before head.bytes head before := by
  rw [relocationHead, bytes]
  simp only [List.append_assoc, List.cons_append, List.nil_append]
  refine usesUp_get_bind fun decoder _ => usesUp_byte_bind ?_
  refine (usesUp_liftM (Cursor.reads_bigLong head.address)).bind ?_
  iterate 4 refine usesUp_byte_bind ?_
  refine usesUp_unless (not_not_intro operator_eq) ?_
  refine (usesUp_liftM (Cursor.reads_littleWord head.sectionField)).bind ?_
  iterate 3 refine usesUp_byte_bind ?_
  exact usesUp_pure head

namespace RelocationRecord

variable {record : RelocationRecord} {part : Section}

theorem usesUp_externalRelocation {importIndex : UInt8} {start : Nat} {offset : UInt32}
    (known : importIndex.toNat < before.imports.length) (unit_eq : before.unit = some unit)
    (found : unit.sections[before.target unit]? = some part) :
    UsesUp (.Within tail) (externalRelocation record.head start importIndex.toNat offset) before
      [terminator] ⟨⟩
      (before.withSections unit (unit.sections.set (before.target unit)
        { part with
          relocations :=
            part.relocations ++ [record.external before.imports importIndex offset] })) := by
  refine usesUp_get_bind fun decoder collected => ?_
  have imports_eq : decoder.imports = before.imports := congrArg Collected.imports collected
  have symbol := List.getElem?_eq_getElem known
  rw [imports_eq]
  dsimp only
  rw [symbol]
  refine usesUp_expectTerminator.andThen (usesUp_updateCurrentSection unit_eq found ?_)
  rw [external, symbol, Option.map_some, Option.getD_some]

theorem usesUp_relocationRecord (refers : record.shape.RefersInto before.imports)
    (unit_eq : before.unit = some unit)
    (found : unit.sections[before.target unit]? = some part) :
    UsesUp (.Within tail) relocationRecord before record.bytes ⟨⟩
      (before.withSections unit (unit.sections.set (before.target unit)
        (record.addTo before.imports part))) := by
  refine usesUp_get_bind fun decoder _ => ?_
  refine (record.head.usesUp_relocationHead record.operator_eq).bind ?_
  rw [record.length_eq, addTo]
  cases shape : record.shape with
  | external importIndex =>
      rw [shape] at refers
      refine usesUp_byte_bind (usesUp_get_bind fun decoder _ => usesUp_byte_bind ?_)
      rw [if_neg (not_not_intro rfl)]
      exact usesUp_byte_bind (usesUp_externalRelocation refers unit_eq found)
  | externalOffset importIndex offset =>
      rw [shape] at refers
      refine usesUp_byte_bind ?_
      refine usesUp_skip_bind [0, 0, 0, 0] (usesUp_byte_bind ?_)
      refine usesUp_skip_bind [0, 0] (usesUp_byte_bind (usesUp_skip_bind [0] ?_))
      exact usesUp_externalRelocation refers unit_eq found
  | sectionStart sectionIndex =>
      refine usesUp_byte_bind ?_
      refine (usesUp_liftM (Cursor.reads_bigWord sectionIndex)).bind ?_
      exact usesUp_expectTerminator.andThen (usesUp_updateCurrentSection unit_eq found rfl)
  | sectionTarget sectionIndex target =>
      refine usesUp_byte_bind ?_
      refine usesUp_skip_bind [0] (usesUp_byte_bind (usesUp_skip_bind [0, 0] ?_))
      refine (usesUp_liftM (Cursor.reads_bigLong target)).bind (usesUp_skip_bind [0] ?_)
      exact usesUp_expectTerminator.andThen (usesUp_updateCurrentSection unit_eq found rfl)

end RelocationRecord

end SuperHBench
