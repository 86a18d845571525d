import SuperHBench.Proofs.Object.Chunks
import SuperHBench.Proofs.Object.Handlers

/-! # Manuscripts of object files

A manuscript says what an object file declares, in the order of its chunks. Its bytes are
decoded to the file that the declarations amount to. -/

namespace SuperHBench

open Decoder

/-! ## Declarations -/

def ImportSymbol.record (symbol : ImportSymbol) : ImportRecord :=
  ⟨symbol.kind, Text.encode symbol.name⟩

def ExportSymbol.record (symbol : ExportSymbol) : ExportRecord :=
  ⟨.ofNat symbol.sectionIndex, symbol.kind, symbol.offset, Text.encode symbol.name⟩

inductive Declaration where
  | opening (header : SectionHeader)
  | imports (symbols : List ImportSymbol)
  | exports (symbols : List ExportSymbol)
  | selection (sectionIndex : UInt16)
  | data (record : DataRecord)
  | relocations (records : List RelocationRecord)

namespace Declaration

def kind : Declaration → ChunkKind
  | .opening _ => .sectionHeader
  | .imports _ => .imports
  | .exports _ => .exports
  | .selection _ => .sectionSelection
  | .data _ => .objectData
  | .relocations _ => .relocation

def payload : Declaration → List UInt8
  | .opening header => header.bytes
  | .imports symbols => (symbols.map ImportSymbol.record).flatMap ImportRecord.bytes
  | .exports symbols => (symbols.map ExportSymbol.record).flatMap ExportRecord.bytes
  | .selection sectionIndex => selectionBytes sectionIndex
  | .data record => record.bytes
  | .relocations records => records.flatMap RelocationRecord.bytes

def chunk (declaration : Declaration) : ChunkText :=
  ⟨declaration.kind.code, declaration.payload⟩

theorem kind_chunk (declaration : Declaration) : declaration.chunk.kind = declaration.kind := by
  cases declaration <;> exact ChunkKind.ofCode_code fun _ => ChunkKind.noConfusion

theorem kind_ne_termination (declaration : Declaration) : declaration.kind ≠ .termination := by
  cases declaration <;> exact ChunkKind.noConfusion

end Declaration

structure Draft where
  unit : ObjectUnit
  selected : Option Nat := none
  imports : List ImportSymbol := []

namespace Draft

/-- The section that data and relocations go to: the selected one, else the last one. -/
def target (draft : Draft) : Nat :=
  draft.selected.getD (draft.unit.sections.length - 1)

def withSections (draft : Draft) (sections : List Section) : Draft :=
  { draft with unit := { draft.unit with sections := sections } }

def addImports (draft : Draft) (symbols : List ImportSymbol) : Draft :=
  { draft with imports := draft.imports ++ symbols }

def addExports (draft : Draft) (symbols : List ExportSymbol) : Draft :=
  draft.withSections <| draft.unit.sections.mapIdx fun index part =>
    part.withExports (symbols.filter (·.sectionIndex = index))

def addRelocations (draft : Draft) (records : List RelocationRecord) : Draft :=
  draft.withSections <| draft.unit.sections.modify draft.target fun part =>
    records.foldl (fun part record => record.addTo draft.imports part) part

def declare (draft : Draft) : Declaration → Draft
  | .opening header =>
      draft.withSections (draft.unit.sections ++ [header.part draft.unit.sections.length])
  | .imports symbols => draft.addImports symbols
  | .exports symbols => draft.addExports symbols
  | .selection sectionIndex => { draft with selected := some sectionIndex.toNat }
  | .data record =>
      draft.withSections <| draft.unit.sections.modify draft.target fun part =>
        part.append record.fragment
  | .relocations records => draft.addRelocations records

/-- The declaration makes sense after those before it. -/
def Accepts (draft : Draft) : Declaration → Prop
  | .opening _ | .imports _ => True
  | .exports symbols =>
      ∀ symbol ∈ symbols, symbol.sectionIndex < draft.unit.sections.length ∧
        symbol.sectionIndex < 65536 ∧ symbol.linkedAddress = none
  | .selection sectionIndex => sectionIndex.toNat < draft.unit.sections.length
  | .data record =>
      draft.unit.sections ≠ [] ∧ ∀ part ∈ draft.unit.sections[draft.target]?,
        part.assembledLength ≤ record.address.toNat
  | .relocations records =>
      draft.unit.sections ≠ [] ∧ ∀ record ∈ records, record.shape.RefersInto draft.imports

instance (draft : Draft) (declaration : Declaration) : Decidable (draft.Accepts declaration) := by
  cases declaration <;> unfold Accepts <;> infer_instance

def AcceptsAll (draft : Draft) : List Declaration → Prop
  | [] => True
  | declaration :: rest =>
      declaration.payload.length ≤ ChunkText.maxPayload ∧ draft.Accepts declaration ∧
        (draft.declare declaration).AcceptsAll rest

instance decidableAcceptsAll :
    (draft : Draft) → (declarations : List Declaration) → Decidable (draft.AcceptsAll declarations)
  | _, [] => .isTrue trivial
  | draft, declaration :: rest =>
      have := decidableAcceptsAll (draft.declare declaration) rest
      inferInstanceAs (Decidable (_ ∧ _ ∧ _))

def collected (draft : Draft) (module : ModuleHeader) : Collected :=
  ⟨some module, some draft.unit, draft.selected, draft.imports, []⟩

def InBounds (draft : Draft) : Prop :=
  ∀ index ∈ draft.selected, index < draft.unit.sections.length

variable {draft : Draft} {module : ModuleHeader} {window : Window}

theorem target_lt (inBounds : draft.InBounds) (nonempty : draft.unit.sections ≠ []) :
    draft.target < draft.unit.sections.length := by
  have positive := List.length_pos_iff.mpr nonempty
  rw [target]
  cases selected : draft.selected with
  | none => rw [Option.getD_none]; omega
  | some index => exact inBounds index selected

/-! ## Lists of records -/

theorem rows_imports (draft : Draft) (delivers : window.Delivers) {records : List ImportRecord}
    (short : ∀ record ∈ records, record.name.length < 256) :
    Rows window importRecord (draft.collected module) (records.flatMap ImportRecord.bytes)
      ((draft.addImports (records.map ImportRecord.symbol)).collected module) := by
  induction records generalizing draft with
  | nil =>
      rw [addImports, List.map_nil, List.append_nil]
      exact .nil _
  | cons record records induction =>
      have others := induction (draft.addImports [record.symbol])
        fun other among => short other (List.mem_cons_of_mem _ among)
      rw [addImports, addImports, List.append_assoc] at others
      exact .cons (by simp [ImportRecord.bytes])
        (usesUp_importRecord delivers (short record List.mem_cons_self)) others

theorem addExports_nil (draft : Draft) : draft.addExports [] = draft := by
  refine congrArg draft.withSections (List.ext_getElem? fun index => ?_)
  simp

theorem addExports_cons {symbol : ExportSymbol} {symbols : List ExportSymbol} {part : Section}
    (found : draft.unit.sections[symbol.sectionIndex]? = some part) :
    draft.addExports (symbol :: symbols) =
      (draft.withSections (draft.unit.sections.set symbol.sectionIndex
        (part.withExports [symbol]))).addExports symbols := by
  refine congrArg draft.withSections (List.ext_getElem? fun index => ?_)
  change _ = (List.mapIdx _ (draft.unit.sections.set symbol.sectionIndex
    (part.withExports [symbol])))[index]?
  rw [List.getElem?_mapIdx, List.getElem?_mapIdx]
  by_cases same : symbol.sectionIndex = index
  · subst same
    rcases List.getElem?_eq_some_iff.mp found with ⟨declared, -⟩
    rw [found, List.getElem?_set_self declared]
    simp
  · rw [List.getElem?_set_ne same, List.filter_cons_of_neg (by simpa using same)]

theorem rows_exports (draft : Draft) (delivers : window.Delivers) {records : List ExportRecord}
    (short : ∀ record ∈ records, record.name.length < 256)
    (declared : ∀ record ∈ records, record.sectionIndex.toNat < draft.unit.sections.length) :
    Rows window exportRecord (draft.collected module) (records.flatMap ExportRecord.bytes)
      ((draft.addExports (records.map ExportRecord.symbol)).collected module) := by
  induction records generalizing draft with
  | nil =>
      rw [List.map_nil, addExports_nil]
      exact .nil _
  | cons record records induction =>
      obtain ⟨part, found⟩ : ∃ part, draft.unit.sections[record.sectionIndex.toNat]? = some part :=
        ⟨_, List.getElem?_eq_getElem (declared record List.mem_cons_self)⟩
      have others := induction
        (draft.withSections
          (draft.unit.sections.set record.sectionIndex.toNat (part.withExports [record.symbol])))
        (fun other among => short other (List.mem_cons_of_mem _ among))
        (fun other among => by
          simpa [withSections] using declared other (List.mem_cons_of_mem _ among))
      rw [List.map_cons, addExports_cons found]
      exact .cons (by simp [ExportRecord.bytes])
        (usesUp_exportRecord delivers (short record List.mem_cons_self) rfl found) others

theorem modify_eq_set_of_found {sections : List Section} {index : Nat} {part : Section}
    (found : sections[index]? = some part) (change : Section → Section) :
    sections.modify index change = sections.set index (change part) := by
  have : Inhabited Section := ⟨part⟩
  rw [List.modify_eq_set, found, Option.getD_some]

theorem target_withSections {sections : List Section}
    (length : sections.length = draft.unit.sections.length) :
    (draft.withSections sections).target = draft.target := by
  rw [target, target, ← length]
  rfl

theorem addRelocations_nil (draft : Draft) : draft.addRelocations [] = draft :=
  congrArg draft.withSections (List.modify_id draft.target draft.unit.sections)

theorem addRelocations_cons {record : RelocationRecord} {records : List RelocationRecord}
    {part : Section} (found : draft.unit.sections[draft.target]? = some part) :
    draft.addRelocations (record :: records) =
      (draft.withSections (draft.unit.sections.set draft.target
        (record.addTo draft.imports part))).addRelocations records := by
  rw [← modify_eq_set_of_found found (record.addTo draft.imports), addRelocations, addRelocations,
    target_withSections (List.length_modify ..)]
  refine congrArg draft.withSections (Eq.symm ?_)
  exact List.modify_modify_eq (record.addTo draft.imports) _ draft.target draft.unit.sections

theorem rows_relocations (draft : Draft) {tail : List UInt8} {records : List RelocationRecord}
    (inBounds : draft.target < draft.unit.sections.length)
    (refer : ∀ record ∈ records, record.shape.RefersInto draft.imports) :
    Rows (.Within tail) relocationRecord (draft.collected module)
      (records.flatMap RelocationRecord.bytes)
      ((draft.addRelocations records).collected module) := by
  induction records generalizing draft with
  | nil =>
      rw [addRelocations_nil]
      exact .nil _
  | cons record records induction =>
      have found := List.getElem?_eq_getElem inBounds
      have others := induction
        (draft.withSections (draft.unit.sections.set draft.target
          (record.addTo draft.imports draft.unit.sections[draft.target])))
        (by rw [target_withSections (List.length_set ..)]; simpa [withSections] using inBounds)
        (fun other among => refer other (List.mem_cons_of_mem _ among))
      rw [addRelocations_cons found]
      exact .cons (by simp [RelocationRecord.bytes, RelocationHead.bytes])
        (RelocationRecord.usesUp_relocationRecord (refer record List.mem_cons_self) rfl found)
        others

/-! ## Chunks of declarations -/

theorem push_of_le {part : Section} (fragment : Fragment)
    (later : part.assembledLength ≤ fragment.address.toNat) :
    part.push fragment = .ok (part.append fragment) := by
  rw [Section.push, if_neg (Nat.not_lt.mpr later)]

/-- The names of records that fit a chunk have lengths that fit a byte. -/
theorem length_lt_of_payload {name bytes : α → List UInt8} {items : List α}
    (longer : ∀ item, (name item).length < (bytes item).length)
    (short : (items.flatMap bytes).length ≤ ChunkText.maxPayload) :
    ∀ item ∈ items, (name item).length < 256 := by
  intro item among
  have part : (bytes item).length ≤ (items.flatMap bytes).length := by
    rw [List.flatMap_def]
    exact (List.sublist_flatten_of_mem (List.mem_map_of_mem among)).length_le
  have shorter := longer item
  rw [ChunkText.maxPayload] at short
  omega

theorem map_symbol_record_of_imports (symbols : List ImportSymbol) :
    (symbols.map ImportSymbol.record).map ImportRecord.symbol = symbols := by
  rw [List.map_map]
  refine List.map_id'' (fun symbol => ?_) symbols
  rw [Function.comp_apply, ImportSymbol.record, ImportRecord.symbol, Text.decode_encode]

theorem toNat_sectionIndex {symbol : ExportSymbol} (small : symbol.sectionIndex < 65536) :
    symbol.record.sectionIndex.toNat = symbol.sectionIndex := by
  rw [ExportSymbol.record, UInt16.toNat_ofNat']
  exact Nat.mod_eq_of_lt small

theorem map_symbol_record_of_exports {symbols : List ExportSymbol}
    (plain : ∀ symbol ∈ symbols, symbol.sectionIndex < 65536 ∧ symbol.linkedAddress = none) :
    (symbols.map ExportSymbol.record).map ExportRecord.symbol = symbols := by
  rw [List.map_map]
  conv => rhs; rw [← List.map_id symbols]
  refine List.map_congr_left fun symbol among => ?_
  rcases plain symbol among with ⟨small, unlinked⟩
  rw [Function.comp_apply, ExportRecord.symbol, toNat_sectionIndex small, ExportSymbol.record,
    Text.decode_encode, ← unlinked]
  rfl

theorem decodes_declaration {declaration : Declaration} (inBounds : draft.InBounds)
    (short : declaration.payload.length ≤ ChunkText.maxPayload)
    (accepts : draft.Accepts declaration) :
    Decodes (draft.collected module) declaration.chunk.bytes
      ((draft.declare declaration).collected module) := by
  refine decodes_chunk declaration.kind_chunk declaration.kind_ne_termination short ?_
  cases declaration with
  | opening header =>
      exact readsThrough_of_usesUp fun _ => header.usesUp_sectionHeader short rfl
  | imports symbols =>
      refine readsThrough_allRecords fun tail => ?_
      have rows : Rows (.Within tail) importRecord (draft.collected module) _ _ :=
        rows_imports draft (delivers_within tail)
          (length_lt_of_payload ImportRecord.length_name_lt short)
      rwa [map_symbol_record_of_imports] at rows
  | exports symbols =>
      have declared : ∀ record ∈ symbols.map ExportSymbol.record,
          record.sectionIndex.toNat < draft.unit.sections.length := by
        intro record among
        rcases List.mem_map.mp among with ⟨symbol, listed, rfl⟩
        rcases accepts symbol listed with ⟨declared, small, -⟩
        rwa [toNat_sectionIndex small]
      refine readsThrough_allRecords fun tail => ?_
      have rows : Rows (.Within tail) exportRecord (draft.collected module) _ _ :=
        rows_exports draft (delivers_within tail)
          (length_lt_of_payload ExportRecord.length_name_lt short) declared
      rwa [map_symbol_record_of_exports fun symbol among => (accepts symbol among).2] at rows
  | selection sectionIndex =>
      exact readsThrough_of_usesUp fun _ => usesUp_sectionSelection rfl accepts
  | data record =>
      rcases accepts with ⟨nonempty, later⟩
      have found := List.getElem?_eq_getElem (target_lt inBounds nonempty)
      have pushed := push_of_le record.fragment (later _ found)
      rw [declare, modify_eq_set_of_found found]
      exact readsThrough_of_usesUp fun _ => usesUp_objectData short rfl found pushed
  | relocations records =>
      rcases accepts with ⟨nonempty, refer⟩
      exact readsThrough_allRecords fun _ =>
        rows_relocations draft (target_lt inBounds nonempty) refer

theorem inBounds_declare {declaration : Declaration} (inBounds : draft.InBounds)
    (accepts : draft.Accepts declaration) : (draft.declare declaration).InBounds := by
  intro index selected
  cases declaration with
  | opening header =>
      have bound := inBounds index selected
      simp only [declare, withSections, List.length_append]
      omega
  | imports symbols => exact inBounds index selected
  | exports symbols => simpa [declare, addExports, withSections] using inBounds index selected
  | selection sectionIndex =>
      obtain rfl : sectionIndex.toNat = index := by simpa [declare] using selected
      exact accepts
  | data record => simpa [declare, withSections] using inBounds index selected
  | relocations records =>
      simpa [declare, addRelocations, withSections] using inBounds index selected

theorem inBounds_declareAll {declarations : List Declaration} (inBounds : draft.InBounds)
    (accepts : draft.AcceptsAll declarations) : (declarations.foldl declare draft).InBounds := by
  induction declarations generalizing draft with
  | nil => exact inBounds
  | cons declaration rest induction =>
      rcases accepts with ⟨-, accepts, others⟩
      exact induction (inBounds_declare inBounds accepts) others

theorem decodes_declarations {declarations : List Declaration} (inBounds : draft.InBounds)
    (accepts : draft.AcceptsAll declarations) :
    Decodes (draft.collected module)
      ((declarations.map Declaration.chunk).flatMap ChunkText.bytes)
      ((declarations.foldl declare draft).collected module) := by
  induction declarations generalizing draft with
  | nil => exact decodes_nil _
  | cons declaration rest induction =>
      rcases accepts with ⟨short, accepts, others⟩
      rw [List.map_cons, List.flatMap_cons, List.foldl_cons]
      exact (decodes_declaration inBounds short accepts).append
        (induction (inBounds_declare inBounds accepts) others)

end Draft

/-! ## Manuscripts -/

structure Manuscript where
  module : ModuleHeader
  unit : ObjectUnit
  declarations : List Declaration
  module_codable : module.Codable
  unit_codable : unit.Codable
  accepted : Draft.AcceptsAll ⟨unit, none, []⟩ declarations

namespace Manuscript

def headers (manuscript : Manuscript) : List ChunkText :=
  [⟨ChunkKind.moduleHeader.code, manuscript.module.bytes⟩,
    ⟨ChunkKind.unitHeader.code, manuscript.unit.bytes⟩]

def chunks (manuscript : Manuscript) : List ChunkText :=
  manuscript.headers ++ manuscript.declarations.map Declaration.chunk

def bytes (manuscript : Manuscript) (filler : List UInt8) : List UInt8 :=
  Chunk.magic ++ filler ++
    (manuscript.chunks.flatMap ChunkText.bytes ++ ChunkText.termination.bytes)

def draft (manuscript : Manuscript) : Draft :=
  manuscript.declarations.foldl Draft.declare ⟨manuscript.unit, none, []⟩

def file (manuscript : Manuscript) : ObjectFile :=
  ⟨manuscript.module, manuscript.draft.unit, manuscript.draft.imports, []⟩

theorem decodes_headers (manuscript : Manuscript) :
    Decodes {} (manuscript.headers.flatMap ChunkText.bytes)
      (Draft.collected ⟨manuscript.unit, none, []⟩ manuscript.module) := by
  rw [headers, List.flatMap_cons, List.flatMap_singleton]
  exact Decodes.append
    (decodes_chunk (ChunkKind.ofCode_code fun _ => ChunkKind.noConfusion) ChunkKind.noConfusion
      manuscript.module_codable.short (readsThrough_of_usesUp fun _ =>
        ModuleHeader.usesUp_moduleHeader manuscript.module_codable rfl))
    (decodes_chunk (ChunkKind.ofCode_code fun _ => ChunkKind.noConfusion) ChunkKind.noConfusion
      manuscript.unit_codable.short (readsThrough_of_usesUp fun _ =>
        ObjectUnit.usesUp_unitHeader manuscript.unit_codable rfl rfl))

theorem inBounds_unit (manuscript : Manuscript) :
    Draft.InBounds ⟨manuscript.unit, none, []⟩ :=
  fun _ selected => nomatch selected

theorem inBounds_draft (manuscript : Manuscript) : manuscript.draft.InBounds :=
  Draft.inBounds_declareAll manuscript.inBounds_unit manuscript.accepted

theorem decodes_chunks (manuscript : Manuscript) :
    Decodes {} (manuscript.chunks.flatMap ChunkText.bytes)
      (manuscript.draft.collected manuscript.module) := by
  rw [chunks, List.flatMap_append]
  exact manuscript.decodes_headers.append
    (Draft.decodes_declarations manuscript.inBounds_unit manuscript.accepted)

theorem decode_bytes (manuscript : Manuscript) {filler : List UInt8} (filled : filler.length = 28) :
    ObjectFile.decode (manuscript.bytes filler) = .ok manuscript.file :=
  decode_eq_ok filled manuscript.decodes_chunks

def specimenSection (name : String) : SectionHeader where
  name := name
  format := 0
  address := 0
  length := 0
  alignment := 4
  contents := 0
  concatenation := 0
  read := 3
  write := 1
  execute := 1
  initial := 0
  flags := 0
  format_lt := by decide
  contents_lt := by decide
  concatenation_lt := by decide
  read_lt := by decide
  write_lt := by decide
  execute_lt := by decide
  initial_lt := by decide

def specimenHead (address : UInt32) (relocationLength : UInt8) : RelocationHead :=
  ⟨0, address, 0, 32, 0, replaceOperator, 0, 0, 0, relocationLength⟩

/-- Two sections that refer to each other and to an import, in every way there is. -/
def specimen : Manuscript where
  module :=
    { kind := 1, buildDate := List.replicate 12 0x30, unitCount := 1
      version := [0x30, 0x31, 0x30, 0x30], addressUpdate := 0, segmented := false
      addressFieldLength := 4, spaceWithinSegment := 0, segmentSize := 0, segmentShift := 0
      entry := some (.relative 0 1), operatingSystem := [], system := [], name := [0x61]
      cpu := [0x53, 0x48, 0x34] }
  unit :=
    { format := 0, sectionCount := 2, externalReferences := 1, externalDefinitions := 1
      name := [0x61], toolName := [], toolDate := List.replicate 12 0x30 }
  declarations :=
    [.opening (specimenSection "D"), .data ⟨0x80, 0, 0, [1, 2]⟩, .opening (specimenSection "P"),
      .imports [⟨"_tür", 0⟩], .exports [⟨"_main", 1, 0, 4, none⟩],
      .data ⟨0xc0, 0, 3, [9, 0]⟩,
      .relocations
        [⟨specimenHead 0 4, .external 0, rfl, rfl⟩,
          ⟨specimenHead 4 11, .externalOffset 0 8, rfl, rfl⟩],
      .selection 0,
      .relocations
        [⟨specimenHead 0 4, .sectionStart 1, rfl, rfl⟩,
          ⟨specimenHead 4 11, .sectionTarget 1 2, rfl, rfl⟩],
      .data ⟨0x80, 4, 0, [3]⟩]
  module_codable := by constructor <;> decide
  unit_codable := by constructor <;> decide
  accepted := by decide

theorem specimen_decodes :
    (List.replicate 28 (0 : UInt8)).length = 28 ∧
      ObjectFile.decode (specimen.bytes (List.replicate 28 0)) = .ok specimen.file :=
  ⟨rfl, specimen.decode_bytes rfl⟩

example : specimen.file.unit.sections.map Section.assemble =
    [[1, 2, 0, 0, 3], [9, 0, 9, 0, 9, 0]] := by
  decide

end Manuscript

end SuperHBench
