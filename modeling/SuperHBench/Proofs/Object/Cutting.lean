import SuperHBench.Proofs.Object.Manuscript

/-! # Symbols cut into chunks

The records of imports and exports may run on from one chunk into the next. Where the
chunks are cut does not matter, and neither does which of them are marked as continued. -/

namespace SuperHBench

open Decoder

instance (chunk : ChunkText) (kind : ChunkKind) : Decidable (chunk.IsPiece kind) :=
  decidable_of_iff
    (chunk.kind = kind ∧ chunk.payload ≠ [] ∧ chunk.payload.length ≤ ChunkText.maxPayload)
    ⟨fun ⟨kind_eq, nonempty, short⟩ => ⟨kind_eq, nonempty, short⟩,
      fun ⟨kind_eq, nonempty, short⟩ => ⟨kind_eq, nonempty, short⟩⟩

inductive SymbolRecords where
  | imports (records : List ImportRecord)
  | exports (records : List ExportRecord)
deriving DecidableEq, Repr

namespace SymbolRecords

def kind : SymbolRecords → ChunkKind
  | .imports _ => .imports
  | .exports _ => .exports

def bytes : SymbolRecords → List UInt8
  | .imports records => records.flatMap ImportRecord.bytes
  | .exports records => records.flatMap ExportRecord.bytes

def Fits (draft : Draft) : SymbolRecords → Prop
  | .imports records => ∀ record ∈ records, record.name.length < 256
  | .exports records => ∀ record ∈ records, record.name.length < 256 ∧
      record.sectionIndex.toNat < draft.unit.sections.length

instance (draft : Draft) (symbols : SymbolRecords) : Decidable (symbols.Fits draft) := by
  cases symbols <;> unfold Fits <;> infer_instance

/-- The imports in order, or each section with the exports that name it, in order. -/
def addTo (draft : Draft) : SymbolRecords → Draft
  | .imports records => draft.addImports (records.map ImportRecord.symbol)
  | .exports records => draft.addExports (records.map ExportRecord.symbol)

/-- Chunks of the kind of the records, none of them empty, that carry their bytes. -/
structure Cut (symbols : SymbolRecords) (pieces : List ChunkText) : Prop where
  arePieces : ∀ piece ∈ pieces, piece.IsPiece symbols.kind
  joined : pieces.flatMap ChunkText.payload = symbols.bytes

variable {draft : Draft} {module : ModuleHeader} {symbols : SymbolRecords}
  {pieces : List ChunkText} {filler : List UInt8}

theorem inBounds_addTo (inBounds : draft.InBounds) (symbols : SymbolRecords) :
    (symbols.addTo draft).InBounds := by
  intro index selected
  cases symbols with
  | imports records => exact inBounds index selected
  | exports records =>
      simpa [addTo, Draft.addExports, Draft.withSections] using inBounds index selected

theorem decodes_cut (fits : symbols.Fits draft) (cut : symbols.Cut pieces) :
    Decodes (draft.collected module) (pieces.flatMap ChunkText.bytes)
      ((symbols.addTo draft).collected module) := by
  have arePieces := cut.arePieces
  have joined := cut.joined
  cases symbols with
  | imports records =>
      refine decodes_pieces ChunkKind.noConfusion rfl arePieces fun tail => ?_
      rw [joined]
      exact draft.rows_imports (delivers_spanning .imports tail) fits
  | exports records =>
      refine decodes_pieces ChunkKind.noConfusion rfl arePieces fun tail => ?_
      rw [joined]
      exact draft.rows_exports (delivers_spanning .exports tail)
        (fun record among => (fits record among).1) (fun record among => (fits record among).2)

/-- Wherever the records are cut, the symbols are those of the records, without a warning,
and what follows the pieces is decoded from its own first byte. -/
theorem decode_cut (manuscript : Manuscript) (filled : filler.length = 28)
    (fits : symbols.Fits manuscript.draft) (cut : symbols.Cut pieces) :
    (∀ declarations : List Declaration, (symbols.addTo manuscript.draft).AcceptsAll declarations →
      ObjectFile.decode (Chunk.magic ++ filler ++
          ((manuscript.chunks ++ pieces ++ declarations.map Declaration.chunk).flatMap
            ChunkText.bytes ++ ChunkText.termination.bytes)) =
        .ok
          { module := manuscript.module
            unit := (declarations.foldl Draft.declare (symbols.addTo manuscript.draft)).unit
            imports := (declarations.foldl Draft.declare (symbols.addTo manuscript.draft)).imports
            warnings := [] }) ∧
      ∀ rest : List UInt8, ∃ (decoder : Decoder) (limit : Nat),
        decoder.collected = (symbols.addTo manuscript.draft).collected manuscript.module ∧
        decoder.cursor.Before rest ∧ rest.length ≤ limit ∧
        ObjectFile.decode (Chunk.magic ++ filler ++
            ((manuscript.chunks ++ pieces).flatMap ChunkText.bytes ++ rest)) =
          outcome ((do chunks limit; finish : Decoding ObjectFile).run decoder) := by
  have decodes := manuscript.decodes_chunks.append (decodes_cut fits cut)
  rw [← List.flatMap_append] at decodes
  refine ⟨fun declarations accepts => ?_, fun rest => decode_append rest filled decodes⟩
  have inBounds := inBounds_addTo manuscript.inBounds_draft symbols
  have others := decodes.append (Draft.decodes_declarations inBounds accepts)
  rw [← List.flatMap_append] at others
  exact decode_eq_ok filled others

def lateExports : SymbolRecords :=
  .exports [⟨1, 0, 8, [0x61]⟩, ⟨0, 0, 2, [0x62, 0x63]⟩]

/-- The first cut is in the offset of the first export, the second one in the name of the
second export. -/
def lateExportPieces : List ChunkText :=
  [⟨0x94, [0, 1, 0, 0]⟩, ⟨0x14, [0, 0, 8, 1, 0x61, 0, 0, 0, 0, 0, 0, 2, 2, 0x62]⟩, ⟨0x94, [0x63]⟩]

theorem lateExportPieces_decode :
    (List.replicate 28 (0 : UInt8)).length = 28 ∧
      lateExports.Fits Manuscript.specimen.draft ∧ lateExports.Cut lateExportPieces ∧
      (lateExports.addTo Manuscript.specimen.draft).AcceptsAll [.selection 1] ∧
      ObjectFile.decode (Chunk.magic ++ List.replicate 28 0 ++
          ((Manuscript.specimen.chunks ++ lateExportPieces ++
            [Declaration.selection 1].map Declaration.chunk).flatMap ChunkText.bytes ++
              ChunkText.termination.bytes)) =
        .ok
          { module := Manuscript.specimen.module
            unit := ([Declaration.selection 1].foldl Draft.declare
              (lateExports.addTo Manuscript.specimen.draft)).unit
            imports := ([Declaration.selection 1].foldl Draft.declare
              (lateExports.addTo Manuscript.specimen.draft)).imports
            warnings := [] } := by
  have filled : (List.replicate 28 (0 : UInt8)).length = 28 := rfl
  have fits : lateExports.Fits Manuscript.specimen.draft := by decide
  have cut : lateExports.Cut lateExportPieces := ⟨by decide, by decide⟩
  have accepts : (lateExports.addTo Manuscript.specimen.draft).AcceptsAll [.selection 1] := by
    decide
  exact ⟨filled, fits, cut, accepts, (decode_cut Manuscript.specimen filled fits cut).1 _ accepts⟩

example : (lateExports.addTo Manuscript.specimen.draft).unit.exports =
    [⟨"bc", 0, 0, 2, none⟩, ⟨"_main", 1, 0, 4, none⟩, ⟨"a", 1, 0, 8, none⟩] := by
  decide

end SymbolRecords

end SuperHBench
