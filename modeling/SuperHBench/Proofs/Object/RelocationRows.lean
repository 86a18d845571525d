import Mathlib.Data.List.Flatten
import SuperHBench.Proofs.Object.InStep
import SuperHBench.Proofs.Object.Manuscript
import SuperHBench.Proofs.Object.RelocationTexts
import SuperHBench.Proofs.Object.WarnedRelocations

/-! # Rows of relocation chunks

Relocation records stand one right behind the other in their chunks, those that are left out
like all others. So a file without these is decoded as the same file, but for the warnings. -/

namespace SuperHBench

open Decoder

/-! ## Records of a chunk -/

/-- A record is read: the decoder moves by the length of a head and by the one that the head
gives. Either the current section gets a relocation, or a warning is raised, and nothing else
happens. -/
structure RelocationText.Framed (text : RelocationText) (before after : Decoder) : Prop where
  ran : relocationRecord.run before = .ok ⟨⟩ after
  consumed : after.position = before.position + (14 + text.head.relocationLength.toNat)
  kept : text.Kept before.imports → ∃ entries, text.entries before.imports = some entries ∧
    after = (before.advance text.bytes.length).holding
      (before.collected.addRelocations entries)
  leftOut : ¬text.Kept before.imports →
    after = (before.advance text.bytes.length).holding
      (before.collected.addWarnings [text.warning before.imports before.position])

inductive ReadsTexts : List RelocationText → Decoder → Decoder → Prop
  | nil (decoder : Decoder) : ReadsTexts [] decoder decoder
  | cons {text : RelocationText} {texts : List RelocationText} {before between after : Decoder}
      (framed : text.Framed before between) (others : ReadsTexts texts between after) :
      ReadsTexts (text :: texts) before after

def RelocationTable.ofTexts (imports : List ImportSymbol) (texts : List RelocationText) :
    RelocationTable :=
  .concat (texts.filterMap (·.entries imports))

/-- How many of the records are left out. -/
def leftOutCount (imports : List ImportSymbol) (texts : List RelocationText) : Nat :=
  texts.countP fun text => ¬text.Kept imports

theorem RelocationTable.ofTexts_append (imports : List ImportSymbol)
    (texts others : List RelocationText) :
    ofTexts imports (texts ++ others) = ofTexts imports texts ++ ofTexts imports others := by
  rw [ofTexts, List.filterMap_append, concat_append]
  rfl

theorem leftOutCount_append (imports : List ImportSymbol) (texts others : List RelocationText) :
    leftOutCount imports (texts ++ others) =
      leftOutCount imports texts + leftOutCount imports others :=
  List.countP_append

/-- The current section has got what the records add, and there is a warning for each one that
is left out. -/
def Collected.Gains (before : Collected) (texts : List RelocationText) (after : Collected) :
    Prop :=
  ∃ raised, raised.length = leftOutCount before.imports texts ∧
    after = (before.addRelocations (.ofTexts before.imports texts)).addWarnings raised

variable {text : RelocationText} {texts others : List RelocationText} {tail rest : List UInt8}
  {decoder before after last : Decoder} {first second third : Collected}

theorem RelocationText.framed (text : RelocationText) (current : decoder.collected.HasCurrent)
    (sees : decoder.Sees (.Within tail) (text.bytes ++ rest)) :
    text.Framed decoder ((decoder.advance text.bytes.length).holding
      (text.collect decoder.position decoder.collected)) where
  ran := text.takes_relocationRecord current tail rest sees
  consumed := congrArg (decoder.position + ·) text.length_bytes
  kept kept := by
    rcases Option.isSome_iff_exists.mp (isSome_entries_iff.mpr kept) with ⟨entries, known⟩
    have found : text.entries decoder.collected.imports = some entries := known
    refine ⟨entries, known, ?_⟩
    rw [collect, found]
  leftOut leftOut := by
    have missing : text.entries decoder.collected.imports = none := entries_eq_none leftOut
    rw [collect, missing]
    rfl

namespace Collected

def silent (collected : Collected) : Collected :=
  { collected with warnings := [] }

theorem gains_nil (collected : Collected) : collected.Gains [] collected :=
  ⟨[], rfl, by rw [addWarnings_nil]; exact addRelocations_empty.symm⟩

theorem Gains.append (gains : first.Gains texts second) (more : second.Gains others third) :
    first.Gains (texts ++ others) third := by
  rcases gains with ⟨raised, count, rfl⟩
  rcases more with ⟨further, more, rfl⟩
  have imports :
      ((first.addRelocations (.ofTexts first.imports texts)).addWarnings raised).imports =
        first.imports := rfl
  rw [imports] at more ⊢
  refine ⟨raised ++ further, ?_, ?_⟩
  · rw [List.length_append, count, more, leftOutCount_append]
  · rw [RelocationTable.ofTexts_append, ← addRelocations_append, ← addWarnings_append]
    rfl

theorem Gains.silent_eq (gains : first.Gains texts second) :
    second.silent = (first.addRelocations (.ofTexts first.imports texts)).silent := by
  rcases gains with ⟨raised, _, rfl⟩
  rfl

theorem Gains.hasCurrent (gains : first.Gains texts second) (current : first.HasCurrent) :
    second.HasCurrent := by
  rcases gains with ⟨raised, _, rfl⟩
  exact current.addRelocations

end Collected

theorem leftOutCount_singleton (imports : List ImportSymbol) (text : RelocationText) :
    leftOutCount imports [text] = if text.Kept imports then 0 else 1 := by
  by_cases kept : text.Kept imports <;> simp [leftOutCount, kept]

theorem RelocationText.Framed.gains (framed : text.Framed before after) :
    before.collected.Gains [text] after.collected := by
  have imports : before.collected.imports = before.imports := rfl
  rw [Collected.Gains, leftOutCount_singleton, imports, RelocationTable.ofTexts]
  by_cases kept : text.Kept before.imports
  · rcases framed.kept kept with ⟨entries, found, rfl⟩
    refine ⟨[], (if_pos kept).symm, ?_⟩
    rw [collected_holding, List.filterMap_cons, found, Collected.addWarnings_nil]
    exact congrArg _ RelocationTable.append_empty.symm
  · have missing := entries_eq_none kept
    refine ⟨[text.warning before.imports before.position], (if_neg kept).symm, ?_⟩
    rw [framed.leftOut kept, collected_holding, List.filterMap_cons, missing]
    exact congrArg (Collected.addWarnings · _) Collected.addRelocations_empty.symm

theorem ReadsTexts.gains (reads : ReadsTexts texts before after) :
    before.collected.Gains texts after.collected := by
  induction reads with
  | nil decoder => exact Collected.gains_nil _
  | cons framed _ induction => exact framed.gains.append induction

theorem exists_readsTexts (current : decoder.collected.HasCurrent)
    (sees : decoder.Sees (.Within tail) (texts.flatMap RelocationText.bytes)) :
    ∃ after, ReadsTexts texts decoder after ∧
      ReadsRecords relocationRecord decoder (.ok ⟨⟩ after) ∧
      after.Sees (.Within tail) [] ∧ after.cursor.file = decoder.cursor.file := by
  induction texts generalizing decoder with
  | nil =>
      exact ⟨decoder, .nil decoder, .done (not_inChunk_of_within sees), sees, rfl⟩
  | cons text texts induction =>
      rw [List.flatMap_cons] at sees
      have framed := text.framed current sees
      have inside : decoder.inChunk = true := (inChunk_of_within sees).mpr fun empty =>
        Nat.ne_of_gt text.length_bytes_pos
          (List.length_eq_zero_iff.mpr (List.append_eq_nil_iff.mp empty).1)
      rcases induction (framed.gains.hasCurrent current) sees.advance with
        ⟨after, reads, records, seen, file⟩
      have progress : decoder.position < decoder.position + text.bytes.length :=
        Nat.lt_add_of_pos_right text.length_bytes_pos
      exact ⟨after, .cons framed reads, .next inside framed.ran progress records, seen, file⟩

/-! ## Chunks -/

/-- A chunk of whole relocation records. The first byte of its header carries nothing. -/
structure RelocationChunk where
  lead : UInt8
  code : UInt8
  texts : List RelocationText
  kind_eq : ChunkKind.ofCode code = .relocation
  short : (texts.flatMap RelocationText.bytes).length ≤ ChunkText.maxPayload

namespace RelocationChunk

def payload (chunk : RelocationChunk) : List UInt8 :=
  chunk.texts.flatMap RelocationText.bytes

def bytes (chunk : RelocationChunk) : List UInt8 :=
  [chunk.lead, chunk.code, UInt8.ofNat (chunk.payload.length + Chunk.headerLength)] ++
    chunk.payload

theorem length_bytes (chunk : RelocationChunk) :
    chunk.bytes.length = Chunk.headerLength + chunk.payload.length :=
  List.length_append

def keeping (imports : List ImportSymbol) (chunk : RelocationChunk) : RelocationChunk where
  lead := chunk.lead
  code := chunk.code
  texts := chunk.texts.filter fun text => text.Kept imports
  kind_eq := chunk.kind_eq
  short := Nat.le_trans (List.filter_sublist.flatMap _).length_le chunk.short

end RelocationChunk

inductive ReadsRow : List RelocationChunk → Decoder → Decoder → Prop
  | nil (decoder : Decoder) : ReadsRow [] decoder decoder
  | cons {chunk : RelocationChunk} {row : List RelocationChunk}
      {decoder begun next last : Decoder} (chunk_read : ReadsChunk .relocation decoder begun next)
      (texts_read : ReadsTexts chunk.texts begun next)
      (others : ReadsRow row next.behindChunk last) : ReadsRow (chunk :: row) decoder last

variable {chunk : RelocationChunk} {row : List RelocationChunk}

theorem ReadsRow.passes (reads : ReadsRow row decoder last) : Passes decoder last := by
  induction reads with
  | nil decoder => exact .start decoder
  | cons chunk_read _ _ induction => exact .chunk chunk_read induction

theorem collected_of_run_beginChunk {kind : ChunkKind} {begun : Decoder}
    (begins : beginChunk.run decoder = .ok kind begun) : begun.collected = decoder.collected := by
  have kept := @upholds_collected_beginChunk (· = decoder.collected) decoder rfl
  rwa [begins] at kept

theorem ReadsRow.gains (reads : ReadsRow row decoder last) :
    decoder.collected.Gains (row.flatMap RelocationChunk.texts) last.collected := by
  induction reads with
  | nil decoder => exact Collected.gains_nil _
  | cons chunk_read texts_read _ induction =>
      rw [List.flatMap_cons, ← collected_of_run_beginChunk chunk_read.begins]
      exact texts_read.gains.append induction

theorem behindChunk_of_within (within : decoder.Sees (.Within tail) []) :
    decoder.behindChunk = decoder := by
  have ends : decoder.chunkEnd = decoder.cursor.position := within.ends
  have stays : decoder.cursor.seek decoder.chunkEnd = decoder.cursor := by
    rw [ends, within.before.seek_position]
  rw [behindChunk, stays]

theorem exists_readsChunk (chunk : RelocationChunk) (current : decoder.collected.HasCurrent)
    (ahead : decoder.cursor.Before (chunk.bytes ++ tail)) :
    ∃ begun next, ReadsChunk .relocation decoder begun next ∧
      ReadsTexts chunk.texts begun next ∧ next.behindChunk.cursor.Before tail ∧
      next.behindChunk.cursor.file = decoder.cursor.file := by
  let text : ChunkText := ⟨chunk.code, chunk.payload⟩
  have kind : text.kind = .relocation := chunk.kind_eq
  have begins : beginChunk.run decoder = .ok text.kind (decoder.inside text) :=
    run_beginChunk_of_lead chunk.lead chunk.short ahead
  rw [kind] at begins
  have sees : (decoder.inside text).Sees (.Within tail) chunk.payload := sees_inside_of_lead ahead
  have inside : (decoder.inside text).collected.HasCurrent := current
  rcases exists_readsTexts inside sees with ⟨next, texts, records, seen, file⟩
  have behind := behindChunk_of_within seen
  have progress : decoder.position + Chunk.headerLength ≤ next.position := by
    have same : next.cursor.file = decoder.cursor.file := file
    have start := ahead.end_eq
    have stop : next.cursor.position + tail.length = decoder.cursor.file.size :=
      same ▸ seen.before.end_eq
    rw [List.length_append, chunk.length_bytes] at start
    change decoder.cursor.position + _ ≤ next.cursor.position
    omega
  refine ⟨decoder.inside text, next, ⟨ahead.not_atEnd, begins, ChunkKind.noConfusion,
    .records rfl records, behind.symm ▸ progress⟩, texts, ?_, ?_⟩
  · rw [behind]
    exact seen.before
  · rw [behind]
    exact file

theorem exists_readsRow (row : List RelocationChunk) (current : decoder.collected.HasCurrent)
    (ahead : decoder.cursor.Before (row.flatMap RelocationChunk.bytes ++ tail)) :
    ∃ last, ReadsRow row decoder last ∧ last.cursor.Before tail ∧
      last.cursor.file = decoder.cursor.file := by
  induction row generalizing decoder with
  | nil => exact ⟨decoder, .nil decoder, ahead, rfl⟩
  | cons chunk row induction =>
      rw [List.flatMap_cons, List.append_assoc] at ahead
      rcases exists_readsChunk chunk current ahead with
        ⟨begun, next, chunk_read, texts_read, behind, file⟩
      have onward : next.behindChunk.collected.HasCurrent := by
        rw [← collected_of_run_beginChunk chunk_read.begins] at current
        exact texts_read.gains.hasCurrent current
      rcases induction onward behind with ⟨last, reads, before, same⟩
      exact ⟨last, .cons chunk_read texts_read reads, before, same.trans file⟩

/-! ## Files -/

/-- Reading the chunks of a file comes by this decoder, behind the first part of the file. -/
structure Decoder.ComesBy (front tail : List UInt8) (decoder : Decoder) : Prop where
  passes : Passes (start (front ++ tail).toArray) decoder
  cursor_eq : decoder.cursor = ⟨(front ++ tail).toArray, front.length⟩

/-- The bytes begin a file and are whole chunks, with nothing read beyond them. This is the
decoder then. -/
structure Opens (front : List UInt8) (decoder : Decoder) : Prop where
  magic : front.take Chunk.magic.length = Chunk.magic
  comesBy : ComesBy front [] decoder
  whole : decoder.chunkEnd = front.length

def ObjectFile.silent (file : ObjectFile) : ObjectFile :=
  { file with warnings := [] }

variable {front : List UInt8}

theorem Cursor.eq_mk {cursor : Cursor} {file : Array UInt8} {position : Nat}
    (file_eq : cursor.file = file) (position_eq : cursor.position = position) :
    cursor = ⟨file, position⟩ := by
  cases file_eq
  cases position_eq
  rfl

theorem Cursor.before_of_eq {cursor : Cursor}
    (cursor_eq : cursor = ⟨(front ++ tail).toArray, front.length⟩) : cursor.Before tail := by
  subst cursor_eq
  refine ⟨?_, List.drop_left⟩
  simp

theorem Cursor.eq_of_before {cursor : Cursor} (file : cursor.file = (front ++ tail).toArray)
    (before : cursor.Before tail) : cursor = ⟨(front ++ tail).toArray, front.length⟩ := by
  have place := before.end_eq
  rw [file] at place
  simp only [List.size_toArray, List.length_append, Nat.add_right_cancel_iff] at place
  exact eq_mk file place

theorem Decoder.ComesBy.readsRow {row : List RelocationChunk}
    (comesBy : ComesBy front (row.flatMap RelocationChunk.bytes ++ tail) decoder)
    (current : decoder.collected.HasCurrent) :
    ∃ last, ReadsRow row decoder last ∧
      ComesBy (front ++ row.flatMap RelocationChunk.bytes) tail last := by
  rcases exists_readsRow row current (Cursor.before_of_eq comesBy.cursor_eq) with
    ⟨last, reads, before, file⟩
  rw [comesBy.cursor_eq, ← List.append_assoc] at file
  refine ⟨last, reads, ⟨?_, Cursor.eq_of_before file before⟩⟩
  rw [List.append_assoc]
  exact comesBy.passes.trans reads.passes

theorem Opens.firstOffset_le (opens : Opens front decoder) :
    Chunk.firstOffset ≤ front.length := by
  have passes := opens.comesBy.passes
  have whole := opens.whole
  rw [List.append_nil] at passes
  cases passes with
  | start =>
      have magic := opens.magic
      rw [List.eq_nil_of_length_eq_zero whole.symm] at magic
      cases magic
  | chunk reads => exact Nat.le_of_lt (ObjectFile.firstOffset_lt reads.more)

theorem Opens.comesBy_append (opens : Opens front decoder) (rest : List UInt8) :
    ∃ first, ComesBy front rest first ∧ first.collected = decoder.collected := by
  have longer : front.length ≤ (front ++ rest).length := List.length_append ▸ Nat.le_add_right _ _
  have same : ∀ index < front.length, Chunk.firstOffset ≤ index →
      (front ++ rest)[index]? = front[index]? := fun _ inside _ => List.getElem?_append_left inside
  have passes := opens.comesBy.passes
  have cursor_eq := opens.comesBy.cursor_eq
  rw [List.append_nil] at passes cursor_eq
  have inside : decoder.InsideFile := by
    refine .inr ?_
    rw [opens.whole, cursor_eq]
    exact Nat.le_refl _
  have starts := ObjectFile.inStep_start opens.firstOffset_le longer same
  rcases starts.passes passes inside with ⟨first, _, again, inStep⟩
  have position : first.cursor.position = decoder.cursor.position := inStep.position_eq rfl
  refine ⟨first, ⟨again, ?_⟩, inStep.collected_eq rfl⟩
  rw [cursor_eq] at position
  exact Cursor.eq_mk inStep.cursor.other_eq position

/-! ## Files without some of their records -/

def Continuation.behind (front other tail : List UInt8) : Continuation where
  file := (front ++ tail).toArray
  here := front.length
  other := (other ++ tail).toArray
  there := other.length
  covered := by simp
  longer := by
    simp only [List.size_toArray, List.length_append]
    omega
  bytes offset inside := by
    simp only [List.getElem?_toArray]
    rw [List.getElem?_append_right (Nat.le_add_right _ _),
      List.getElem?_append_right (Nat.le_add_right _ _), Nat.add_sub_cancel_left,
      Nat.add_sub_cancel_left]
  level := false
  level_eq := nofun

variable {other : List UInt8} {final : Decoder}

theorem Continuation.even_behind : (behind front other tail).Even := by
  simp only [Even, behind, List.size_toArray, List.length_append]
  omega

theorem Decoder.ComesBy.inStep (comesBy : ComesBy front tail last)
    (again : ComesBy other tail final) (same : final.collected.silent = last.collected.silent) :
    last.InStep (.behind front other tail) false final where
  cursor := by
    have here := comesBy.cursor_eq
    have there := again.cursor_eq
    refine ⟨congrArg Cursor.file here, congrArg Cursor.file there, ?_, ?_⟩
    · rw [here]
      exact Nat.le_refl _
    · rw [here, there]
      exact Nat.add_comm _ _
  chunk := nofun
  module_eq := congrArg Collected.module same
  unit_eq := congrArg Collected.unit same
  selected_eq := congrArg Collected.selected same
  imports_eq := congrArg Collected.imports same
  exact := nofun

theorem Decoder.InStep.silent_finish_eq {files : Continuation} {entered : Bool}
    (inStep : last.InStep files entered final) :
    (outcome (finish.run final)).toOption.map ObjectFile.silent =
      (outcome (finish.run last)).toOption.map ObjectFile.silent := by
  rw [finish, run_get_bind, run_get_bind, inStep.module_eq, inStep.unit_eq, inStep.imports_eq]
  cases last.module with
  | none => rfl
  | some module =>
      cases last.unit with
      | none => rfl
      | some unit => rfl

namespace ObjectFile

theorem take_magic_append (magic : front.take Chunk.magic.length = Chunk.magic) :
    (front ++ tail).take Chunk.magic.length = Chunk.magic := by
  have enough : Chunk.magic.length ≤ front.length := by
    rw [← magic]
    exact List.length_take_le' _ _
  rw [List.take_append_of_le_length enough, magic]

theorem silent_decode_of_ok {file : ObjectFile}
    (magic : front.take Chunk.magic.length = Chunk.magic)
    (another : other.take Chunk.magic.length = Chunk.magic) (comesBy : ComesBy front tail last)
    (again : ComesBy other tail final) (same : final.collected.silent = last.collected.silent)
    (decoded : decode (front ++ tail) = .ok file) :
    (decode (other ++ tail)).toOption.map silent = some file.silent := by
  have inside : last.position ≤ last.cursor.file.size :=
    (Cursor.before_of_eq comesBy.cursor_eq).inside
  rcases exists_reads_of_decode decoded with ⟨closed, reads⟩
  rcases (comesBy.inStep again same).readsChunks Continuation.even_behind
    (comesBy.passes.readsChunks_of inside reads) rfl with ⟨finished, _, others, matched⟩
  rw [decode_eq_outcome (take_magic_append magic) reads] at decoded
  rw [decode_eq_outcome (take_magic_append another) (again.passes.readsChunks others),
    matched.silent_finish_eq, decoded]
  rfl

theorem silent_decode_eq (magic : front.take Chunk.magic.length = Chunk.magic)
    (another : other.take Chunk.magic.length = Chunk.magic) (comesBy : ComesBy front tail last)
    (again : ComesBy other tail final) (same : final.collected.silent = last.collected.silent) :
    (decode (other ++ tail)).toOption.map silent =
      (decode (front ++ tail)).toOption.map silent := by
  cases here : decode (front ++ tail) with
  | ok file => exact silent_decode_of_ok magic another comesBy again same here
  | error error =>
      cases there : decode (other ++ tail) with
      | error cause => rfl
      | ok file =>
          have back := silent_decode_of_ok another magic again comesBy same.symm there
          rw [here] at back
          cases back

end ObjectFile

theorem RelocationTable.ofTexts_filter (imports : List ImportSymbol)
    (texts : List RelocationText) :
    ofTexts imports (texts.filter fun text => text.Kept imports) = ofTexts imports texts := by
  have same (text : RelocationText) :
      (if text.Kept imports then text.entries imports else none) = text.entries imports := by
    by_cases kept : text.Kept imports
    · rw [if_pos kept]
    · rw [if_neg kept]
      exact (RelocationText.entries_eq_none kept).symm
  simp only [ofTexts, List.filterMap_filter, decide_eq_true_eq, same]

theorem RelocationChunk.texts_keeping (imports : List ImportSymbol)
    (row : List RelocationChunk) :
    (row.map (keeping imports)).flatMap RelocationChunk.texts =
      (row.flatMap RelocationChunk.texts).filter fun text => text.Kept imports := by
  rw [List.flatMap_map, List.filter_flatMap]
  rfl

/-- In a file with a row of relocation chunks behind its first part, the row is read record by
record. The current section gets what the records add, and there is one warning for each record
that is left out. -/
structure ReadsBehind (front : List UInt8) (row : List RelocationChunk) (tail : List UInt8)
    (decoder first last : Decoder) : Prop where
  comesBy : ComesBy front (row.flatMap RelocationChunk.bytes ++ tail) first
  same : first.collected = decoder.collected
  reads : ReadsRow row first last
  behind : ComesBy (front ++ row.flatMap RelocationChunk.bytes) tail last
  gains : decoder.collected.Gains (row.flatMap RelocationChunk.texts) last.collected

theorem Opens.exists_readsBehind (opens : Opens front decoder)
    (current : decoder.collected.HasCurrent) (row : List RelocationChunk) (tail : List UInt8) :
    ∃ first last, ReadsBehind front row tail decoder first last := by
  rcases opens.comesBy_append (row.flatMap RelocationChunk.bytes ++ tail) with
    ⟨first, comesBy, same⟩
  rcases comesBy.readsRow (same.symm ▸ current) with ⟨last, reads, behind⟩
  exact ⟨first, last, comesBy, same, reads, behind, same ▸ reads.gains⟩

/-- The records of a row are framed alike, and without those that are left out the file is the
same. -/
structure FramesRow (front : List UInt8) (row : List RelocationChunk) (tail : List UInt8)
    (decoder : Decoder) : Prop where
  reads : ∃ first last, ReadsBehind front row tail decoder first last
  keeping :
    (ObjectFile.decode (front ++
        (row.map (RelocationChunk.keeping decoder.imports)).flatMap RelocationChunk.bytes ++
        tail)).toOption.map ObjectFile.silent =
      (ObjectFile.decode (front ++ row.flatMap RelocationChunk.bytes ++ tail)).toOption.map
        ObjectFile.silent

theorem framesRow_of_opens (opens : Opens front decoder)
    (current : decoder.collected.HasCurrent) (row : List RelocationChunk) (tail : List UInt8) :
    FramesRow front row tail decoder where
  reads := opens.exists_readsBehind current row tail
  keeping := by
    let kept := row.map (RelocationChunk.keeping decoder.imports)
    rcases opens.exists_readsBehind current row tail with ⟨_, last, whole⟩
    rcases opens.exists_readsBehind current kept tail with ⟨_, final, fewer⟩
    have magic := opens.magic
    have same : final.collected.silent = last.collected.silent := by
      rw [whole.gains.silent_eq, fewer.gains.silent_eq, RelocationChunk.texts_keeping]
      exact congrArg (fun entries => (decoder.collected.addRelocations entries).silent)
        (RelocationTable.ofTexts_filter _ _)
    exact ObjectFile.silent_decode_eq (ObjectFile.take_magic_append magic)
      (ObjectFile.take_magic_append magic) whole.behind fewer.behind same

/-! ## A row with records of all kinds -/

def mixedFront : List UInt8 :=
  Chunk.magic ++ List.replicate 28 0 ++
    (ObjectFile.truncatedChunks.take 4).flatMap ChunkText.bytes

/-- One import that exists, one that does not, one shape that is unknown, and a section. -/
def mixedTexts : List RelocationText :=
  [⟨Manuscript.specimenHead 16 4, [2, 0, 0, terminator], rfl, rfl, .inl rfl, fun _ _ => rfl,
      fun _ => rfl⟩,
    ⟨Manuscript.specimenHead 20 11, [3, 0, 0, 0, 0, 8, 0, 0, 7, 0, terminator], rfl, rfl, .inr rfl,
      nofun, fun _ => rfl⟩,
    ⟨Manuscript.specimenHead 20 4, [9, 0, 2, 3], rfl, rfl, .inl rfl, fun _ _ => rfl, nofun⟩,
    ⟨Manuscript.specimenHead 24 11, [0, 1, 0, 1, 1, 0, 0, 0, 4, 1, terminator], rfl, rfl, .inr rfl,
      nofun, fun _ => rfl⟩]

def mixedRow : List RelocationChunk :=
  [⟨5, 0xa0, mixedTexts.take 2, rfl, by decide⟩, ⟨0, 0x20, mixedTexts.drop 2, rfl, by decide⟩]

def ReadyBehind (front : List UInt8) (decoder : Decoder) : Prop :=
  decoder.cursor.file.toList = front ∧ decoder.cursor.position = front.length ∧
    decoder.chunkEnd = front.length ∧
    (decoder.unit.bind fun unit => unit.sections[decoder.collected.target unit]?).isSome

instance (front : List UInt8) (decoder : Decoder) : Decidable (ReadyBehind front decoder) :=
  inferInstanceAs (Decidable (_ ∧ _ ∧ _ ∧ _))

theorem mixedRow_framed : ∃ decoder, Opens mixedFront decoder ∧ decoder.collected.HasCurrent ∧
    FramesRow mixedFront mixedRow ChunkText.termination.bytes decoder := by
  have opened : (passed 4 (start mixedFront.toArray)).any (ReadyBehind mixedFront ·) = true := by
    decide +kernel
  rcases List.any_eq_true.mp opened with ⟨decoder, among, ready⟩
  rcases of_decide_eq_true ready with ⟨file, position, whole, present⟩
  rcases Option.isSome_iff_exists.mp present with ⟨part, found⟩
  rcases Option.bind_eq_some_iff.mp found with ⟨unit, unit_eq, part_eq⟩
  have current : decoder.collected.HasCurrent := ⟨unit, part, unit_eq, part_eq⟩
  have comesBy : ComesBy mixedFront [] decoder := by
    constructor
    · rw [List.append_nil]
      exact passes_of_mem_passed among
    · rw [List.append_nil]
      exact Cursor.eq_mk (Array.toList_inj.mp file) position
  have opens : Opens mixedFront decoder := ⟨rfl, comesBy, whole⟩
  exact ⟨decoder, opens, current, framesRow_of_opens opens current _ _⟩

example : (ObjectFile.decode (mixedFront ++ mixedRow.flatMap RelocationChunk.bytes ++
      ChunkText.termination.bytes)).toOption.map (fun file =>
        (file.unit.relocations.map (·.name), file.unit.sections.map (·.longRelocations.length),
          file.warnings.length)) = some (["_value"], [1], 2) := by
  decide +kernel

end SuperHBench
