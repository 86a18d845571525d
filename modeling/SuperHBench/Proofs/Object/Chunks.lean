import SuperHBench.Proofs.Object.Windows

/-! # Runs over chunks

A chunk of records is read record by record up to its end. A record that runs on makes
the chunk that goes on the current one, so reading stops at the end of some chunk of the
row, before records that are left. From there the chunks that follow are decoded. -/

namespace SuperHBench

open Decoder

variable {window : Window} {record : Decoding PUnit} {kind : ChunkKind}
  {before middle after : Collected} {stream payload tail : List UInt8}

/-! ## Rows of records -/

/-- The bytes are those of records, one after another, none of which is empty. -/
inductive Rows (window : Window) (record : Decoding PUnit) :
    Collected → List UInt8 → Collected → Prop where
  | nil (collected : Collected) : Rows window record collected [] collected
  | cons {before middle after : Collected} {first rest : List UInt8} (nonempty : first ≠ [])
      (usesUp : UsesUp window record before first ⟨⟩ middle)
      (others : Rows window record middle rest after) :
      Rows window record before (first ++ rest) after

theorem Rows.eq_of_nil (rows : Rows window record before stream after) (empty : stream = []) :
    before = after := by
  cases rows with
  | nil => rfl
  | cons nonempty _ _ => exact absurd (List.append_eq_nil_iff.mp empty).1 nonempty

/-- Reading records has stopped at the end of a chunk, before records that are left. -/
structure Halted (window : Window) (record : Decoding PUnit) (after : Collected)
    (rest : List UInt8) (decoder : Decoder) : Prop where
  outside : decoder.inChunk = false
  sees : decoder.Sees window rest
  rows : Rows window record decoder.collected rest after

/-- Records are read until one of them ends where a chunk ends. There are fewer of them
then, if there was a chunk to read from. -/
theorem Rows.run_records (rows : Rows window record before stream after)
    (ends : ∀ decoder : Decoder, decoder.Sees window [] → decoder.inChunk = false)
    {limit : Nat} (enough : stream.length ≤ limit) {decoder : Decoder}
    (collected : decoder.collected = before) (sees : decoder.Sees window stream) :
    ∃ next rest, (records record limit).run decoder = .ok ⟨⟩ next ∧
      Halted window record after rest next ∧ rest.length ≤ stream.length ∧
      (decoder.inChunk = true → stream ≠ [] → rest.length < stream.length) := by
  induction rows generalizing limit decoder with
  | nil =>
      have outside := ends decoder sees
      refine ⟨decoder, [], ?_, ⟨outside, sees, collected ▸ .nil _⟩, Nat.le_refl _, ?_⟩
      · cases limit with
        | zero => rfl
        | succ limit =>
            change (if decoder.inChunk = true then _ else _ : Decoding PUnit).run decoder = _
            rw [if_neg (by simp [outside])]
            rfl
      · intro _ nonempty
        contradiction
  | @cons before middle after first rest nonempty usesUp others induction =>
      have positive := List.length_pos_iff.mpr nonempty
      rw [List.length_append] at enough ⊢
      cases limit with
      | zero => omega
      | succ limit =>
          change ∃ next remaining,
            (if decoder.inChunk = true then _ else _ : Decoding PUnit).run decoder = _ ∧ _
          by_cases inChunk : decoder.inChunk = true
          · rw [if_pos inChunk]
            rcases usesUp decoder rest collected sees with ⟨between, ran, collected, sees⟩
            have enoughLeft : rest.length ≤ limit := by omega
            rcases induction enoughLeft collected sees with
              ⟨next, remaining, ranOthers, halted, shorter, _⟩
            exact ⟨next, remaining, (run_bind_of_ok ran).trans ranOthers, halted, by omega,
              by omega⟩
          · rw [if_neg inChunk]
            -- the record before has used up the chunk, and perhaps others with it
            have halted : Halted window record after (first ++ rest) decoder :=
              ⟨Bool.eq_false_iff.mpr inChunk, sees, collected ▸ .cons nonempty usesUp others⟩
            exact ⟨decoder, first ++ rest, rfl, halted, by simp,
              fun present => absurd present inChunk⟩

/-! ## Bodies of chunks -/

/-- The body of a chunk reads the whole payload, whatever comes after the chunk. -/
def ReadsThrough (body : Decoding PUnit) (before : Collected) (payload : List UInt8)
    (after : Collected) : Prop :=
  ∀ (tail : List UInt8) (decoder : Decoder), decoder.collected = before →
    decoder.Sees (.Within tail) payload →
      ∃ next, body.run decoder = .ok ⟨⟩ next ∧ next.collected = after ∧
        next.Sees (.Within tail) []

theorem readsThrough_of_usesUp {body : Decoding PUnit}
    (usesUp : ∀ tail, UsesUp (.Within tail) body before payload ⟨⟩ after) :
    ReadsThrough body before payload after := by
  intro tail decoder collected sees
  rw [← List.append_nil payload] at sees
  exact usesUp tail decoder [] collected sees

theorem readsThrough_allRecords (rows : ∀ tail, Rows (.Within tail) record before payload after) :
    ReadsThrough (allRecords record) before payload after := by
  intro tail decoder collected within
  have length := within.before.end_eq
  rw [List.length_append] at length
  have enough : payload.length ≤ decoder.cursor.file.size := by omega
  rcases (rows tail).run_records (fun _ => not_inChunk_of_within) enough collected within with
    ⟨next, rest, ran, ⟨outside, sees, others⟩, -⟩
  cases rest with
  | nil => exact ⟨next, ran, others.eq_of_nil rfl, sees⟩
  | cons byte rest => simp [(inChunk_of_within sees).mpr (by simp)] at outside

/-! ## Chunks -/

/-- Decoding chunks comes down to decoding those before some rest of the file, with other
things collected. A bound on the number of chunks makes sure that the rest is decoded. -/
def Decoder.ComesTo (decoder : Decoder) (bound : Nat) (after : Collected) (rest : List UInt8) :
    Prop :=
  ∃ next count, count ≤ bound ∧ next.collected = after ∧ next.cursor.Before rest ∧
    ∀ limit, (chunks (count + limit)).run decoder = (chunks limit).run next

theorem Decoder.comesTo_self {decoder : Decoder} {rest : List UInt8}
    (ahead : decoder.cursor.Before rest) (bound : Nat) :
    decoder.ComesTo bound decoder.collected rest := by
  refine ⟨decoder, 0, Nat.zero_le bound, rfl, ahead, fun limit => ?_⟩
  rw [Nat.zero_add]

def Decodes (before : Collected) (bytes : List UInt8) (after : Collected) : Prop :=
  ∀ (decoder : Decoder) (rest : List UInt8), decoder.collected = before →
    decoder.cursor.Before (bytes ++ rest) → decoder.ComesTo bytes.length after rest

theorem decodes_nil (collected : Collected) : Decodes collected [] collected := by
  intro decoder rest collects ahead
  rw [← collects]
  exact comesTo_self ahead 0

theorem Decodes.append {first second : List UInt8} (decodes : Decodes before first middle)
    (others : Decodes middle second after) : Decodes before (first ++ second) after := by
  intro decoder rest collected ahead
  rw [List.append_assoc] at ahead
  rcases decodes decoder _ collected ahead with ⟨between, count, few, collected, ahead, ran⟩
  rcases others between rest collected ahead with ⟨next, more, fewMore, collected, ahead, ranOthers⟩
  refine ⟨next, count + more, ?_, collected, ahead, fun limit => ?_⟩
  · rw [List.length_append]
    omega
  · rw [Nat.add_assoc, ran, ranOthers]

theorem run_chunks_succ {decoder : Decoder} {chunk : ChunkText} {limit : Nat}
    (short : chunk.payload.length ≤ ChunkText.maxPayload) (goesOn : chunk.kind ≠ .termination)
    (ahead : decoder.cursor.Before (chunk.bytes ++ tail)) :
    (chunks (limit + 1)).run decoder =
      (do chunkBody chunk.kind; seek (← get).chunkEnd; chunks limit : Decoding PUnit).run
        (decoder.inside chunk) := by
  have more : decoder.cursor.atEnd = false := Cursor.Before.not_atEnd ahead
  change (if (!decoder.cursor.atEnd) = true then _ else _ : Decoding PUnit).run decoder = _
  rw [more, if_pos (by decide), run_bind_of_ok (run_beginChunk short ahead), if_pos goesOn]

theorem run_chunks_of_body {decoder next : Decoder} {chunk : ChunkText} {rest : List UInt8}
    {limit : Nat} (short : chunk.payload.length ≤ ChunkText.maxPayload)
    (goesOn : chunk.kind ≠ .termination)
    (ahead : decoder.cursor.Before (chunk.bytes ++ tail))
    (ran : (chunkBody chunk.kind).run (decoder.inside chunk) = .ok ⟨⟩ next)
    (within : next.Sees (.Within rest) []) :
    (chunks (limit + 1)).run decoder = (chunks limit).run next := by
  rw [run_chunks_succ short goesOn ahead, run_bind_of_ok ran]
  change (seek next.chunkEnd >>= fun _ => chunks limit).run next = _
  exact run_bind_of_ok (run_seek_chunkEnd within)

theorem decodes_chunk {chunk : ChunkText} (kind_eq : chunk.kind = kind)
    (goesOn : kind ≠ .termination) (short : chunk.payload.length ≤ ChunkText.maxPayload)
    (reads : ReadsThrough (chunkBody kind) before chunk.payload after) :
    Decodes before chunk.bytes after := by
  subst kind_eq
  intro decoder rest collected ahead
  rcases reads rest (decoder.inside chunk) collected (sees_inside ahead) with
    ⟨next, ran, collected, within⟩
  refine ⟨next, 1, by simp [ChunkText.bytes], collected, within.before, fun limit => ?_⟩
  rw [Nat.add_comm]
  exact run_chunks_of_body short goesOn ahead ran within

/-! ## Records cut into chunks -/

theorem length_payloads_le (pieces : List ChunkText) :
    (pieces.flatMap ChunkText.payload).length ≤ (pieces.flatMap ChunkText.bytes).length := by
  induction pieces with
  | nil => simp
  | cons piece pieces induction =>
      simp only [List.flatMap_cons, List.length_append, ChunkText.bytes]
      omega

theorem not_inChunk_of_spanning {decoder : Decoder}
    (spanning : decoder.Sees (.Spanning kind tail) []) : decoder.inChunk = false := by
  rcases spanning with ⟨current, pieces, within, -, stream⟩
  rcases List.append_eq_nil_iff.mp stream.symm with ⟨rfl, -⟩
  exact not_inChunk_of_within within

theorem length_le_of_spanning {decoder : Decoder}
    (spanning : decoder.Sees (.Spanning kind tail) stream) :
    stream.length ≤ decoder.cursor.file.size := by
  rcases spanning with ⟨current, pieces, within, -, rfl⟩
  have bound := within.before.end_eq
  have shorter := length_payloads_le pieces
  simp only [List.length_append] at bound ⊢
  omega

variable {pieces : List ChunkText} {decoder : Decoder}

/-- Reading a piece takes along the pieces that its last record runs on into. -/
theorem run_chunks_piece {piece : ChunkText} (goesOn : kind ≠ .termination)
    (body : chunkBody kind = allRecords record)
    (arePieces : ∀ other ∈ piece :: pieces, other.IsPiece kind)
    (ahead : decoder.cursor.Before ((piece :: pieces).flatMap ChunkText.bytes ++ tail))
    (rows : Rows (.Spanning kind tail) record decoder.collected
      ((piece :: pieces).flatMap ChunkText.payload) after) :
    ∃ (next : Decoder) (left : List ChunkText), (∀ other ∈ left, other.IsPiece kind) ∧
      next.cursor.Before (left.flatMap ChunkText.bytes ++ tail) ∧
      Rows (.Spanning kind tail) record next.collected (left.flatMap ChunkText.payload) after ∧
      (left.flatMap ChunkText.payload).length <
        ((piece :: pieces).flatMap ChunkText.payload).length ∧
      ∀ limit, (chunks (limit + 1)).run decoder = (chunks limit).run next := by
  have isPiece := arePieces piece List.mem_cons_self
  rw [List.flatMap_cons, List.append_assoc] at ahead
  have inside := sees_inside ahead
  have inChunk := (inChunk_of_within inside).mpr isPiece.nonempty
  have entered : (decoder.inside piece).Sees (.Spanning kind tail)
      ((piece :: pieces).flatMap ChunkText.payload) :=
    ⟨piece.payload, pieces, inside,
      fun other among => arePieces other (List.mem_cons_of_mem _ among), List.flatMap_cons⟩
  have collected : (decoder.inside piece).collected = decoder.collected := rfl
  rcases rows.run_records (fun _ => not_inChunk_of_spanning) (length_le_of_spanning entered)
      collected entered with ⟨next, rest, ran, ⟨outside, sees, others⟩, -, fewer⟩
  have shorter := fewer inChunk (by simp [isPiece.nonempty])
  rcases sees with ⟨current, left, within, areLeft, rfl⟩
  cases current with
  | cons byte current => simp [(inChunk_of_within within).mpr (by simp)] at outside
  | nil =>
      have ranBody : (chunkBody piece.kind).run (decoder.inside piece) = .ok ⟨⟩ next := by
        rw [isPiece.kind_eq, body]
        exact ran
      exact ⟨next, left, areLeft, within.before, others, shorter, fun limit =>
        run_chunks_of_body isPiece.short (isPiece.kind_eq ▸ goesOn) ahead ranBody within⟩

theorem comesTo_of_pieces (goesOn : kind ≠ .termination) (body : chunkBody kind = allRecords record)
    (arePieces : ∀ piece ∈ pieces, piece.IsPiece kind)
    (ahead : decoder.cursor.Before (pieces.flatMap ChunkText.bytes ++ tail))
    (rows : Rows (.Spanning kind tail) record decoder.collected
      (pieces.flatMap ChunkText.payload) after) :
    decoder.ComesTo (pieces.flatMap ChunkText.payload).length after tail := by
  -- On the bytes that are left, since a piece may take others along.
  induction length : (pieces.flatMap ChunkText.payload).length using Nat.strongRecOn
    generalizing pieces decoder with
  | ind length induction =>
      cases pieces with
      | nil =>
          rw [← rows.eq_of_nil rfl]
          exact comesTo_self ahead _
      | cons piece pieces =>
          rcases run_chunks_piece goesOn body arePieces ahead rows with
            ⟨between, left, areLeft, aheadLeft, rowsLeft, shorter, ran⟩
          rw [length] at shorter
          rcases induction _ shorter areLeft aheadLeft rowsLeft rfl with
            ⟨next, count, few, collected, ahead, ranLeft⟩
          refine ⟨next, count + 1, by omega, collected, ahead, fun limit => ?_⟩
          rw [Nat.add_right_comm, ran, ranLeft]

theorem decodes_pieces (goesOn : kind ≠ .termination) (body : chunkBody kind = allRecords record)
    (arePieces : ∀ piece ∈ pieces, piece.IsPiece kind)
    (rows : ∀ tail, Rows (.Spanning kind tail) record before
      (pieces.flatMap ChunkText.payload) after) :
    Decodes before (pieces.flatMap ChunkText.bytes) after := by
  intro decoder rest collected ahead
  rcases comesTo_of_pieces goesOn body arePieces ahead (collected ▸ rows rest) with
    ⟨next, count, few, collected, ahead, ran⟩
  exact ⟨next, count, Nat.le_trans few (length_payloads_le pieces), collected, ahead, ran⟩

/-! ## Files -/

def Decoder.outcome : EStateM.Result FormatError Decoder ObjectFile → Except FormatError ObjectFile
  | .ok file _ => .ok file
  | .error error _ => .error error

theorem run_chunks_termination (limit : Nat)
    (ahead : decoder.cursor.Before (ChunkText.termination.bytes ++ tail)) :
    ∃ next, (chunks (limit + 1)).run decoder = .ok ⟨⟩ next ∧
      next.collected = decoder.collected := by
  have short : ChunkText.termination.payload.length ≤ ChunkText.maxPayload := by decide
  have more : decoder.cursor.atEnd = false := Cursor.Before.not_atEnd ahead
  refine ⟨decoder.inside .termination, ?_, rfl⟩
  change (if (!decoder.cursor.atEnd) = true then _ else _ : Decoding PUnit).run decoder = _
  rw [more, if_pos (by decide), run_bind_of_ok (run_beginChunk short ahead)]
  rfl

theorem before_start {front bytes : List UInt8} (length : front.length = Chunk.firstOffset) :
    (start (front ++ bytes).toArray).cursor.Before bytes := by
  have least : min Chunk.firstOffset (front ++ bytes).toArray.size = Chunk.firstOffset := by
    simp only [List.size_toArray, List.length_append]
    omega
  constructor
  · exact Nat.min_le_right _ _
  · change (front ++ bytes).drop (min Chunk.firstOffset (front ++ bytes).toArray.size) = bytes
    rw [least, ← length, List.drop_left]

/-- Whole chunks at the beginning of a file are decoded; what follows them is decoded as it
stands, from its own first byte. -/
theorem decode_append {filler bytes : List UInt8} (rest : List UInt8)
    (filled : filler.length = 28) (decodes : Decodes {} bytes after) :
    ∃ (decoder : Decoder) (limit : Nat), decoder.collected = after ∧
      decoder.cursor.Before rest ∧ rest.length ≤ limit ∧
      ObjectFile.decode (Chunk.magic ++ filler ++ (bytes ++ rest)) =
        outcome ((do chunks limit; finish : Decoding ObjectFile).run decoder) := by
  have front : (Chunk.magic ++ filler).length = Chunk.firstOffset := by
    rw [List.length_append, filled]
    rfl
  rcases decodes _ rest rfl (before_start front) with ⟨next, count, few, collected, ahead, ran⟩
  have size : count + rest.length ≤ (Chunk.magic ++ filler ++ (bytes ++ rest)).length := by
    simp only [List.length_append]
    omega
  rcases Nat.exists_eq_add_of_le size with ⟨spare, split⟩
  refine ⟨next, rest.length + spare, collected, ahead, Nat.le_add_right _ _, ?_⟩
  have spelled : (Chunk.magic ++ filler ++ (bytes ++ rest)).take Chunk.magic.length =
      Chunk.magic := by
    rw [List.append_assoc, List.take_left]
  have same : decodeFile.run (start (Chunk.magic ++ filler ++ (bytes ++ rest)).toArray) =
      (do chunks (rest.length + spare); finish : Decoding ObjectFile).run next := by
    change (chunks (Chunk.magic ++ filler ++ (bytes ++ rest)).length >>= fun _ => finish).run
      (start (Chunk.magic ++ filler ++ (bytes ++ rest)).toArray) = _
    rw [split, Nat.add_assoc, EStateM.run_bind, EStateM.run_bind, ran]
  rw [ObjectFile.decode, if_neg (not_not_intro spelled), same]
  rfl

theorem run_finish {file : ObjectFile} {selected : Option Nat}
    (collected : decoder.collected =
      ⟨some file.module, some file.unit, selected, file.imports, file.warnings⟩) :
    finish.run decoder = .ok file decoder := by
  simp only [Decoder.collected, Collected.mk.injEq] at collected
  rcases collected with ⟨module_eq, unit_eq, -, imports_eq, warnings_eq⟩
  rw [finish, run_get_bind]
  simp only [module_eq, unit_eq, imports_eq, warnings_eq]
  rfl

theorem decode_eq_ok {filler bytes : List UInt8} {file : ObjectFile} {selected : Option Nat}
    (filled : filler.length = 28)
    (decodes : Decodes {} bytes
      ⟨some file.module, some file.unit, selected, file.imports, file.warnings⟩) :
    ObjectFile.decode (Chunk.magic ++ filler ++ (bytes ++ ChunkText.termination.bytes)) =
      .ok file := by
  rcases decode_append ChunkText.termination.bytes filled decodes with
    ⟨decoder, limit, collected, ahead, enough, decoded⟩
  cases limit with
  | zero => contradiction
  | succ limit =>
      rw [← List.append_nil ChunkText.termination.bytes] at ahead
      rcases run_chunks_termination limit ahead with ⟨next, ran, kept⟩
      rw [decoded, run_bind_of_ok ran, run_finish (kept.trans collected)]
      rfl

end SuperHBench
