import SuperHBench.Proofs.Object.Headers

/-! # The end of decoding

The loops over chunks and over records are bounded by the size of the file here. They would end
at the same place without a bound: every record leaves the decoder behind the byte it began
with, wherever that was, and every chunk leaves it behind its header. -/

namespace SuperHBench

def ChunkKind.record? : ChunkKind → Option (Decoding PUnit)
  | .imports => some Decoder.importRecord
  | .exports => some Decoder.exportRecord
  | .relocation => some Decoder.relocationRecord
  | _ => none

namespace Decoder

/-! ## Loops without a bound -/

/-- Reading records up to the end of the chunk comes to an end with this result. Each record
that is read moves the decoder on. -/
inductive ReadsRecords (record : Decoding PUnit) :
    Decoder → EStateM.Result FormatError Decoder PUnit → Prop
  | done {decoder : Decoder} (outside : decoder.inChunk = false) :
      ReadsRecords record decoder (.ok ⟨⟩ decoder)
  | failed {decoder failed : Decoder} {error : FormatError} (inside : decoder.inChunk = true)
      (fails : record.run decoder = .error error failed) :
      ReadsRecords record decoder (.error error failed)
  | next {decoder next : Decoder} {result : EStateM.Result FormatError Decoder PUnit}
      (inside : decoder.inChunk = true) (reads : record.run decoder = .ok ⟨⟩ next)
      (progress : decoder.position < next.position) (rest : ReadsRecords record next result) :
      ReadsRecords record decoder result

inductive ReadsBody (kind : ChunkKind) (decoder : Decoder) :
    EStateM.Result FormatError Decoder PUnit → Prop
  | records {record : Decoding PUnit} {result : EStateM.Result FormatError Decoder PUnit}
      (again : kind.record? = some record) (reads : ReadsRecords record decoder result) :
      ReadsBody kind decoder result
  | once (straight : kind.record? = none) :
      ReadsBody kind decoder ((chunkBody kind).run decoder)

inductive ReadsChunks : Decoder → EStateM.Result FormatError Decoder PUnit → Prop
  | ended {decoder : Decoder} (atEnd : decoder.cursor.atEnd = true) :
      ReadsChunks decoder (.ok ⟨⟩ decoder)
  | broken {decoder failed : Decoder} {error : FormatError}
      (more : decoder.cursor.atEnd = false)
      (fails : beginChunk.run decoder = .error error failed) :
      ReadsChunks decoder (.error error failed)
  | terminated {decoder begun : Decoder} (more : decoder.cursor.atEnd = false)
      (begins : beginChunk.run decoder = .ok .termination begun) :
      ReadsChunks decoder (.ok ⟨⟩ begun)
  | failed {decoder begun failed : Decoder} {kind : ChunkKind} {error : FormatError}
      (more : decoder.cursor.atEnd = false) (begins : beginChunk.run decoder = .ok kind begun)
      (goesOn : kind ≠ .termination) (fails : ReadsBody kind begun (.error error failed)) :
      ReadsChunks decoder (.error error failed)
  | next {decoder begun next : Decoder} {kind : ChunkKind}
      {result : EStateM.Result FormatError Decoder PUnit}
      (more : decoder.cursor.atEnd = false) (begins : beginChunk.run decoder = .ok kind begun)
      (goesOn : kind ≠ .termination) (body : ReadsBody kind begun (.ok ⟨⟩ next))
      (progress : decoder.position + Chunk.headerLength ≤ next.behindChunk.position)
      (rest : ReadsChunks next.behindChunk result) :
      ReadsChunks decoder result

theorem ReadsRecords.unique {record : Decoding PUnit} {decoder : Decoder}
    {result other : EStateM.Result FormatError Decoder PUnit}
    (reads : ReadsRecords record decoder result) (others : ReadsRecords record decoder other) :
    result = other := by
  induction reads with
  | done outside =>
      cases others with
      | done => rfl
      | failed inside | next inside => exact absurd (outside.symm.trans inside) Bool.false_ne_true
  | failed inside fails =>
      cases others with
      | done outside => exact absurd (outside.symm.trans inside) Bool.false_ne_true
      | failed _ again => exact fails.symm.trans again
      | next _ reads => cases fails.symm.trans reads
  | next inside reads _ _ induction =>
      cases others with
      | done outside => exact absurd (outside.symm.trans inside) Bool.false_ne_true
      | failed _ fails => cases reads.symm.trans fails
      | next _ again _ rest =>
          cases reads.symm.trans again
          exact induction rest

theorem ReadsBody.unique {kind : ChunkKind} {decoder : Decoder}
    {result other : EStateM.Result FormatError Decoder PUnit}
    (reads : ReadsBody kind decoder result) (others : ReadsBody kind decoder other) :
    result = other := by
  cases reads with
  | records again reads =>
      cases others with
      | records also others =>
          cases again.symm.trans also
          exact reads.unique others
      | once straight => cases again.symm.trans straight
  | once straight =>
      cases others with
      | records again => cases again.symm.trans straight
      | once => rfl

theorem ReadsChunks.unique {decoder : Decoder}
    {result other : EStateM.Result FormatError Decoder PUnit}
    (reads : ReadsChunks decoder result) (others : ReadsChunks decoder other) :
    result = other := by
  induction reads with
  | ended atEnd =>
      cases others with
      | ended => rfl
      | broken more | terminated more | failed more | next more =>
          exact absurd (more.symm.trans atEnd) Bool.false_ne_true
  | broken more fails =>
      cases others with
      | ended atEnd => exact absurd (more.symm.trans atEnd) Bool.false_ne_true
      | broken _ again =>
          cases fails.symm.trans again
          rfl
      | terminated _ begins | failed _ begins | next _ begins => cases fails.symm.trans begins
  | terminated more begins =>
      cases others with
      | ended atEnd => exact absurd (more.symm.trans atEnd) Bool.false_ne_true
      | broken _ fails => cases begins.symm.trans fails
      | terminated _ again =>
          cases begins.symm.trans again
          rfl
      | failed _ again goesOn | next _ again goesOn =>
          cases begins.symm.trans again
          exact absurd rfl goesOn
  | failed more begins goesOn fails =>
      cases others with
      | ended atEnd => exact absurd (more.symm.trans atEnd) Bool.false_ne_true
      | broken _ other => cases begins.symm.trans other
      | terminated _ again =>
          cases begins.symm.trans again
          exact absurd rfl goesOn
      | failed _ again _ also =>
          cases begins.symm.trans again
          exact fails.unique also
      | next _ again _ body =>
          cases begins.symm.trans again
          cases fails.unique body
  | next more begins goesOn body _ _ induction =>
      cases others with
      | ended atEnd => exact absurd (more.symm.trans atEnd) Bool.false_ne_true
      | broken _ other => cases begins.symm.trans other
      | terminated _ again =>
          cases begins.symm.trans again
          exact absurd rfl goesOn
      | failed _ again _ fails =>
          cases begins.symm.trans again
          cases fails.unique body
      | next _ again _ also _ rest =>
          cases begins.symm.trans again
          cases body.unique also
          exact induction rest

/-! ## Places that are not gone back to -/

variable {decoder next : Decoder} {file : Array UInt8} {place : Nat}

/-- The decoder stands at a place of the file or behind it, and its chunk does not end before
that place. -/
structure Beyond (file : Array UInt8) (place : Nat) (decoder : Decoder) : Prop where
  file_eq : decoder.cursor.file = file
  inside : decoder.position ≤ file.size
  reached : place ≤ decoder.position
  ends : place ≤ decoder.chunkEnd

theorem Begun.beyond (begun : decoder.Begun next) :
    Beyond decoder.cursor.file (decoder.position + Chunk.headerLength) next := by
  have position := begun.position_eq_add
  have same := begun.file_eq
  exact ⟨same, same ▸ begun.inside, Nat.le_of_eq position.symm, position ▸ begun.ends⟩

namespace Beyond

theorem move {cursor : Cursor} (beyond : Beyond file place decoder)
    (leads : decoder.cursor.Leads cursor) :
    Beyond file place { decoder with cursor := cursor } where
  file_eq := leads.file_eq.trans beyond.file_eq
  inside := by
    have inside := leads.inside (beyond.file_eq ▸ beyond.inside)
    rwa [beyond.file_eq] at inside
  reached := Nat.le_trans beyond.reached leads.forward
  ends := beyond.ends

theorem atChunkEnd (beyond : Beyond file place decoder) :
    Beyond file place decoder.behindChunk where
  file_eq := beyond.file_eq
  inside := beyond.file_eq ▸ Nat.min_le_right _ _
  reached := by
    have reached := Nat.le_trans beyond.reached beyond.inside
    rw [← beyond.file_eq] at reached
    exact Nat.le_min.mpr ⟨beyond.ends, reached⟩
  ends := beyond.ends

theorem weaken {earlier : Nat} (beyond : Beyond file place decoder) (before : earlier ≤ place) :
    Beyond file earlier decoder :=
  ⟨beyond.file_eq, beyond.inside, Nat.le_trans before beyond.reached,
    Nat.le_trans before beyond.ends⟩

theorem begin (beyond : Beyond file place decoder) (begun : decoder.Begun next) :
    Beyond file place next := by
  have entered := begun.beyond
  rw [beyond.file_eq] at entered
  exact entered.weaken (Nat.le_add_right_of_le beyond.reached)

theorem breakOff (beyond : Beyond file place decoder) (broken : decoder.BrokenOff next) :
    Beyond file place next := by
  have entered : Beyond file place decoder.enter :=
    ⟨beyond.file_eq, beyond.inside, beyond.reached, beyond.ends⟩
  exact broken.holds entered.move

theorem deliver (beyond : Beyond file place decoder)
    (reached : decoder.position + 1 ≤ decoder.cursor.file.size) :
    Beyond file place (decoder.advance 1).deliver := by
  have moved : Beyond file place (decoder.advance 1) :=
    beyond.move ⟨rfl, Nat.le_add_right _ _, fun _ => reached⟩
  exact ⟨moved.file_eq, moved.inside, moved.reached, moved.ends⟩

theorem span (beyond : Beyond file place decoder) (spans : decoder.Spans next) :
    Beyond file place next := by
  cases spans with
  | delivered inChunk reached => exact beyond.deliver reached
  | missing => exact beyond
  | crossed begun reached => exact (beyond.atChunkEnd.begin begun).deliver reached
  | crossedMissing begun => exact beyond.atChunkEnd.begin begun
  | brokenOff broken => exact beyond.atChunkEnd.breakOff broken

end Beyond

theorem positional_beyond (file : Array UInt8) (place : Nat) :
    Positional (Beyond file place) where
  collecting := by
    intro decoder other same beyond
    refine ⟨?_, ?_, ?_, ?_⟩
    · rw [same.cursor_eq]
      exact beyond.file_eq
    · rw [same.position_eq]
      exact beyond.inside
    · rw [same.position_eq]
      exact beyond.reached
    · rw [same.chunkEnd_eq]
      exact beyond.ends
  moving leads beyond := beyond.move leads
  beginning := upholds_beginChunk Beyond.begin Beyond.breakOff
  ending _ beyond := beyond.atChunkEnd
  delivering decoder beyond := beyond.span decoder.spans_spanningByte

/-! ## Progress of records -/

/-- Where it succeeds inside a chunk, the action leaves the decoder behind the place where it
began. -/
def MovesOn (action : Decoding α) : Prop :=
  ∀ ⦃file : Array UInt8⦄ ⦃decoder next : Decoder⦄ ⦃value : α⦄, decoder.inChunk = true →
    decoder.cursor.file = file → action.run decoder = .ok value next →
    Beyond file (decoder.position + 1) next

theorem MovesOn.of_startsWith {first : Decoding α} {action : Decoding β} (moves : MovesOn first)
    (starts : ∀ file place, StartsWith (Beyond file place) first action) : MovesOn action := by
  intro file decoder next value inChunk same ran
  rcases starts file (decoder.position + 1) with ⟨others, rfl, upholds⟩
  rw [run_get_bind] at ran
  cases began : first.run decoder with
  | error error failed =>
      rw [run_bind_of_error began] at ran
      cases ran
  | ok found between =>
      rw [run_bind_of_ok began] at ran
      have kept := upholds decoder found between (moves inChunk same began)
      rw [ran] at kept
      exact kept

theorem beyond_advance (inChunk : decoder.inChunk = true) (same : decoder.cursor.file = file)
    (reached : decoder.position + 1 ≤ decoder.cursor.file.size) :
    Beyond file (decoder.position + 1) (decoder.advance 1) :=
  ⟨same, same ▸ reached, Nat.le_refl _, of_decide_eq_true inChunk⟩

theorem movesOn_byte : MovesOn (liftM Cursor.byte : Decoding UInt8) := by
  intro file decoder next value inChunk same ran
  rcases run_byte decoder with ⟨byte, found, reached⟩ | ⟨missing, _⟩
  · rw [found] at ran
    cases ran
    exact beyond_advance inChunk same reached
  · rw [missing] at ran
    cases ran

theorem movesOn_spanningByte : MovesOn spanningByte := by
  intro file decoder next value inChunk same ran
  rw [run_spanningByte inChunk] at ran
  rcases run_delivery decoder with ⟨byte, found, reached⟩ | ⟨error, missing⟩
  · rw [found] at ran
    cases ran
    have beyond := beyond_advance inChunk same reached
    exact ⟨beyond.file_eq, beyond.inside, beyond.reached, beyond.ends⟩
  · rw [missing] at ran
    cases ran

theorem lasting_beyond (file : Array UInt8) (place : Nat) :
    Lasting (Beyond file place) fun _ => True :=
  (positional_beyond file place).lasting

theorem movesOn_importRecord : MovesOn importRecord :=
  movesOn_spanningByte.of_startsWith fun file place =>
    (lasting_beyond file place).startsWith_importRecord

theorem movesOn_exportRecord : MovesOn exportRecord := by
  have bytes : MovesOn (spanningBytes 2) := movesOn_spanningByte.of_startsWith fun file place =>
    startsWith_spanningBytes (lasting_beyond file place).delivering 1
  have number : MovesOn (spanningNumber 2) := bytes.of_startsWith fun _ _ =>
    startsWith_spanningNumber 2
  exact number.of_startsWith fun file place => (lasting_beyond file place).startsWith_exportRecord

theorem movesOn_relocationRecord : MovesOn relocationRecord := by
  have head : MovesOn relocationHead := movesOn_byte.of_startsWith fun file place =>
    (lasting_beyond file place).startsWith_relocationHead
  exact head.of_startsWith fun file place => (lasting_beyond file place).startsWith_relocationRecord

theorem movesOn_of_record? {kind : ChunkKind} {record : Decoding PUnit}
    (again : kind.record? = some record) : MovesOn record := by
  cases kind <;> cases again
  · exact movesOn_importRecord
  · exact movesOn_exportRecord
  · exact movesOn_relocationRecord

/-! ## The bounds are never reached -/

theorem readsRecords {record : Decoding PUnit} (moves : MovesOn record) {limit : Nat}
    (inside : decoder.position ≤ decoder.cursor.file.size)
    (enough : decoder.cursor.file.size < limit + decoder.position) :
    ReadsRecords record decoder ((records record limit).run decoder) := by
  induction limit generalizing decoder with
  | zero => omega
  | succ limit induction =>
      rw [records, run_get_bind]
      cases here : decoder.inChunk with
      | false => exact .done here
      | true =>
          rw [if_pos rfl]
          cases ran : record.run decoder with
          | error error failed =>
              rw [run_bind_of_error ran]
              exact .failed here ran
          | ok value next =>
              rw [run_bind_of_ok ran]
              have beyond := moves here rfl ran
              have same := beyond.file_eq
              refine .next here ran beyond.reached (induction ?_ ?_)
              · rw [same]
                exact beyond.inside
              · have reached := beyond.reached
                rw [same]
                omega

theorem readsBody {kind : ChunkKind} (inside : decoder.position ≤ decoder.cursor.file.size)
    (started : 0 < decoder.position) :
    ReadsBody kind decoder ((chunkBody kind).run decoder) := by
  cases again : kind.record? with
  | none => exact .once again
  | some record =>
      have reads := readsRecords (movesOn_of_record? again) inside
        (Nat.lt_add_of_pos_right started)
      have body : (chunkBody kind).run decoder =
          (records record decoder.cursor.file.size).run decoder := by
        cases kind <;> cases again <;> rfl
      rw [body]
      exact .records again reads

theorem readsChunks {limit : Nat} (inside : decoder.position ≤ decoder.cursor.file.size)
    (enough : decoder.cursor.file.size ≤ limit + decoder.position) :
    ReadsChunks decoder ((chunks limit).run decoder) := by
  induction limit generalizing decoder with
  | zero =>
      rw [Nat.zero_add] at enough
      exact .ended (decide_eq_true enough)
  | succ limit induction =>
      rw [run_chunks_succ_eq]
      cases more : decoder.cursor.atEnd with
      | true => exact .ended more
      | false =>
          rw [if_neg Bool.false_ne_true]
          rcases run_beginChunk_cases decoder with
            ⟨kind, begun, begins, starts⟩ | ⟨error, failed, fails, _⟩
          · rw [begins]
            dsimp only
            by_cases last : kind = .termination
            · subst last
              rw [if_pos rfl]
              exact .terminated more begins
            · rw [if_neg last]
              have beyond := starts.beyond
              have kept := (lasting_beyond _ _).upholds_chunkBody kind begun beyond
              have body : ReadsBody kind begun ((chunkBody kind).run begun) :=
                readsBody starts.inside
                  (Nat.lt_of_lt_of_le (Nat.lt_add_left _ (by decide)) beyond.reached)
              cases ran : (chunkBody kind).run begun with
              | error error failed =>
                  rw [ran] at body
                  exact .failed more begins last body
              | ok value next =>
                  rw [ran] at kept body
                  have behind : Beyond decoder.cursor.file (decoder.position + Chunk.headerLength)
                      next.behindChunk := kept.atChunkEnd
                  have same := behind.file_eq
                  -- the header alone makes up for the chunk that the limit has lost
                  refine .next more begins last body behind.reached (induction ?_ ?_)
                  · rw [same]
                    exact behind.inside
                  · have reached := behind.reached
                    have long : 1 ≤ Chunk.headerLength := by decide
                    rw [same]
                    omega
          · rw [fails]
            exact .broken more fails

end Decoder

/-! ## Files -/

namespace ObjectFile

open Decoder

/-- Decoding any bytes ends, and as it would without a bound. Headers are read at ascending
places, no two of them closer than a header is long, and so are bytes of records. -/
structure Ends (bytes : List UInt8) : Prop where
  chunks : ∀ result, ReadsChunks (start bytes.toArray) result ↔
    (chunks bytes.length).run (start bytes.toArray) = result
  headers : (headerReads bytes).Pairwise fun earlier later =>
    earlier + Chunk.headerLength ≤ later
  few : (wholeHeaders bytes).length ≤ (bytes.length - Chunk.firstOffset) / Chunk.headerLength
  records : (deliveries bytes).Pairwise fun later earlier => earlier.offset < later.offset

theorem ends (bytes : List UInt8) : Ends bytes where
  chunks _ := by
    have reads : ReadsChunks (start bytes.toArray) ((Decoder.chunks bytes.length).run _) :=
      readsChunks (Nat.min_le_right _ _) (Nat.le_add_right _ _)
    exact ⟨reads.unique, fun same => same ▸ reads⟩
  headers := pairwise_headerReads bytes
  few := length_wholeHeaders_le bytes
  records := pairwise_deliveries bytes

end ObjectFile

end SuperHBench
