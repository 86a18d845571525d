import SuperHBench.Proofs.Object.Invariants

/-! # Where delivered bytes stand

A byte of a record that may run on is looked for once more when the chunk has come to its
end, in the chunk after it. If that chunk has no payload, the byte is the one behind its
header, which is the first byte of another header. -/

namespace SuperHBench

namespace Delivery

/-- The byte is one of the payload of the chunk. -/
def InPayload (delivery : Delivery) : Prop :=
  delivery.chunkBase + Chunk.headerLength ≤ delivery.offset ∧ delivery.offset < delivery.chunkEnd

instance (delivery : Delivery) : Decidable delivery.InPayload :=
  inferInstanceAs (Decidable (_ ∧ _))

def HasPayload (delivery : Delivery) : Prop :=
  delivery.chunkBase + Chunk.headerLength < delivery.chunkEnd

/-- The byte is behind the header, and it is behind the whole chunk only if there is
nothing else in the chunk. -/
structure Proper (delivery : Delivery) : Prop where
  behind : delivery.chunkBase + Chunk.headerLength ≤ delivery.offset
  before : delivery.offset < delivery.chunkEnd ∨
    delivery.chunkEnd = delivery.chunkBase + Chunk.headerLength ∧
      delivery.offset = delivery.chunkEnd

theorem Proper.inPayload_iff {delivery : Delivery} (proper : delivery.Proper) :
    delivery.InPayload ↔ delivery.HasPayload := by
  rcases proper with ⟨behind, before⟩
  simp only [InPayload, HasPayload]
  omega

theorem Proper.offset_eq {delivery : Delivery} (proper : delivery.Proper)
    (empty : ¬ delivery.HasPayload) : delivery.offset = delivery.chunkEnd := by
  rcases proper with ⟨behind, before⟩
  simp only [HasPayload] at empty
  omega

end Delivery

/-! ## Bytes and headers -/

namespace Decoder

theorem run_byte (decoder : Decoder) :
    (∃ byte, (liftM Cursor.byte : Decoding UInt8).run decoder = .ok byte (decoder.advance 1) ∧
      decoder.position + 1 ≤ decoder.cursor.file.size) ∨
    (liftM Cursor.byte : Decoding UInt8).run decoder =
        .error (.unexpectedEnd decoder.position) decoder ∧
      decoder.cursor.file.size ≤ decoder.position := by
  rw [run_liftM, Cursor.byte, EStateM.run_bind]
  by_cases enough : decoder.position + 1 ≤ decoder.cursor.file.size
  · have taken : (Cursor.take 1).run decoder.cursor = .ok _ (decoder.cursor.advance 1) :=
      if_pos enough
    rw [taken]
    exact .inl ⟨_, rfl, enough⟩
  · have missing : (Cursor.take 1).run decoder.cursor = .error _ decoder.cursor := if_neg enough
    rw [missing]
    exact .inr ⟨rfl, Nat.lt_succ_iff.mp (Nat.not_le.mp enough)⟩

structure Begun (decoder next : Decoder) : Prop where
  cursor_eq : next.cursor = decoder.cursor.advance Chunk.headerLength
  inside : next.position ≤ next.cursor.file.size
  entering_eq : next.entering = none
  chunkBases_eq : next.chunkBases = decoder.position :: decoder.chunkBases
  ends : next.position ≤ next.chunkEnd
  deliveries_eq : next.deliveries = decoder.deliveries

/-- Bytes of a header were read, but not a whole one that is valid. -/
def BrokenOff (decoder next : Decoder) : Prop :=
  ∃ count, next = decoder.enter.advance count ∧
    (decoder.position ≤ decoder.cursor.file.size → next.position ≤ decoder.cursor.file.size)

theorem run_beginChunk_cases (decoder : Decoder) :
    (∃ kind next, beginChunk.run decoder = .ok kind next ∧ decoder.Begun next) ∨
    ∃ error next, beginChunk.run decoder = .error error next ∧ decoder.BrokenOff next := by
  have entered : beginChunk.run decoder = (liftM Cursor.byte >>= _ : Decoding ChunkKind).run
      decoder.enter := rfl
  rw [entered]
  rcases run_byte decoder.enter with ⟨_, first, reached⟩ | ⟨first, _⟩
  · rw [run_bind_of_ok first]
    rcases run_byte (decoder.enter.advance 1) with ⟨code, second, reached⟩ | ⟨second, _⟩
    · rw [run_bind_of_ok second]
      dsimp only
      rcases run_byte ((decoder.enter.advance 1).advance 1) with
        ⟨length, third, reached⟩ | ⟨third, _⟩
      · rw [run_bind_of_ok third]
        split
        · exact .inr ⟨_, _, rfl, 3, rfl, fun _ => reached⟩
        · refine .inl ⟨_, _, rfl, rfl, reached, rfl, rfl, ?_, rfl⟩
          change decoder.position + Chunk.headerLength ≤
            decoder.position + max length.toNat Chunk.headerLength
          exact Nat.add_le_add_left (Nat.le_max_right _ _) _
      · exact .inr ⟨_, _, run_bind_of_error third, 2, rfl, fun _ => reached⟩
    · exact .inr ⟨_, _, run_bind_of_error second, 1, rfl, fun _ => reached⟩
  · exact .inr ⟨_, _, run_bind_of_error first, 0, rfl, id⟩

section

variable {decoder next : Decoder}

theorem Begun.file_eq (begun : decoder.Begun next) : next.cursor.file = decoder.cursor.file := by
  rw [begun.cursor_eq]
  rfl

theorem Begun.position_eq_add (begun : decoder.Begun next) :
    next.position = decoder.position + Chunk.headerLength := by
  rw [Decoder.position, begun.cursor_eq]
  rfl

theorem Begun.position_eq (begun : decoder.Begun next) :
    next.position = next.chunkBase + Chunk.headerLength := by
  rw [begun.position_eq_add, chunkBase, begun.chunkBases_eq]
  rfl

theorem BrokenOff.holds {invariant : Decoder → Prop} (broken : decoder.BrokenOff next)
    (moving : ∀ {cursor : Cursor}, decoder.enter.cursor.Leads cursor →
      invariant { decoder.enter with cursor := cursor }) : invariant next := by
  rcases broken with ⟨count, rfl, inside⟩
  exact moving ⟨rfl, Nat.le_add_right _ _, inside⟩

theorem upholds_beginChunk {invariant : Decoder → Prop}
    (begin : ∀ {decoder next : Decoder}, invariant decoder → decoder.Begun next → invariant next)
    (breakOff : ∀ {decoder next : Decoder}, invariant decoder → decoder.BrokenOff next →
      invariant next) :
    Upholds invariant beginChunk := by
  intro decoder holds
  rcases run_beginChunk_cases decoder with ⟨kind, next, ran, begun⟩ | ⟨error, next, ran, broken⟩
  · rw [ran]
    exact begin holds begun
  · rw [ran]
    exact breakOff holds broken

end

def behindChunk (decoder : Decoder) : Decoder :=
  { decoder with cursor := decoder.cursor.seek decoder.chunkEnd }

/-- What a byte that may be in the next chunk makes of a decoder, if there is one. -/
inductive Spans (decoder : Decoder) : Decoder → Prop
  | delivered (inChunk : decoder.inChunk = true)
      (reached : decoder.position + 1 ≤ decoder.cursor.file.size) :
      Spans decoder (decoder.advance 1).deliver
  | missing : Spans decoder decoder
  | crossed {next : Decoder} (begun : decoder.behindChunk.Begun next)
      (reached : next.position + 1 ≤ next.cursor.file.size) :
      Spans decoder (next.advance 1).deliver
  | crossedMissing {next : Decoder} (begun : decoder.behindChunk.Begun next) : Spans decoder next
  | brokenOff {next : Decoder} (broken : decoder.behindChunk.BrokenOff next) : Spans decoder next

theorem run_delivery (decoder : Decoder) :
    (∃ byte, (do let byte ← Cursor.byte; modify deliver; return byte : Decoding UInt8).run decoder =
        .ok byte (decoder.advance 1).deliver ∧
      decoder.position + 1 ≤ decoder.cursor.file.size) ∨
    ∃ error, (do let byte ← Cursor.byte; modify deliver; return byte : Decoding UInt8).run decoder =
      .error error decoder := by
  rcases run_byte decoder with ⟨byte, ran, reached⟩ | ⟨ran, _⟩
  · exact .inl ⟨byte, run_bind_of_ok ran, reached⟩
  · exact .inr ⟨_, run_bind_of_error ran⟩

theorem spans_spanningByte (decoder : Decoder) :
    decoder.Spans (stop (spanningByte.run decoder)) := by
  by_cases inChunk : decoder.inChunk = true
  · rw [run_spanningByte inChunk]
    rcases run_delivery decoder with ⟨byte, ran, reached⟩ | ⟨error, ran⟩
    · rw [ran]
      exact .delivered inChunk reached
    · rw [ran]
      exact .missing
  · have crossed : continueChunk.run decoder =
        (do let _ ← beginChunk : Decoding PUnit).run decoder.behindChunk := rfl
    rw [spanningByte, run_get_bind, if_neg inChunk]
    rcases run_beginChunk_cases decoder.behindChunk with
      ⟨kind, next, ran, begun⟩ | ⟨error, next, ran, broken⟩
    · rw [run_bind_of_ok ran] at crossed
      rw [run_bind_of_ok crossed]
      rcases run_delivery next with ⟨byte, delivered, reached⟩ | ⟨error, delivered⟩
      · rw [delivered]
        exact .crossed begun reached
      · rw [delivered]
        exact .crossedMissing begun
    · rw [run_bind_of_error ran] at crossed
      rw [run_bind_of_error crossed]
      exact .brokenOff broken

/-! ## The place of a decoder -/

structure Placed (decoder : Decoder) : Prop where
  inside : decoder.position ≤ decoder.cursor.file.size
  entered : decoder.chunkBases = [] ∧ decoder.chunkEnd = 0 ∨
    decoder.chunkBase + Chunk.headerLength ≤ decoder.position ∧
      decoder.chunkBase + Chunk.headerLength ≤ decoder.chunkEnd
  proper : ∀ delivery ∈ decoder.deliveries, delivery.Proper

variable {decoder next : Decoder}

theorem Placed.move {cursor : Cursor} (placed : decoder.Placed)
    (leads : decoder.cursor.Leads cursor) : Placed { decoder with cursor := cursor } where
  inside := by
    change cursor.position ≤ cursor.file.size
    rw [leads.file_eq]
    exact leads.inside placed.inside
  entered := placed.entered.imp_right fun ⟨started, long⟩ =>
    ⟨Nat.le_trans started leads.forward, long⟩
  proper := placed.proper

theorem Placed.begin (placed : decoder.Placed) (begun : decoder.Begun next) : next.Placed where
  inside := begun.inside
  entered := by
    have ends := begun.ends
    rw [begun.position_eq] at ends
    exact .inr ⟨Nat.le_of_eq begun.position_eq.symm, ends⟩
  proper := begun.deliveries_eq ▸ placed.proper

theorem Placed.breakOff (placed : decoder.Placed) (broken : decoder.BrokenOff next) :
    next.Placed := by
  have entered : decoder.enter.Placed := ⟨placed.inside, placed.entered, placed.proper⟩
  exact broken.holds entered.move

/-- The end of the chunk is not before the end of its header, and neither is the end of
the file. -/
theorem Placed.end (placed : decoder.Placed) : decoder.behindChunk.Placed where
  inside := Nat.min_le_right _ _
  entered := by
    have inside := placed.inside
    refine placed.entered.imp_right fun ⟨started, long⟩ => ⟨?_, long⟩
    change decoder.chunkBase + Chunk.headerLength ≤
      min decoder.chunkEnd decoder.cursor.file.size
    omega
  proper := placed.proper

theorem Placed.delivered (placed : decoder.Placed)
    (proper : Delivery.Proper ⟨decoder.position, decoder.chunkBase, decoder.chunkEnd⟩)
    (reached : decoder.position + 1 ≤ decoder.cursor.file.size) :
    (decoder.advance 1).deliver.Placed where
  inside := reached
  entered := placed.entered.imp_right fun ⟨started, long⟩ => ⟨Nat.le_succ_of_le started, long⟩
  proper := by
    intro delivery among
    rcases List.mem_cons.mp among with rfl | earlier
    · exact proper
    · exact placed.proper delivery earlier

theorem Placed.proper_of_inChunk (placed : decoder.Placed) (inChunk : decoder.inChunk = true) :
    Delivery.Proper ⟨decoder.position, decoder.chunkBase, decoder.chunkEnd⟩ := by
  have before : decoder.position < decoder.chunkEnd := of_decide_eq_true inChunk
  rcases placed.entered with ⟨_, ends⟩ | ⟨started, _⟩
  · omega
  · exact ⟨started, .inl before⟩

/-- Right behind a header the chunk may have come to its end already. -/
theorem Begun.proper (begun : decoder.Begun next) :
    Delivery.Proper ⟨next.position, next.chunkBase, next.chunkEnd⟩ := by
  have position := begun.position_eq
  have ends := begun.ends
  constructor
  · change next.chunkBase + Chunk.headerLength ≤ next.position
    omega
  · change next.position < next.chunkEnd ∨
      next.chunkEnd = next.chunkBase + Chunk.headerLength ∧ next.position = next.chunkEnd
    omega

theorem Placed.span (placed : decoder.Placed) (spans : decoder.Spans next) : next.Placed := by
  cases spans with
  | delivered inChunk reached => exact placed.delivered (placed.proper_of_inChunk inChunk) reached
  | missing => exact placed
  | crossed begun reached => exact (placed.end.begin begun).delivered begun.proper reached
  | crossedMissing begun => exact placed.end.begin begun
  | brokenOff broken => exact placed.end.breakOff broken

theorem positional_placed : Positional Placed where
  collecting := by
    intro decoder other same placed
    have base : other.chunkBase = decoder.chunkBase := by
      rw [chunkBase, same.chunkBases_eq]
      rfl
    constructor
    · rw [same.position_eq, same.cursor_eq]
      exact placed.inside
    · rw [base, same.position_eq, same.chunkBases_eq, same.chunkEnd_eq]
      exact placed.entered
    · rw [same.deliveries_eq]
      exact placed.proper
  moving leads placed := placed.move leads
  beginning := upholds_beginChunk Placed.begin Placed.breakOff
  ending _ placed := placed.end
  delivering decoder placed := placed.span decoder.spans_spanningByte

theorem placed_start (file : Array UInt8) : (start file).Placed where
  inside := Nat.min_le_right _ _
  entered := .inl ⟨rfl, rfl⟩
  proper _ among := nomatch among

end Decoder

/-! ## Files -/

def ObjectFile.deliveries (bytes : List UInt8) : List Delivery :=
  if bytes.take Chunk.magic.length ≠ Chunk.magic then
    []
  else
    (Decoder.stop (Decoder.decodeFile.run (Decoder.start bytes.toArray))).deliveries

namespace ObjectFile

theorem proper_of_mem_deliveries {bytes : List UInt8} {delivery : Delivery}
    (among : delivery ∈ deliveries bytes) : delivery.Proper := by
  rw [deliveries] at among
  split at among
  · contradiction
  · have placed := Decoder.positional_placed.lasting.upholds_decodeFile _
      (Decoder.placed_start bytes.toArray)
    exact placed.proper delivery among

/-- A delivered byte is one of the payload of its chunk exactly if the chunk has one. Else
it is the byte behind the chunk. -/
theorem deliveries_inPayload_iff (bytes : List UInt8) :
    ∀ delivery ∈ deliveries bytes,
      (delivery.InPayload ↔ delivery.HasPayload) ∧
        (¬ delivery.HasPayload → delivery.offset = delivery.chunkEnd) :=
  fun _ among =>
    have proper := proper_of_mem_deliveries among
    ⟨proper.inPayload_iff, proper.offset_eq⟩

/-- A name of two bytes with a chunk between them that has no payload. -/
def interruptedChunks : List ChunkText :=
  [⟨0x04, [1] ++ List.replicate 12 0 ++ [0, 1, 0, 0x30, 0x31, 0x30, 0x30, 0, 0x20, 0, 0, 0, 0, 0,
      0, 7, 0x66, 0x69, 0x78, 0x74, 0x75, 0x72, 0x65, 3, 0x53, 0x48, 0x34]⟩,
    ⟨0x06, [0, 1, 0, 0, 0, 0, 0, 9, 0x66, 0x69, 0x78, 0x74, 0x75, 0x72, 0x65, 0x2e, 0x63, 3, 0x53,
      0x48, 0x43] ++ List.replicate 12 0⟩,
    ⟨0x0c, [0, 2, 0x61]⟩, ⟨0x8c, []⟩, ⟨0x8c, [0x62, 2, 1, 0x63]⟩, .termination]

def interrupted : List UInt8 :=
  Chunk.magic ++ List.replicate 28 0 ++ interruptedChunks.flatMap ChunkText.bytes

theorem interrupted_delivers_header :
    ¬ ∀ delivery ∈ deliveries interrupted, delivery.InPayload := by
  decide +kernel

theorem interrupted_deliveries :
    (⟨120, 117, 120⟩ : Delivery) ∈ deliveries interrupted ∧
      ((⟨120, 117, 120⟩ : Delivery).InPayload ↔ (⟨120, 117, 120⟩ : Delivery).HasPayload) ∧
        (¬ (⟨120, 117, 120⟩ : Delivery).HasPayload → 120 = 120) :=
  have among : (⟨120, 117, 120⟩ : Delivery) ∈ deliveries interrupted := by decide +kernel
  ⟨among, deliveries_inPayload_iff interrupted _ among⟩

end ObjectFile

end SuperHBench
