import SuperHBench.Proofs.Object.Deliveries

/-! # Where headers are read

A decoder goes back to the end of a chunk when the body has read beyond it, and a record that
runs on goes back over the byte that it has found behind an empty chunk. Headers are read at
ascending places all the same, and so are the bytes that are delivered to records. -/

namespace SuperHBench

namespace Decoder

/-- Where headers have been read, and where one is being read, the latest first. -/
def headerReads (decoder : Decoder) : List Nat :=
  decoder.entering.toList ++ decoder.chunkBases

/-- The places are at least a header apart, the latest first. -/
def Apart (bases : List Nat) : Prop :=
  bases.Pairwise fun later earlier => earlier + Chunk.headerLength ≤ later

/-- A decoder that has read a header stands behind all those that it has read. -/
structure Walked (decoder : Decoder) : Prop where
  inside : decoder.position ≤ decoder.cursor.file.size
  begun : decoder.chunkBases ≠ []
  behind : ∀ base ∈ decoder.chunkBases, base + Chunk.headerLength ≤ decoder.position ∧
    base + Chunk.headerLength ≤ decoder.chunkEnd
  apart : Apart decoder.headerReads
  first : ∀ base ∈ decoder.headerReads, Chunk.firstOffset ≤ base

variable {decoder next : Decoder}

namespace Walked

theorem move {cursor : Cursor} (walked : decoder.Walked) (leads : decoder.cursor.Leads cursor) :
    Walked { decoder with cursor := cursor } where
  inside := by
    change cursor.position ≤ cursor.file.size
    rw [leads.file_eq]
    exact leads.inside walked.inside
  begun := walked.begun
  behind base among :=
    (walked.behind base among).imp_left fun reached => Nat.le_trans reached leads.forward
  apart := walked.apart
  first := walked.first

theorem atChunkEnd (walked : decoder.Walked) : decoder.behindChunk.Walked where
  inside := Nat.min_le_right _ _
  begun := walked.begun
  behind base among := by
    rcases walked.behind base among with ⟨reached, ends⟩
    refine ⟨?_, ends⟩
    have inside := walked.inside
    change base + Chunk.headerLength ≤ min decoder.chunkEnd decoder.cursor.file.size
    omega
  apart := walked.apart
  first := walked.first

theorem apart_cons (walked : decoder.Walked) : Apart (decoder.position :: decoder.chunkBases) :=
  .cons (fun base among => (walked.behind base among).1) (List.pairwise_append.mp walked.apart).2.1

theorem first_cons (walked : decoder.Walked) :
    ∀ base ∈ decoder.position :: decoder.chunkBases, Chunk.firstOffset ≤ base := by
  have first (base : Nat) (among : base ∈ decoder.chunkBases) : Chunk.firstOffset ≤ base :=
    walked.first base (List.mem_append_right _ among)
  rcases List.exists_mem_of_ne_nil _ walked.begun with ⟨base, among⟩
  have reached := (walked.behind base among).1
  have low := first base among
  refine List.forall_mem_cons.mpr ⟨by omega, first⟩

theorem begin (walked : decoder.Walked) (begun : decoder.Begun next) : next.Walked := by
  have reads : next.headerReads = decoder.position :: decoder.chunkBases := by
    rw [headerReads, begun.entering_eq, begun.chunkBases_eq]
    rfl
  have position := begun.position_eq_add
  have ends := begun.ends
  refine ⟨begun.inside, ?_, ?_, reads ▸ walked.apart_cons, reads ▸ walked.first_cons⟩
  · rw [begun.chunkBases_eq]
    exact List.cons_ne_nil _ _
  · rw [begun.chunkBases_eq]
    refine List.forall_mem_cons.mpr ⟨by omega, fun base among => ?_⟩
    have reached := (walked.behind base among).1
    omega

theorem breakOff (walked : decoder.Walked) (broken : decoder.BrokenOff next) : next.Walked := by
  have entered : decoder.enter.Walked :=
    ⟨walked.inside, walked.begun, walked.behind, walked.apart_cons, walked.first_cons⟩
  exact broken.holds entered.move

theorem deliver (walked : decoder.Walked)
    (reached : decoder.position + 1 ≤ decoder.cursor.file.size) :
    (decoder.advance 1).deliver.Walked := by
  have moved : (decoder.advance 1).Walked :=
    walked.move ⟨rfl, Nat.le_add_right _ _, fun _ => reached⟩
  exact ⟨moved.inside, moved.begun, moved.behind, moved.apart, moved.first⟩

theorem span (walked : decoder.Walked) (spans : decoder.Spans next) : next.Walked := by
  cases spans with
  | delivered inChunk reached => exact walked.deliver reached
  | missing => exact walked
  | crossed begun reached => exact (walked.atChunkEnd.begin begun).deliver reached
  | crossedMissing begun => exact walked.atChunkEnd.begin begun
  | brokenOff broken => exact walked.atChunkEnd.breakOff broken

end Walked

theorem positional_walked : Positional Walked where
  collecting := by
    intro decoder other same walked
    have reads : other.headerReads = decoder.headerReads := by
      rw [headerReads, same.entering_eq, same.chunkBases_eq]
      rfl
    refine ⟨?_, ?_, ?_, reads ▸ walked.apart, reads ▸ walked.first⟩
    · rw [same.position_eq, same.cursor_eq]
      exact walked.inside
    · rw [same.chunkBases_eq]
      exact walked.begun
    · rw [same.position_eq, same.chunkBases_eq, same.chunkEnd_eq]
      exact walked.behind
  moving leads walked := walked.move leads
  beginning := upholds_beginChunk Walked.begin Walked.breakOff
  ending _ walked := walked.atChunkEnd
  delivering decoder walked := walked.span decoder.spans_spanningByte

/-! ## The order of deliveries -/

/-- Every byte that was delivered stands behind those before. The decoder stands behind it too,
or is done with its chunk. -/
structure Ordered (decoder : Decoder) : Prop where
  inside : decoder.position ≤ decoder.cursor.file.size
  ascending : decoder.deliveries.Pairwise fun later earlier => earlier.offset < later.offset
  within : ∀ delivery ∈ decoder.deliveries,
    delivery.offset ≤ decoder.chunkEnd ∧ delivery.offset < decoder.cursor.file.size
  behind : ∀ delivery ∈ decoder.deliveries,
    delivery.offset < decoder.position ∨ decoder.chunkEnd ≤ decoder.position

namespace Ordered

theorem move {cursor : Cursor} (ordered : decoder.Ordered) (leads : decoder.cursor.Leads cursor) :
    Ordered { decoder with cursor := cursor } where
  inside := by
    change cursor.position ≤ cursor.file.size
    rw [leads.file_eq]
    exact leads.inside ordered.inside
  ascending := ordered.ascending
  within delivery among := by
    change _ ∧ _ < cursor.file.size
    rw [leads.file_eq]
    exact ordered.within delivery among
  behind delivery among :=
    (ordered.behind delivery among).imp (fun earlier => Nat.lt_of_lt_of_le earlier leads.forward)
      fun done => Nat.le_trans done leads.forward

theorem atChunkEnd (ordered : decoder.Ordered) : decoder.behindChunk.Ordered where
  inside := Nat.min_le_right _ _
  ascending := ordered.ascending
  within := ordered.within
  behind delivery among := by
    have short := (ordered.within delivery among).2
    change delivery.offset < min decoder.chunkEnd decoder.cursor.file.size ∨
      decoder.chunkEnd ≤ min decoder.chunkEnd decoder.cursor.file.size
    omega

theorem le_position (ordered : decoder.Ordered) {delivery : Delivery}
    (among : delivery ∈ decoder.deliveries) : delivery.offset ≤ decoder.position := by
  have within := (ordered.within delivery among).1
  have behind := ordered.behind delivery among
  omega

theorem lt_position (ordered : decoder.Ordered) (begun : decoder.Begun next) :
    ∀ delivery ∈ next.deliveries, delivery.offset < next.position := by
  intro delivery among
  rw [begun.deliveries_eq] at among
  have low := ordered.le_position among
  rw [begun.position_eq_add]
  exact Nat.lt_of_le_of_lt low (Nat.lt_add_of_pos_right (by decide))

theorem begin (ordered : decoder.Ordered) (begun : decoder.Begun next) : next.Ordered := by
  have size := congrArg Array.size begun.file_eq
  have before := ordered.lt_position begun
  refine ⟨begun.inside, begun.deliveries_eq ▸ ordered.ascending, fun delivery among => ?_,
    fun delivery among => .inl (before delivery among)⟩
  have ends := Nat.le_trans (Nat.le_of_lt (before delivery among)) begun.ends
  rw [begun.deliveries_eq] at among
  exact ⟨ends, size ▸ (ordered.within delivery among).2⟩

theorem breakOff (ordered : decoder.Ordered) (broken : decoder.BrokenOff next) :
    next.Ordered := by
  have entered : decoder.enter.Ordered :=
    ⟨ordered.inside, ordered.ascending, ordered.within, ordered.behind⟩
  exact broken.holds entered.move

theorem deliver (ordered : decoder.Ordered)
    (before : ∀ delivery ∈ decoder.deliveries, delivery.offset < decoder.position)
    (ends : decoder.position ≤ decoder.chunkEnd)
    (reached : decoder.position + 1 ≤ decoder.cursor.file.size) :
    (decoder.advance 1).deliver.Ordered where
  inside := reached
  ascending := .cons before ordered.ascending
  within := List.forall_mem_cons.mpr ⟨⟨ends, reached⟩, ordered.within⟩
  behind := List.forall_mem_cons.mpr ⟨.inl (Nat.lt_succ_self _), fun delivery among =>
    .inl (Nat.lt_succ_of_lt (before delivery among))⟩

theorem span (ordered : decoder.Ordered) (spans : decoder.Spans next) : next.Ordered := by
  cases spans with
  | delivered inChunk reached =>
      have ends : decoder.position < decoder.chunkEnd := of_decide_eq_true inChunk
      refine ordered.deliver (fun delivery among => ?_) (Nat.le_of_lt ends) reached
      exact (ordered.behind delivery among).resolve_right (Nat.not_le.mpr ends)
  | missing => exact ordered
  | crossed begun reached =>
      exact (ordered.atChunkEnd.begin begun).deliver (ordered.atChunkEnd.lt_position begun)
        begun.ends reached
  | crossedMissing begun => exact ordered.atChunkEnd.begin begun
  | brokenOff broken => exact ordered.atChunkEnd.breakOff broken

end Ordered

theorem positional_ordered : Positional Ordered where
  collecting := by
    intro decoder other same ordered
    refine ⟨?_, same.deliveries_eq ▸ ordered.ascending, ?_, ?_⟩
    · rw [same.position_eq, same.cursor_eq]
      exact ordered.inside
    · rw [same.deliveries_eq, same.chunkEnd_eq, same.cursor_eq]
      exact ordered.within
    · rw [same.deliveries_eq, same.chunkEnd_eq, same.position_eq]
      exact ordered.behind
  moving leads ordered := ordered.move leads
  beginning := upholds_beginChunk Ordered.begin Ordered.breakOff
  ending _ ordered := ordered.atChunkEnd
  delivering decoder ordered := ordered.span decoder.spans_spanningByte

theorem ordered_start (file : Array UInt8) : (start file).Ordered :=
  ⟨Nat.min_le_right _ _, .nil, nofun, nofun⟩

/-! ## The number of headers -/

theorem Apart.length_le {bases : List Nat} {low high : Nat} (apart : Apart bases)
    (within : ∀ base ∈ bases, low ≤ base ∧ base + Chunk.headerLength ≤ high) :
    Chunk.headerLength * bases.length ≤ high - low := by
  induction bases generalizing high with
  | nil => exact Nat.zero_le _
  | cons base rest induction =>
      rw [Apart, List.pairwise_cons] at apart
      rw [List.forall_mem_cons] at within
      have fewer := induction apart.2 fun other among =>
        ⟨(within.2 other among).1, apart.1 other among⟩
      rw [List.length_cons, Nat.mul_succ]
      omega

structure ReadsApart (decoder : Decoder) : Prop where
  apart : Apart decoder.headerReads
  first : ∀ base ∈ decoder.headerReads, Chunk.firstOffset ≤ base

theorem Walked.readsApart (walked : decoder.Walked) : decoder.ReadsApart :=
  ⟨walked.apart, walked.first⟩

theorem readsApart_of_none (none : decoder.headerReads = []) : decoder.ReadsApart :=
  ⟨none ▸ .nil, none ▸ nofun⟩

theorem readsApart_of_one (one : decoder.headerReads = [Chunk.firstOffset]) : decoder.ReadsApart :=
  ⟨one ▸ List.pairwise_singleton _ _, by simp [one]⟩

theorem position_start {file : Array UInt8} (more : (start file).cursor.atEnd = false) :
    (start file).position = Chunk.firstOffset := by
  have inside : ¬file.size ≤ min Chunk.firstOffset file.size := of_decide_eq_false more
  change min Chunk.firstOffset file.size = Chunk.firstOffset
  omega

theorem walked_of_begun {file : Array UInt8} (more : (start file).cursor.atEnd = false)
    (begun : (start file).Begun next) : next.Walked := by
  have position := begun.position_eq
  have ends := begun.ends
  have bases : next.chunkBases = [Chunk.firstOffset] := by
    rw [begun.chunkBases_eq, position_start more]
    rfl
  have reads : next.headerReads = [Chunk.firstOffset] := by
    rw [headerReads, begun.entering_eq, bases]
    rfl
  rw [chunkBase, bases] at position
  rw [position] at ends
  have apart := readsApart_of_one reads
  refine ⟨begun.inside, by simp [bases], ?_, apart.apart, apart.first⟩
  rw [bases]
  exact List.forall_mem_singleton.mpr ⟨Nat.le_of_eq position.symm, ends⟩

theorem readsApart_of_run_chunks (file : Array UInt8) (limit : Nat) :
    (stop ((chunks limit).run (start file))).ReadsApart := by
  cases limit with
  | zero => exact readsApart_of_none rfl
  | succ limit =>
      rw [run_chunks_succ_eq]
      cases more : (start file).cursor.atEnd with
      | true => exact readsApart_of_none rfl
      | false =>
          have lasting := positional_walked.lasting
          rcases run_beginChunk_cases (start file) with
            ⟨kind, begun, ran, begins⟩ | ⟨error, failed, ran, broken⟩
          · have walked := walked_of_begun more begins
            rw [ran]
            dsimp only
            rw [if_neg Bool.false_ne_true]
            split
            · exact walked.readsApart
            · have kept := lasting.upholds_chunkBody kind begun walked
              cases body : (chunkBody kind).run begun with
              | error error failed =>
                  rw [body] at kept
                  exact kept.readsApart
              | ok value next =>
                  rw [body] at kept
                  exact (lasting.upholds_chunks limit _ kept.atChunkEnd).readsApart
          · rw [ran]
            dsimp only
            rw [if_neg Bool.false_ne_true]
            rcases broken with ⟨count, rfl, _⟩
            exact readsApart_of_one (by rw [← position_start more]; rfl)

end Decoder

/-! ## Files -/

namespace ObjectFile

open Decoder

def headerReads (bytes : List UInt8) : List Nat :=
  if bytes.take Chunk.magic.length ≠ Chunk.magic then
    []
  else
    (stop (decodeFile.run (start bytes.toArray))).headerReads.reverse

theorem readsApart_of_run_decodeFile (file : Array UInt8) :
    (stop (decodeFile.run (start file))).ReadsApart := by
  have apart := readsApart_of_run_chunks file file.size
  change (stop ((chunks file.size >>= fun _ => finish).run (start file))).ReadsApart
  cases ran : (chunks file.size).run (start file) with
  | error error failed =>
      rw [run_bind_of_error ran]
      rwa [ran] at apart
  | ok value last =>
      rw [run_bind_of_ok ran]
      rw [ran] at apart
      exact Lasting.upholds_finish last apart

theorem pairwise_headerReads (bytes : List UInt8) :
    (headerReads bytes).Pairwise fun earlier later => earlier + Chunk.headerLength ≤ later := by
  rw [headerReads]
  split
  · exact .nil
  · exact List.pairwise_reverse.mpr (readsApart_of_run_decodeFile bytes.toArray).apart

theorem firstOffset_le_of_mem_headerReads {bytes : List UInt8} {base : Nat}
    (among : base ∈ headerReads bytes) : Chunk.firstOffset ≤ base := by
  rw [headerReads] at among
  split at among
  · cases among
  · exact (readsApart_of_run_decodeFile bytes.toArray).first base (List.mem_reverse.mp among)

/-- The headers that were read completely: those of which no byte was missing. -/
def wholeHeaders (bytes : List UInt8) : List Nat :=
  (headerReads bytes).filter fun base => base + Chunk.headerLength ≤ bytes.length

theorem length_wholeHeaders_le (bytes : List UInt8) :
    (wholeHeaders bytes).length ≤ (bytes.length - Chunk.firstOffset) / Chunk.headerLength := by
  have apart : Apart (wholeHeaders bytes).reverse :=
    List.pairwise_reverse.mpr ((pairwise_headerReads bytes).filter _)
  have within : ∀ base ∈ (wholeHeaders bytes).reverse,
      Chunk.firstOffset ≤ base ∧ base + Chunk.headerLength ≤ bytes.length := by
    intro base among
    have whole := List.mem_filter.mp (List.mem_reverse.mp among)
    exact ⟨firstOffset_le_of_mem_headerReads whole.1, of_decide_eq_true whole.2⟩
  have few := apart.length_le within
  rw [List.length_reverse, Nat.mul_comm] at few
  exact (Nat.le_div_iff_mul_le (by decide)).mpr few

theorem pairwise_deliveries (bytes : List UInt8) :
    (deliveries bytes).Pairwise fun later earlier => earlier.offset < later.offset := by
  rw [deliveries]
  split
  · exact .nil
  · have ordered := positional_ordered.lasting.upholds_decodeFile _ (ordered_start bytes.toArray)
    exact ordered.ascending

end ObjectFile

end SuperHBench
