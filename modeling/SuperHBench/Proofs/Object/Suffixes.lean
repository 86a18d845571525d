import SuperHBench.Proofs.Object.InStep
import SuperHBench.Proofs.Object.WarnedRelocations

/-! # Bytes that are not looked at

A file may go on behind the chunk that ends it, and there are bytes in front of the first chunk
that carry nothing. Neither has an influence on what a file is decoded as, or on where it is
found to be incomplete. -/

namespace SuperHBench

namespace Decoder

/-- Whether the chunk that ends a file is up. -/
def atTermination (decoder : Decoder) : Bool :=
  !decoder.cursor.atEnd &&
    match beginChunk.run decoder with
    | .ok kind _ => kind = .termination
    | .error _ _ => false

/-- Reading chunks comes to the chunk that ends a file, and this decoder has read its header. -/
structure Closes (decoder last closed : Decoder) : Prop where
  passes : Passes decoder last
  more : last.cursor.atEnd = false
  begins : beginChunk.run last = .ok .termination closed

variable {files : Continuation} {entered : Bool} {decoder other last closed : Decoder}

theorem exists_closes_of_passes (passes : Passes decoder last)
    (stops : last.atTermination = true) : ∃ closed, Closes decoder last closed := by
  rw [atTermination, Bool.and_eq_true, Bool.not_eq_true'] at stops
  rcases stops with ⟨more, stops⟩
  cases begins : beginChunk.run last with
  | error error failed =>
      rw [begins] at stops
      cases stops
  | ok kind closed =>
      rw [begins] at stops
      exact ⟨closed, passes, more, of_decide_eq_true stops ▸ begins⟩

theorem Closes.readsChunks (closes : Closes decoder last closed) :
    ReadsChunks decoder (.ok ⟨⟩ closed) :=
  closes.passes.readsChunks (.terminated closes.more closes.begins)

theorem Closes.atEnd_eq_false (closes : Closes decoder last closed) :
    decoder.cursor.atEnd = false := by
  cases closes.passes with
  | start => exact closes.more
  | chunk reads => exact reads.more

theorem InStep.closes (inStep : decoder.InStep files entered other)
    (closes : Closes decoder last closed) :
    ∃ further finished, Closes other further finished ∧
      closed.InStep files true finished := by
  rcases inStep.passes closes.passes (.inl closes.more) with ⟨further, _, passes, onward⟩
  rcases matches_beginChunk onward closes.begins with ⟨finished, begins, level⟩
  exact ⟨further, finished, ⟨passes, onward.atEnd_eq_false closes.more, begins⟩, level⟩

theorem outcome_finish_cases (decoder : Decoder) :
    (∃ file, outcome (finish.run decoder) = .ok file) ∨
      outcome (finish.run decoder) = .error (.missingModule decoder.position) ∨
      outcome (finish.run decoder) = .error (.missingUnit decoder.position) := by
  rw [finish, run_get_bind]
  cases decoder.module with
  | none => exact .inr (.inl rfl)
  | some module =>
      cases decoder.unit with
      | none => exact .inr (.inr rfl)
      | some unit => exact .inl ⟨_, rfl⟩

end Decoder

/-! ## Files -/

namespace ObjectFile

open Decoder

variable {bytes other : List UInt8} {last closed : Decoder}

def StopsAtTermination (bytes : List UInt8) : Prop :=
  bytes.take Chunk.magic.length = Chunk.magic ∧
    ∃ last ∈ passed bytes.length (start bytes.toArray), last.atTermination = true

instance (bytes : List UInt8) : Decidable (StopsAtTermination bytes) :=
  inferInstanceAs (Decidable (_ ∧ _))

theorem exists_closes (stops : StopsAtTermination bytes) :
    ∃ last closed, Closes (start bytes.toArray) last closed := by
  rcases stops with ⟨_, last, among, closes⟩
  rcases exists_closes_of_passes (passes_of_mem_passed among) closes with ⟨closed, closes⟩
  exact ⟨last, closed, closes⟩

theorem take_magic_eq (enough : Chunk.magic.length ≤ bytes.length)
    (same : ∀ index < bytes.length, index < Chunk.magic.length → other[index]? = bytes[index]?) :
    other.take Chunk.magic.length = bytes.take Chunk.magic.length := by
  refine List.ext_getElem? fun index => ?_
  rw [List.getElem?_take, List.getElem?_take]
  by_cases inside : index < Chunk.magic.length
  · rw [if_pos inside, if_pos inside, same index (Nat.lt_of_lt_of_le inside enough) inside]
  · rw [if_neg inside, if_neg inside]

/-- Decoding depends on the bytes up to the chunk that ends the file, and not even on all of
these. -/
theorem decode_eq_of_agreeing (stops : StopsAtTermination bytes)
    (longer : bytes.length ≤ other.length)
    (same : ∀ index < bytes.length, index < Chunk.magic.length ∨ Chunk.firstOffset ≤ index →
      other[index]? = bytes[index]?) :
    decode other = decode bytes := by
  rcases exists_closes stops with ⟨last, closed, closes⟩
  have covered := Nat.le_of_lt (firstOffset_lt closes.atEnd_eq_false)
  have enough : Chunk.magic.length ≤ bytes.length := Nat.le_trans (by decide) covered
  have magic := take_magic_eq enough fun index inside front => same index inside (.inl front)
  have inStep := inStep_start covered longer fun index inside behind =>
    same index inside (.inr behind)
  rcases inStep.closes closes with ⟨further, finished, again, level⟩
  rw [decode_eq_outcome stops.1 closes.readsChunks,
    decode_eq_outcome (magic.trans stops.1) again.readsChunks]
  exact level.outcome_finish_eq rfl

/-- Nothing behind the chunk that ends a file and nothing between its magic number and its first
chunk has an influence on the result. -/
structure Sealed (bytes : List UInt8) : Prop where
  result : (∃ file, decode bytes = .ok file) ∨
    (∃ offset, decode bytes = .error (.missingModule offset)) ∨
    ∃ offset, decode bytes = .error (.missingUnit offset)
  suffix : ∀ suffix, decode (bytes ++ suffix) = decode bytes
  filler : ∀ other : List UInt8, other.length = bytes.length →
    (∀ index, index < Chunk.magic.length ∨ Chunk.firstOffset ≤ index →
      other[index]? = bytes[index]?) →
    decode other = decode bytes

theorem sealed_of_stopsAtTermination (stops : StopsAtTermination bytes) : Sealed bytes where
  result := by
    rcases exists_closes stops with ⟨last, closed, closes⟩
    rw [decode_eq_outcome stops.1 closes.readsChunks]
    rcases outcome_finish_cases closed with accepted | missing | missing
    · exact .inl accepted
    · exact .inr (.inl ⟨_, missing⟩)
    · exact .inr (.inr ⟨_, missing⟩)
  suffix suffix := by
    have longer : bytes.length ≤ (bytes ++ suffix).length :=
      List.length_append ▸ Nat.le_add_right _ _
    exact decode_eq_of_agreeing stops longer fun _ inside _ => List.getElem?_append_left inside
  filler _ length same :=
    decode_eq_of_agreeing stops (Nat.le_of_eq length.symm) fun index _ => same index

theorem truncated_sealed : StopsAtTermination truncated ∧ Sealed truncated :=
  have stops : StopsAtTermination truncated := by decide +kernel
  ⟨stops, sealed_of_stopsAtTermination stops⟩

/-- The place where a header is missed is that of the chunk that ends the file. -/
example : decode (Chunk.magic ++ List.replicate 28 0 ++ ChunkText.termination.bytes) =
    .error (.missingModule 35) := rfl

end ObjectFile

end SuperHBench
