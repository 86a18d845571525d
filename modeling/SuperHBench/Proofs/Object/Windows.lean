import SuperHBench.Proofs.Object.Records

/-! # Bytes ahead of a decoder

Actions of a decoder are described by the bytes they use up and by what they collect. A
window is a way to see the bytes ahead: those of the current chunk, or those of a row of
chunks with the headers left out, which is how records that run on see them. -/

namespace SuperHBench

structure Collected where
  module : Option ModuleHeader := none
  unit : Option ObjectUnit := none
  selected : Option Nat := none
  imports : List ImportSymbol := []
  warnings : List FormatWarning := []
deriving DecidableEq, Repr

def Decoder.collected (decoder : Decoder) : Collected :=
  ⟨decoder.module, decoder.unit, decoder.selected, decoder.imports, decoder.warnings⟩

/-! ## Windows -/

abbrev Window := Cursor → Nat → List UInt8 → Prop

namespace Window

/-- The bytes of the current chunk that are left, before others. -/
structure Within (tail : List UInt8) (cursor : Cursor) (chunkEnd : Nat) (current : List UInt8) :
    Prop where
  before : cursor.Before (current ++ tail)
  ends : chunkEnd = cursor.position + current.length

/-- What the payloads of chunks of one kind say together, before other bytes. All but the
current chunk have a payload. -/
def Spanning (kind : ChunkKind) (tail : List UInt8) (cursor : Cursor) (chunkEnd : Nat)
    (stream : List UInt8) : Prop :=
  ∃ (current : List UInt8) (pieces : List ChunkText),
    Within (pieces.flatMap ChunkText.bytes ++ tail) cursor chunkEnd current ∧
    (∀ piece ∈ pieces, piece.IsPiece kind) ∧
    stream = current ++ pieces.flatMap ChunkText.payload

variable {tail bytes rest : List UInt8} {cursor : Cursor} {chunkEnd : Nat}

theorem Within.advance (within : Within tail cursor chunkEnd (bytes ++ rest)) :
    Within tail (cursor.advance bytes.length) chunkEnd rest := by
  have before := within.before
  rw [List.append_assoc] at before
  refine ⟨before.advance, ?_⟩
  rw [within.ends, List.length_append]
  exact (Nat.add_assoc _ _ _).symm

end Window

namespace Decoder

def Sees (decoder : Decoder) (window : Window) (bytes : List UInt8) : Prop :=
  window decoder.cursor decoder.chunkEnd bytes

def advance (decoder : Decoder) (count : Nat) : Decoder :=
  { decoder with cursor := decoder.cursor.advance count }

theorem run_get_bind (next : Decoder → Decoding α) (decoder : Decoder) :
    (get >>= next).run decoder = (next decoder).run decoder :=
  rfl

theorem run_bind_of_ok {action : Decoding α} {next : α → Decoding β} {value : α}
    {decoder between : Decoder} (ran : action.run decoder = .ok value between) :
    (action >>= next).run decoder = (next value).run between := by
  rw [EStateM.run_bind, ran]

theorem run_bind_of_error {action : Decoding α} {next : α → Decoding β} {error : FormatError}
    {decoder between : Decoder} (ran : action.run decoder = .error error between) :
    (action >>= next).run decoder = .error error between := by
  rw [EStateM.run_bind, ran]

theorem run_liftM (reading : Reading α) (decoder : Decoder) :
    (liftM reading : Decoding α).run decoder =
      match reading.run decoder.cursor with
      | .ok value cursor => .ok value { decoder with cursor := cursor }
      | .error error cursor => .error error { decoder with cursor := cursor } :=
  rfl

theorem run_liftM_of_reads {reading : Reading α} {bytes rest : List UInt8} {value : α}
    {decoder : Decoder} (reads : Cursor.Reads reading bytes value)
    (before : decoder.cursor.Before (bytes ++ rest)) :
    (liftM reading : Decoding α).run decoder = .ok value (decoder.advance bytes.length) := by
  rw [run_liftM, reads decoder.cursor rest before]
  rfl

theorem inChunk_of_within {decoder : Decoder} {tail current : List UInt8}
    (within : decoder.Sees (.Within tail) current) :
    decoder.inChunk = true ↔ current ≠ [] := by
  have ends := within.ends
  rw [inChunk, decide_eq_true_eq, ends, ← List.length_pos_iff, position]
  omega

theorem not_inChunk_of_within {decoder : Decoder} {tail : List UInt8}
    (within : decoder.Sees (.Within tail) []) : decoder.inChunk = false :=
  Bool.eq_false_iff.mpr fun inChunk => (inChunk_of_within within).mp inChunk rfl

end Decoder

/-! ## Actions -/

/-- Wherever a decoder that has collected certain things sees certain bytes, whatever else
it sees after them, the action uses them up and returns a value, with certain things
collected. -/
def UsesUp (window : Window) (action : Decoding α) (before : Collected) (bytes : List UInt8)
    (value : α) (after : Collected) : Prop :=
  ∀ decoder rest, decoder.collected = before → decoder.Sees window (bytes ++ rest) →
    ∃ next, action.run decoder = .ok value next ∧ next.collected = after ∧
      next.Sees window rest

section

variable {window : Window} {before middle after : Collected} {bytes first second : List UInt8}

theorem usesUp_pure (value : α) : UsesUp window (pure value) before [] value before :=
  fun decoder _ collected sees => ⟨decoder, rfl, collected, sees⟩

theorem UsesUp.bind {action : Decoding α} {next : α → Decoding β} {value : α} {result : β}
    (usesUp : UsesUp window action before first value middle)
    (others : UsesUp window (next value) middle second result after) :
    UsesUp window (action >>= next) before (first ++ second) result after := by
  intro decoder rest collected sees
  rw [List.append_assoc] at sees
  rcases usesUp decoder _ collected sees with ⟨between, ran, collected, sees⟩
  rcases others between rest collected sees with ⟨last, ranNext, collected, sees⟩
  exact ⟨last, (Decoder.run_bind_of_ok ran).trans ranNext, collected, sees⟩

theorem UsesUp.andThen {action : Decoding α} {next : α → Decoding β} {value : α} {result : β}
    (usesUp : UsesUp window action before bytes value middle)
    (others : UsesUp window (next value) middle [] result after) :
    UsesUp window (action >>= next) before bytes result after := by
  have both := usesUp.bind others
  rwa [List.append_nil] at both

theorem usesUp_get_bind {next : Decoder → Decoding β} {result : β}
    (others : ∀ decoder : Decoder, decoder.collected = before →
      UsesUp window (next decoder) before bytes result after) :
    UsesUp window (get >>= next) before bytes result after :=
  fun decoder rest collected sees => others decoder collected decoder rest collected sees

theorem usesUp_modify {change : Decoder → Decoder}
    (cursor_eq : ∀ decoder : Decoder, (change decoder).cursor = decoder.cursor)
    (chunkEnd_eq : ∀ decoder : Decoder, (change decoder).chunkEnd = decoder.chunkEnd)
    (collects : ∀ decoder : Decoder, decoder.collected = before →
      (change decoder).collected = after) :
    UsesUp window (modify change) before [] ⟨⟩ after := by
  intro decoder rest collected sees
  refine ⟨change decoder, rfl, collects decoder collected, ?_⟩
  rw [Decoder.Sees, cursor_eq, chunkEnd_eq]
  exact sees

theorem usesUp_unless {found : Prop} [Decidable found] {error : FormatError}
    {next : PUnit → Decoding β} {result : β} (fine : ¬ found)
    (others : UsesUp window (next ⟨⟩) before bytes result after) :
    UsesUp window (if found then throw error >>= next else next ⟨⟩) before bytes result
      after := by
  rwa [if_neg fine]

theorem usesUp_liftM {reading : Reading α} {value : α} {tail : List UInt8}
    (reads : Cursor.Reads reading bytes value) :
    UsesUp (.Within tail) (liftM reading) before bytes value before := by
  intro decoder rest collected within
  have ahead := within.before
  rw [List.append_assoc] at ahead
  exact ⟨_, Decoder.run_liftM_of_reads reads ahead, collected, within.advance⟩

theorem usesUp_byte_bind {next : UInt8 → Decoding β} {byte : UInt8} {result : β}
    {tail : List UInt8} (others : UsesUp (.Within tail) (next byte) before bytes result after) :
    UsesUp (.Within tail) (liftM Cursor.byte >>= next) before (byte :: bytes) result after :=
  (usesUp_liftM (Cursor.reads_byte byte)).bind others

theorem usesUp_skip_bind {next : PUnit → Decoding β} {result : β} {tail : List UInt8}
    (skipped : List UInt8) (others : UsesUp (.Within tail) (next ⟨⟩) before bytes result after) :
    UsesUp (.Within tail) (liftM (Cursor.skip skipped.length) >>= next) before
      (skipped ++ bytes) result after :=
  (usesUp_liftM (Cursor.reads_skip rfl)).bind others

end

/-! ## Sections -/

namespace Collected

def target (collected : Collected) (unit : ObjectUnit) : Nat :=
  collected.selected.getD (unit.sections.length - 1)

def withSections (collected : Collected) (unit : ObjectUnit) (sections : List Section) :
    Collected :=
  { collected with unit := some { unit with sections := sections } }

end Collected

namespace Decoder

variable {window : Window} {before : Collected} {unit : ObjectUnit} {part changed : Section}
  {index : Nat}

theorem usesUp_requireUnit (unit_eq : before.unit = some unit) :
    UsesUp window requireUnit before [] unit before := by
  refine usesUp_get_bind fun decoder collected => ?_
  have found : decoder.unit = some unit := (congrArg Collected.unit collected).trans unit_eq
  rw [found]
  exact usesUp_pure unit

theorem usesUp_setUnit (unit : ObjectUnit) :
    UsesUp window (modify fun decoder => { decoder with unit := some unit }) before [] ⟨⟩
      { before with unit := some unit } :=
  usesUp_modify (fun _ => rfl) (fun _ => rfl) fun _ collected => by rw [← collected]; rfl

theorem usesUp_updateSection {missing : FormatError}
    {update : Section → Except FormatError Section}
    (found : unit.sections[index]? = some part) (updated : update part = .ok changed) :
    UsesUp window (updateSection unit index missing update) before [] ⟨⟩
      (before.withSections unit (unit.sections.set index changed)) := by
  rw [updateSection, found]
  dsimp only
  rw [updated]
  exact usesUp_setUnit _

theorem usesUp_updateCurrentSection {update : Section → Except FormatError Section}
    (unit_eq : before.unit = some unit)
    (found : unit.sections[before.target unit]? = some part) (updated : update part = .ok changed) :
    UsesUp window (updateCurrentSection update) before [] ⟨⟩
      (before.withSections unit (unit.sections.set (before.target unit) changed)) := by
  refine (usesUp_requireUnit unit_eq).bind (usesUp_get_bind fun decoder collected => ?_)
  have selected_eq : decoder.selected = before.selected := congrArg Collected.selected collected
  cases selected : decoder.selected with
  | some index =>
      have target : index = before.target unit := by
        rw [Collected.target, ← selected_eq, selected, Option.getD]
      change UsesUp window
        (updateSection unit index (.unknownSection index decoder.chunkBase) update) _ _ _ _
      rw [target]
      exact usesUp_updateSection found updated
  | none =>
      have target : unit.sections.length - 1 = before.target unit := by
        rw [Collected.target, ← selected_eq, selected, Option.getD]
      cases count : unit.sections.length with
      | zero =>
          rw [List.eq_nil_of_length_eq_zero count] at found
          contradiction
      | succ last =>
          rw [count, Nat.add_sub_cancel] at target
          change UsesUp window
            (updateSection unit last (.unknownSection last decoder.chunkBase) update) _ _ _ _
          rw [target]
          exact usesUp_updateSection found updated

end Decoder

/-! ## Bytes that may be in the next chunk -/

def Window.Delivers (window : Window) : Prop :=
  ∀ (before : Collected) (byte : UInt8),
    UsesUp window Decoder.spanningByte before [byte] byte before

namespace Decoder

variable {window : Window} {before : Collected} {bytes : List UInt8}

def inside (decoder : Decoder) (chunk : ChunkText) : Decoder :=
  { decoder.advance Chunk.headerLength with
    entering := none
    chunkBases := decoder.position :: decoder.chunkBases
    chunkEnd := decoder.position + (chunk.payload.length + Chunk.headerLength) }

/-- What a header starts with carries nothing. -/
theorem run_beginChunk_of_lead {decoder : Decoder} {chunk : ChunkText} {rest : List UInt8}
    (lead : UInt8) (short : chunk.payload.length ≤ ChunkText.maxPayload)
    (ahead : decoder.cursor.Before (lead :: chunk.code ::
      UInt8.ofNat (chunk.payload.length + Chunk.headerLength) :: (chunk.payload ++ rest))) :
    beginChunk.run decoder = .ok chunk.kind (decoder.inside chunk) := by
  have length : (UInt8.ofNat (chunk.payload.length + Chunk.headerLength)).toNat =
      chunk.payload.length + Chunk.headerLength := by
    rw [ChunkText.maxPayload] at short
    rw [UInt8.toNat_ofNat', Chunk.headerLength]
    exact Nat.mod_eq_of_lt (by omega)
  have first : decoder.enter.cursor.Before
      ([lead] ++ ([chunk.code] ++ ([UInt8.ofNat (chunk.payload.length + Chunk.headerLength)] ++
        (chunk.payload ++ rest)))) := ahead
  change (liftM Cursor.byte >>= _ : Decoding ChunkKind).run decoder.enter = _
  refine (run_bind_of_ok (run_liftM_of_reads (Cursor.reads_byte lead) first)).trans ?_
  refine (run_bind_of_ok (run_liftM_of_reads (Cursor.reads_byte chunk.code) first.advance)).trans ?_
  refine (run_bind_of_ok (run_liftM_of_reads (Cursor.reads_byte _) first.advance.advance)).trans ?_
  rw [length, if_neg (by omega), Nat.max_eq_left (by omega)]
  rfl

theorem run_beginChunk {decoder : Decoder} {chunk : ChunkText} {rest : List UInt8}
    (short : chunk.payload.length ≤ ChunkText.maxPayload)
    (ahead : decoder.cursor.Before (chunk.bytes ++ rest)) :
    beginChunk.run decoder = .ok chunk.kind (decoder.inside chunk) :=
  run_beginChunk_of_lead 0 short ahead

theorem sees_inside_of_lead {decoder : Decoder} {chunk : ChunkText} {rest : List UInt8}
    {lead length : UInt8}
    (ahead : decoder.cursor.Before (lead :: chunk.code :: length :: (chunk.payload ++ rest))) :
    (decoder.inside chunk).Sees (.Within rest) chunk.payload := by
  constructor
  · have header : decoder.cursor.Before ([lead, chunk.code, length] ++ (chunk.payload ++ rest)) :=
      ahead
    exact header.advance
  · change decoder.cursor.position + _ = decoder.cursor.position + _ + _
    omega

theorem sees_inside {decoder : Decoder} {chunk : ChunkText} {rest : List UInt8}
    (ahead : decoder.cursor.Before (chunk.bytes ++ rest)) :
    (decoder.inside chunk).Sees (.Within rest) chunk.payload :=
  sees_inside_of_lead ahead

theorem run_seek_chunkEnd {decoder : Decoder} {tail : List UInt8}
    (within : decoder.Sees (.Within tail) []) :
    (seek decoder.chunkEnd).run decoder = .ok ⟨⟩ decoder := by
  have ends : decoder.chunkEnd = decoder.cursor.position := within.ends
  have stays : decoder.cursor.seek decoder.chunkEnd = decoder.cursor := by
    rw [ends, within.before.seek_position]
  change EStateM.Result.ok PUnit.unit
    { decoder with cursor := decoder.cursor.seek decoder.chunkEnd } = _
  rw [stays]

theorem run_continueChunk {decoder : Decoder} {chunk : ChunkText} {tail : List UInt8}
    (short : chunk.payload.length ≤ ChunkText.maxPayload)
    (within : decoder.Sees (.Within (chunk.bytes ++ tail)) []) :
    continueChunk.run decoder = .ok ⟨⟩ (decoder.inside chunk) := by
  change (seek decoder.chunkEnd >>= fun _ => beginChunk >>= fun _ =>
    pure PUnit.unit : Decoding PUnit).run decoder = _
  rw [run_bind_of_ok (run_seek_chunkEnd within),
    run_bind_of_ok (run_beginChunk short within.before)]
  rfl

theorem run_spanningByte {decoder : Decoder} (inChunk : decoder.inChunk = true) :
    spanningByte.run decoder =
      (do let byte ← Cursor.byte; modify deliver; return byte : Decoding UInt8).run decoder := by
  change (if decoder.inChunk = true then _ else _ : Decoding UInt8).run decoder = _
  rw [if_pos inChunk]

theorem delivers_within (tail : List UInt8) : Window.Delivers (.Within tail) := by
  intro before byte decoder rest collected within
  have inChunk : decoder.inChunk = true := (inChunk_of_within within).mpr (by simp)
  rw [run_spanningByte inChunk]
  have delivered : UsesUp (.Within tail) (modify deliver) before [] ⟨⟩ before :=
    usesUp_modify (fun _ => rfl) (fun _ => rfl) fun _ collected => collected
  exact usesUp_byte_bind (delivered.andThen (usesUp_pure byte)) decoder rest collected within

theorem run_spanningByte_crossing {decoder : Decoder} {chunk : ChunkText} {kind : ChunkKind}
    {tail : List UInt8} (piece : chunk.IsPiece kind)
    (within : decoder.Sees (.Within (chunk.bytes ++ tail)) []) :
    spanningByte.run decoder = spanningByte.run (decoder.inside chunk) := by
  have outside : decoder.inChunk ≠ true := Bool.eq_false_iff.mp (not_inChunk_of_within within)
  have inChunk : (decoder.inside chunk).inChunk = true :=
    (inChunk_of_within (sees_inside within.before)).mpr piece.nonempty
  rw [run_spanningByte inChunk]
  change (if decoder.inChunk = true then _ else _ : Decoding UInt8).run decoder = _
  rw [if_neg outside]
  exact run_bind_of_ok (run_continueChunk piece.short within)

theorem delivers_spanning (kind : ChunkKind) (tail : List UInt8) :
    Window.Delivers (.Spanning kind tail) := by
  intro before byte decoder rest collected
  rintro ⟨current, pieces, within, arePieces, stream⟩
  cases current with
  | cons first current =>
      rcases List.cons_eq_cons.mp stream with ⟨rfl, rfl⟩
      rcases delivers_within _ before byte decoder current collected within with
        ⟨next, ran, collected, within⟩
      exact ⟨next, ran, collected, current, pieces, within, arePieces, rfl⟩
  | nil =>
      cases pieces with
      | nil => simp at stream
      | cons piece pieces =>
          have isPiece := arePieces piece List.mem_cons_self
          rw [List.flatMap_cons, List.append_assoc] at within
          rw [run_spanningByte_crossing isPiece within]
          rcases List.exists_cons_of_ne_nil isPiece.nonempty with ⟨first, current, payload⟩
          rw [List.flatMap_cons, payload] at stream
          rcases List.cons_eq_cons.mp stream with ⟨rfl, rfl⟩
          have entered := sees_inside within.before
          rw [payload] at entered
          rcases delivers_within _ before byte (decoder.inside piece) current collected entered with
            ⟨next, ran, collected, within⟩
          exact ⟨next, ran, collected, current, pieces, within,
            fun other among => arePieces other (List.mem_cons_of_mem _ among), rfl⟩

theorem usesUp_spanningBytes (delivers : window.Delivers) (bytes : List UInt8) :
    UsesUp window (spanningBytes bytes.length) before bytes bytes before := by
  induction bytes with
  | nil => exact usesUp_pure []
  | cons byte bytes induction =>
      exact (delivers before byte).bind (induction.andThen (usesUp_pure (byte :: bytes)))

theorem usesUp_spanningNumber (delivers : window.Delivers) {count : Nat}
    (length : bytes.length = count) :
    UsesUp window (spanningNumber count) before bytes (Cursor.bigEndian bytes) before := by
  subst length
  exact (usesUp_spanningBytes delivers bytes).andThen (usesUp_pure _)

theorem usesUp_spanningName (delivers : window.Delivers) {name : List UInt8}
    (short : name.length < 256) :
    UsesUp window spanningName before (Cursor.prefixedBytes name) (nameOf name) before := by
  have length : (UInt8.ofNat name.length).toNat = name.length := by
    rw [UInt8.toNat_ofNat']
    exact Nat.mod_eq_of_lt short
  refine (delivers before (UInt8.ofNat name.length)).bind ?_
  rw [length]
  exact (usesUp_spanningBytes delivers name).andThen (usesUp_pure _)

end Decoder

end SuperHBench
