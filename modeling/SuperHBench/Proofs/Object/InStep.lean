import SuperHBench.Proofs.Object.Chunks
import SuperHBench.Proofs.Object.Relocations
import SuperHBench.Proofs.Object.Termination

/-! # Decoding in step

A file may go on like another one from some place on: it has the bytes that the other one has
behind a place of its own, and perhaps more. Whatever succeeds behind that place in the shorter
file succeeds in the other file too, and comes to the same. -/

namespace SuperHBench

/-- A file, and another one that goes on from `there` as the file does from `here`. -/
structure Continuation where
  file : Array UInt8
  here : Nat
  other : Array UInt8
  there : Nat
  covered : here ≤ file.size
  longer : file.size + there ≤ other.size + here
  bytes : ∀ offset, here + offset < file.size → other[there + offset]? = file[here + offset]?
  /-- Whether offsets are to be the same in both files. -/
  level : Bool
  level_eq : level = true → here = there

namespace Continuation

def Even (files : Continuation) : Prop :=
  files.other.size + files.here = files.file.size + files.there

def Level (files : Continuation) : Prop :=
  files.level = true

end Continuation

/-! ## Readers -/

namespace Cursor

structure InStep (files : Continuation) (cursor other : Cursor) : Prop where
  file_eq : cursor.file = files.file
  other_eq : other.file = files.other
  reached : files.here ≤ cursor.position
  place : cursor.position + files.there = other.position + files.here

namespace InStep

variable {files : Continuation} {count : Nat} {cursor other : Cursor}

theorem advance (inStep : cursor.InStep files other) :
    (cursor.advance count).InStep files (other.advance count) where
  file_eq := inStep.file_eq
  other_eq := inStep.other_eq
  reached := Nat.le_add_right_of_le inStep.reached
  place := by
    have place := inStep.place
    simp only [Cursor.advance]
    omega

theorem extract_eq (inStep : cursor.InStep files other)
    (enough : cursor.position + count ≤ cursor.file.size) :
    (other.file.extract other.position (other.position + count)).toList =
      (cursor.file.extract cursor.position (cursor.position + count)).toList := by
  rcases Nat.exists_eq_add_of_le inStep.reached with ⟨start, position⟩
  have place := inStep.place
  have other_position : other.position = files.there + start := by omega
  rw [inStep.file_eq] at enough
  refine List.ext_getElem? fun offset => ?_
  simp only [Array.toList_extract, List.extract_eq_take_drop, List.getElem?_take,
    List.getElem?_drop, Nat.add_sub_cancel_left, Array.getElem?_toList]
  by_cases inside : offset < count
  · rw [if_pos inside, if_pos inside, position, other_position, Nat.add_assoc, Nat.add_assoc,
      inStep.file_eq, inStep.other_eq]
    exact files.bytes _ (by omega)
  · rw [if_neg inside, if_neg inside]

theorem enough (inStep : cursor.InStep files other)
    (enough : cursor.position + count ≤ cursor.file.size) :
    other.position + count ≤ other.file.size := by
  have place := inStep.place
  have longer := files.longer
  rw [inStep.file_eq] at enough
  rw [inStep.other_eq]
  omega

theorem seek {target goal : Nat} (inStep : cursor.InStep files other)
    (reached : files.here ≤ target) (place : target + files.there = goal + files.here)
    (inside : target ≤ cursor.file.size ∨ files.Even) :
    (cursor.seek target).InStep files (other.seek goal) where
  file_eq := inStep.file_eq
  other_eq := inStep.other_eq
  reached := by
    simp only [Cursor.seek, inStep.file_eq]
    exact Nat.le_min.mpr ⟨reached, files.covered⟩
  place := by
    have longer := files.longer
    rw [inStep.file_eq] at inside
    simp only [Cursor.seek, inStep.file_eq, inStep.other_eq]
    unfold Continuation.Even at inside
    omega

end InStep

/-- Where the reading succeeds, it reads the same value at the place that corresponds. -/
def Transfers (files : Continuation) (reading : Reading α) : Prop :=
  ∀ ⦃cursor other next : Cursor⦄ ⦃value : α⦄, cursor.InStep files other →
    reading.run cursor = .ok value next →
    ∃ further, reading.run other = .ok value further ∧ next.InStep files further

variable {files : Continuation}

theorem transfers_pure (value : α) : Transfers files (pure value) := by
  intro cursor other next result inStep ran
  cases ran
  exact ⟨other, rfl, inStep⟩

theorem Transfers.bind {reading : Reading α} {next : α → Reading β}
    (transfers : Transfers files reading)
    (others : ∀ value, Transfers files (next value)) :
    Transfers files (reading >>= next) := by
  intro cursor other last result inStep ran
  rw [EStateM.run_bind] at ran
  cases outcome : reading.run cursor with
  | error error failed =>
      rw [outcome] at ran
      cases ran
  | ok value between =>
      rw [outcome] at ran
      rcases transfers inStep outcome with ⟨middle, again, inStep⟩
      rcases others value inStep ran with ⟨further, rest, inStep⟩
      rw [EStateM.run_bind, again]
      exact ⟨further, rest, inStep⟩

theorem transfers_ite {condition : Prop} [Decidable condition] {first second : Reading α}
    (whenTrue : Transfers files first) (whenFalse : Transfers files second) :
    Transfers files (if condition then first else second) := by
  split
  · exact whenTrue
  · exact whenFalse

theorem transfers_take (count : Nat) : Transfers files (take count) := by
  intro cursor other next value inStep ran
  by_cases enough : cursor.position + count ≤ cursor.file.size
  · have taken : (take count).run cursor = .ok _ (cursor.advance count) := if_pos enough
    have again : (take count).run other = .ok _ (other.advance count) :=
      if_pos (inStep.enough enough)
    rw [taken] at ran
    cases ran
    rw [again, inStep.extract_eq enough]
    exact ⟨_, rfl, inStep.advance⟩
  · have missing : (take count).run cursor = .error _ cursor := if_neg enough
    rw [missing] at ran
    cases ran

theorem transfers_skip (count : Nat) : Transfers files (skip count) :=
  (transfers_take count).bind fun _ => transfers_pure _

theorem transfers_byte : Transfers files byte :=
  (transfers_take 1).bind fun _ => transfers_pure _

theorem transfers_bigWord : Transfers files bigWord :=
  (transfers_take 2).bind fun _ => transfers_pure _

theorem transfers_littleWord : Transfers files littleWord :=
  (transfers_take 2).bind fun _ => transfers_pure _

theorem transfers_bigLong : Transfers files bigLong :=
  (transfers_take 4).bind fun _ => transfers_pure _

theorem transfers_littleLong : Transfers files littleLong :=
  (transfers_take 4).bind fun _ => transfers_pure _

theorem transfers_prefixed : Transfers files prefixed :=
  transfers_byte.bind fun _ => transfers_take _

theorem transfers_entryPoint (kind : UInt8) : Transfers files (Decoder.entryPoint kind) :=
  transfers_byte.bind fun _ => transfers_ite (transfers_pure _)
    (transfers_ite (transfers_littleLong.bind fun _ => transfers_pure _)
      (transfers_littleWord.bind fun _ => transfers_littleWord.bind fun _ => transfers_pure _))

end Cursor

/-! ## Actions -/

namespace Decoder

/-- The decoders stand at places that correspond and have collected the same, and warnings too if
offsets are the same in both files. Once a chunk has been entered behind the common
place, so do the ends of their chunks. -/
structure InStep (files : Continuation) (entered : Bool) (decoder other : Decoder) : Prop where
  cursor : decoder.cursor.InStep files other.cursor
  chunk : entered = true →
    files.here ≤ decoder.chunkEnd ∧
      decoder.chunkEnd + files.there = other.chunkEnd + files.here
  module_eq : other.module = decoder.module
  unit_eq : other.unit = decoder.unit
  selected_eq : other.selected = decoder.selected
  imports_eq : other.imports = decoder.imports
  exact : files.Level →
    other.chunkBases = decoder.chunkBases ∧ other.warnings = decoder.warnings

/-- Where the one action succeeds, the other one does from a decoder that is related, and has
the same value. -/
def Matches (before after : Decoder → Decoder → Prop) (action again : Decoding α) : Prop :=
  ∀ ⦃decoder other next : Decoder⦄ ⦃value : α⦄, before decoder other →
    action.run decoder = .ok value next →
    ∃ further, again.run other = .ok value further ∧ after next further

section Rules

variable {before between after : Decoder → Decoder → Prop}

theorem matches_pure (value : α) : Matches before before (pure value) (pure value) := by
  intro decoder other next result related ran
  cases ran
  exact ⟨other, rfl, related⟩

theorem matches_throw (error : FormatError) (again : Decoding α) :
    Matches before after (throw error) again := by
  intro decoder other next result related ran
  cases ran

theorem Matches.bind {action again : Decoding α} {next further : α → Decoding β}
    (first : Matches before between action again)
    (others : ∀ value, Matches between after (next value) (further value)) :
    Matches before after (action >>= next) (again >>= further) := by
  intro decoder other last result related ran
  rcases run_bind_eq_ok ran with ⟨value, middle, here, rest⟩
  rcases first related here with ⟨stop, there, related⟩
  rcases others value related rest with ⟨end_, ended, related⟩
  exact ⟨end_, (run_bind_of_ok there).trans ended, related⟩

theorem matches_get_bind {next further : Decoder → Decoding α}
    (others : ∀ decoder other, before decoder other →
      Matches before after (next decoder) (further other)) :
    Matches before after (get >>= next) (get >>= further) :=
  fun decoder other _ _ related ran => others decoder other related related ran

theorem matches_modify {change again : Decoder → Decoder}
    (kept : ∀ decoder other, before decoder other → after (change decoder) (again other)) :
    Matches before after (modify change) (modify again) := by
  intro decoder other next result related ran
  cases ran
  exact ⟨again other, rfl, kept _ _ related⟩

theorem matches_ite {condition : Prop} [Decidable condition]
    {first second again further : Decoding α} (whenTrue : Matches before after first again)
    (whenFalse : Matches before after second further) :
    Matches before after (if condition then first else second)
      (if condition then again else further) := by
  split
  · exact whenTrue
  · exact whenFalse

theorem matches_unless {found : Prop} [Decidable found] {error cause : FormatError}
    {next further : PUnit → Decoding β} (others : Matches before after (next ⟨⟩) (further ⟨⟩)) :
    Matches before after (if found then throw error >>= next else next ⟨⟩)
      (if found then throw cause >>= further else further ⟨⟩) := by
  apply matches_ite
  · intro decoder other last result related ran
    cases ran
  · exact others

end Rules

variable {files : Continuation} {entered : Bool} {decoder other : Decoder}

theorem InStep.move {cursor next : Cursor} (inStep : decoder.InStep files entered other)
    (moved : cursor.InStep files next) :
    InStep files entered { decoder with cursor := cursor } { other with cursor := next } :=
  ⟨moved, inStep.chunk, inStep.module_eq, inStep.unit_eq, inStep.selected_eq, inStep.imports_eq,
    inStep.exact⟩

theorem matches_liftM {reading : Reading α} (transfers : Cursor.Transfers files reading) :
    Matches (InStep files entered) (InStep files entered)
      (liftM reading) (liftM reading) := by
  intro decoder other next value inStep ran
  rw [run_liftM] at ran
  cases outcome : reading.run decoder.cursor with
  | error error failed =>
      rw [outcome] at ran
      cases ran
  | ok result cursor =>
      rw [outcome] at ran
      cases ran
      rcases transfers inStep.cursor outcome with ⟨further, again, moved⟩
      rw [run_liftM, again]
      exact ⟨_, rfl, inStep.move moved⟩

theorem matches_byte : Matches (InStep files entered) (InStep files entered)
    (liftM Cursor.byte) (liftM Cursor.byte) :=
  matches_liftM Cursor.transfers_byte

theorem matches_skip (count : Nat) : Matches (InStep files entered)
    (InStep files entered) (liftM (Cursor.skip count)) (liftM (Cursor.skip count)) :=
  matches_liftM (Cursor.transfers_skip count)

theorem matches_bigWord : Matches (InStep files entered) (InStep files entered)
    (liftM Cursor.bigWord) (liftM Cursor.bigWord) :=
  matches_liftM Cursor.transfers_bigWord

theorem matches_littleWord : Matches (InStep files entered) (InStep files entered)
    (liftM Cursor.littleWord) (liftM Cursor.littleWord) :=
  matches_liftM Cursor.transfers_littleWord

theorem matches_bigLong : Matches (InStep files entered) (InStep files entered)
    (liftM Cursor.bigLong) (liftM Cursor.bigLong) :=
  matches_liftM Cursor.transfers_bigLong

theorem matches_prefixed : Matches (InStep files entered) (InStep files entered)
    (liftM Cursor.prefixed) (liftM Cursor.prefixed) :=
  matches_liftM Cursor.transfers_prefixed

theorem matches_warn {warning again : FormatWarning} (same : files.Level → again = warning) :
    Matches (InStep files entered) (InStep files entered) (warn warning) (warn again) := by
  refine matches_modify fun decoder other inStep => ?_
  refine ⟨inStep.cursor, inStep.chunk, inStep.module_eq, inStep.unit_eq, inStep.selected_eq,
    inStep.imports_eq, fun level => ?_⟩
  rcases inStep.exact level with ⟨bases, warnings⟩
  exact ⟨bases, by rw [warnings, same level]⟩

/-! ## Chunk boundaries -/

theorem InStep.position_eq (inStep : decoder.InStep files entered other)
    (level : files.Level) : other.position = decoder.position := by
  have place := inStep.cursor.place
  have same := files.level_eq level
  unfold position
  omega

/-- A chunk begins behind the common place, so the decoders know where it ends. -/
theorem matches_beginChunk :
    Matches (InStep files entered) (InStep files true) beginChunk beginChunk := by
  refine matches_get_bind fun decoder other begins => ?_
  have entering : Matches (InStep files entered) (InStep files entered) (modify enter)
      (modify enter) := by
    refine matches_modify fun _ _ inStep => ?_
    exact ⟨inStep.cursor, inStep.chunk, inStep.module_eq, inStep.unit_eq, inStep.selected_eq,
      inStep.imports_eq, inStep.exact⟩
  refine entering.bind fun _ => matches_byte.bind fun _ => matches_byte.bind fun code => ?_
  refine matches_byte.bind fun length => matches_unless (Matches.bind ?_ fun _ => matches_pure _)
  refine matches_modify fun _ _ inStep => ?_
  have reached := begins.cursor.reached
  have place := begins.cursor.place
  refine ⟨inStep.cursor, fun _ => ⟨?_, ?_⟩, inStep.module_eq, inStep.unit_eq, inStep.selected_eq,
    inStep.imports_eq, fun level => ⟨?_, (inStep.exact level).2⟩⟩
  · exact Nat.le_add_right_of_le reached
  · simp only [position]
    omega
  · rw [begins.position_eq level, (inStep.exact level).1]

theorem begun_of_run {kind : ChunkKind} {next : Decoder}
    (ran : beginChunk.run decoder = .ok kind next) : decoder.Begun next := by
  rcases run_beginChunk_cases decoder with ⟨_, _, again, begun⟩ | ⟨_, _, fails, _⟩
  · rw [ran] at again
    cases again
    exact begun
  · rw [ran] at fails
    cases fails

theorem InStep.behindChunk (inStep : decoder.InStep files true other)
    (inside : decoder.chunkEnd ≤ decoder.cursor.file.size ∨ files.Even) :
    decoder.behindChunk.InStep files true other.behindChunk := by
  rcases inStep.chunk rfl with ⟨reached, place⟩
  exact inStep.move (inStep.cursor.seek reached place inside)

/-- Where the chunk goes on beyond the file, no other one follows. -/
theorem matches_continueChunk :
    Matches (InStep files true) (InStep files true) continueChunk continueChunk := by
  intro decoder other next value inStep ran
  have crossing (decoder : Decoder) : continueChunk.run decoder =
      (beginChunk >>= fun _ => pure PUnit.unit).run decoder.behindChunk := rfl
  rw [crossing] at ran ⊢
  rcases run_bind_eq_ok ran with ⟨kind, begun, begins, _⟩
  have header := begun_of_run begins
  have inside := header.inside
  rw [header.position_eq_add, header.file_eq] at inside
  have short : decoder.chunkEnd ≤ decoder.cursor.file.size := by
    have long : 0 < Chunk.headerLength := by decide
    change min decoder.chunkEnd decoder.cursor.file.size + _ ≤ decoder.cursor.file.size at inside
    omega
  exact (matches_beginChunk.bind fun _ => matches_pure _) (inStep.behindChunk (.inl short)) ran

theorem InStep.inChunk_eq (inStep : decoder.InStep files true other) :
    other.inChunk = decoder.inChunk := by
  have place := inStep.cursor.place
  have ends := (inStep.chunk rfl).2
  unfold inChunk position
  exact decide_eq_decide.mpr (by omega)

theorem matches_spanningByte :
    Matches (InStep files true) (InStep files true) spanningByte spanningByte := by
  have delivering : Matches (InStep files true) (InStep files true)
      (do let byte ← Cursor.byte; modify deliver; return byte : Decoding UInt8)
      (do let byte ← Cursor.byte; modify deliver; return byte : Decoding UInt8) := by
    refine matches_byte.bind fun _ => Matches.bind ?_ fun _ => matches_pure _
    refine matches_modify fun _ _ inStep => ?_
    exact ⟨inStep.cursor, inStep.chunk, inStep.module_eq, inStep.unit_eq, inStep.selected_eq,
      inStep.imports_eq, inStep.exact⟩
  refine matches_get_bind fun decoder other inStep => ?_
  rw [inStep.inChunk_eq]
  exact matches_ite delivering (matches_continueChunk.bind fun _ => delivering)

theorem matches_spanningBytes (count : Nat) :
    Matches (InStep files true) (InStep files true) (spanningBytes count)
      (spanningBytes count) := by
  induction count with
  | zero => exact matches_pure []
  | succ count induction =>
      exact matches_spanningByte.bind fun _ => induction.bind fun _ => matches_pure _

theorem matches_spanningNumber (count : Nat) :
    Matches (InStep files true) (InStep files true) (spanningNumber count)
      (spanningNumber count) :=
  (matches_spanningBytes count).bind fun _ => matches_pure _

theorem matches_spanningName :
    Matches (InStep files true) (InStep files true) spanningName spanningName :=
  matches_spanningByte.bind fun _ => (matches_spanningBytes _).bind fun _ => matches_pure _

/-! ## Sections -/

theorem matches_requireUnit :
    Matches (InStep files entered) (InStep files entered) requireUnit requireUnit := by
  refine matches_get_bind fun decoder other inStep => ?_
  rw [inStep.unit_eq]
  cases decoder.unit with
  | none => exact matches_throw _ _
  | some unit => exact matches_pure unit

theorem matches_setUnit (unit : ObjectUnit) :
    Matches (InStep files entered) (InStep files entered)
      (modify fun decoder => { decoder with unit := some unit })
      (modify fun decoder => { decoder with unit := some unit }) :=
  matches_modify fun _ _ inStep => ⟨inStep.cursor, inStep.chunk, inStep.module_eq, rfl,
    inStep.selected_eq, inStep.imports_eq, inStep.exact⟩

theorem matches_updateSection (unit : ObjectUnit) (index : Nat) (missing absent : FormatError)
    (update : Section → Except FormatError Section) :
    Matches (InStep files entered) (InStep files entered)
      (updateSection unit index missing update) (updateSection unit index absent update) := by
  unfold updateSection
  cases unit.sections[index]? with
  | none => exact matches_throw _ _
  | some part =>
      dsimp only
      cases update part with
      | error error => exact matches_throw _ _
      | ok changed => exact matches_setUnit _

theorem matches_updateCurrentSection (update : Section → Except FormatError Section) :
    Matches (InStep files entered) (InStep files entered)
      (updateCurrentSection update) (updateCurrentSection update) := by
  refine matches_requireUnit.bind fun unit => matches_get_bind fun decoder other inStep => ?_
  rw [inStep.selected_eq]
  cases decoder.selected with
  | some index => exact matches_updateSection unit index _ _ update
  | none =>
      cases unit.sections.length with
      | zero =>
          intro _ _ _ _ _ ran
          cases ran
      | succ last => exact matches_updateSection unit last _ _ update

/-! ## Bodies of chunks -/

theorem matches_moduleHeader : Matches (InStep files entered) (InStep files entered)
    moduleHeader moduleHeader := by
  refine matches_get_bind fun decoder other inStep => ?_
  rw [inStep.module_eq]
  refine matches_unless (matches_byte.bind fun kind => ?_)
  refine (matches_liftM (Cursor.transfers_take 12)).bind fun _ => ?_
  refine matches_bigWord.bind fun _ => matches_unless ?_
  refine (matches_skip 1).bind fun _ => ?_
  refine (matches_liftM (Cursor.transfers_take 4)).bind fun _ => ?_
  iterate 5 refine matches_byte.bind fun _ => ?_
  refine (matches_liftM (Cursor.transfers_entryPoint kind)).bind fun _ => ?_
  iterate 4 refine matches_prefixed.bind fun _ => ?_
  exact matches_modify fun _ _ inStep => ⟨inStep.cursor, inStep.chunk, rfl, inStep.unit_eq,
    inStep.selected_eq, inStep.imports_eq, inStep.exact⟩

theorem matches_unitHeader : Matches (InStep files entered) (InStep files entered)
    unitHeader unitHeader := by
  refine matches_get_bind fun decoder other inStep => ?_
  rw [inStep.module_eq, inStep.unit_eq]
  refine matches_unless (matches_unless (matches_byte.bind fun _ => ?_))
  iterate 3 refine matches_littleWord.bind fun _ => ?_
  iterate 2 refine matches_prefixed.bind fun _ => ?_
  exact (matches_liftM (Cursor.transfers_take 12)).bind fun _ => matches_setUnit _

theorem InStep.sectionCount_eq (inStep : decoder.InStep files entered other) :
    other.sectionCount = decoder.sectionCount := by
  rw [sectionCount, inStep.unit_eq]
  rfl

theorem matches_sectionHeader : Matches (InStep files entered) (InStep files entered)
    sectionHeader sectionHeader := by
  refine matches_get_bind fun decoder other inStep => ?_
  rw [inStep.sectionCount_eq]
  refine matches_byte.bind fun _ => ?_
  iterate 3 refine matches_bigLong.bind fun _ => ?_
  iterate 3 refine matches_byte.bind fun _ => ?_
  exact matches_prefixed.bind fun _ => matches_requireUnit.bind fun unit => matches_setUnit _

theorem matches_sectionSelection : Matches (InStep files entered)
    (InStep files entered) sectionSelection sectionSelection := by
  refine matches_get_bind fun decoder other inStep => ?_
  rw [inStep.sectionCount_eq]
  refine (matches_skip 2).bind fun _ => matches_bigWord.bind fun _ => matches_unless ?_
  exact matches_modify fun _ _ inStep => ⟨inStep.cursor, inStep.chunk, inStep.module_eq,
    inStep.unit_eq, rfl, inStep.imports_eq, inStep.exact⟩

theorem matches_objectData : Matches (InStep files entered) (InStep files entered)
    objectData objectData := by
  have stored (count : Nat) (flags : UInt8) (address : UInt32) :
      Matches (InStep files entered) (InStep files entered)
        (do
          let bytes ← liftM Cursor.prefixed
          updateCurrentSection (·.push ⟨flags, address, repeated count bytes⟩))
        (do
          let bytes ← liftM Cursor.prefixed
          updateCurrentSection (·.push ⟨flags, address, repeated count bytes⟩)) :=
    matches_prefixed.bind fun _ => matches_updateCurrentSection _
  refine matches_byte.bind fun _ => matches_bigLong.bind fun _ => ?_
  exact matches_ite (matches_bigLong.bind fun _ => stored _ _ _) (stored _ _ _)

theorem matches_importRecord :
    Matches (InStep files true) (InStep files true) importRecord importRecord := by
  refine matches_spanningByte.bind fun _ => matches_spanningName.bind fun _ => ?_
  refine matches_modify fun _ _ inStep => ⟨inStep.cursor, inStep.chunk, inStep.module_eq,
    inStep.unit_eq, inStep.selected_eq, ?_, inStep.exact⟩
  rw [inStep.imports_eq]

theorem matches_exportRecord :
    Matches (InStep files true) (InStep files true) exportRecord exportRecord := by
  refine matches_get_bind fun decoder other inStep => (matches_spanningNumber 2).bind fun _ => ?_
  refine matches_spanningByte.bind fun _ => (matches_spanningNumber 4).bind fun _ => ?_
  refine matches_spanningName.bind fun _ => matches_requireUnit.bind fun unit => ?_
  exact matches_updateSection unit _ _ _ _

theorem matches_expectTerminator : Matches (InStep files entered)
    (InStep files entered) expectTerminator expectTerminator :=
  matches_get_bind fun _ _ _ => matches_byte.bind fun _ =>
    matches_ite (matches_throw _ _) (matches_pure _)

theorem matches_relocationHead : Matches (InStep files entered)
    (InStep files entered) relocationHead relocationHead := by
  refine matches_get_bind fun _ _ _ => matches_byte.bind fun _ => matches_bigLong.bind fun _ => ?_
  iterate 4 refine matches_byte.bind fun _ => ?_
  refine matches_unless (matches_littleWord.bind fun _ => ?_)
  iterate 3 refine matches_byte.bind fun _ => ?_
  exact matches_pure _

theorem matches_externalRelocation (head : RelocationHead) {start begin : Nat}
    (same : files.Level → begin = start) (importIndex : Nat) (offset : UInt32) :
    Matches (InStep files entered) (InStep files entered)
      (externalRelocation head start importIndex offset)
      (externalRelocation head begin importIndex offset) := by
  refine matches_get_bind fun decoder other inStep => ?_
  rw [inStep.imports_eq]
  dsimp only
  cases decoder.imports[importIndex]? with
  | none =>
      refine (matches_warn fun level => ?_).bind fun _ => matches_expectTerminator
      rw [same level]
  | some symbol => exact matches_expectTerminator.bind fun _ => matches_updateCurrentSection _

theorem matches_longRelocation (address : UInt32) : Matches (InStep files entered)
    (InStep files entered) (longRelocation address) (longRelocation address) := by
  refine (matches_skip 1).bind fun _ => matches_byte.bind fun _ => ?_
  refine (matches_skip 2).bind fun _ => matches_bigLong.bind fun _ => ?_
  exact (matches_skip 1).bind fun _ => matches_expectTerminator.bind fun _ =>
    matches_updateCurrentSection _

theorem matches_shortRelocation (address : UInt32) : Matches (InStep files entered)
    (InStep files entered) (shortRelocation address) (shortRelocation address) :=
  matches_bigWord.bind fun _ => matches_expectTerminator.bind fun _ =>
    matches_updateCurrentSection _

theorem matches_relocationRecord : Matches (InStep files entered)
    (InStep files entered) relocationRecord relocationRecord := by
  refine matches_get_bind fun decoder other inStep => ?_
  have same := inStep.position_eq
  refine matches_relocationHead.bind fun head => matches_byte.bind fun discriminator => ?_
  split
  · have indexed : Matches (InStep files entered) (InStep files entered)
        (do
          let importIndex := (← liftM Cursor.byte).toNat
          externalRelocation head decoder.position importIndex 0)
        (do
          let importIndex := (← liftM Cursor.byte).toNat
          externalRelocation head other.position importIndex 0) :=
      matches_byte.bind fun _ => matches_externalRelocation head same _ _
    refine matches_get_bind fun _ _ current => matches_byte.bind fun high => ?_
    refine matches_ite ((matches_warn fun level => ?_).bind fun _ => indexed) indexed
    rw [current.position_eq level]
  · refine (matches_skip 4).bind fun _ => matches_byte.bind fun _ => ?_
    refine (matches_skip 2).bind fun _ => matches_byte.bind fun _ => ?_
    exact (matches_skip 1).bind fun _ => matches_externalRelocation head same _ _
  · exact matches_shortRelocation _
  · exact matches_longRelocation _
  · refine (matches_warn fun level => ?_).bind fun _ => matches_skip _
    rw [same level]
  · refine (matches_warn fun level => ?_).bind fun _ => matches_skip _
    rw [same level]
  · exact matches_throw _ _

theorem matches_chunkBody {kind : ChunkKind} (straight : kind.record? = none) :
    Matches (InStep files entered) (InStep files entered) (chunkBody kind)
      (chunkBody kind) := by
  cases kind with
  | moduleHeader => exact matches_moduleHeader
  | unitHeader => exact matches_unitHeader
  | sectionHeader => exact matches_sectionHeader
  | sectionSelection => exact matches_sectionSelection
  | objectData => exact matches_objectData
  | termination => exact matches_pure _
  | unknown code =>
      refine matches_get_bind fun decoder other inStep => matches_warn fun level => ?_
      rw [chunkBase, (inStep.exact level).1]
      rfl
  | imports | exports | relocation => cases straight

theorem matches_of_record? {kind : ChunkKind} {record : Decoding PUnit}
    (again : kind.record? = some record) :
    Matches (InStep files true) (InStep files true) record record := by
  cases kind <;> cases again
  · exact matches_importRecord
  · exact matches_exportRecord
  · exact matches_relocationRecord

/-! ## Chunks -/

theorem InStep.readsRecords {record : Decoding PUnit}
    {result : EStateM.Result FormatError Decoder PUnit} {next : Decoder} {value : PUnit}
    (inStep : decoder.InStep files true other)
    (related : Matches (InStep files true) (InStep files true) record record)
    (reads : ReadsRecords record decoder result) (succeeds : result = .ok value next) :
    ∃ further, ReadsRecords record other (.ok value further) ∧
      next.InStep files true further := by
  induction reads generalizing other with
  | done outside =>
      cases succeeds
      exact ⟨other, .done (inStep.inChunk_eq.trans outside), inStep⟩
  | failed inside fails => cases succeeds
  | next inside ran progress rest induction =>
      rcases related inStep ran with ⟨between, again, onward⟩
      rcases induction onward succeeds with ⟨further, others, last⟩
      refine ⟨further, .next (inStep.inChunk_eq.trans inside) again ?_ others, last⟩
      have before := inStep.cursor.place
      have behind := onward.cursor.place
      unfold position at progress ⊢
      omega

theorem InStep.readsBody {kind : ChunkKind} {next : Decoder} {value : PUnit}
    (inStep : decoder.InStep files true other)
    (reads : ReadsBody kind decoder (.ok value next)) :
    ∃ further, ReadsBody kind other (.ok value further) ∧
      next.InStep files true further := by
  generalize succeeds : EStateM.Result.ok value next = result at reads
  cases reads with
  | records again reads =>
      rcases inStep.readsRecords (matches_of_record? again) reads succeeds.symm with
        ⟨further, others, onward⟩
      exact ⟨further, .records again others, onward⟩
  | once straight =>
      rcases matches_chunkBody straight inStep succeeds.symm with ⟨further, ran, onward⟩
      exact ⟨further, ran ▸ .once straight, onward⟩

/-- A chunk that is not the last one is read, up to where its body leaves the decoder. -/
structure ReadsChunk (kind : ChunkKind) (decoder begun next : Decoder) : Prop where
  more : decoder.cursor.atEnd = false
  begins : beginChunk.run decoder = .ok kind begun
  goesOn : kind ≠ .termination
  body : ReadsBody kind begun (.ok ⟨⟩ next)
  progress : decoder.position + Chunk.headerLength ≤ next.behindChunk.position

theorem readsChunk_of_run {kind : ChunkKind} {begun next : Decoder} {value : PUnit}
    (more : decoder.cursor.atEnd = false) (begins : beginChunk.run decoder = .ok kind begun)
    (goesOn : kind ≠ .termination) (ran : (chunkBody kind).run begun = .ok value next) :
    ReadsChunk kind decoder begun next := by
  have starts := begun_of_run begins
  have beyond := starts.beyond
  have started : 0 < begun.position :=
    Nat.lt_of_lt_of_le (Nat.lt_add_left _ (by decide)) beyond.reached
  have kept := (lasting_beyond _ _).upholds_chunkBody kind begun beyond
  have body : ReadsBody kind begun ((chunkBody kind).run begun) := readsBody starts.inside started
  rw [ran] at kept body
  exact ⟨more, begins, goesOn, body, kept.atChunkEnd.reached⟩

/-- Reading chunks comes by this decoder, between two chunks. -/
inductive Passes : Decoder → Decoder → Prop
  | start (decoder : Decoder) : Passes decoder decoder
  | chunk {decoder begun next last : Decoder} {kind : ChunkKind}
      (reads : ReadsChunk kind decoder begun next) (rest : Passes next.behindChunk last) :
      Passes decoder last

def passed : (limit : Nat) → Decoder → List Decoder
  | 0, decoder => [decoder]
  | limit + 1, decoder =>
      decoder ::
        if decoder.cursor.atEnd then
          []
        else
          match beginChunk.run decoder with
          | .error _ _ => []
          | .ok kind begun =>
              if kind = .termination then
                []
              else
                match (chunkBody kind).run begun with
                | .error _ _ => []
                | .ok _ next => passed limit next.behindChunk

theorem passes_of_mem_passed {limit : Nat} {last : Decoder} (among : last ∈ passed limit decoder) :
    Passes decoder last := by
  induction limit generalizing decoder with
  | zero => exact List.mem_singleton.mp among ▸ .start decoder
  | succ limit induction =>
      rcases List.mem_cons.mp among with rfl | later
      · exact .start _
      · split at later
        · cases later
        · rename_i more
          split at later
          · cases later
          · rename_i begins
            split at later
            · cases later
            · rename_i goesOn
              split at later
              · cases later
              · rename_i ran
                exact .chunk (readsChunk_of_run (Bool.eq_false_iff.mpr more) begins goesOn ran)
                  (induction later)

theorem Passes.readsChunks {last : Decoder} {result : EStateM.Result FormatError Decoder PUnit}
    (passes : Passes decoder last) (reads : ReadsChunks last result) :
    ReadsChunks decoder result := by
  induction passes with
  | start => exact reads
  | chunk first rest induction =>
      exact .next first.more first.begins first.goesOn first.body first.progress (induction reads)

/-- What reading chunks comes to is settled behind the decoder that it comes by. -/
theorem Passes.readsChunks_of {last : Decoder}
    {result : EStateM.Result FormatError Decoder PUnit} (passes : Passes decoder last)
    (inside : last.position ≤ last.cursor.file.size) (reads : ReadsChunks decoder result) :
    ReadsChunks last result := by
  have onward : ReadsChunks last ((chunks last.cursor.file.size).run last) :=
    Decoder.readsChunks inside (Nat.le_add_right _ _)
  exact (passes.readsChunks onward).unique reads ▸ onward

theorem Passes.trans {between last : Decoder} (passes : Passes decoder between)
    (rest : Passes between last) : Passes decoder last := by
  induction passes with
  | start => exact rest
  | chunk reads _ induction => exact .chunk reads (induction rest)

theorem InStep.atEnd_eq_false (inStep : decoder.InStep files entered other)
    (more : decoder.cursor.atEnd = false) : other.cursor.atEnd = false := by
  have inside : ¬decoder.cursor.file.size ≤ decoder.cursor.position := of_decide_eq_false more
  have next : decoder.cursor.position + 1 ≤ decoder.cursor.file.size := Nat.not_le.mp inside
  exact decide_eq_false (Nat.not_le.mpr (inStep.cursor.enough next))

theorem InStep.atEnd_eq_true (inStep : decoder.InStep files entered other) (even : files.Even)
    (ended : decoder.cursor.atEnd = true) : other.cursor.atEnd = true := by
  have outside : decoder.cursor.file.size ≤ decoder.cursor.position := of_decide_eq_true ended
  have place := inStep.cursor.place
  rw [inStep.cursor.file_eq] at outside
  unfold Continuation.Even at even
  refine decide_eq_true ?_
  rw [inStep.cursor.other_eq]
  omega

def InsideFile (decoder : Decoder) : Prop :=
  decoder.cursor.atEnd = false ∨ decoder.chunkEnd ≤ decoder.cursor.file.size

theorem chunkEnd_le_of_insideFile (inside : decoder.behindChunk.InsideFile) :
    decoder.chunkEnd ≤ decoder.cursor.file.size := by
  rcases inside with more | short
  · have before : ¬decoder.cursor.file.size ≤ min decoder.chunkEnd decoder.cursor.file.size :=
      of_decide_eq_false more
    omega
  · exact short

theorem InStep.readsChunk {kind : ChunkKind} {begun next : Decoder}
    (inStep : decoder.InStep files entered other) (reads : ReadsChunk kind decoder begun next)
    (inside : next.behindChunk.InsideFile ∨ files.Even) :
    ∃ started further, ReadsChunk kind other started further ∧
      next.behindChunk.InStep files true further.behindChunk := by
  rcases matches_beginChunk inStep reads.begins with ⟨started, begins, onward⟩
  rcases onward.readsBody reads.body with ⟨further, body, last⟩
  have behind := last.behindChunk (inside.imp_left chunkEnd_le_of_insideFile)
  refine ⟨started, further, ⟨inStep.atEnd_eq_false reads.more, begins, reads.goesOn, body, ?_⟩,
    behind⟩
  have progress := reads.progress
  have before := inStep.cursor.place
  have after := behind.cursor.place
  unfold position at progress ⊢
  omega

theorem insideFile_of_passes {last : Decoder} (passes : Passes decoder last)
    (inside : last.InsideFile) : decoder.InsideFile := by
  cases passes with
  | start => exact inside
  | chunk reads => exact .inl reads.more

theorem InStep.passes {last : Decoder} (inStep : decoder.InStep files entered other)
    (passes : Passes decoder last) (inside : last.InsideFile) :
    ∃ further reached, Passes other further ∧ last.InStep files reached further := by
  induction passes generalizing other entered with
  | start => exact ⟨other, entered, .start other, inStep⟩
  | chunk reads rest induction =>
      have between := insideFile_of_passes rest inside
      rcases inStep.readsChunk reads (.inl between) with ⟨_, _, again, onward⟩
      rcases induction onward inside with ⟨further, reached, others, last⟩
      exact ⟨further, reached, .chunk again others, last⟩

theorem InStep.readsChunks {result : EStateM.Result FormatError Decoder PUnit} {last : Decoder}
    {value : PUnit} (even : files.Even) (inStep : decoder.InStep files entered other)
    (reads : ReadsChunks decoder result) (succeeds : result = .ok value last) :
    ∃ further reached, ReadsChunks other (.ok value further) ∧
      last.InStep files reached further := by
  induction reads generalizing other entered with
  | ended atEnd =>
      cases succeeds
      exact ⟨other, entered, .ended (inStep.atEnd_eq_true even atEnd), inStep⟩
  | broken more fails => cases succeeds
  | terminated more begins =>
      cases succeeds
      rcases matches_beginChunk inStep begins with ⟨further, again, onward⟩
      exact ⟨further, true, .terminated (inStep.atEnd_eq_false more) again, onward⟩
  | failed more begins goesOn fails => cases succeeds
  | next more begins goesOn body progress rest induction =>
      rcases inStep.readsChunk ⟨more, begins, goesOn, body, progress⟩ (.inr even) with
        ⟨_, _, again, onward⟩
      rcases induction onward succeeds with ⟨further, reached, others, last⟩
      exact ⟨further, reached, .next again.more again.begins again.goesOn again.body again.progress
        others, last⟩

/-! ## Files -/

theorem InStep.collected_eq (inStep : decoder.InStep files entered other) (level : files.Level) :
    other.collected = decoder.collected := by
  rw [collected, inStep.module_eq, inStep.unit_eq, inStep.selected_eq, inStep.imports_eq,
    (inStep.exact level).2]
  rfl

theorem InStep.outcome_finish_eq (inStep : decoder.InStep files entered other)
    (level : files.Level) : outcome (finish.run other) = outcome (finish.run decoder) := by
  rw [finish, run_get_bind, run_get_bind, inStep.module_eq, inStep.unit_eq, inStep.imports_eq,
    (inStep.exact level).2, inStep.position_eq level]
  cases decoder.module with
  | none => rfl
  | some module =>
      cases decoder.unit with
      | none => rfl
      | some unit => rfl

end Decoder

namespace ObjectFile

open Decoder

variable {bytes other : List UInt8} {last : Decoder}

theorem firstOffset_lt (more : (start bytes.toArray).cursor.atEnd = false) :
    Chunk.firstOffset < bytes.length := by
  have inside : ¬bytes.length ≤ min Chunk.firstOffset bytes.length := of_decide_eq_false more
  omega

def agreeing (covered : Chunk.firstOffset ≤ bytes.length) (longer : bytes.length ≤ other.length)
    (same : ∀ index < bytes.length, Chunk.firstOffset ≤ index → other[index]? = bytes[index]?) :
    Continuation where
  file := bytes.toArray
  here := Chunk.firstOffset
  other := other.toArray
  there := Chunk.firstOffset
  covered := covered
  longer := Nat.add_le_add_right longer _
  bytes offset inside := by
    simp only [List.getElem?_toArray]
    exact same _ inside (Nat.le_add_right _ _)
  level := true
  level_eq _ := rfl

theorem inStep_start (covered : Chunk.firstOffset ≤ bytes.length)
    (longer : bytes.length ≤ other.length)
    (same : ∀ index < bytes.length, Chunk.firstOffset ≤ index → other[index]? = bytes[index]?) :
    (start bytes.toArray).InStep (agreeing covered longer same) false (start other.toArray) where
  cursor := by
    have reached : Chunk.firstOffset ≤ min Chunk.firstOffset bytes.length := by omega
    have place : min Chunk.firstOffset bytes.length = min Chunk.firstOffset other.length := by
      omega
    exact ⟨rfl, rfl, reached, congrArg (· + Chunk.firstOffset) place⟩
  chunk := nofun
  module_eq := rfl
  unit_eq := rfl
  selected_eq := rfl
  imports_eq := rfl
  exact _ := ⟨rfl, rfl⟩

theorem decode_eq_outcome (magic : bytes.take Chunk.magic.length = Chunk.magic)
    (reads : ReadsChunks (start bytes.toArray) (.ok ⟨⟩ last)) :
    decode bytes = outcome (finish.run last) := by
  have ran : (chunks bytes.length).run (start bytes.toArray) = .ok ⟨⟩ last :=
    ((ends bytes).chunks _).mp reads
  have same : decodeFile.run (start bytes.toArray) = finish.run last := by
    change (chunks bytes.length >>= fun _ => finish).run (start bytes.toArray) = _
    exact run_bind_of_ok ran
  rw [decode, if_neg (not_not_intro magic), same]
  rfl

theorem exists_reads_of_decode {file : ObjectFile} (decoded : decode bytes = .ok file) :
    ∃ last, ReadsChunks (start bytes.toArray) (.ok ⟨⟩ last) := by
  rw [decode] at decoded
  split at decoded
  · cases decoded
  · split at decoded
    · rename_i ran
      rw [decodeFile, run_get_bind] at ran
      rcases run_bind_eq_ok ran with ⟨_, last, reads, _⟩
      exact ⟨last, ((ends bytes).chunks _).mpr reads⟩
    · cases decoded

end ObjectFile

end SuperHBench
