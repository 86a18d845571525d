import SuperHBench.Proofs.Object.WellFormed

/-! # Selected sections

Data and relocations go to the section that is selected, without a check that there is one of
that index. At no time is a section selected that was not declared, so none is ever missed:
where decoding fails for an unknown section, its index was read in the file. -/

namespace SuperHBench

open Relation

/-! ## Errors -/

namespace Cursor

/-- A reading fails for missing bytes only. -/
def FailsAtEnd (reading : Reading α) : Prop :=
  ∀ cursor error failed, reading.run cursor = .error error failed →
    ∃ offset, error = .unexpectedEnd offset

theorem failsAtEnd_pure (value : α) : FailsAtEnd (pure value) := by
  intro cursor error failed ran
  cases ran

theorem FailsAtEnd.bind {reading : Reading α} {next : α → Reading β}
    (fails : FailsAtEnd reading) (others : ∀ value, FailsAtEnd (next value)) :
    FailsAtEnd (reading >>= next) := by
  intro cursor error failed ran
  rw [EStateM.run_bind] at ran
  cases outcome : reading.run cursor with
  | error other between =>
      rw [outcome] at ran
      cases ran
      exact fails cursor _ _ outcome
  | ok value between =>
      rw [outcome] at ran
      exact others value between error failed ran

theorem failsAtEnd_take (count : Nat) : FailsAtEnd (take count) := by
  intro cursor error failed ran
  by_cases enough : cursor.position + count ≤ cursor.file.size
  · have taken : (take count).run cursor = .ok _ _ := if_pos enough
    rw [taken] at ran
    cases ran
  · have missing : (take count).run cursor = .error _ _ := if_neg enough
    rw [missing] at ran
    cases ran
    exact ⟨_, rfl⟩

theorem failsAtEnd_make (make : List UInt8 → α) (count : Nat) :
    FailsAtEnd (do return make (← take count)) :=
  (failsAtEnd_take count).bind fun _ => failsAtEnd_pure _

theorem failsAtEnd_prefixed : FailsAtEnd prefixed :=
  (failsAtEnd_make _ 1).bind fun _ => failsAtEnd_take _

theorem failsAtEnd_entryPoint (kind : UInt8) : FailsAtEnd (Decoder.entryPoint kind) := by
  refine (failsAtEnd_make _ 1).bind fun _ => ?_
  split
  · exact failsAtEnd_pure _
  · split
    · exact (failsAtEnd_make _ 4).bind fun _ => failsAtEnd_pure _
    · exact (failsAtEnd_make _ 2).bind fun _ => (failsAtEnd_make _ 2).bind fun _ =>
        failsAtEnd_pure _

end Cursor

open Decoder

/-- Where the action fails for an unknown section, that is the selected one. -/
def BlamesSelection (action : Decoding α) : Prop :=
  ∀ decoder index offset failed, action.run decoder = .error (.unknownSection index offset) failed →
    failed.selected = some index ∧ failed.sectionCount ≤ index

section

theorem blames_pure (value : α) : BlamesSelection (pure value) := by
  intro decoder index offset failed ran
  cases ran

theorem BlamesSelection.bind {action : Decoding α} {next : α → Decoding β}
    (blames : BlamesSelection action) (others : ∀ value, BlamesSelection (next value)) :
    BlamesSelection (action >>= next) := by
  intro decoder index offset failed ran
  cases outcome : action.run decoder with
  | error error between =>
      rw [run_bind_of_error outcome] at ran
      cases ran
      exact blames decoder index offset _ outcome
  | ok value between =>
      rw [run_bind_of_ok outcome] at ran
      exact others value between index offset failed ran

theorem blames_get_bind {next : Decoder → Decoding β}
    (others : ∀ decoder, BlamesSelection (next decoder)) : BlamesSelection (get >>= next) :=
  fun decoder => others decoder decoder

theorem blames_modify (change : Decoder → Decoder) : BlamesSelection (modify change) := by
  intro decoder index offset failed ran
  cases ran

theorem blames_ite {condition : Prop} [Decidable condition] {first second : Decoding α}
    (whenTrue : BlamesSelection first) (whenFalse : BlamesSelection second) :
    BlamesSelection (if condition then first else second) := by
  split
  · exact whenTrue
  · exact whenFalse

theorem blames_throw {error : FormatError}
    (other : ∀ index offset, error ≠ .unknownSection index offset) :
    BlamesSelection (throw error : Decoding α) := by
  intro decoder index offset failed ran
  cases ran
  exact absurd rfl (other index offset)

theorem blames_unless {found : Prop} [Decidable found] {error : FormatError}
    {next : PUnit → Decoding β} (other : ∀ index offset, error ≠ .unknownSection index offset)
    (others : BlamesSelection (next ⟨⟩)) :
    BlamesSelection (if found then throw error >>= next else next ⟨⟩) :=
  blames_ite ((blames_throw other).bind fun _ => others) others

theorem blames_liftM {reading : Reading α} (fails : Cursor.FailsAtEnd reading) :
    BlamesSelection (liftM reading : Decoding α) := by
  intro decoder index offset failed ran
  rw [run_liftM] at ran
  cases outcome : reading.run decoder.cursor with
  | ok value cursor =>
      rw [outcome] at ran
      cases ran
  | error error cursor =>
      rw [outcome] at ran
      cases ran
      rcases fails _ _ _ outcome with ⟨missing, same⟩
      cases same

end

namespace Decoder

variable {decoder failed : Decoder} {index : Nat}

theorem run_updateSection_eq_unknown {unit : ObjectUnit} {target offset : Nat}
    {missing : FormatError} {update : Section → Except FormatError Section}
    (fine : ∀ part, update part ≠ .error (.unknownSection index offset))
    (ran : (updateSection unit target missing update).run decoder =
      .error (.unknownSection index offset) failed) :
    unit.sections.length ≤ target ∧ missing = .unknownSection index offset ∧ failed = decoder := by
  rw [updateSection] at ran
  split at ran
  · rename_i absent
    cases ran
    exact ⟨List.getElem?_eq_none_iff.mp absent, rfl, rfl⟩
  · rename_i part found
    split at ran
    · rename_i error refused
      cases ran
      exact absurd refused (fine part)
    · cases ran

theorem blames_updateCurrentSection {update : Section → Except FormatError Section}
    (fine : ∀ part index offset, update part ≠ .error (.unknownSection index offset)) :
    BlamesSelection (updateCurrentSection update) := by
  intro decoder index offset failed ran
  rw [updateCurrentSection, requireUnit, bind_assoc, run_get_bind] at ran
  cases found : decoder.unit with
  | none =>
      rw [found] at ran
      cases ran
  | some unit =>
      have count : decoder.sectionCount = unit.sections.length := by
        rw [sectionCount, found]
        rfl
      simp only [found, pure_bind, run_get_bind] at ran
      split at ran
      · rename_i target _ chosen
        rcases run_updateSection_eq_unknown (fun part => fine part index offset) ran with
          ⟨outside, same, rfl⟩
        cases same
        exact ⟨chosen, count ▸ outside⟩
      · cases ran
      · rename_i last chosen length
        rcases run_updateSection_eq_unknown (fun part => fine part index offset) ran with
          ⟨outside, same, rfl⟩
        omega

theorem blames_update {update : Section → Section} :
    BlamesSelection (updateCurrentSection fun part => .ok (update part)) :=
  blames_updateCurrentSection fun _ _ _ refused => by cases refused

theorem blames_byte : BlamesSelection (liftM Cursor.byte) :=
  blames_liftM (Cursor.failsAtEnd_make _ 1)

theorem blames_skip (count : Nat) : BlamesSelection (liftM (Cursor.skip count)) :=
  blames_liftM (Cursor.failsAtEnd_make _ count)

theorem blames_bigLong : BlamesSelection (liftM Cursor.bigLong) :=
  blames_liftM (Cursor.failsAtEnd_make _ 4)

theorem blames_bigWord : BlamesSelection (liftM Cursor.bigWord) :=
  blames_liftM (Cursor.failsAtEnd_make _ 2)

theorem blames_littleWord : BlamesSelection (liftM Cursor.littleWord) :=
  blames_liftM (Cursor.failsAtEnd_make _ 2)

theorem blames_prefixed : BlamesSelection (liftM Cursor.prefixed) :=
  blames_liftM Cursor.failsAtEnd_prefixed

theorem blames_take (count : Nat) : BlamesSelection (liftM (Cursor.take count)) :=
  blames_liftM (Cursor.failsAtEnd_take count)

theorem blames_beginChunk : BlamesSelection beginChunk := by
  refine blames_get_bind fun decoder => (blames_modify _).bind fun _ => ?_
  iterate 3 refine blames_byte.bind fun _ => ?_
  exact blames_unless (fun _ _ => nofun) ((blames_modify _).bind fun _ => blames_pure _)

theorem blames_spanningByte : BlamesSelection spanningByte := by
  have delivering : BlamesSelection (do
      let byte ← Cursor.byte
      modify deliver
      return byte) :=
    blames_byte.bind fun _ => (blames_modify _).bind fun _ => blames_pure _
  have crossing : BlamesSelection continueChunk :=
    blames_get_bind fun _ => (blames_modify _).bind fun _ =>
      blames_beginChunk.bind fun _ => blames_pure _
  exact blames_get_bind fun _ => blames_ite delivering (crossing.bind fun _ => delivering)

theorem blames_spanningBytes (count : Nat) : BlamesSelection (spanningBytes count) := by
  induction count with
  | zero => exact blames_pure _
  | succ count induction =>
      exact blames_spanningByte.bind fun _ => induction.bind fun _ => blames_pure _

/-! ## Handlers -/

theorem blames_requireUnit : BlamesSelection requireUnit := by
  refine blames_get_bind fun decoder => ?_
  split
  · exact blames_pure _
  · exact blames_throw fun _ _ => nofun

theorem blames_moduleHeader : BlamesSelection moduleHeader := by
  refine blames_get_bind fun decoder => blames_unless (fun _ _ => nofun) ?_
  refine blames_byte.bind fun kind => (blames_take 12).bind fun _ => ?_
  refine blames_bigWord.bind fun _ => blames_unless (fun _ _ => nofun) ?_
  refine (blames_skip 1).bind fun _ => (blames_take 4).bind fun _ => ?_
  iterate 5 refine blames_byte.bind fun _ => ?_
  refine (blames_liftM (Cursor.failsAtEnd_entryPoint kind)).bind fun _ => ?_
  iterate 4 refine blames_prefixed.bind fun _ => ?_
  exact blames_modify _

theorem blames_unitHeader : BlamesSelection unitHeader := by
  refine blames_get_bind fun decoder => blames_unless (fun _ _ => nofun) ?_
  refine blames_unless (fun _ _ => nofun) (blames_byte.bind fun _ => ?_)
  iterate 3 refine blames_littleWord.bind fun _ => ?_
  iterate 2 refine blames_prefixed.bind fun _ => ?_
  exact (blames_take 12).bind fun _ => blames_modify _

theorem blames_sectionHeader : BlamesSelection sectionHeader := by
  refine blames_get_bind fun decoder => blames_byte.bind fun _ => ?_
  iterate 3 refine blames_bigLong.bind fun _ => ?_
  iterate 3 refine blames_byte.bind fun _ => ?_
  exact blames_prefixed.bind fun _ => blames_requireUnit.bind fun _ => blames_modify _

theorem blames_importRecord : BlamesSelection importRecord := by
  refine blames_spanningByte.bind fun _ => BlamesSelection.bind ?_ fun _ => blames_modify _
  exact blames_spanningByte.bind fun _ => (blames_spanningBytes _).bind fun _ => blames_pure _

theorem blames_objectData : BlamesSelection objectData := by
  have stored (count : Nat) (flags : UInt8) (address : UInt32) : BlamesSelection (do
      let bytes ← liftM Cursor.prefixed
      updateCurrentSection (·.push ⟨flags, address, repeated count bytes⟩)) := by
    refine blames_prefixed.bind fun bytes => ?_
    refine blames_updateCurrentSection fun part index offset refused => ?_
    rw [Section.push] at refused
    split at refused <;> cases refused
  refine blames_byte.bind fun _ => blames_bigLong.bind fun _ => ?_
  exact blames_ite (blames_bigLong.bind fun _ => stored _ _ _) (stored _ _ _)

theorem blames_expectTerminator : BlamesSelection expectTerminator :=
  blames_get_bind fun _ => blames_byte.bind fun _ =>
    blames_ite (blames_throw fun _ _ => nofun) (blames_pure _)

theorem blames_relocationHead : BlamesSelection relocationHead := by
  refine blames_get_bind fun decoder => blames_byte.bind fun _ => blames_bigLong.bind fun _ => ?_
  iterate 4 refine blames_byte.bind fun _ => ?_
  refine blames_unless (fun _ _ => nofun) (blames_littleWord.bind fun _ => ?_)
  iterate 3 refine blames_byte.bind fun _ => ?_
  exact blames_pure _

theorem blames_externalRelocation (head : RelocationHead) (start importIndex : Nat)
    (offset : UInt32) : BlamesSelection (externalRelocation head start importIndex offset) := by
  refine blames_get_bind fun decoder => ?_
  dsimp only
  split
  · exact (blames_modify _).bind fun _ => blames_expectTerminator
  · exact blames_expectTerminator.bind fun _ => blames_update

theorem blames_longRelocation (address : UInt32) : BlamesSelection (longRelocation address) := by
  refine (blames_skip 1).bind fun _ => blames_byte.bind fun _ => (blames_skip 2).bind fun _ => ?_
  refine blames_bigLong.bind fun _ => (blames_skip 1).bind fun _ => ?_
  exact blames_expectTerminator.bind fun _ => blames_update

theorem blames_shortRelocation (address : UInt32) : BlamesSelection (shortRelocation address) :=
  blames_bigWord.bind fun _ => blames_expectTerminator.bind fun _ => blames_update

theorem blames_relocationRecord : BlamesSelection relocationRecord := by
  refine blames_get_bind fun decoder => blames_relocationHead.bind fun head => ?_
  refine blames_byte.bind fun discriminator => ?_
  have unsupported (start : Nat) : BlamesSelection (do
      warn (.unsupportedRelocationVariant discriminator head.relocationLength start)
      Cursor.skip (head.relocationLength.toNat - 1)) :=
    (blames_modify _).bind fun _ => blames_skip _
  dsimp only
  split
  · have external (start : Nat) : BlamesSelection (do
        let importIndex := (← liftM Cursor.byte).toNat
        externalRelocation head start importIndex 0) :=
      blames_byte.bind fun _ => blames_externalRelocation _ _ _ _
    refine blames_get_bind fun _ => blames_byte.bind fun _ => ?_
    exact blames_ite ((blames_modify _).bind fun _ => external _) (external _)
  · refine (blames_skip 4).bind fun _ => blames_byte.bind fun _ => ?_
    refine (blames_skip 2).bind fun _ => blames_byte.bind fun _ => ?_
    exact (blames_skip 1).bind fun _ => blames_externalRelocation _ _ _ _
  · exact blames_shortRelocation _
  · exact blames_longRelocation _
  · exact unsupported _
  · exact unsupported _
  · exact blames_throw fun _ _ => nofun

theorem blames_records {record : Decoding PUnit} (blames : BlamesSelection record) (limit : Nat) :
    BlamesSelection (records record limit) := by
  induction limit with
  | zero => exact blames_pure _
  | succ limit induction =>
      exact blames_get_bind fun _ => blames_ite (blames.bind fun _ => induction) (blames_pure _)

/-- The actions that raise the error of their own accord are those that read the index of a
section. -/
theorem blames_chunkBody {kind : ChunkKind} (other : kind ≠ .sectionSelection)
    (another : kind ≠ .exports) : BlamesSelection (chunkBody kind) := by
  cases kind with
  | moduleHeader => exact blames_moduleHeader
  | unitHeader => exact blames_unitHeader
  | sectionHeader => exact blames_sectionHeader
  | imports => exact blames_get_bind fun _ => blames_records blames_importRecord _
  | exports => exact absurd rfl another
  | sectionSelection => exact absurd rfl other
  | objectData => exact blames_objectData
  | relocation => exact blames_get_bind fun _ => blames_records blames_relocationRecord _
  | termination => exact blames_pure _
  | unknown code => exact blames_get_bind fun _ => blames_modify _

/-! ## Bodies of chunks -/

/-- The body of a chunk, from the decoder that has read the header. -/
structure Body where
  kind : ChunkKind
  decoder : Decoder

def bodiesBegun : (limit : Nat) → Decoder → List Body
  | 0, _ => []
  | limit + 1, decoder =>
      if decoder.cursor.atEnd then
        []
      else
        match beginChunk.run decoder with
        | .error _ _ => []
        | .ok kind begun =>
            if kind = .termination then
              []
            else
              ⟨kind, begun⟩ ::
                match (chunkBody kind).run begun with
                | .error _ _ => []
                | .ok _ next =>
                    bodiesBegun limit { next with cursor := next.cursor.seek next.chunkEnd }

theorem steps_of_mem_bodiesBegun {limit : Nat} {body : Body}
    (among : body ∈ bodiesBegun limit decoder) :
    ReflTransGen Collected.Step decoder.collected body.decoder.collected := by
  induction limit generalizing decoder with
  | zero => cases among
  | succ limit induction =>
      rw [bodiesBegun] at among
      split at among
      · cases among
      · split at among
        · cases among
        · rename_i kind begun begins
          have same : begun.collected = decoder.collected := by
            have kept := @upholds_collected_beginChunk (· = decoder.collected) decoder rfl
            rwa [begins] at kept
          split at among
          · cases among
          · rcases List.mem_cons.mp among with rfl | later
            · exact same ▸ .refl
            · split at later
              · cases later
              · rename_i next ran
                have steps := makes_chunkBody kind begun same
                rw [ran] at steps
                have onward := induction later
                exact steps.trans onward

theorem exists_body_of_unknownSection {limit offset : Nat} (sound : decoder.collected.WellFormed)
    (ran : (chunks limit).run decoder = .error (.unknownSection index offset) failed) :
    ∃ body ∈ bodiesBegun limit decoder,
      (chunkBody body.kind).run body.decoder = .error (.unknownSection index offset) failed := by
  induction limit generalizing decoder with
  | zero => cases ran
  | succ limit induction =>
      rw [run_chunks_succ_eq] at ran
      rw [bodiesBegun]
      split at ran
      · cases ran
      · rename_i more
        rw [if_neg more]
        have begun := upholds_collected_beginChunk decoder sound
        cases begins : beginChunk.run decoder with
        | error error broken =>
            rw [begins] at ran begun
            cases ran
            rcases blames_beginChunk decoder index offset failed begins with ⟨chosen, unknown⟩
            exact absurd (begun.selected index chosen) (Nat.not_lt.mpr unknown)
        | ok kind entered =>
            rw [begins] at ran begun
            dsimp only at ran ⊢
            split at ran
            · cases ran
            · rename_i goesOn
              rw [if_neg goesOn]
              cases body : (chunkBody kind).run entered with
              | error error broken =>
                  rw [body] at ran
                  cases ran
                  exact ⟨⟨kind, entered⟩, List.mem_cons_self, body⟩
              | ok value next =>
                  rw [body] at ran
                  have steps := makes_chunkBody kind entered rfl
                  rw [body] at steps
                  have onward : ({ next with
                      cursor := next.cursor.seek next.chunkEnd } : Decoder).collected.WellFormed :=
                    begun.steps steps
                  rcases induction onward ran with ⟨found, among, fails⟩
                  exact ⟨found, List.mem_cons_of_mem _ among, fails⟩

theorem run_chunks_of_unknownSection {offset : Nat}
    (ran : decodeFile.run decoder = .error (.unknownSection index offset) failed) :
    (chunks decoder.cursor.file.size).run decoder =
      .error (.unknownSection index offset) failed := by
  rw [decodeFile, run_get_bind] at ran
  cases outcome : (chunks decoder.cursor.file.size).run decoder with
  | error error broken =>
      rw [run_bind_of_error outcome] at ran
      cases ran
      rfl
  | ok value last =>
      rw [run_bind_of_ok outcome, finish, run_get_bind] at ran
      split at ran <;> cases ran

def SelectsDeclared (decoder : Decoder) : Prop :=
  ∀ index, decoder.selected = some index → index < decoder.sectionCount

end Decoder

namespace ObjectFile

def bodiesBegun (bytes : List UInt8) : List Decoder.Body :=
  if bytes.take Chunk.magic.length ≠ Chunk.magic then
    []
  else
    Decoder.bodiesBegun bytes.toArray.size (Decoder.start bytes.toArray)

/-- The body does not look for an unknown section, unless it reads the index of one. -/
structure SelectionHolds (body : Decoder.Body) : Prop where
  before : body.decoder.SelectsDeclared
  after : (stop ((chunkBody body.kind).run body.decoder)).SelectsDeclared
  known : body.kind ≠ .sectionSelection → body.kind ≠ .exports → ∀ index offset failed,
    (chunkBody body.kind).run body.decoder ≠ .error (.unknownSection index offset) failed

/-- Decoding, whether it accepts a file or not. Where it fails for an unknown section, the
index of that one was read in the file. -/
structure DecodesWell (bytes : List UInt8) : Prop where
  accepted : ∀ file, decode bytes = .ok file → file.WellFormed
  selections : ∀ body ∈ bodiesBegun bytes, SelectionHolds body
  named : ∀ index offset, decode bytes = .error (.unknownSection index offset) →
    ∃ body ∈ bodiesBegun bytes, (body.kind = .sectionSelection ∨ body.kind = .exports) ∧
      ∃ failed, (chunkBody body.kind).run body.decoder =
        .error (.unknownSection index offset) failed

theorem wellFormed_of_mem_bodiesBegun {bytes : List UInt8} {body : Decoder.Body}
    (among : body ∈ bodiesBegun bytes) : body.decoder.collected.WellFormed := by
  rw [bodiesBegun] at among
  split at among
  · cases among
  · exact Collected.wellFormed_empty.steps (Decoder.steps_of_mem_bodiesBegun among)

theorem selectionHolds_of_mem_bodiesBegun {bytes : List UInt8} {body : Decoder.Body}
    (among : body ∈ bodiesBegun bytes) : SelectionHolds body := by
  have before := wellFormed_of_mem_bodiesBegun among
  have after := before.steps (makes_chunkBody body.kind body.decoder rfl)
  refine ⟨before.selected, after.selected, fun other another index offset failed ran => ?_⟩
  rcases blames_chunkBody other another body.decoder index offset failed ran with
    ⟨chosen, unknown⟩
  rw [ran] at after
  exact Nat.not_lt.mpr unknown (after.selected index chosen)

theorem exists_named_of_decode {bytes : List UInt8} {index offset : Nat}
    (decoded : decode bytes = .error (.unknownSection index offset)) :
    ∃ body ∈ bodiesBegun bytes, (body.kind = .sectionSelection ∨ body.kind = .exports) ∧
      ∃ failed, (chunkBody body.kind).run body.decoder =
        .error (.unknownSection index offset) failed := by
  rw [decode] at decoded
  split at decoded
  · cases decoded
  · rename_i magic
    split at decoded
    · cases decoded
    · rename_i error failed ran
      cases decoded
      have sound : (start bytes.toArray).collected.WellFormed := Collected.wellFormed_empty
      rcases exists_body_of_unknownSection sound (run_chunks_of_unknownSection ran) with
        ⟨body, among, raised⟩
      have inFile : body ∈ bodiesBegun bytes := by
        rw [bodiesBegun, if_neg magic]
        exact among
      refine ⟨body, inFile, ?_, failed, raised⟩
      by_contra neither
      rw [not_or] at neither
      exact (selectionHolds_of_mem_bodiesBegun inFile).known neither.1 neither.2 _ _ _ raised

theorem decodesWell (bytes : List UInt8) : DecodesWell bytes where
  accepted _ := wellFormed_of_decode
  selections _ := selectionHolds_of_mem_bodiesBegun
  named _ _ := exists_named_of_decode

end ObjectFile

end SuperHBench
