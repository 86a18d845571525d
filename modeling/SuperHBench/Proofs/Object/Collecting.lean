import Mathlib.Logic.Relation
import SuperHBench.Proofs.Object.Invariants
import SuperHBench.Proofs.Object.Relocations

/-! # Steps of collecting

Chunks may come in any order and records may be cut anywhere, but what is collected changes in
a few ways only. Each action of the decoder makes a number of such steps, with what it has
collected when it fails as well. So whatever every step keeps is true of all that is ever
collected. -/

namespace SuperHBench

open Relation

/-! ## Steps -/

structure ExternalRelocation.Proper (imports : List ImportSymbol)
    (relocation : ExternalRelocation) : Prop where
  operator : relocation.operator = Decoder.replaceOperator
  shape : relocation.relocationLength = 4 ∧ relocation.offset = 0 ∨
    relocation.relocationLength = 11 ∧ relocation.offset.toNat < 256
  name : imports[relocation.importIndex]?.map (·.name) = some relocation.name
  unlinked : relocation.linkedAddress = none

structure Section.Blank (index : Nat) (part : Section) : Prop where
  index_eq : part.index = index
  fragments_eq : part.fragments = []
  relocations_eq : part.relocations = []
  longRelocations_eq : part.longRelocations = []
  shortRelocations_eq : part.shortRelocations = []
  exports_eq : part.exports = []
  unlinked : part.linkedAddress = none

inductive Section.Extends (imports : List ImportSymbol) (part : Section) : Section → Prop
  | push (fragment : Fragment) {next : Section} (pushed : part.push fragment = .ok next) :
      Extends imports part next
  | external (relocation : ExternalRelocation) (proper : relocation.Proper imports) :
      Extends imports part { part with relocations := part.relocations ++ [relocation] }
  | long (relocation : LongRelocation) (unlinked : relocation.linkedAddress = none) :
      Extends imports part { part with longRelocations := part.longRelocations ++ [relocation] }
  | short (relocation : ShortRelocation) (unlinked : relocation.linkedAddress = none) :
      Extends imports part { part with shortRelocations := part.shortRelocations ++ [relocation] }

namespace Collected

def sectionCount (collected : Collected) : Nat :=
  (collected.unit.map fun unit => unit.sections.length).getD 0

/-- All that decoding can do to what is collected. -/
inductive Step (before : Collected) : Collected → Prop
  | module (header : ModuleHeader) (few : header.unitCount ≤ 1) :
      Step before { before with module := some header }
  | unit (unit : ObjectUnit) (missing : before.unit = none) (empty : unit.sections = []) :
      Step before { before with unit := some unit }
  | declare (unit : ObjectUnit) (part : Section) (present : before.unit = some unit)
      (blank : part.Blank unit.sections.length) :
      Step before (before.withSections unit (unit.sections ++ [part]))
  | select (index : Nat) (declared : index < before.sectionCount) :
      Step before { before with selected := some index }
  | importing (symbol : ImportSymbol) :
      Step before { before with imports := before.imports ++ [symbol] }
  | exporting (unit : ObjectUnit) (part : Section) (symbol : ExportSymbol)
      (present : before.unit = some unit)
      (found : unit.sections[symbol.sectionIndex]? = some part)
      (unlinked : symbol.linkedAddress = none) :
      Step before (before.withSections unit
        (unit.sections.set symbol.sectionIndex { part with exports := part.exports ++ [symbol] }))
  | extend (unit : ObjectUnit) (part next : Section) (present : before.unit = some unit)
      (found : unit.sections[before.target unit]? = some part)
      (growth : part.Extends before.imports next) :
      Step before (before.withSections unit (unit.sections.set (before.target unit) next))
  | warn (warning : FormatWarning) :
      Step before { before with warnings := before.warnings ++ [warning] }

end Collected

/-! ## Actions by their steps -/

/-- A decoder that has collected certain things makes steps from there in this action. -/
def Makes (before : Collected) (action : Decoding α) : Prop :=
  ∀ decoder : Decoder, decoder.collected = before →
    ReflTransGen Collected.Step before (Decoder.stop (action.run decoder)).collected

def Quiet (action : Decoding α) : Prop :=
  ∀ holds : Collected → Prop, Upholds (fun decoder => holds decoder.collected) action

open Decoder

section

variable {before : Collected}

theorem Quiet.makes {action : Decoding α} (quiet : Quiet action) : Makes before action :=
  fun decoder collected => quiet (before = ·) decoder collected.symm ▸ .refl

def Returns (action : Decoding α) (value : α) : Prop :=
  ∃ decoder after, action.run decoder = .ok value after

theorem Quiet.bind_returns {action : Decoding α} {next : α → Decoding β} (quiet : Quiet action)
    (others : ∀ value, Returns action value → Makes before (next value)) :
    Makes before (action >>= next) := by
  intro decoder collected
  have kept := quiet (· = before) decoder collected
  cases outcome : action.run decoder with
  | error error between =>
      rw [outcome] at kept
      rw [run_bind_of_error outcome]
      exact kept ▸ .refl
  | ok value between =>
      rw [outcome] at kept
      rw [run_bind_of_ok outcome]
      exact others value ⟨decoder, between, outcome⟩ between kept

theorem Quiet.bind {action : Decoding α} {next : α → Decoding β} (quiet : Quiet action)
    (others : ∀ value, Makes before (next value)) : Makes before (action >>= next) :=
  quiet.bind_returns fun value _ => others value

theorem Makes.bind {action : Decoding α} {next : α → Decoding β} (makes : Makes before action)
    (others : ∀ value after, Makes after (next value)) : Makes before (action >>= next) := by
  intro decoder collected
  have first := makes decoder collected
  cases outcome : action.run decoder with
  | error error between =>
      rw [outcome] at first
      rw [run_bind_of_error outcome]
      exact first
  | ok value between =>
      rw [outcome] at first
      rw [run_bind_of_ok outcome]
      exact first.trans (others value _ between rfl)

theorem makes_pure (value : α) : Makes before (pure value) :=
  fun _ collected => collected ▸ .refl

theorem makes_throw (error : FormatError) : Makes before (throw error : Decoding α) :=
  fun _ collected => collected ▸ .refl

theorem makes_get_bind {next : Decoder → Decoding β}
    (others : ∀ decoder : Decoder, decoder.collected = before → Makes before (next decoder)) :
    Makes before (get >>= next) :=
  fun decoder collected => others decoder collected decoder collected

theorem makes_modify {change : Decoder → Decoder}
    (step : ∀ decoder : Decoder, decoder.collected = before →
      before.Step (change decoder).collected) :
    Makes before (modify change) :=
  fun decoder collected => .single (step decoder collected)

theorem makes_ite {condition : Prop} [Decidable condition] {first second : Decoding α}
    (whenTrue : condition → Makes before first) (whenFalse : ¬condition → Makes before second) :
    Makes before (if condition then first else second) := by
  split
  · exact whenTrue ‹_›
  · exact whenFalse ‹_›

theorem makes_unless {found : Prop} [Decidable found] {error : FormatError}
    {next : PUnit → Decoding β} (others : ¬found → Makes before (next ⟨⟩)) :
    Makes before (if found then throw error >>= next else next ⟨⟩) :=
  makes_ite (fun _ _ collected => collected ▸ .refl) others

theorem quiet_liftM (reading : Reading α) : Quiet (liftM reading : Decoding α) :=
  fun _ => upholds_collected_liftM reading

theorem quiet_spanningByte : Quiet spanningByte :=
  fun _ => upholds_collected_spanningByte

theorem quiet_spanningNumber (count : Nat) : Quiet (spanningNumber count) :=
  fun _ => upholds_spanningNumber upholds_collected_spanningByte count

theorem quiet_spanningName : Quiet spanningName :=
  fun _ => upholds_spanningName upholds_collected_spanningByte

theorem quiet_expectTerminator : Quiet expectTerminator :=
  fun _ => upholds_get_bind fun _ _ => (upholds_collected_liftM _).bind fun _ =>
    upholds_ite (upholds_throw _) (upholds_pure _)

theorem quiet_relocationHead : Quiet relocationHead := by
  refine fun _ => upholds_get_bind fun decoder _ => ?_
  iterate 6 refine (upholds_collected_liftM _).bind fun _ => ?_
  refine upholds_unless ?_
  iterate 4 refine (upholds_collected_liftM _).bind fun _ => ?_
  exact upholds_pure _

end

/-! ## Handlers -/

namespace Decoder

variable {before : Collected}

theorem makes_warn (warning : FormatWarning) : Makes before (warn warning) :=
  makes_modify fun _ collected => collected ▸ .warn warning

theorem makes_requireUnit_bind {next : ObjectUnit → Decoding β}
    (others : ∀ unit, before.unit = some unit → Makes before (next unit)) :
    Makes before (requireUnit >>= next) := by
  rw [requireUnit, bind_assoc]
  refine makes_get_bind fun decoder collected => ?_
  have same : decoder.unit = before.unit := congrArg Collected.unit collected
  cases found : decoder.unit with
  | none => exact fun _ collected => collected ▸ .refl
  | some unit => exact others unit (same.symm.trans found)

theorem makes_setUnit {unit : ObjectUnit}
    (step : before.Step { before with unit := some unit }) :
    Makes before (modify fun decoder => { decoder with unit := some unit }) :=
  makes_modify fun _ collected => by rw [← collected] at step ⊢; exact step

theorem makes_updateSection {unit : ObjectUnit} {index : Nat} {missing : FormatError}
    {update : Section → Except FormatError Section}
    (step : ∀ {part next}, unit.sections[index]? = some part → update part = .ok next →
      before.Step (before.withSections unit (unit.sections.set index next))) :
    Makes before (updateSection unit index missing update) := by
  rw [updateSection]
  split
  · exact makes_throw _
  · rename_i part found
    split
    · exact makes_throw _
    · rename_i next updated
      exact makes_setUnit (step found updated)

theorem makes_updateCurrentSection {update : Section → Except FormatError Section}
    (grows : ∀ {part next}, update part = .ok next → part.Extends before.imports next) :
    Makes before (updateCurrentSection update) := by
  refine makes_requireUnit_bind fun unit present => makes_get_bind fun decoder collected => ?_
  have selected : decoder.selected = before.selected := congrArg Collected.selected collected
  have updates (index : Nat) (missing : FormatError) (target : before.target unit = index) :
      Makes before (updateSection unit index missing update) :=
    makes_updateSection fun found updated =>
      target ▸ .extend unit _ _ present (target ▸ found) (grows updated)
  dsimp only
  rw [selected]
  cases chosen : before.selected with
  | some index => exact updates index _ (by rw [Collected.target, chosen, Option.getD])
  | none =>
      cases count : unit.sections.length with
      | zero => exact fun _ collected => collected ▸ .refl
      | succ last => exact updates last _ (by rw [Collected.target, chosen, count]; rfl)

theorem makes_moduleHeader : Makes before moduleHeader := by
  refine makes_get_bind fun decoder _ => makes_unless fun _ => ?_
  iterate 2 refine (quiet_liftM _).bind fun _ => ?_
  refine (quiet_liftM _).bind fun unitCount => makes_unless fun few => ?_
  iterate 12 refine (quiet_liftM _).bind fun _ => ?_
  exact makes_modify fun _ collected => collected ▸ .module _ (UInt16.not_lt.mp few)

theorem makes_unitHeader : Makes before unitHeader := by
  refine makes_get_bind fun decoder collected => makes_unless fun _ => makes_unless fun none => ?_
  have missing : before.unit = .none := by
    rw [← collected]
    exact Option.not_isSome_iff_eq_none.mp none
  iterate 7 refine (quiet_liftM _).bind fun _ => ?_
  exact makes_setUnit (.unit _ missing rfl)

theorem makes_sectionHeader : Makes before sectionHeader := by
  refine makes_get_bind fun decoder collected => ?_
  have count : decoder.sectionCount = before.sectionCount := by rw [← collected]; rfl
  iterate 8 refine (quiet_liftM _).bind fun _ => ?_
  refine makes_requireUnit_bind fun unit present => makes_setUnit ?_
  refine .declare unit _ present ⟨?_, rfl, rfl, rfl, rfl, rfl, rfl⟩
  rw [count, Collected.sectionCount, present]
  rfl

theorem makes_sectionSelection : Makes before sectionSelection := by
  refine makes_get_bind fun decoder collected => (quiet_liftM _).bind fun _ => ?_
  have count : decoder.sectionCount = before.sectionCount := by rw [← collected]; rfl
  refine (quiet_liftM _).bind fun _ => makes_unless fun known => ?_
  rw [Nat.not_le, count] at known
  exact makes_modify fun _ collected => collected ▸ .select _ (by rw [collected]; exact known)

theorem makes_importRecord : Makes before importRecord :=
  quiet_spanningByte.bind fun _ => quiet_spanningName.bind fun _ =>
    makes_modify fun _ collected => collected ▸ .importing _

theorem makes_exportRecord : Makes before exportRecord := by
  refine makes_get_bind fun decoder _ => (quiet_spanningNumber 2).bind fun sectionIndex => ?_
  refine quiet_spanningByte.bind fun _ => (quiet_spanningNumber 4).bind fun _ => ?_
  refine quiet_spanningName.bind fun _ => makes_requireUnit_bind fun unit present => ?_
  refine makes_updateSection fun found updated => ?_
  cases updated
  exact .exporting unit _ ⟨_, sectionIndex, _, _, none⟩ present found rfl

theorem makes_objectData : Makes before objectData := by
  have stored (count : Nat) (flags : UInt8) (address : UInt32) : Makes before (do
      let bytes ← liftM Cursor.prefixed
      updateCurrentSection (·.push ⟨flags, address, repeated count bytes⟩)) :=
    (quiet_liftM _).bind fun _ => makes_updateCurrentSection fun pushed => .push _ pushed
  refine (quiet_liftM _).bind fun _ => (quiet_liftM _).bind fun _ => ?_
  exact makes_ite (fun _ => (quiet_liftM _).bind fun _ => stored _ _ _) fun _ => stored _ _ _

/-! ## Relocations -/

theorem operator_of_returns {head : RelocationHead} (returns : Returns relocationHead head) :
    head.operator = replaceOperator := by
  rcases returns with ⟨decoder, after, ran⟩
  rw [relocationHead, run_get_bind] at ran
  iterate 6 rcases run_take_bind_eq_ok ran with ⟨_, ran⟩
  split at ran
  · cases ran
  · rename_i supported
    rcases run_take_bind_eq_ok ran with ⟨_, ran⟩
    iterate 3 rcases run_take_bind_eq_ok ran with ⟨_, ran⟩
    cases ran
    exact Decidable.not_not.mp supported

theorem makes_externalRelocation {head : RelocationHead} {importIndex : Nat} {offset : UInt32}
    (operator : head.operator = replaceOperator)
    (shape : head.relocationLength = 4 ∧ offset = 0 ∨
      head.relocationLength = 11 ∧ offset.toNat < 256) (start : Nat) :
    Makes before (externalRelocation head start importIndex offset) := by
  refine makes_get_bind fun decoder collected => ?_
  have imports : decoder.imports = before.imports := congrArg Collected.imports collected
  dsimp only
  split
  · exact (makes_warn _).bind fun _ _ => quiet_expectTerminator.makes
  · rename_i symbol known
    rw [imports] at known
    refine quiet_expectTerminator.bind fun _ => makes_updateCurrentSection fun updated => ?_
    cases updated
    exact .external _ ⟨operator, shape, by simp [known], rfl⟩

theorem makes_longRelocation (address : UInt32) : Makes before (longRelocation address) := by
  iterate 5 refine (quiet_liftM _).bind fun _ => ?_
  refine quiet_expectTerminator.bind fun _ => makes_updateCurrentSection fun updated => ?_
  cases updated
  exact .long _ rfl

theorem makes_shortRelocation (address : UInt32) : Makes before (shortRelocation address) := by
  refine (quiet_liftM _).bind fun _ => quiet_expectTerminator.bind fun _ => ?_
  refine makes_updateCurrentSection fun updated => ?_
  cases updated
  exact .short _ rfl

theorem makes_relocationRecord : Makes before relocationRecord := by
  refine makes_get_bind fun decoder _ => quiet_relocationHead.bind_returns fun head returns => ?_
  have operator := operator_of_returns returns
  refine (quiet_liftM _).bind fun discriminator => ?_
  have unsupported (start : Nat) : Makes before (do
      warn (.unsupportedRelocationVariant discriminator head.relocationLength start)
      Cursor.skip (head.relocationLength.toNat - 1)) :=
    (makes_warn _).bind fun _ _ => (quiet_liftM _).makes
  dsimp only
  split
  · rename_i length _
    have external (start : Nat) (after : Collected) : Makes after (do
        let importIndex := (← liftM Cursor.byte).toNat
        externalRelocation head start importIndex 0) :=
      (quiet_liftM _).bind fun _ =>
        makes_externalRelocation operator (.inl ⟨UInt8.toNat_inj.mp length, rfl⟩) _
    refine makes_get_bind fun _ _ => (quiet_liftM _).bind fun _ => ?_
    exact makes_ite (fun _ => (makes_warn _).bind fun _ _ => external _ _) fun _ => external _ _
  · rename_i length _
    refine (quiet_liftM _).bind fun _ => (quiet_liftM _).bind fun byte => ?_
    iterate 3 refine (quiet_liftM _).bind fun _ => ?_
    refine makes_externalRelocation operator (.inr ⟨UInt8.toNat_inj.mp length, ?_⟩) _
    rw [UInt8.toNat_toUInt32]
    exact byte.toNat_lt
  · exact makes_shortRelocation _
  · exact makes_longRelocation _
  · exact unsupported _
  · exact unsupported _
  · exact makes_throw _

/-! ## Files -/

theorem makes_records {record : Decoding PUnit} (makes : ∀ before, Makes before record)
    (limit : Nat) : Makes before (records record limit) := by
  induction limit generalizing before with
  | zero => exact makes_pure _
  | succ limit induction =>
      exact makes_get_bind fun _ _ =>
        makes_ite (fun _ => (makes before).bind fun _ _ => induction) fun _ => makes_pure _

theorem makes_allRecords {record : Decoding PUnit} (makes : ∀ before, Makes before record) :
    Makes before (allRecords record) :=
  makes_get_bind fun _ _ => makes_records makes _

theorem makes_chunkBody (kind : ChunkKind) : Makes before (chunkBody kind) := by
  cases kind with
  | moduleHeader => exact makes_moduleHeader
  | unitHeader => exact makes_unitHeader
  | sectionHeader => exact makes_sectionHeader
  | imports => exact makes_allRecords fun _ => makes_importRecord
  | exports => exact makes_allRecords fun _ => makes_exportRecord
  | sectionSelection => exact makes_sectionSelection
  | objectData => exact makes_objectData
  | relocation => exact makes_allRecords fun _ => makes_relocationRecord
  | termination => exact makes_pure _
  | unknown code => exact makes_get_bind fun _ _ => makes_warn _

theorem makes_chunks (limit : Nat) : Makes before (chunks limit) := by
  induction limit generalizing before with
  | zero => exact makes_pure _
  | succ limit induction =>
      have onward (after : Collected) : Makes after (do seek (← get).chunkEnd; chunks limit) :=
        makes_get_bind fun decoder _ =>
          Quiet.bind (fun _ => upholds_collected_seek decoder.chunkEnd) fun _ => induction
      refine makes_get_bind fun _ _ => makes_ite (fun _ => ?_) fun _ => makes_pure _
      refine Quiet.bind (fun _ => upholds_collected_beginChunk) fun kind => ?_
      exact makes_ite (fun _ => (makes_chunkBody kind).bind fun _ => onward) fun _ => makes_pure _

theorem makes_finish : Makes before finish := by
  refine makes_get_bind fun decoder _ => ?_
  split
  · exact makes_throw _
  · exact makes_throw _
  · exact makes_pure _

theorem makes_decodeFile : Makes before decodeFile :=
  makes_get_bind fun _ _ => (makes_chunks _).bind fun _ _ => makes_finish

end Decoder

end SuperHBench
