import SuperHBench.Proofs.Object.Windows

/-! # Relocation records

What becomes of a relocation record that is read: it is put into the current section, or it is
left out with a warning. One kind of record is put there although there is a warning: those
with an import index in two bytes, the lower of which names an import. -/

namespace SuperHBench

/-! ## Tables -/

structure RelocationTable where
  external : List ExternalRelocation := []
  long : List LongRelocation := []
  short : List ShortRelocation := []
deriving DecidableEq, Repr

namespace RelocationTable

def append (table other : RelocationTable) : RelocationTable :=
  ⟨table.external ++ other.external, table.long ++ other.long, table.short ++ other.short⟩

instance : Append RelocationTable :=
  ⟨append⟩

/-- What a table holds beyond the entries of an earlier one. -/
def since (table earlier : RelocationTable) : RelocationTable :=
  ⟨table.external.drop earlier.external.length, table.long.drop earlier.long.length,
    table.short.drop earlier.short.length⟩

def concat (tables : List RelocationTable) : RelocationTable :=
  tables.foldr append {}

variable {table other third : RelocationTable}

theorem append_empty : table ++ ({} : RelocationTable) = table := by
  change append table {} = table
  simp [append]

theorem append_assoc : table ++ other ++ third = table ++ (other ++ third) := by
  change append (append table other) third = append table (append other third)
  simp [append]

theorem since_append : (table ++ other).since table = other := by
  change (append table other).since table = other
  simp [append, since]

theorem since_self : table.since table = {} := by
  simp [since]

theorem concat_append (tables others : List RelocationTable) :
    concat (tables ++ others) = concat tables ++ concat others := by
  induction tables with
  | nil => rfl
  | cons table rest induction =>
      change table ++ concat (rest ++ others) = table ++ concat rest ++ concat others
      rw [induction, append_assoc]

end RelocationTable

/-- The relocation that a record asks for whose import is known. -/
def ImportSymbol.relocation (symbol : ImportSymbol) (head : RelocationHead) (importIndex : Nat)
    (offset : UInt32) : ExternalRelocation where
  toRelocationHead := head
  importIndex := importIndex
  name := symbol.name
  offset := offset
  linkedAddress := none

def Section.table (part : Section) : RelocationTable :=
  ⟨part.relocations, part.longRelocations, part.shortRelocations⟩

namespace Section

variable (part : Section)

theorem table_external (entries : List ExternalRelocation) :
    table { part with relocations := part.relocations ++ entries } =
      part.table ++ { external := entries } := by
  change _ = RelocationTable.append _ _
  simp [RelocationTable.append, table]

theorem table_long (entries : List LongRelocation) :
    table { part with longRelocations := part.longRelocations ++ entries } =
      part.table ++ { long := entries } := by
  change _ = RelocationTable.append _ _
  simp [RelocationTable.append, table]

theorem table_short (entries : List ShortRelocation) :
    table { part with shortRelocations := part.shortRelocations ++ entries } =
      part.table ++ { short := entries } := by
  change _ = RelocationTable.append _ _
  simp [RelocationTable.append, table]

theorem table_of_push {part changed : Section} {fragment : Fragment}
    (pushed : part.push fragment = .ok changed) : changed.table = part.table := by
  unfold push at pushed
  split at pushed
  · cases pushed
  · cases pushed
    rfl

end Section

def ObjectUnit.table (unit : ObjectUnit) (index : Nat) : RelocationTable :=
  (unit.sections[index]?.map Section.table).getD {}

def Decoder.table (decoder : Decoder) (index : Nat) : RelocationTable :=
  (decoder.unit.map (·.table index)).getD {}

theorem ObjectUnit.table_of_found {unit : ObjectUnit} {index : Nat} {part : Section}
    (found : unit.sections[index]? = some part) : unit.table index = part.table := by
  rw [table, found]
  rfl

theorem ObjectUnit.table_set {unit : ObjectUnit} {target index : Nat} {part changed : Section}
    (found : unit.sections[target]? = some part) :
    ObjectUnit.table { unit with sections := unit.sections.set target changed } index =
      if index = target then changed.table else unit.table index := by
  have inside : target < unit.sections.length := (List.getElem?_eq_some_iff.mp found).1
  unfold table
  by_cases same : index = target
  · rw [if_pos same, same, List.getElem?_set_self inside]
    rfl
  · rw [if_neg same, List.getElem?_set_ne (Ne.symm same)]

/-! ## Bytes ahead -/

namespace Decoder

/-- The byte at an offset from where the decoder stands. -/
def byteAhead (decoder : Decoder) (offset : Nat) : UInt8 :=
  (decoder.cursor.file[decoder.position + offset]?).getD 0

variable {decoder between after : Decoder}

theorem advance_advance (count other : Nat) :
    (decoder.advance count).advance other = decoder.advance (count + other) := by
  simp only [advance, Cursor.advance, Nat.add_assoc]

theorem byteAhead_advance (count offset : Nat) :
    (decoder.advance count).byteAhead offset = decoder.byteAhead (count + offset) := by
  simp only [byteAhead, advance, Cursor.advance, position, Nat.add_assoc]

theorem run_bind_eq_ok {action : Decoding α} {next : α → Decoding β} {result : β}
    (ran : (action >>= next).run decoder = .ok result after) :
    ∃ value between, action.run decoder = .ok value between ∧
      (next value).run between = .ok result after := by
  rw [EStateM.run_bind] at ran
  cases outcome : action.run decoder with
  | error error failed =>
      rw [outcome] at ran
      cases ran
  | ok value between =>
      rw [outcome] at ran
      exact ⟨value, between, rfl, ran⟩

theorem run_take_eq_ok {make : List UInt8 → α} {count : Nat} {value : α}
    (ran : (liftM (do return make (← Cursor.take count) : Reading α) : Decoding α).run decoder =
      .ok value after) :
    after = decoder.advance count ∧
      value = make (decoder.cursor.file.extract decoder.position
        (decoder.position + count)).toList := by
  rw [run_liftM, EStateM.run_bind] at ran
  by_cases enough : decoder.cursor.position + count ≤ decoder.cursor.file.size
  · have taken : (Cursor.take count).run decoder.cursor = .ok _ (decoder.cursor.advance count) :=
      if_pos enough
    rw [taken] at ran
    cases ran
    exact ⟨rfl, rfl⟩
  · have missing : (Cursor.take count).run decoder.cursor = .error _ decoder.cursor :=
      if_neg enough
    rw [missing] at ran
    cases ran

theorem run_byte_eq_ok {value : UInt8}
    (ran : (liftM Cursor.byte : Decoding UInt8).run decoder = .ok value after) :
    after = decoder.advance 1 ∧ value = decoder.byteAhead 0 := by
  rcases run_take_eq_ok ran with ⟨moved, read⟩
  refine ⟨moved, read.trans ?_⟩
  simp [byteAhead, List.head?_eq_getElem?, List.headD_eq_head?_getD]

theorem run_take_bind_eq_ok {make : List UInt8 → α} {count : Nat} {next : α → Decoding β}
    {result : β}
    (ran : ((liftM (do return make (← Cursor.take count) : Reading α) : Decoding α) >>=
      next).run decoder = .ok result after) :
    ∃ value, (next value).run (decoder.advance count) = .ok result after := by
  rcases run_bind_eq_ok ran with ⟨value, between, read, rest⟩
  rcases run_take_eq_ok read with ⟨rfl, _⟩
  exact ⟨value, rest⟩

theorem run_byte_bind_eq_ok {next : UInt8 → Decoding β} {result : β}
    (ran : (liftM Cursor.byte >>= next).run decoder = .ok result after) :
    (next (decoder.byteAhead 0)).run (decoder.advance 1) = .ok result after := by
  rcases run_bind_eq_ok ran with ⟨value, between, read, rest⟩
  rcases run_byte_eq_ok read with ⟨rfl, rfl⟩
  exact rest

theorem run_expectTerminator_eq_ok {value : PUnit}
    (ran : expectTerminator.run decoder = .ok value after) : after = decoder.advance 1 := by
  rw [expectTerminator, run_get_bind] at ran
  rcases run_take_bind_eq_ok ran with ⟨found, ran⟩
  split at ran
  · cases ran
  · cases ran
    rfl

/-! ## Heads -/

def lengthOffset : Nat :=
  13

/-- A head is the same for all records, and they differ by the byte behind it. -/
theorem run_relocationHead_eq_ok {head : RelocationHead}
    (ran : relocationHead.run decoder = .ok head after) :
    after = decoder.advance (lengthOffset + 1) ∧
      head.relocationLength = decoder.byteAhead lengthOffset := by
  rw [relocationHead, run_get_bind] at ran
  rcases run_take_bind_eq_ok ran with ⟨flags, ran⟩
  rcases run_take_bind_eq_ok ran with ⟨address, ran⟩
  rcases run_take_bind_eq_ok ran with ⟨bitLocation, ran⟩
  rcases run_take_bind_eq_ok ran with ⟨fieldLength, ran⟩
  rcases run_take_bind_eq_ok ran with ⟨bitCount, ran⟩
  rcases run_take_bind_eq_ok ran with ⟨operator, ran⟩
  split at ran
  · cases ran
  · rcases run_take_bind_eq_ok ran with ⟨sectionField, ran⟩
    rcases run_take_bind_eq_ok ran with ⟨opcode, ran⟩
    rcases run_take_bind_eq_ok ran with ⟨addendLength, ran⟩
    cases run_byte_bind_eq_ok ran
    simp only [advance_advance, byteAhead_advance]
    exact ⟨rfl, rfl⟩

/-! ## Additions -/

/-- The current section gets relocations, and nothing else happens to the relocations. -/
def Adds (decoder : Decoder) (entries : RelocationTable) (after : Decoder) : Prop :=
  ∃ unit part, decoder.unit = some unit ∧
    unit.sections[decoder.collected.target unit]? = some part ∧
    ∀ index, after.table index =
      if index = decoder.collected.target unit then decoder.table index ++ entries
      else decoder.table index

theorem run_updateSection_eq_ok {unit : ObjectUnit} {index : Nat} {missing : FormatError}
    {update : Section → Except FormatError Section} {value : PUnit}
    (ran : (updateSection unit index missing update).run decoder = .ok value after) :
    ∃ part changed, unit.sections[index]? = some part ∧ update part = .ok changed ∧
      after = { decoder with
        unit := some { unit with sections := unit.sections.set index changed } } := by
  rw [updateSection] at ran
  split at ran
  · cases ran
  · rename_i part found
    split at ran
    · cases ran
    · rename_i changed updated
      cases ran
      exact ⟨part, changed, found, updated, rfl⟩

theorem run_requireUnit_eq_ok {unit : ObjectUnit}
    (ran : requireUnit.run decoder = .ok unit after) :
    decoder.unit = some unit ∧ after = decoder := by
  rw [requireUnit, run_get_bind] at ran
  split at ran
  · rename_i found
    cases ran
    exact ⟨found, rfl⟩
  · cases ran

theorem run_updateCurrentSection_eq_ok {update : Section → Except FormatError Section}
    {value : PUnit} (ran : (updateCurrentSection update).run decoder = .ok value after) :
    ∃ unit part changed, decoder.unit = some unit ∧
      unit.sections[decoder.collected.target unit]? = some part ∧ update part = .ok changed ∧
      after = { decoder with
        unit := some { unit with
          sections := unit.sections.set (decoder.collected.target unit) changed } } := by
  rcases run_bind_eq_ok ran with ⟨unit, _, required, updates⟩
  rcases run_requireUnit_eq_ok required with ⟨present, same⟩
  rw [same, run_get_bind] at updates
  have target : decoder.collected.target unit =
      decoder.selected.getD (unit.sections.length - 1) := rfl
  have current : ∃ missing, (updateSection unit (decoder.collected.target unit) missing
      update).run decoder = .ok value after := by
    rw [target]
    cases selected : decoder.selected with
    | some index =>
        rw [selected] at updates
        exact ⟨_, updates⟩
    | none =>
        rw [selected] at updates
        cases count : unit.sections.length with
        | zero =>
            rw [count] at updates
            cases updates
        | succ last =>
            rw [count] at updates
            exact ⟨_, updates⟩
  rcases current with ⟨missing, current⟩
  rcases run_updateSection_eq_ok current with ⟨part, changed, found, updated, rfl⟩
  exact ⟨unit, part, changed, present, found, updated, rfl⟩

theorem adds_of_updateCurrentSection {update : Section → Section} {entries : RelocationTable}
    {value : PUnit} (adds : ∀ part, (update part).table = part.table ++ entries)
    (ran : (updateCurrentSection fun part => .ok (update part)).run decoder = .ok value after) :
    decoder.Adds entries after ∧ after.warnings = decoder.warnings := by
  rcases run_updateCurrentSection_eq_ok ran with ⟨unit, part, changed, present, found, updated, rfl⟩
  cases updated
  refine ⟨⟨unit, part, present, found, fun index => ?_⟩, rfl⟩
  have tables : decoder.table index = unit.table index := by
    rw [table, present]
    rfl
  have changed : table { decoder with
      unit := some { unit with
        sections := unit.sections.set (decoder.collected.target unit) (update part) } } index =
      if index = decoder.collected.target unit then (update part).table else unit.table index :=
    ObjectUnit.table_set found
  rw [changed, tables]
  by_cases same : index = decoder.collected.target unit
  · rw [if_pos same, if_pos same, adds, same, ObjectUnit.table_of_found found]
  · rw [if_neg same, if_neg same]

/-! ## Records -/

def highByte (decoder : Decoder) : UInt8 :=
  decoder.byteAhead (lengthOffset + 2)

def lowByte (decoder : Decoder) : UInt8 :=
  decoder.byteAhead (lengthOffset + 3)

/-- In front of a record with an import index that needs both of its bytes, while the lower
one alone names an import. -/
structure TruncatesIndex (decoder : Decoder) : Prop where
  length : decoder.byteAhead lengthOffset = 4
  variant : decoder.byteAhead (lengthOffset + 1) = 2
  high : decoder.highByte ≠ 0
  known : decoder.lowByte.toNat < decoder.imports.length

inductive Recorded (before after : Decoder) : Prop where
  | kept (whole : ¬before.TruncatesIndex) (entries : RelocationTable)
      (silent : after.warnings = before.warnings) (adds : before.Adds entries after)
  | leftOut (whole : ¬before.TruncatesIndex) (raised : List FormatWarning)
      (warned : after.warnings = before.warnings ++ raised) (some : raised ≠ [])
      (same : after.unit = before.unit)
  | truncated (truncates : before.TruncatesIndex) (symbol : ImportSymbol) (head : RelocationHead)
      (warned : after.warnings = before.warnings ++
        [.nonZeroHighByte before.highByte (before.position + (lengthOffset + 2))])
      (found : before.imports[before.lowByte.toNat]? = .some symbol)
      (adds : before.Adds { external := [symbol.relocation head before.lowByte.toNat 0] } after)

theorem run_externalRelocation_eq_ok {head : RelocationHead} {start importIndex : Nat}
    {offset : UInt32} {value : PUnit}
    (ran : (externalRelocation head start importIndex offset).run decoder = .ok value after) :
    (decoder.imports[importIndex]? = none ∧ after.unit = decoder.unit ∧
      after.warnings =
        decoder.warnings ++ [.importOutOfRange importIndex decoder.imports.length start]) ∨
    ∃ symbol, decoder.imports[importIndex]? = some symbol ∧ after.warnings = decoder.warnings ∧
      decoder.Adds { external := [symbol.relocation head importIndex offset] } after := by
  rw [externalRelocation, run_get_bind] at ran
  dsimp only at ran
  split at ran
  · rename_i missing
    rcases run_bind_eq_ok ran with ⟨_, between, raised, ended⟩
    cases raised
    rw [run_expectTerminator_eq_ok ended]
    exact .inl ⟨missing, rfl, rfl⟩
  · rename_i symbol found
    rcases run_bind_eq_ok ran with ⟨_, between, ended, updates⟩
    rcases run_expectTerminator_eq_ok ended with rfl
    rcases adds_of_updateCurrentSection (fun part => part.table_external _) updates with
      ⟨adds, silent⟩
    exact .inr ⟨symbol, found, silent, adds⟩

theorem run_longRelocation_eq_ok {address : UInt32} {value : PUnit}
    (ran : (longRelocation address).run decoder = .ok value after) :
    ∃ entries, decoder.Adds entries after ∧ after.warnings = decoder.warnings := by
  rcases run_take_bind_eq_ok ran with ⟨_, ran⟩
  rcases run_take_bind_eq_ok ran with ⟨sectionIndex, ran⟩
  rcases run_take_bind_eq_ok ran with ⟨_, ran⟩
  rcases run_take_bind_eq_ok ran with ⟨target, ran⟩
  rcases run_take_bind_eq_ok ran with ⟨_, ran⟩
  rcases run_bind_eq_ok ran with ⟨_, _, ended, updates⟩
  rcases run_expectTerminator_eq_ok ended with rfl
  rcases adds_of_updateCurrentSection (fun part => part.table_long _) updates with ⟨adds, silent⟩
  exact ⟨_, adds, silent⟩

theorem run_shortRelocation_eq_ok {address : UInt32} {value : PUnit}
    (ran : (shortRelocation address).run decoder = .ok value after) :
    ∃ entries, decoder.Adds entries after ∧ after.warnings = decoder.warnings := by
  rcases run_take_bind_eq_ok ran with ⟨sectionIndex, ran⟩
  rcases run_bind_eq_ok ran with ⟨_, _, ended, updates⟩
  rcases run_expectTerminator_eq_ok ended with rfl
  rcases adds_of_updateCurrentSection (fun part => part.table_short _) updates with ⟨adds, silent⟩
  exact ⟨_, adds, silent⟩

theorem run_unsupportedRelocation_eq_ok {discriminator length : UInt8} {start count : Nat}
    {value : PUnit}
    (ran : (do
      warn (.unsupportedRelocationVariant discriminator length start)
      Cursor.skip count : Decoding PUnit).run decoder = .ok value after) :
    after.unit = decoder.unit ∧ after.warnings =
      decoder.warnings ++ [.unsupportedRelocationVariant discriminator length start] := by
  rcases run_bind_eq_ok ran with ⟨_, _, raised, skipped⟩
  cases raised
  rw [(run_take_eq_ok skipped).1]
  exact ⟨rfl, rfl⟩

theorem run_indexedRelocation_eq_ok {head : RelocationHead} {start : Nat} {value : PUnit}
    (ran : (do
      let highOffset := (← get).position
      let high ← Cursor.byte
      if high ≠ 0 then
        warn (.nonZeroHighByte high highOffset)
      let importIndex := (← Cursor.byte).toNat
      externalRelocation head start importIndex 0 : Decoding PUnit).run decoder =
        .ok value after) :
    ∃ raised, (decoder.byteAhead 0 = 0 → raised = []) ∧
      (decoder.byteAhead 0 ≠ 0 →
        raised = [.nonZeroHighByte (decoder.byteAhead 0) decoder.position]) ∧
      ((decoder.imports[(decoder.byteAhead 1).toNat]? = none ∧ after.unit = decoder.unit ∧
        after.warnings = decoder.warnings ++ raised ++
          [.importOutOfRange (decoder.byteAhead 1).toNat decoder.imports.length start]) ∨
      ∃ symbol, decoder.imports[(decoder.byteAhead 1).toNat]? = some symbol ∧
        after.warnings = decoder.warnings ++ raised ∧
        decoder.Adds
          { external := [symbol.relocation head (decoder.byteAhead 1).toNat 0] } after) := by
  rw [run_get_bind] at ran
  replace ran := run_byte_bind_eq_ok ran
  dsimp only at ran
  split at ran
  · rename_i nonzero
    rcases run_bind_eq_ok ran with ⟨_, _, raised, ran⟩
    cases raised
    have settled := run_externalRelocation_eq_ok (run_byte_bind_eq_ok ran)
    exact ⟨_, fun zero => absurd zero nonzero, fun _ => rfl, settled⟩
  · rename_i zero
    have settled := run_externalRelocation_eq_ok (run_byte_bind_eq_ok ran)
    rw [byteAhead_advance] at settled
    refine ⟨_, fun _ => rfl, fun nonzero => absurd nonzero zero, ?_⟩
    rw [List.append_nil]
    exact settled

theorem run_offsetRelocation_eq_ok {head : RelocationHead} {start : Nat} {value : PUnit}
    (ran : (do
      Cursor.skip 4
      let offset := (← Cursor.byte).toUInt32
      Cursor.skip 2
      let importIndex := (← Cursor.byte).toNat
      Cursor.skip 1
      externalRelocation head start importIndex offset : Decoding PUnit).run decoder =
        .ok value after) :
    (after.unit = decoder.unit ∧ ∃ raised, after.warnings = decoder.warnings ++ [raised]) ∨
      ∃ entries, decoder.Adds entries after ∧ after.warnings = decoder.warnings := by
  rcases run_take_bind_eq_ok ran with ⟨_, ran⟩
  rcases run_take_bind_eq_ok ran with ⟨offset, ran⟩
  rcases run_take_bind_eq_ok ran with ⟨_, ran⟩
  rcases run_take_bind_eq_ok ran with ⟨low, ran⟩
  rcases run_take_bind_eq_ok ran with ⟨_, ran⟩
  rcases run_externalRelocation_eq_ok ran with ⟨_, same, warned⟩ | ⟨symbol, _, silent, adds⟩
  · exact .inl ⟨same, _, warned⟩
  · exact .inr ⟨_, adds, silent⟩

theorem recorded_of_run {value : PUnit} (ran : relocationRecord.run decoder = .ok value after) :
    decoder.Recorded after := by
  rw [relocationRecord, run_get_bind] at ran
  rcases run_bind_eq_ok ran with ⟨head, _, headed, ran⟩
  rcases run_relocationHead_eq_ok headed with ⟨rfl, length⟩
  rcases run_bind_eq_ok ran with ⟨discriminator, _, read, ran⟩
  rcases run_byte_eq_ok read with ⟨rfl, variant⟩
  simp only [advance_advance, byteAhead_advance, Nat.add_zero] at variant ran
  have notLong (long : head.relocationLength.toNat = 11) : ¬decoder.TruncatesIndex := by
    intro truncates
    rw [length, truncates.length] at long
    contradiction
  have notLocal (local_ : discriminator.toNat = 0) : ¬decoder.TruncatesIndex := by
    intro truncates
    rw [variant, truncates.variant] at local_
    contradiction
  split at ran
  · rename_i short external
    have high : (decoder.advance (lengthOffset + 1 + 1)).byteAhead 0 = decoder.highByte :=
      byteAhead_advance _ _
    have low : (decoder.advance (lengthOffset + 1 + 1)).byteAhead 1 = decoder.lowByte :=
      byteAhead_advance _ _
    rcases run_indexedRelocation_eq_ok ran with ⟨raised, whole, split, ended⟩
    rw [high] at whole split
    rw [low] at ended
    rcases ended with ⟨missing, same, warned⟩ | ⟨symbol, found, warned, adds⟩
    · refine .leftOut (fun truncates => ?_) (raised ++ [_])
        (warned.trans (List.append_assoc _ _ _)) (by simp) same
      exact absurd truncates.known (Nat.not_lt.mpr (List.getElem?_eq_none_iff.mp missing))
    · by_cases zero : decoder.highByte = 0
      · rw [whole zero] at warned
        exact .kept (fun truncates => truncates.high zero) _ (warned.trans (List.append_nil _)) adds
      · rw [split zero] at warned
        refine .truncated ?_ symbol head warned found adds
        exact {
          length := UInt8.toNat_inj.mp (length ▸ short)
          variant := UInt8.toNat_inj.mp (variant ▸ external)
          high := zero
          known := (List.getElem?_eq_some_iff.mp found).1 }
  · rename_i long _
    rcases run_offsetRelocation_eq_ok ran with ⟨same, _, warned⟩ | ⟨entries, adds, silent⟩
    · exact .leftOut (notLong long) _ warned (by simp) same
    · exact .kept (notLong long) entries silent adds
  · rename_i _ local_
    rcases run_shortRelocation_eq_ok ran with ⟨entries, adds, silent⟩
    exact .kept (notLocal local_) entries silent adds
  · rename_i _ local_
    rcases run_longRelocation_eq_ok ran with ⟨entries, adds, silent⟩
    exact .kept (notLocal local_) entries silent adds
  · rename_i _ external _
    rcases run_unsupportedRelocation_eq_ok ran with ⟨same, warned⟩
    refine .leftOut (fun truncates => external ?_) _ warned (by simp) same
    rw [variant, truncates.variant]
    rfl
  · rename_i long _ _
    rcases run_unsupportedRelocation_eq_ok ran with ⟨same, warned⟩
    exact .leftOut (notLong long) _ warned (by simp) same
  · cases ran

end Decoder

end SuperHBench
