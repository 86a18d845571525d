import SuperHBench.Proofs.Object.Handlers
import SuperHBench.Proofs.Object.Relocations

/-! # The extent of relocation records

A relocation record is a head and as many bytes as the head says. The decoder moves behind all
of them, whatever they spell. If they ask for a relocation that can be bound, the current section
gets it; otherwise there is a warning, and that is all. -/

namespace SuperHBench

/-! ## Records as bytes -/

namespace RelocationShape

/-- The shape that the bytes behind a head spell, unless it is an unknown one. Bytes in between
carry nothing. -/
def ofField (field : List UInt8) : Option RelocationShape :=
  match field.length, (field.headD 0).toNat with
  | 4, 2 => some (.external (field.getD 2 0))
  | 11, 3 => some (.externalOffset (field.getD 8 0) (field.getD 5 0))
  | 4, 0 => some (.sectionStart (UInt16.ofNat (Cursor.bigEndian ((field.drop 1).take 2))))
  | 11, 0 =>
      some (.sectionTarget (field.getD 2 0)
        (UInt32.ofNat (Cursor.bigEndian ((field.drop 5).take 4))))
  | _, _ => none

def table (head : RelocationHead) (imports : List ImportSymbol) :
    RelocationShape → Option RelocationTable
  | .external importIndex =>
      imports[importIndex.toNat]?.map fun symbol =>
        { external := [symbol.relocation head importIndex.toNat 0] }
  | .externalOffset importIndex offset =>
      imports[importIndex.toNat]?.map fun symbol =>
        { external := [symbol.relocation head importIndex.toNat offset.toUInt32] }
  | .sectionStart sectionIndex =>
      some { short := [⟨sectionIndex.toNat, head.address, none⟩] }
  | .sectionTarget sectionIndex target =>
      some { long := [⟨sectionIndex.toNat, head.address, target, none⟩] }

theorem isSome_table_iff {head : RelocationHead} {imports : List ImportSymbol}
    {shape : RelocationShape} : (shape.table head imports).isSome ↔ shape.RefersInto imports := by
  cases shape <;> simp [table, RefersInto]

end RelocationShape

theorem RelocationHead.length_bytes (head : RelocationHead) :
    head.bytes.length = Decoder.lengthOffset + 1 := by
  simp [bytes, Decoder.lengthOffset]

/-- A record with any discriminator. Its head asks for the one operation there is; an import
index that might have two bytes has one, and records of known shapes end with the terminator. -/
structure RelocationText where
  head : RelocationHead
  field : List UInt8
  operator_eq : head.operator = Decoder.replaceOperator
  length_eq : field.length = head.relocationLength.toNat
  sized : field.length = 4 ∨ field.length = 11
  highByte : field.length = 4 → field[0]? = some 2 → field[1]? = some 0
  terminated : (RelocationShape.ofField field).isSome → field.getLast? = some Decoder.terminator

namespace RelocationText

def bytes (text : RelocationText) : List UInt8 :=
  text.head.bytes ++ text.field

def shape (text : RelocationText) : Option RelocationShape :=
  RelocationShape.ofField text.field

/-- What the record adds to the current section, unless it is left out. -/
def entries (text : RelocationText) (imports : List ImportSymbol) : Option RelocationTable :=
  text.shape.bind (·.table text.head imports)

def warning (text : RelocationText) (imports : List ImportSymbol) (start : Nat) : FormatWarning :=
  match text.shape with
  | some (.external importIndex) | some (.externalOffset importIndex _) =>
      .importOutOfRange importIndex.toNat imports.length start
  | _ =>
      .unsupportedRelocationVariant (text.field.headD 0) text.head.relocationLength start

/-- The shape of the record is a known one, and so is the import that it names, if it does. -/
def Kept (text : RelocationText) (imports : List ImportSymbol) : Prop :=
  ∃ shape, text.shape = some shape ∧ shape.RefersInto imports

theorem isSome_entries_iff {text : RelocationText} {imports : List ImportSymbol} :
    (text.entries imports).isSome ↔ text.Kept imports := by
  simp only [entries, Option.isSome_bind, Option.any_eq_true, RelocationShape.isSome_table_iff]
  rfl

theorem entries_eq_none {text : RelocationText} {imports : List ImportSymbol}
    (leftOut : ¬text.Kept imports) : text.entries imports = none :=
  Option.not_isSome_iff_eq_none.mp fun known => leftOut (isSome_entries_iff.mp known)

instance (text : RelocationText) (imports : List ImportSymbol) : Decidable (text.Kept imports) :=
  decidable_of_iff _ isSome_entries_iff

theorem length_bytes (text : RelocationText) :
    text.bytes.length = Decoder.lengthOffset + 1 + text.head.relocationLength.toNat := by
  simp only [bytes, List.length_append, text.length_eq, RelocationHead.length_bytes]

theorem length_bytes_pos (text : RelocationText) : 0 < text.bytes.length := by
  rw [length_bytes]
  exact Nat.lt_add_right _ (Nat.succ_pos _)

end RelocationText

/-! ## Additions to what is collected -/

def Section.addRelocations (part : Section) (entries : RelocationTable) : Section :=
  { part with
    relocations := part.relocations ++ entries.external
    longRelocations := part.longRelocations ++ entries.long
    shortRelocations := part.shortRelocations ++ entries.short }

theorem Section.addRelocations_append (part : Section) (entries others : RelocationTable) :
    (part.addRelocations entries).addRelocations others =
      part.addRelocations (entries ++ others) := by
  change _ = part.addRelocations (RelocationTable.append entries others)
  simp [addRelocations, RelocationTable.append]

theorem Section.addRelocations_empty (part : Section) : part.addRelocations {} = part := by
  simp [addRelocations]

namespace ObjectUnit

def addRelocations (unit : ObjectUnit) (index : Nat) (entries : RelocationTable) : ObjectUnit :=
  { unit with sections := unit.sections.modify index (·.addRelocations entries) }

variable (unit : ObjectUnit) (index : Nat) (entries others : RelocationTable)

theorem addRelocations_append : (unit.addRelocations index entries).addRelocations index others =
    unit.addRelocations index (entries ++ others) := by
  have composed : (Section.addRelocations · others) ∘ (Section.addRelocations · entries) =
      (Section.addRelocations · (entries ++ others)) :=
    funext fun part => part.addRelocations_append entries others
  simp only [addRelocations, List.modify_modify_eq, composed]

theorem addRelocations_empty : unit.addRelocations index {} = unit := by
  have same : (Section.addRelocations · {}) = id := funext Section.addRelocations_empty
  rw [addRelocations, same, List.modify_id]

theorem addRelocations_eq_set {part : Section} (found : unit.sections[index]? = some part) :
    unit.addRelocations index entries =
      { unit with sections := unit.sections.set index (part.addRelocations entries) } := by
  rcases List.getElem?_eq_some_iff.mp found with ⟨inside, rfl⟩
  rw [addRelocations, List.modify_eq_take_cons_drop inside, List.set_eq_take_append_cons_drop,
    if_pos inside]

end ObjectUnit

namespace Collected

def HasCurrent (collected : Collected) : Prop :=
  ∃ unit part, collected.unit = some unit ∧ unit.sections[collected.target unit]? = some part

def addRelocations (collected : Collected) (entries : RelocationTable) : Collected :=
  { collected with
    unit := collected.unit.map fun unit =>
      unit.addRelocations (collected.target unit) entries }

def addWarnings (collected : Collected) (raised : List FormatWarning) : Collected :=
  { collected with warnings := collected.warnings ++ raised }

def addExternal (collected : Collected) (head : RelocationHead) (start importIndex : Nat)
    (offset : UInt32) : Collected :=
  match collected.imports[importIndex]? with
  | none =>
      collected.addWarnings [.importOutOfRange importIndex collected.imports.length start]
  | some symbol =>
      collected.addRelocations { external := [symbol.relocation head importIndex offset] }

variable {collected : Collected} {entries others : RelocationTable}
  {raised further : List FormatWarning} {unit : ObjectUnit}

theorem target_addRelocations (index : Nat) :
    collected.target (unit.addRelocations index entries) = collected.target unit := by
  simp only [target, ObjectUnit.addRelocations, List.length_modify]

theorem addRelocations_append : (collected.addRelocations entries).addRelocations others =
    collected.addRelocations (entries ++ others) := by
  rcases collected with ⟨module, _ | unit, selected, imports, warnings⟩
  · rfl
  · have twice := unit.addRelocations_append (selected.getD (unit.sections.length - 1)) entries
      others
    simp only [addRelocations, Option.map_some, target, ObjectUnit.addRelocations,
      List.length_modify] at twice ⊢
    rw [twice]

theorem addRelocations_empty : collected.addRelocations {} = collected := by
  rcases collected with ⟨module, _ | unit, selected, imports, warnings⟩
  · rfl
  · simp only [addRelocations, Option.map_some, ObjectUnit.addRelocations_empty]

theorem addWarnings_append : (collected.addWarnings raised).addWarnings further =
    collected.addWarnings (raised ++ further) := by
  simp only [addWarnings, List.append_assoc]

theorem addWarnings_nil : collected.addWarnings [] = collected := by
  simp only [addWarnings, List.append_nil]

theorem HasCurrent.addRelocations (current : collected.HasCurrent) :
    (collected.addRelocations entries).HasCurrent := by
  rcases current with ⟨unit, part, present, found⟩
  refine ⟨unit.addRelocations (collected.target unit) entries, part.addRelocations entries, ?_, ?_⟩
  · rw [Collected.addRelocations, present, Option.map_some]
  · change (unit.sections.modify _ _)[collected.target (unit.addRelocations _ _)]? = _
    rw [target_addRelocations, List.getElem?_modify_eq, found]
    rfl

end Collected

/-! ## Actions in front of bytes -/

namespace Decoder

def holding (decoder : Decoder) (collected : Collected) : Decoder :=
  { decoder with
    module := collected.module
    unit := collected.unit
    selected := collected.selected
    imports := collected.imports
    warnings := collected.warnings }

@[simp] theorem collected_advance (decoder : Decoder) (count : Nat) :
    (decoder.advance count).collected = decoder.collected :=
  rfl

@[simp] theorem collected_holding (decoder : Decoder) (collected : Collected) :
    (decoder.holding collected).collected = collected :=
  rfl

/-- Where the decoder sees these bytes of a chunk, the action moves it behind them and has
collected certain things then. -/
def Takes (action : Decoding α) (decoder : Decoder) (bytes : List UInt8) (value : α)
    (after : Collected) : Prop :=
  ∀ tail rest, decoder.Sees (.Within tail) (bytes ++ rest) →
    action.run decoder = .ok value ((decoder.advance bytes.length).holding after)

section Rules

variable {decoder : Decoder} {bytes first second : List UInt8} {middle after : Collected}

theorem takes_pure (value : α) : Takes (pure value) decoder [] value decoder.collected :=
  fun _ _ _ => rfl

theorem Takes.bind {action : Decoding α} {next : α → Decoding β} {value : α} {result : β}
    (takes : Takes action decoder first value middle)
    (others : Takes (next value) ((decoder.advance first.length).holding middle) second result
      after) :
    Takes (action >>= next) decoder (first ++ second) result after := by
  intro tail rest sees
  rw [List.append_assoc] at sees
  have moved : ((decoder.advance first.length).holding middle).Sees (.Within tail)
      (second ++ rest) := sees.advance
  rw [run_bind_of_ok (takes tail _ sees), others tail rest moved, List.length_append,
    ← advance_advance]
  rfl

theorem Takes.andThen {action : Decoding α} {next : α → Decoding β} {value : α} {result : β}
    (takes : Takes action decoder bytes value middle)
    (others : Takes (next value) ((decoder.advance bytes.length).holding middle) [] result after) :
    Takes (action >>= next) decoder bytes result after := by
  have both := takes.bind others
  rwa [List.append_nil] at both

theorem takes_get_bind {next : Decoder → Decoding β} {result : β}
    (others : Takes (next decoder) decoder bytes result after) :
    Takes (get >>= next) decoder bytes result after :=
  others

theorem takes_liftM {reading : Reading α} {value : α}
    (reads : Cursor.Reads reading bytes value) :
    Takes (liftM reading) decoder bytes value decoder.collected := by
  intro tail rest sees
  have ahead := sees.before
  rw [List.append_assoc] at ahead
  exact run_liftM_of_reads reads ahead

theorem takes_byte_bind {next : UInt8 → Decoding β} {byte : UInt8} {result : β}
    (others : Takes (next byte) (decoder.advance 1) bytes result after) :
    Takes (liftM Cursor.byte >>= next) decoder (byte :: bytes) result after :=
  (takes_liftM (Cursor.reads_byte byte)).bind others

theorem takes_skip_bind {next : PUnit → Decoding β} {result : β} (skipped : List UInt8)
    (others : Takes (next ⟨⟩) (decoder.advance skipped.length) bytes result after) :
    Takes (liftM (Cursor.skip skipped.length) >>= next) decoder (skipped ++ bytes) result after :=
  (takes_liftM (Cursor.reads_skip rfl)).bind others

theorem takes_warn (warning : FormatWarning) :
    Takes (warn warning) decoder [] ⟨⟩ (decoder.collected.addWarnings [warning]) :=
  fun _ _ _ => rfl

theorem takes_warn_bind {warning : FormatWarning} {next : PUnit → Decoding β} {result : β}
    (others : Takes (next ⟨⟩) (decoder.holding (decoder.collected.addWarnings [warning])) bytes
      result after) :
    Takes (warn warning >>= next) decoder bytes result after :=
  (takes_warn warning).bind others

theorem takes_expectTerminator :
    Takes expectTerminator decoder [terminator] ⟨⟩ decoder.collected := by
  refine takes_get_bind (takes_byte_bind ?_)
  rw [if_neg (not_not_intro rfl)]
  exact takes_pure _

end Rules

/-! ## Records -/

variable {decoder : Decoder} {before : Collected} {head : RelocationHead}

theorem takes_updateCurrentSection {update : Section → Except FormatError Section}
    {entries : RelocationTable} (adds : ∀ part, update part = .ok (part.addRelocations entries))
    (current : decoder.collected.HasCurrent) :
    Takes (updateCurrentSection update) decoder [] ⟨⟩
      (decoder.collected.addRelocations entries) := by
  intro tail rest sees
  rcases current with ⟨unit, part, present, found⟩
  rcases usesUp_updateCurrentSection present found (adds part) decoder rest rfl sees with
    ⟨next, ran, _⟩
  rcases run_updateCurrentSection_eq_ok ran with ⟨_, _, _, here, there, changed, rfl⟩
  cases here.symm.trans present
  cases there.symm.trans found
  cases changed.symm.trans (adds part)
  have same : (decoder.collected.addRelocations entries).unit = some { unit with
      sections := unit.sections.set (decoder.collected.target unit)
        (part.addRelocations entries) } := by
    change decoder.unit.map _ = _
    rw [here, Option.map_some, unit.addRelocations_eq_set _ entries found]
  rw [ran, holding, same]
  rfl

theorem takes_relocationHead (operator_eq : head.operator = replaceOperator) :
    Takes relocationHead decoder head.bytes head decoder.collected := by
  intro tail rest sees
  rcases head.usesUp_relocationHead operator_eq decoder rest rfl sees with ⟨next, ran, _⟩
  rcases run_relocationHead_eq_ok ran with ⟨rfl, _⟩
  rw [ran, head.length_bytes]
  rfl

theorem takes_externalRelocation (start importIndex : Nat) (offset : UInt32)
    (collected : decoder.collected = before) (current : before.HasCurrent) :
    Takes (externalRelocation head start importIndex offset) decoder [terminator] ⟨⟩
      (before.addExternal head start importIndex offset) := by
  subst collected
  refine takes_get_bind ?_
  have same : decoder.collected.imports = decoder.imports := rfl
  rw [Collected.addExternal, same]
  dsimp only
  cases decoder.imports[importIndex]? with
  | none => exact takes_warn_bind takes_expectTerminator
  | some symbol =>
      refine takes_expectTerminator.andThen (takes_updateCurrentSection (fun part => ?_) current)
      simp [Section.addRelocations, ImportSymbol.relocation]

theorem takes_shortRelocation (address : UInt32) {word : List UInt8} (length : word.length = 2)
    (collected : decoder.collected = before) (current : before.HasCurrent) :
    Takes (shortRelocation address) decoder (word ++ [terminator]) ⟨⟩
      (before.addRelocations
        { short := [⟨(UInt16.ofNat (Cursor.bigEndian word)).toNat, address, none⟩] }) := by
  subst collected
  refine (takes_liftM ((Cursor.reads_take length).map _)).bind ?_
  refine takes_expectTerminator.andThen (takes_updateCurrentSection (fun part => ?_) current)
  simp [Section.addRelocations]

theorem takes_longRelocation (address : UInt32) (sectionIndex : UInt8) (first last : UInt8)
    {gap long : List UInt8} (between : gap.length = 2) (length : long.length = 4)
    (collected : decoder.collected = before) (current : before.HasCurrent) :
    Takes (longRelocation address) decoder
      ([first] ++ (sectionIndex :: (gap ++ (long ++ ([last] ++ [terminator]))))) ⟨⟩
      (before.addRelocations
        { long := [⟨sectionIndex.toNat, address, UInt32.ofNat (Cursor.bigEndian long),
            none⟩] }) := by
  subst collected
  rw [longRelocation, ← between]
  refine takes_skip_bind [first] (takes_byte_bind (takes_skip_bind gap ?_))
  refine (takes_liftM ((Cursor.reads_take length).map _)).bind (takes_skip_bind [last] ?_)
  refine takes_expectTerminator.andThen (takes_updateCurrentSection (fun part => ?_) current)
  simp [Section.addRelocations]

end Decoder

namespace RelocationText

open Decoder

/-- What has been collected once the record is read that starts at this offset. -/
def collect (text : RelocationText) (start : Nat) (before : Collected) : Collected :=
  match text.entries before.imports with
  | some entries => before.addRelocations entries
  | none => before.addWarnings [text.warning before.imports start]

variable {text : RelocationText} {decoder : Decoder} {start : Nat} {before : Collected}
  {importIndex offset sectionIndex : UInt8} {target : UInt32} {index : UInt16}

theorem collect_of_external (shape : text.shape = some (.external importIndex)) :
    text.collect start before = before.addExternal text.head start importIndex.toNat 0 := by
  rw [collect, entries, shape, warning, shape, Collected.addExternal]
  dsimp only [Option.bind_some, RelocationShape.table]
  cases before.imports[importIndex.toNat]? <;> rfl

theorem collect_of_externalOffset
    (shape : text.shape = some (.externalOffset importIndex offset)) :
    text.collect start before =
      before.addExternal text.head start importIndex.toNat offset.toUInt32 := by
  rw [collect, entries, shape, warning, shape, Collected.addExternal]
  dsimp only [Option.bind_some, RelocationShape.table]
  cases before.imports[importIndex.toNat]? <;> rfl

theorem collect_of_sectionStart (shape : text.shape = some (.sectionStart index)) :
    text.collect start before =
      before.addRelocations { short := [⟨index.toNat, text.head.address, none⟩] } := by
  rw [collect, entries, shape]
  rfl

theorem collect_of_sectionTarget
    (shape : text.shape = some (.sectionTarget sectionIndex target)) :
    text.collect start before = before.addRelocations
      { long := [⟨sectionIndex.toNat, text.head.address, target, none⟩] } := by
  rw [collect, entries, shape]
  rfl

theorem collect_of_none (shape : text.shape = none) :
    text.collect start before = before.addWarnings [.unsupportedRelocationVariant
      (text.field.headD 0) text.head.relocationLength start] := by
  rw [collect, entries, shape, warning, shape]
  rfl

theorem exists_four {field : List UInt8} (four : field.length = 4) :
    ∃ first second third last, field = [first, second, third, last] := by
  match field, four with
  | [first, second, third, last], _ => exact ⟨first, second, third, last, rfl⟩

theorem exists_eleven {field : List UInt8} (eleven : field.length = 11) :
    ∃ first b₁ b₂ b₃ b₄ b₅ b₆ b₇ b₈ b₉ last,
      field = [first, b₁, b₂, b₃, b₄, b₅, b₆, b₇, b₈, b₉, last] := by
  match field, eleven with
  | [first, b₁, b₂, b₃, b₄, b₅, b₆, b₇, b₈, b₉, last], _ =>
      exact ⟨first, b₁, b₂, b₃, b₄, b₅, b₆, b₇, b₈, b₉, last, rfl⟩

theorem takes_of_four (four : text.field.length = 4) (current : decoder.collected.HasCurrent) :
    Takes relocationRecord decoder text.bytes ⟨⟩
      (text.collect decoder.position decoder.collected) := by
  have length := text.length_eq.symm.trans four
  rcases exists_four four with ⟨discriminator, second, third, last, field⟩
  have ends (known : text.shape.isSome) : last = terminator := by
    simpa [field] using text.terminated known
  refine takes_get_bind ((takes_relocationHead text.operator_eq).bind ?_)
  rw [field]
  refine takes_byte_bind ?_
  rw [length]
  split
  · rename_i external
    have shape : text.shape = some (.external third) := by
      simp [RelocationText.shape, field, RelocationShape.ofField, external]
    have two : discriminator = 2 := UInt8.toNat_inj.mp external
    have short : text.field[0]? = some 2 := by rw [field, two, List.getElem?_cons_zero]
    have high : second = 0 := by simpa [field] using text.highByte four short
    rw [collect_of_external shape, ends (shape ▸ rfl)]
    refine takes_get_bind (takes_byte_bind ?_)
    rw [if_neg (not_not_intro high)]
    exact takes_byte_bind (takes_externalRelocation _ _ _ (by simp) current)
  · contradiction
  · rename_i local_
    have shape : text.shape =
        some (.sectionStart (UInt16.ofNat (Cursor.bigEndian [second, third]))) := by
      simp [RelocationText.shape, field, RelocationShape.ofField, local_]
    have word : [second, third].length = 2 := rfl
    rw [collect_of_sectionStart shape, ends (shape ▸ rfl)]
    exact takes_shortRelocation _ word (by simp) current
  · contradiction
  · rename_i other another _
    have shape : text.shape = none := by
      rw [RelocationText.shape, RelocationShape.ofField, field]
      split <;> simp_all
    rw [collect_of_none shape, field]
    exact takes_warn_bind (takes_liftM (Cursor.reads_skip rfl))
  · contradiction
  · contradiction

theorem takes_of_eleven (eleven : text.field.length = 11)
    (current : decoder.collected.HasCurrent) :
    Takes relocationRecord decoder text.bytes ⟨⟩
      (text.collect decoder.position decoder.collected) := by
  have length := text.length_eq.symm.trans eleven
  rcases exists_eleven eleven with ⟨discriminator, b₁, b₂, b₃, b₄, b₅, b₆, b₇, b₈, b₉, last, field⟩
  have ends (known : text.shape.isSome) : last = terminator := by
    simpa [field] using text.terminated known
  refine takes_get_bind ((takes_relocationHead text.operator_eq).bind ?_)
  rw [field]
  refine takes_byte_bind ?_
  rw [length]
  split
  · contradiction
  · rename_i external
    have shape : text.shape = some (.externalOffset b₈ b₅) := by
      simp [RelocationText.shape, field, RelocationShape.ofField, external]
    rw [collect_of_externalOffset shape, ends (shape ▸ rfl)]
    refine takes_skip_bind [b₁, b₂, b₃, b₄] (takes_byte_bind ?_)
    refine takes_skip_bind [b₆, b₇] (takes_byte_bind (takes_skip_bind [b₉] ?_))
    exact takes_externalRelocation _ _ _ (by simp) current
  · contradiction
  · rename_i local_
    have shape : text.shape = some (.sectionTarget b₂
        (UInt32.ofNat (Cursor.bigEndian [b₅, b₆, b₇, b₈]))) := by
      simp [RelocationText.shape, field, RelocationShape.ofField, local_]
    have gap : [b₃, b₄].length = 2 := rfl
    have long : [b₅, b₆, b₇, b₈].length = 4 := rfl
    rw [collect_of_sectionTarget shape, ends (shape ▸ rfl)]
    exact takes_longRelocation _ _ b₁ b₉ gap long (by simp) current
  · contradiction
  · rename_i other another _
    have shape : text.shape = none := by
      rw [RelocationText.shape, RelocationShape.ofField, field]
      split <;> simp_all
    rw [collect_of_none shape, field]
    exact takes_warn_bind (takes_liftM (Cursor.reads_skip rfl))
  · contradiction

theorem takes_relocationRecord (text : RelocationText) (current : decoder.collected.HasCurrent) :
    Takes relocationRecord decoder text.bytes ⟨⟩
      (text.collect decoder.position decoder.collected) :=
  text.sized.elim (takes_of_four · current) (takes_of_eleven · current)

end RelocationText

end SuperHBench
