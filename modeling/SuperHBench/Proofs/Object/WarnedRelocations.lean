import SuperHBench.Proofs.CodeObject
import SuperHBench.Proofs.Object.Deliveries
import SuperHBench.Proofs.Object.Filling
import SuperHBench.Proofs.Object.Relocations

/-! # Relocation records that raise warnings

The relocations of a file are what its relocation records have added, one after another. So a
record is left out of the file if it adds nothing, and that is so for all records that raise a
warning, with one exception. -/

namespace SuperHBench

/-! ## Chunks without relocations -/

def HasTables (tables : Nat → RelocationTable) (unit : Option ObjectUnit) : Prop :=
  ∀ index, (unit.map (·.table index)).getD {} = tables index

namespace Decoder

variable {tables : Nat → RelocationTable}

abbrev LeavesTables (tables : Nat → RelocationTable) (action : Decoding α) : Prop :=
  Upholds (fun decoder => HasTables tables decoder.unit) action

theorem leavesTables_requireUnit_bind {next : ObjectUnit → Decoding β}
    (others : ∀ unit, HasTables tables (some unit) → LeavesTables tables (next unit)) :
    LeavesTables tables (requireUnit >>= next) := by
  rw [requireUnit, bind_assoc]
  refine upholds_get_bind fun decoder holds => ?_
  cases found : decoder.unit with
  | none => exact fun _ kept => kept
  | some unit => exact others unit (found ▸ holds)

theorem leavesTables_setUnit {unit : ObjectUnit} (holds : HasTables tables (some unit)) :
    LeavesTables tables (modify fun decoder => { decoder with unit := some unit }) :=
  fun _ _ => holds

theorem leavesTables_updateSection {unit : ObjectUnit} {index : Nat} {missing : FormatError}
    {update : Section → Except FormatError Section} (holds : HasTables tables (some unit))
    (keeps : ∀ {part changed}, update part = .ok changed → changed.table = part.table) :
    LeavesTables tables (updateSection unit index missing update) := by
  rw [updateSection]
  split
  · exact upholds_throw _
  · rename_i part found
    split
    · exact upholds_throw _
    · rename_i changed updated
      refine leavesTables_setUnit fun other => Eq.trans ?_ (holds other)
      change ObjectUnit.table { unit with sections := unit.sections.set index changed } other =
        unit.table other
      rw [ObjectUnit.table_set found]
      by_cases same : other = index
      · rw [if_pos same, keeps updated, same, ObjectUnit.table_of_found found]
      · rw [if_neg same]

theorem leavesTables_updateCurrentSection {update : Section → Except FormatError Section}
    (keeps : ∀ {part changed}, update part = .ok changed → changed.table = part.table) :
    LeavesTables tables (updateCurrentSection update) := by
  refine leavesTables_requireUnit_bind fun unit holds => upholds_get_bind fun decoder _ => ?_
  dsimp only
  split
  · exact leavesTables_updateSection holds keeps
  · exact (upholds_throw _).bind fun _ => leavesTables_updateSection holds keeps
  · exact leavesTables_updateSection holds keeps

theorem leavesTables_moduleHeader : LeavesTables tables moduleHeader := by
  refine upholds_get_bind fun decoder _ => upholds_unless ?_
  iterate 3 refine (upholds_unit_liftM _).bind fun _ => ?_
  refine upholds_unless ?_
  iterate 12 refine (upholds_unit_liftM _).bind fun _ => ?_
  exact upholds_unit_modify fun _ => rfl

theorem leavesTables_unitHeader : LeavesTables tables unitHeader := by
  refine upholds_get_bind fun decoder holds => upholds_unless ?_
  by_cases present : decoder.unit.isSome = true
  · rw [if_pos present]
    exact fun _ kept => kept
  · have missing : decoder.unit = none := Option.not_isSome_iff_eq_none.mp present
    rw [missing] at holds
    refine upholds_unless ((upholds_unit_liftM _).bind fun _ => ?_)
    iterate 6 refine (upholds_unit_liftM _).bind fun _ => ?_
    exact leavesTables_setUnit holds

theorem leavesTables_sectionHeader : LeavesTables tables sectionHeader := by
  refine upholds_get_bind fun decoder _ => ?_
  iterate 8 refine (upholds_unit_liftM _).bind fun _ => ?_
  refine leavesTables_requireUnit_bind fun unit holds => leavesTables_setUnit fun index => ?_
  refine Eq.trans ?_ (holds index)
  change ((unit.sections ++ [_])[index]?.map Section.table).getD {} = unit.table index
  by_cases inside : index < unit.sections.length
  · rw [List.getElem?_append_left inside]
    rfl
  · have outside : unit.sections.length ≤ index := Nat.not_lt.mp inside
    rw [List.getElem?_append_right outside, ObjectUnit.table, List.getElem?_eq_none outside]
    cases index - unit.sections.length with
    | zero => rfl
    | succ further => rfl

theorem leavesTables_sectionSelection : LeavesTables tables sectionSelection := by
  refine upholds_get_bind fun decoder _ => (upholds_unit_liftM _).bind fun _ => ?_
  refine (upholds_unit_liftM _).bind fun _ => upholds_unless ?_
  exact upholds_unit_modify fun _ => rfl

theorem leavesTables_objectData : LeavesTables tables objectData := by
  have stored (count : Nat) (flags : UInt8) (address : UInt32) : LeavesTables tables (do
      let bytes ← liftM Cursor.prefixed
      updateCurrentSection (·.push ⟨flags, address, repeated count bytes⟩)) :=
    (upholds_unit_liftM _).bind fun _ =>
      leavesTables_updateCurrentSection fun pushed => Section.table_of_push pushed
  refine (upholds_unit_liftM _).bind fun _ => (upholds_unit_liftM _).bind fun _ => ?_
  exact upholds_ite ((upholds_unit_liftM _).bind fun _ => stored _ _ _) (stored _ _ _)

theorem leavesTables_importRecord : LeavesTables tables importRecord :=
  upholds_unit_spanningByte.bind fun _ =>
    (upholds_spanningName upholds_unit_spanningByte).bind fun _ => upholds_unit_modify fun _ => rfl

theorem leavesTables_exportRecord : LeavesTables tables exportRecord := by
  have delivering : LeavesTables tables spanningByte := upholds_unit_spanningByte
  refine upholds_get_bind fun decoder _ => (upholds_spanningNumber delivering 2).bind fun _ => ?_
  refine delivering.bind fun _ => (upholds_spanningNumber delivering 4).bind fun _ => ?_
  refine (upholds_spanningName delivering).bind fun _ => ?_
  exact leavesTables_requireUnit_bind fun unit holds =>
    leavesTables_updateSection holds fun updated => by cases updated; rfl

theorem leavesTables_chunkBody {kind : ChunkKind} (other : kind ≠ .relocation) :
    LeavesTables tables (chunkBody kind) := by
  cases kind with
  | moduleHeader => exact leavesTables_moduleHeader
  | unitHeader => exact leavesTables_unitHeader
  | sectionHeader => exact leavesTables_sectionHeader
  | imports => exact Lasting.upholds_allRecords leavesTables_importRecord
  | exports => exact Lasting.upholds_allRecords leavesTables_exportRecord
  | sectionSelection => exact leavesTables_sectionSelection
  | objectData => exact leavesTables_objectData
  | relocation => exact absurd rfl other
  | termination => exact upholds_pure _
  | unknown code => exact upholds_get_bind fun _ _ => upholds_unit_modify fun _ => rfl

end Decoder

/-! ## Records of a file -/

structure RecordRead where
  before : Decoder
  after : Decoder

namespace RecordRead

/-- What the record adds to the relocations of a section. -/
def added (read : RecordRead) (index : Nat) : RelocationTable :=
  (read.after.table index).since (read.before.table index)

def Warns (read : RecordRead) : Prop :=
  read.after.warnings ≠ read.before.warnings

def LeftOut (read : RecordRead) : Prop :=
  ∀ index, read.added index = {}

/-- The record adds one relocation, against the import that the lower byte of its index
names. -/
def BoundByLowByte (read : RecordRead) : Prop :=
  ∃ symbol relocation target,
    read.before.imports[read.before.lowByte.toNat]? = some symbol ∧
      relocation.name = symbol.name ∧ read.added target = { external := [relocation] }

theorem BoundByLowByte.not_leftOut {read : RecordRead} (bound : read.BoundByLowByte) :
    ¬read.LeftOut := by
  rcases bound with ⟨symbol, relocation, target, _, _, added⟩
  intro leftOut
  rw [leftOut target] at added
  cases added

end RecordRead

namespace Decoder

def recordsRead (record : Decoding PUnit) : (limit : Nat) → Decoder → List RecordRead
  | 0, _ => []
  | limit + 1, decoder =>
      if decoder.inChunk then
        match record.run decoder with
        | .ok _ next => ⟨decoder, next⟩ :: recordsRead record limit next
        | .error _ _ => []
      else
        []

def relocationsInBody (kind : ChunkKind) (decoder : Decoder) : List RecordRead :=
  match kind with
  | .relocation => recordsRead relocationRecord decoder.cursor.file.size decoder
  | _ => []

def relocationsRead : (limit : Nat) → Decoder → List RecordRead
  | 0, _ => []
  | limit + 1, decoder =>
      if decoder.cursor.atEnd then
        []
      else
        match beginChunk.run decoder with
        | .error _ _ => []
        | .ok kind begun =>
            if kind = .termination then
              []
            else
              relocationsInBody kind begun ++
                match (chunkBody kind).run begun with
                | .error _ _ => []
                | .ok _ next =>
                    relocationsRead limit
                      { next with cursor := next.cursor.seek next.chunkEnd }

variable {decoder after : Decoder}

theorem run_of_mem_recordsRead {record : Decoding PUnit} {limit : Nat} {read : RecordRead}
    (among : read ∈ recordsRead record limit decoder) :
    record.run read.before = .ok ⟨⟩ read.after := by
  induction limit generalizing decoder with
  | zero => cases among
  | succ limit induction =>
      rw [recordsRead] at among
      split at among
      · split at among
        · rename_i next ran
          rcases List.mem_cons.mp among with rfl | later
          · exact ran
          · exact induction later
        · cases among
      · cases among

theorem run_of_mem_relocationsRead {limit : Nat} {read : RecordRead}
    (among : read ∈ relocationsRead limit decoder) :
    relocationRecord.run read.before = .ok ⟨⟩ read.after := by
  induction limit generalizing decoder with
  | zero => cases among
  | succ limit induction =>
      rw [relocationsRead] at among
      split at among
      · cases among
      · split at among
        · cases among
        · split at among
          · cases among
          · rcases List.mem_append.mp among with here | later
            · unfold relocationsInBody at here
              split at here
              · exact run_of_mem_recordsRead here
              · cases here
            · split at later
              · cases later
              · exact induction later

/-! ## Relocations of a file -/

theorem Recorded.exists_entries (recorded : decoder.Recorded after) (index : Nat) :
    ∃ entries, after.table index = decoder.table index ++ entries := by
  have added {entries : RelocationTable} (adds : decoder.Adds entries after) :
      ∃ entries, after.table index = decoder.table index ++ entries := by
    rcases adds with ⟨unit, part, _, _, tables⟩
    rw [tables index]
    split
    · exact ⟨entries, rfl⟩
    · exact ⟨{}, RelocationTable.append_empty.symm⟩
  cases recorded with
  | kept whole entries silent adds => exact added adds
  | leftOut whole raised warned some same =>
      rw [table, same]
      exact ⟨{}, RelocationTable.append_empty.symm⟩
  | truncated truncates symbol head warned found adds => exact added adds

theorem table_of_run_relocationRecord {value : PUnit}
    (ran : relocationRecord.run decoder = .ok value after) (index : Nat) :
    after.table index = decoder.table index ++ RecordRead.added ⟨decoder, after⟩ index := by
  rcases (recorded_of_run ran).exists_entries index with ⟨entries, extended⟩
  have adds : RecordRead.added ⟨decoder, after⟩ index = entries := by
    rw [RecordRead.added, extended]
    exact RelocationTable.since_append
  rw [adds, extended]

theorem table_of_run_records {limit : Nat} {value : PUnit}
    (ran : (records relocationRecord limit).run decoder = .ok value after) (index : Nat) :
    after.table index = decoder.table index ++
      .concat ((recordsRead relocationRecord limit decoder).map (·.added index)) := by
  induction limit generalizing decoder with
  | zero =>
      cases ran
      exact RelocationTable.append_empty.symm
  | succ limit induction =>
      rw [records, run_get_bind] at ran
      rw [recordsRead]
      split at ran
      · rename_i inside
        rcases run_bind_eq_ok ran with ⟨_, next, read, rest⟩
        rw [if_pos inside, read]
        simp only [List.map_cons]
        rw [induction rest, table_of_run_relocationRecord read, RelocationTable.append_assoc]
        rfl
      · rename_i outside
        cases ran
        rw [if_neg outside]
        exact RelocationTable.append_empty.symm

theorem table_of_leavesTables {action : Decoding α} {value : α}
    (leaves : ∀ tables, LeavesTables tables action) (ran : action.run decoder = .ok value after) :
    after.table = decoder.table := by
  have kept := leaves decoder.table decoder fun _ => rfl
  rw [ran] at kept
  exact funext kept

theorem table_of_run_chunkBody {kind : ChunkKind} {value : PUnit}
    (ran : (chunkBody kind).run decoder = .ok value after) (index : Nat) :
    after.table index =
      decoder.table index ++ .concat ((relocationsInBody kind decoder).map (·.added index)) := by
  by_cases holds : kind = .relocation
  · subst holds
    exact table_of_run_records ran index
  · have nothing : relocationsInBody kind decoder = [] := by
      unfold relocationsInBody
      split
      · contradiction
      · rfl
    rw [nothing, table_of_leavesTables (fun _ => leavesTables_chunkBody holds) ran]
    exact RelocationTable.append_empty.symm

theorem table_of_run_chunks {limit : Nat} {value : PUnit}
    (ran : (chunks limit).run decoder = .ok value after) (index : Nat) :
    after.table index = decoder.table index ++
      .concat ((relocationsRead limit decoder).map (·.added index)) := by
  induction limit generalizing decoder with
  | zero =>
      cases ran
      exact RelocationTable.append_empty.symm
  | succ limit induction =>
      rw [chunks, run_get_bind] at ran
      rw [relocationsRead]
      cases ended : decoder.cursor.atEnd with
      | true =>
          rw [ended] at ran
          cases ran
          exact RelocationTable.append_empty.symm
      | false =>
          rw [ended] at ran
          rcases run_bind_eq_ok ran with ⟨kind, begun, begins, goesOn⟩
          have same : begun.table = decoder.table :=
            table_of_leavesTables (fun _ => upholds_unit_beginChunk) begins
          rw [begins]
          simp only [Bool.false_eq_true, if_false]
          by_cases last : kind = .termination
          · rw [if_neg (not_not_intro last)] at goesOn
            cases goesOn
            rw [if_pos last, same]
            exact RelocationTable.append_empty.symm
          · rw [if_pos last] at goesOn
            rcases run_bind_eq_ok goesOn with ⟨_, next, body, rest⟩
            rw [if_neg last, body, List.map_append, RelocationTable.concat_append]
            have whole := induction rest
            rw [whole, ← RelocationTable.append_assoc, ← same,
              ← table_of_run_chunkBody body]
            rfl

end Decoder

theorem Decoder.Adds.exists_added {before after : Decoder} {entries : RelocationTable}
    (adds : before.Adds entries after) :
    ∃ target, RecordRead.added ⟨before, after⟩ target = entries := by
  rcases adds with ⟨unit, part, _, _, tables⟩
  refine ⟨before.collected.target unit, ?_⟩
  rw [RecordRead.added, tables, if_pos rfl]
  exact RelocationTable.since_append

namespace ObjectFile

def relocationsRead (bytes : List UInt8) : List RecordRead :=
  if bytes.take Chunk.magic.length ≠ Chunk.magic then
    []
  else
    Decoder.relocationsRead bytes.toArray.size (Decoder.start bytes.toArray)

theorem recorded_of_mem_relocationsRead {bytes : List UInt8} {read : RecordRead}
    (among : read ∈ relocationsRead bytes) : read.before.Recorded read.after := by
  rw [relocationsRead] at among
  split at among
  · cases among
  · exact Decoder.recorded_of_run (Decoder.run_of_mem_relocationsRead among)

theorem table_of_decode {bytes : List UInt8} {file : ObjectFile}
    (decoded : decode bytes = .ok file) (index : Nat) :
    file.unit.table index = .concat ((relocationsRead bytes).map (·.added index)) := by
  rw [decode] at decoded
  split at decoded
  · cases decoded
  · rename_i magic
    split at decoded
    · rename_i found after ran
      cases decoded
      have unit := Decoder.unit_of_run_decodeFile ran
      rw [Decoder.decodeFile, Decoder.run_get_bind] at ran
      rcases Decoder.run_bind_eq_ok ran with ⟨_, last, walked, finished⟩
      have same := Decoder.table_of_leavesTables (fun _ => Lasting.upholds_finish) finished
      have collected := Decoder.table_of_run_chunks walked index
      have held : file.unit.table index = after.table index := by
        rw [Decoder.table, unit]
        rfl
      rw [held, same, collected, relocationsRead, if_neg magic]
      rfl
    · cases decoded

def LeavesOutWarned (bytes : List UInt8) : Prop :=
  ∀ read ∈ relocationsRead bytes, read.Warns → read.LeftOut

structure Traces (bytes : List UInt8) (file : ObjectFile) : Prop where
  total : ∀ index, file.unit.table index =
    .concat ((relocationsRead bytes).map (·.added index))
  leavesOut : LeavesOutWarned bytes ↔
    ∀ read ∈ relocationsRead bytes, ¬read.before.TruncatesIndex
  whole : ∀ read ∈ relocationsRead bytes, ¬read.before.TruncatesIndex → read.Warns →
    read.LeftOut
  truncated : ∀ read ∈ relocationsRead bytes, read.before.TruncatesIndex →
    read.Warns ∧ read.BoundByLowByte

theorem leftOut_of_warns {bytes : List UInt8} {read : RecordRead}
    (among : read ∈ relocationsRead bytes) (whole : ¬read.before.TruncatesIndex)
    (warns : read.Warns) : read.LeftOut := by
  cases recorded_of_mem_relocationsRead among with
  | kept _ entries silent adds => exact absurd silent warns
  | leftOut _ raised warned some same =>
      intro index
      rw [RecordRead.added, Decoder.table, same]
      exact RelocationTable.since_self
  | truncated truncates => exact absurd truncates whole

theorem boundByLowByte_of_truncatesIndex {bytes : List UInt8} {read : RecordRead}
    (among : read ∈ relocationsRead bytes) (truncates : read.before.TruncatesIndex) :
    read.Warns ∧ read.BoundByLowByte := by
  cases recorded_of_mem_relocationsRead among with
  | kept whole => exact absurd truncates whole
  | leftOut whole => exact absurd truncates whole
  | truncated _ symbol head warned found adds =>
      rcases adds.exists_added with ⟨target, added⟩
      refine ⟨?_, symbol, _, target, found, rfl, added⟩
      rw [RecordRead.Warns, warned]
      simp

/-- The relocations of a file are those of its records, and records that raise a warning are
not among them unless their import index is cut down to its lower byte. -/
theorem traces_of_decode {bytes : List UInt8} {file : ObjectFile}
    (decoded : decode bytes = .ok file) : Traces bytes file := by
  constructor
  case total => exact table_of_decode decoded
  case leavesOut =>
    constructor
    · intro leavesOut read among truncates
      rcases boundByLowByte_of_truncatesIndex among truncates with ⟨warns, bound⟩
      exact bound.not_leftOut (leavesOut read among warns)
    · intro whole read among warns
      exact leftOut_of_warns among (whole read among) warns
  case whole => exact fun read among => leftOut_of_warns among
  case truncated => exact fun read among => boundByLowByte_of_truncatesIndex among

/-- A section, an import and a record with an import index of 256. -/
def truncatedChunks : List ChunkText :=
  interruptedChunks.take 2 ++
    [⟨0x08, [0, 0, 0, 0, 0, 0, 0, 0, 0, 0, 0, 0, 4, 0, 0xd4, 0, 1, 0x50]⟩,
      ⟨0x0c, [0, 6, 0x5f, 0x76, 0x61, 0x6c, 0x75, 0x65]⟩,
      ⟨0x20, [0, 0, 0, 0, 0, 0, 0x20, 0, 8, 0, 0, 0, 0, 4, 2, 1, 0, 0xff]⟩, .termination]

def truncated : List UInt8 :=
  Chunk.magic ++ List.replicate 28 0 ++ truncatedChunks.flatMap ChunkText.bytes

theorem truncated_decodes :
    ∃ file, decode truncated = .ok file ∧ file.unit.relocations.map (·.name) = ["_value"] := by
  have accepted : (decode truncated).toOption.any (fun file =>
      file.unit.relocations.map (·.name) = ["_value"]) = true := by decide +kernel
  rcases exists_ok_of_any accepted with ⟨file, decoded, named⟩
  exact ⟨file, decoded, of_decide_eq_true named⟩

theorem truncated_traces :
    ∃ file, decode truncated = .ok file ∧ Traces truncated file := by
  rcases truncated_decodes with ⟨file, decoded, _⟩
  exact ⟨file, decoded, traces_of_decode decoded⟩

theorem truncated_bound_to_first :
    (∃ file, decode truncated = .ok file ∧ file.unit.relocations.map (·.name) = ["_value"]) ∧
      ¬LeavesOutWarned truncated := by
  have warned : (relocationsRead truncated).any (fun read =>
      read.after.warnings ≠ read.before.warnings ∧ read.added 0 ≠ {}) = true := by decide +kernel
  refine ⟨truncated_decodes, fun leavesOut => ?_⟩
  rcases List.any_eq_true.mp warned with ⟨read, among, both⟩
  rcases of_decide_eq_true both with ⟨warns, adds⟩
  exact adds (leavesOut read among warns 0)

end ObjectFile

end SuperHBench
