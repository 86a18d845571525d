import SuperHBench.Proofs.Object.Windows

/-! # Invariants of decoding

Readers only move forward, and sections come into a unit without data and get data by `push`
alone. So an invariant holds throughout decoding, whatever the bytes and wherever decoding
stops, if it survives this and the few actions that do more: a chunk that begins, a seek to the
end of the chunk and a byte that may be in the next chunk. -/

namespace SuperHBench

/-! ## Readers -/

namespace Cursor

structure Leads (cursor next : Cursor) : Prop where
  file_eq : next.file = cursor.file
  forward : cursor.position ≤ next.position
  inside : cursor.position ≤ cursor.file.size → next.position ≤ cursor.file.size

theorem Leads.refl (cursor : Cursor) : cursor.Leads cursor :=
  ⟨rfl, Nat.le_refl _, id⟩

theorem Leads.trans {first second third : Cursor} (leads : first.Leads second)
    (onward : second.Leads third) : first.Leads third where
  file_eq := onward.file_eq.trans leads.file_eq
  forward := Nat.le_trans leads.forward onward.forward
  inside := fun inside => leads.file_eq ▸ onward.inside (leads.file_eq ▸ leads.inside inside)

def stop : EStateM.Result FormatError Cursor α → Cursor
  | .ok _ cursor | .error _ cursor => cursor

def Advances (reading : Reading α) : Prop :=
  ∀ cursor : Cursor, cursor.Leads (stop (reading.run cursor))

theorem advances_pure (value : α) : Advances (pure value) :=
  Leads.refl

theorem Advances.bind {reading : Reading α} {next : α → Reading β} (advances : Advances reading)
    (others : ∀ value, Advances (next value)) : Advances (reading >>= next) := by
  intro cursor
  have leads := advances cursor
  rw [EStateM.run_bind]
  cases outcome : reading.run cursor with
  | error error between =>
      rw [outcome] at leads
      exact leads
  | ok value between =>
      rw [outcome] at leads
      exact leads.trans (others value between)

theorem advances_ite {condition : Prop} [Decidable condition] {first second : Reading α}
    (whenTrue : Advances first) (whenFalse : Advances second) :
    Advances (if condition then first else second) := by
  split
  · exact whenTrue
  · exact whenFalse

theorem advances_take (count : Nat) : Advances (take count) := by
  intro cursor
  change cursor.Leads (stop (if cursor.position + count ≤ cursor.file.size then _ else _))
  split
  · rename_i enough
    exact ⟨rfl, Nat.le_add_right _ _, fun _ => enough⟩
  · exact .refl cursor

theorem advances_skip (count : Nat) : Advances (skip count) :=
  (advances_take count).bind fun _ => advances_pure _

theorem advances_byte : Advances byte :=
  (advances_take 1).bind fun _ => advances_pure _

theorem advances_bigWord : Advances bigWord :=
  (advances_take 2).bind fun _ => advances_pure _

theorem advances_littleWord : Advances littleWord :=
  (advances_take 2).bind fun _ => advances_pure _

theorem advances_bigLong : Advances bigLong :=
  (advances_take 4).bind fun _ => advances_pure _

theorem advances_littleLong : Advances littleLong :=
  (advances_take 4).bind fun _ => advances_pure _

theorem advances_prefixed : Advances prefixed :=
  advances_byte.bind fun _ => advances_take _

theorem advances_entryPoint (kind : UInt8) : Advances (Decoder.entryPoint kind) :=
  advances_byte.bind fun _ => advances_ite (advances_pure _)
    (advances_ite (advances_littleLong.bind fun _ => advances_pure _)
      (advances_littleWord.bind fun _ => advances_littleWord.bind fun _ => advances_pure _))

end Cursor

/-! ## Actions -/

namespace Decoder

def stop : EStateM.Result FormatError Decoder α → Decoder
  | .ok _ decoder | .error _ decoder => decoder

end Decoder

open Decoder

/-- The action takes decoders with the invariant to such decoders, even if it fails. -/
def Upholds (invariant : Decoder → Prop) (action : Decoding α) : Prop :=
  ∀ decoder, invariant decoder → invariant (stop (action.run decoder))

section

variable {invariant : Decoder → Prop}

theorem upholds_pure (value : α) : Upholds invariant (pure value) :=
  fun _ holds => holds

theorem upholds_throw (error : FormatError) : Upholds invariant (throw error : Decoding α) :=
  fun _ holds => holds

theorem Upholds.bind {action : Decoding α} {next : α → Decoding β}
    (upholds : Upholds invariant action) (others : ∀ value, Upholds invariant (next value)) :
    Upholds invariant (action >>= next) := by
  intro decoder holds
  have kept := upholds decoder holds
  cases outcome : action.run decoder with
  | error error between =>
      rw [outcome] at kept
      rw [run_bind_of_error outcome]
      exact kept
  | ok value between =>
      rw [outcome] at kept
      rw [run_bind_of_ok outcome]
      exact others value between kept

theorem upholds_get_bind {next : Decoder → Decoding β}
    (others : ∀ decoder, invariant decoder → Upholds invariant (next decoder)) :
    Upholds invariant (get >>= next) :=
  fun decoder holds => others decoder holds decoder holds

theorem upholds_modify {change : Decoder → Decoder}
    (kept : ∀ decoder, invariant decoder → invariant (change decoder)) :
    Upholds invariant (modify change) :=
  kept

theorem upholds_ite {condition : Prop} [Decidable condition] {first second : Decoding α}
    (whenTrue : Upholds invariant first) (whenFalse : Upholds invariant second) :
    Upholds invariant (if condition then first else second) := by
  split
  · exact whenTrue
  · exact whenFalse

theorem upholds_unless {found : Prop} [Decidable found] {error : FormatError}
    {next : PUnit → Decoding β} (others : Upholds invariant (next ⟨⟩)) :
    Upholds invariant (if found then throw error >>= next else next ⟨⟩) :=
  upholds_ite ((upholds_throw error).bind fun _ => others) others

/-- The action begins with another one, and what comes after that upholds the invariant. -/
def StartsWith (invariant : Decoder → Prop) (first : Decoding α) (action : Decoding β) : Prop :=
  ∃ next : Decoder → α → Decoding β, action = (get >>= fun decoder => first >>= next decoder) ∧
    ∀ decoder value, Upholds invariant (next decoder value)

theorem StartsWith.upholds {first : Decoding α} {action : Decoding β}
    (starts : StartsWith invariant first action) (upholds : Upholds invariant first) :
    Upholds invariant action := by
  rcases starts with ⟨next, rfl, others⟩
  exact upholds_get_bind fun decoder _ => upholds.bind (others decoder)

theorem upholds_spanningBytes (delivering : Upholds invariant spanningByte) (count : Nat) :
    Upholds invariant (spanningBytes count) := by
  induction count with
  | zero => exact upholds_pure []
  | succ count induction =>
      exact delivering.bind fun _ => induction.bind fun _ => upholds_pure _

theorem startsWith_spanningNumber (count : Nat) :
    StartsWith invariant (spanningBytes count) (spanningNumber count) :=
  ⟨_, rfl, fun _ _ => upholds_pure _⟩

theorem startsWith_spanningBytes (delivering : Upholds invariant spanningByte) (count : Nat) :
    StartsWith invariant spanningByte (spanningBytes (count + 1)) :=
  ⟨_, rfl, fun _ _ => (upholds_spanningBytes delivering count).bind fun _ => upholds_pure _⟩

theorem upholds_spanningNumber (delivering : Upholds invariant spanningByte) (count : Nat) :
    Upholds invariant (spanningNumber count) :=
  (upholds_spanningBytes delivering count).bind fun _ => upholds_pure _

theorem upholds_spanningName (delivering : Upholds invariant spanningByte) :
    Upholds invariant spanningName :=
  delivering.bind fun _ => (upholds_spanningBytes delivering _).bind fun _ => upholds_pure _

end

/-! ## Actions that collect nothing -/

section

variable {holds : Collected → Prop}

theorem upholds_collected_liftM (reading : Reading α) :
    Upholds (fun decoder => holds decoder.collected) (liftM reading : Decoding α) := by
  intro decoder kept
  rw [run_liftM]
  cases reading.run decoder.cursor with
  | ok value cursor => exact kept
  | error error cursor => exact kept

theorem upholds_collected_modify {change : Decoder → Decoder}
    (same : ∀ decoder : Decoder, (change decoder).collected = decoder.collected) :
    Upholds (fun decoder => holds decoder.collected) (modify change) :=
  upholds_modify fun decoder kept => (same decoder).symm ▸ kept

theorem upholds_collected_seek (position : Nat) :
    Upholds (fun decoder => holds decoder.collected) (seek position) :=
  upholds_collected_modify fun _ => rfl

theorem upholds_collected_beginChunk :
    Upholds (fun decoder => holds decoder.collected) beginChunk := by
  refine upholds_get_bind fun decoder _ => Upholds.bind (upholds_collected_modify ?_) fun _ => ?_
  · exact fun _ => rfl
  · iterate 3 refine (upholds_collected_liftM _).bind fun _ => ?_
    refine upholds_unless (Upholds.bind (upholds_collected_modify ?_) fun _ => upholds_pure _)
    exact fun _ => rfl

theorem upholds_collected_spanningByte :
    Upholds (fun decoder => holds decoder.collected) spanningByte := by
  have delivering : Upholds (fun decoder => holds decoder.collected) (do
      let byte ← Cursor.byte
      modify deliver
      return byte) := by
    refine (upholds_collected_liftM _).bind fun _ =>
      Upholds.bind (upholds_collected_modify ?_) fun _ => upholds_pure _
    exact fun _ => rfl
  have crossing : Upholds (fun decoder => holds decoder.collected) continueChunk :=
    upholds_get_bind fun _ _ => (upholds_collected_seek _).bind fun _ =>
      upholds_collected_beginChunk.bind fun _ => upholds_pure _
  exact upholds_get_bind fun _ _ =>
    upholds_ite delivering (crossing.bind fun _ => delivering)

end

section

variable {holds : Option ObjectUnit → Prop}

theorem upholds_unit_liftM (reading : Reading α) :
    Upholds (fun decoder => holds decoder.unit) (liftM reading : Decoding α) :=
  @upholds_collected_liftM (fun collected => holds collected.unit) α reading

theorem upholds_unit_modify {change : Decoder → Decoder}
    (same : ∀ decoder : Decoder, (change decoder).unit = decoder.unit) :
    Upholds (fun decoder => holds decoder.unit) (modify change) :=
  upholds_modify fun decoder kept => (same decoder).symm ▸ kept

theorem upholds_unit_beginChunk : Upholds (fun decoder => holds decoder.unit) beginChunk :=
  @upholds_collected_beginChunk fun collected => holds collected.unit

theorem upholds_unit_spanningByte :
    Upholds (fun decoder => holds decoder.unit) spanningByte :=
  @upholds_collected_spanningByte fun collected => holds collected.unit

end

/-! ## What decoders collect -/

/-- Whatever else was put into a section, data came into it by `push` alone. -/
inductive Section.Grows (part next : Section) : Prop
  | push (fragment : Fragment) (pushed : part.push fragment = .ok next)
  | beside (same : next.fragments = part.fragments)

def ObjectUnit.All (proper : Section → Prop) (unit : ObjectUnit) : Prop :=
  ∀ part ∈ unit.sections, proper part

def Decoder.All (proper : Section → Prop) (decoder : Decoder) : Prop :=
  ∀ unit, decoder.unit = some unit → unit.All proper

structure Decoder.SamePlace (decoder other : Decoder) : Prop where
  cursor_eq : other.cursor = decoder.cursor
  entering_eq : other.entering = decoder.entering
  chunkBases_eq : other.chunkBases = decoder.chunkBases
  chunkEnd_eq : other.chunkEnd = decoder.chunkEnd
  deliveries_eq : other.deliveries = decoder.deliveries

theorem Decoder.SamePlace.position_eq {decoder other : Decoder} (same : decoder.SamePlace other) :
    other.position = decoder.position := by
  rw [Decoder.position, same.cursor_eq]
  rfl

/-- An invariant that lasts as long as decoding does. The sections of decoders that have it are
proper, and they remain so. -/
structure Lasting (invariant : Decoder → Prop) (proper : Section → Prop) : Prop where
  collecting : ∀ {decoder other : Decoder}, decoder.SamePlace other → other.All proper →
    invariant decoder → invariant other
  moving : ∀ {decoder : Decoder} {cursor : Cursor}, decoder.cursor.Leads cursor →
    invariant decoder → invariant { decoder with cursor := cursor }
  beginning : Upholds invariant beginChunk
  ending : ∀ decoder, invariant decoder →
    invariant { decoder with cursor := decoder.cursor.seek decoder.chunkEnd }
  delivering : Upholds invariant spanningByte
  all : ∀ {decoder : Decoder}, invariant decoder → decoder.All proper
  blank : ∀ {part : Section}, part.fragments = [] → proper part
  growing : ∀ {part next : Section}, part.Grows next → proper part → proper next

namespace Lasting

variable {invariant : Decoder → Prop} {proper : Section → Prop}
  (lasting : Lasting invariant proper)
include lasting

theorem upholds_liftM {reading : Reading α} (advances : Cursor.Advances reading) :
    Upholds invariant (liftM reading : Decoding α) := by
  intro decoder holds
  have leads := advances decoder.cursor
  rw [run_liftM]
  cases outcome : reading.run decoder.cursor with
  | ok value cursor | error error cursor =>
      rw [outcome] at leads
      exact lasting.moving leads holds

theorem upholds_collect {change : Decoder → Decoder}
    (same : ∀ decoder : Decoder, decoder.SamePlace (change decoder))
    (unit : ∀ decoder : Decoder, (change decoder).unit = decoder.unit) :
    Upholds invariant (modify change) := by
  intro decoder holds
  refine lasting.collecting (same decoder) (fun collected found => ?_) holds
  exact lasting.all holds collected (unit decoder ▸ found)

theorem upholds_collectUnit {unit : ObjectUnit} (all : unit.All proper) :
    Upholds invariant (modify fun decoder => { decoder with unit := some unit }) := by
  intro decoder holds
  have same : decoder.SamePlace { decoder with unit := some unit } := ⟨rfl, rfl, rfl, rfl, rfl⟩
  refine lasting.collecting same (fun collected found => ?_) holds
  cases found
  exact all

theorem upholds_byte : Upholds invariant (liftM Cursor.byte) :=
  lasting.upholds_liftM Cursor.advances_byte

theorem upholds_skip (count : Nat) : Upholds invariant (liftM (Cursor.skip count)) :=
  lasting.upholds_liftM (Cursor.advances_skip count)

theorem upholds_bigLong : Upholds invariant (liftM Cursor.bigLong) :=
  lasting.upholds_liftM Cursor.advances_bigLong

theorem upholds_bigWord : Upholds invariant (liftM Cursor.bigWord) :=
  lasting.upholds_liftM Cursor.advances_bigWord

theorem upholds_littleWord : Upholds invariant (liftM Cursor.littleWord) :=
  lasting.upholds_liftM Cursor.advances_littleWord

theorem upholds_prefixed : Upholds invariant (liftM Cursor.prefixed) :=
  lasting.upholds_liftM Cursor.advances_prefixed

theorem upholds_warn (warning : FormatWarning) : Upholds invariant (warn warning) :=
  lasting.upholds_collect (fun _ => ⟨rfl, rfl, rfl, rfl, rfl⟩) fun _ => rfl

/-! ## Sections -/

theorem upholds_requireUnit_bind {next : ObjectUnit → Decoding β}
    (others : ∀ unit : ObjectUnit, unit.All proper → Upholds invariant (next unit)) :
    Upholds invariant (requireUnit >>= next) := by
  rw [requireUnit, bind_assoc]
  refine upholds_get_bind fun decoder holds => ?_
  cases found : decoder.unit with
  | none => exact fun _ kept => kept
  | some unit => exact others unit (lasting.all holds unit found)

theorem upholds_updateSection {unit : ObjectUnit} (all : unit.All proper) (index : Nat)
    (missing : FormatError) {update : Section → Except FormatError Section}
    (grows : ∀ {part next}, update part = .ok next → part.Grows next) :
    Upholds invariant (updateSection unit index missing update) := by
  rw [updateSection]
  split
  · exact upholds_throw _
  · rename_i part found
    split
    · exact upholds_throw _
    · rename_i next updated
      refine lasting.upholds_collectUnit fun other among => ?_
      rcases List.mem_or_eq_of_mem_set among with among | rfl
      · exact all other among
      · exact lasting.growing (grows updated) (all part (List.mem_of_getElem? found))

theorem upholds_updateCurrentSection {update : Section → Except FormatError Section}
    (grows : ∀ {part next}, update part = .ok next → part.Grows next) :
    Upholds invariant (updateCurrentSection update) := by
  refine lasting.upholds_requireUnit_bind fun unit all => upholds_get_bind fun decoder _ => ?_
  dsimp only
  split
  · exact lasting.upholds_updateSection all _ _ grows
  · exact (upholds_throw _).bind fun _ => lasting.upholds_updateSection all _ _ grows
  · exact lasting.upholds_updateSection all _ _ grows

/-! ## Handlers -/

theorem upholds_moduleHeader : Upholds invariant moduleHeader := by
  refine upholds_get_bind fun decoder _ => upholds_unless ?_
  refine lasting.upholds_byte.bind fun kind => ?_
  refine (lasting.upholds_liftM (Cursor.advances_take 12)).bind fun _ => ?_
  refine lasting.upholds_bigWord.bind fun _ => upholds_unless ?_
  refine (lasting.upholds_skip 1).bind fun _ => ?_
  refine (lasting.upholds_liftM (Cursor.advances_take 4)).bind fun _ => ?_
  iterate 5 refine lasting.upholds_byte.bind fun _ => ?_
  refine (lasting.upholds_liftM (Cursor.advances_entryPoint kind)).bind fun _ => ?_
  iterate 4 refine lasting.upholds_prefixed.bind fun _ => ?_
  exact lasting.upholds_collect (fun _ => ⟨rfl, rfl, rfl, rfl, rfl⟩) fun _ => rfl

theorem upholds_unitHeader : Upholds invariant unitHeader := by
  refine upholds_get_bind fun decoder _ => upholds_unless (upholds_unless ?_)
  refine lasting.upholds_byte.bind fun _ => ?_
  iterate 3 refine lasting.upholds_littleWord.bind fun _ => ?_
  iterate 2 refine lasting.upholds_prefixed.bind fun _ => ?_
  refine (lasting.upholds_liftM (Cursor.advances_take 12)).bind fun _ => ?_
  exact lasting.upholds_collectUnit fun part among => nomatch among

theorem upholds_sectionHeader : Upholds invariant sectionHeader := by
  refine upholds_get_bind fun decoder _ => lasting.upholds_byte.bind fun _ => ?_
  iterate 3 refine lasting.upholds_bigLong.bind fun _ => ?_
  iterate 3 refine lasting.upholds_byte.bind fun _ => ?_
  refine lasting.upholds_prefixed.bind fun _ => lasting.upholds_requireUnit_bind fun unit all => ?_
  refine lasting.upholds_collectUnit fun part among => ?_
  rcases List.mem_append.mp among with among | among
  · exact all part among
  · rw [List.mem_singleton.mp among]
    exact lasting.blank rfl

theorem upholds_sectionSelection : Upholds invariant sectionSelection := by
  refine upholds_get_bind fun decoder _ => (lasting.upholds_skip 2).bind fun _ => ?_
  refine lasting.upholds_bigWord.bind fun _ => upholds_unless ?_
  exact lasting.upholds_collect (fun _ => ⟨rfl, rfl, rfl, rfl, rfl⟩) fun _ => rfl

theorem upholds_objectData : Upholds invariant objectData := by
  refine lasting.upholds_byte.bind fun _ => lasting.upholds_bigLong.bind fun _ => ?_
  have stored (count : Nat) (flags : UInt8) (address : UInt32) : Upholds invariant (do
      let bytes ← liftM Cursor.prefixed
      updateCurrentSection (·.push ⟨flags, address, repeated count bytes⟩)) :=
    lasting.upholds_prefixed.bind fun _ =>
      lasting.upholds_updateCurrentSection fun pushed => .push _ pushed
  exact upholds_ite (lasting.upholds_bigLong.bind fun _ => stored _ _ _) (stored _ _ _)

theorem startsWith_importRecord : StartsWith invariant spanningByte importRecord :=
  ⟨_, rfl, fun _ _ => (upholds_spanningName lasting.delivering).bind fun _ =>
    lasting.upholds_collect (fun _ => ⟨rfl, rfl, rfl, rfl, rfl⟩) fun _ => rfl⟩

theorem upholds_importRecord : Upholds invariant importRecord :=
  lasting.startsWith_importRecord.upholds lasting.delivering

theorem startsWith_exportRecord : StartsWith invariant (spanningNumber 2) exportRecord := by
  refine ⟨_, rfl, fun decoder _ => ?_⟩
  have delivering : Upholds invariant spanningByte := lasting.delivering
  refine delivering.bind fun _ => (upholds_spanningNumber delivering 4).bind fun _ => ?_
  refine (upholds_spanningName delivering).bind fun _ => ?_
  exact lasting.upholds_requireUnit_bind fun unit all =>
    lasting.upholds_updateSection all _ _ fun updated => .beside (by cases updated; rfl)

theorem upholds_exportRecord : Upholds invariant exportRecord :=
  lasting.startsWith_exportRecord.upholds (upholds_spanningNumber lasting.delivering 2)

/-! ## Relocations -/

theorem upholds_expectTerminator : Upholds invariant expectTerminator :=
  upholds_get_bind fun _ _ => lasting.upholds_byte.bind fun _ =>
    upholds_ite (upholds_throw _) (upholds_pure _)

theorem startsWith_relocationHead :
    StartsWith invariant (liftM Cursor.byte : Decoding UInt8) relocationHead := by
  refine ⟨_, rfl, fun decoder _ => lasting.upholds_bigLong.bind fun _ => ?_⟩
  iterate 4 refine lasting.upholds_byte.bind fun _ => ?_
  refine upholds_unless (lasting.upholds_littleWord.bind fun _ => ?_)
  iterate 3 refine lasting.upholds_byte.bind fun _ => ?_
  exact upholds_pure _

theorem upholds_relocationHead : Upholds invariant relocationHead :=
  lasting.startsWith_relocationHead.upholds lasting.upholds_byte

theorem upholds_externalRelocation (head : RelocationHead) (start importIndex : Nat)
    (offset : UInt32) :
    Upholds invariant (externalRelocation head start importIndex offset) := by
  refine upholds_get_bind fun decoder _ => ?_
  dsimp only
  split
  · exact (lasting.upholds_warn _).bind fun _ => lasting.upholds_expectTerminator
  · exact lasting.upholds_expectTerminator.bind fun _ =>
      lasting.upholds_updateCurrentSection fun updated => .beside (by cases updated; rfl)

theorem upholds_longRelocation (address : UInt32) :
    Upholds invariant (longRelocation address) := by
  refine (lasting.upholds_skip 1).bind fun _ => lasting.upholds_byte.bind fun _ => ?_
  refine (lasting.upholds_skip 2).bind fun _ => lasting.upholds_bigLong.bind fun _ => ?_
  exact (lasting.upholds_skip 1).bind fun _ => lasting.upholds_expectTerminator.bind fun _ =>
    lasting.upholds_updateCurrentSection fun updated => .beside (by cases updated; rfl)

theorem upholds_shortRelocation (address : UInt32) :
    Upholds invariant (shortRelocation address) :=
  lasting.upholds_bigWord.bind fun _ => lasting.upholds_expectTerminator.bind fun _ =>
    lasting.upholds_updateCurrentSection fun updated => .beside (by cases updated; rfl)

theorem startsWith_relocationRecord : StartsWith invariant relocationHead relocationRecord := by
  refine ⟨_, rfl, fun decoder head => ?_⟩
  refine lasting.upholds_byte.bind fun discriminator => ?_
  have unsupported (start : Nat) : Upholds invariant (do
      warn (.unsupportedRelocationVariant discriminator head.relocationLength start)
      Cursor.skip (head.relocationLength.toNat - 1)) :=
    (lasting.upholds_warn _).bind fun _ => lasting.upholds_skip _
  dsimp only
  split
  · have external (start : Nat) : Upholds invariant (do
        let importIndex := (← liftM Cursor.byte).toNat
        externalRelocation head start importIndex 0) :=
      lasting.upholds_byte.bind fun _ => lasting.upholds_externalRelocation _ _ _ _
    refine upholds_get_bind fun _ _ => lasting.upholds_byte.bind fun _ => ?_
    exact upholds_ite ((lasting.upholds_warn _).bind fun _ => external _) (external _)
  · refine (lasting.upholds_skip 4).bind fun _ => lasting.upholds_byte.bind fun _ => ?_
    refine (lasting.upholds_skip 2).bind fun _ => lasting.upholds_byte.bind fun _ => ?_
    exact (lasting.upholds_skip 1).bind fun _ =>
      lasting.upholds_externalRelocation _ _ _ _
  · exact lasting.upholds_shortRelocation _
  · exact lasting.upholds_longRelocation _
  · exact unsupported _
  · exact unsupported _
  · exact upholds_throw _

theorem upholds_relocationRecord : Upholds invariant relocationRecord :=
  lasting.startsWith_relocationRecord.upholds lasting.upholds_relocationHead

/-! ## Files -/

omit lasting in
theorem upholds_records {record : Decoding PUnit} (upholds : Upholds invariant record)
    (limit : Nat) : Upholds invariant (records record limit) := by
  induction limit with
  | zero => exact upholds_pure _
  | succ limit induction =>
      exact upholds_get_bind fun _ _ => upholds_ite (upholds.bind fun _ => induction)
        (upholds_pure _)

omit lasting in
theorem upholds_allRecords {record : Decoding PUnit} (upholds : Upholds invariant record) :
    Upholds invariant (allRecords record) :=
  upholds_get_bind fun _ _ => upholds_records upholds _

theorem upholds_chunkBody (kind : ChunkKind) : Upholds invariant (chunkBody kind) := by
  cases kind with
  | moduleHeader => exact lasting.upholds_moduleHeader
  | unitHeader => exact lasting.upholds_unitHeader
  | sectionHeader => exact lasting.upholds_sectionHeader
  | imports => exact upholds_allRecords lasting.upholds_importRecord
  | exports => exact upholds_allRecords lasting.upholds_exportRecord
  | sectionSelection => exact lasting.upholds_sectionSelection
  | objectData => exact lasting.upholds_objectData
  | relocation => exact upholds_allRecords lasting.upholds_relocationRecord
  | termination => exact upholds_pure _
  | unknown code => exact upholds_get_bind fun _ _ => lasting.upholds_warn _

theorem upholds_seek_chunkEnd {next : Decoding β} (others : Upholds invariant next) :
    Upholds invariant (do seek (← get).chunkEnd; next) :=
  fun decoder holds => others _ (lasting.ending decoder holds)

theorem upholds_chunks (limit : Nat) : Upholds invariant (chunks limit) := by
  induction limit with
  | zero => exact upholds_pure _
  | succ limit induction =>
      refine upholds_get_bind fun _ _ => upholds_ite ?_ (upholds_pure _)
      refine lasting.beginning.bind fun kind => upholds_ite ?_ (upholds_pure _)
      refine (lasting.upholds_chunkBody kind).bind fun _ => ?_
      exact lasting.upholds_seek_chunkEnd induction

omit lasting in
theorem upholds_finish : Upholds invariant finish := by
  refine upholds_get_bind fun decoder _ => ?_
  split
  · exact upholds_throw _
  · exact upholds_throw _
  · exact upholds_pure _

theorem upholds_decodeFile : Upholds invariant decodeFile :=
  upholds_get_bind fun _ _ => (lasting.upholds_chunks _).bind fun _ => upholds_finish

end Lasting

theorem Decoder.run_chunks_succ_eq (limit : Nat) (decoder : Decoder) :
    (chunks (limit + 1)).run decoder =
      if decoder.cursor.atEnd then
        .ok ⟨⟩ decoder
      else
        match beginChunk.run decoder with
        | .error error failed => .error error failed
        | .ok kind begun =>
            if kind = .termination then
              .ok ⟨⟩ begun
            else
              match (chunkBody kind).run begun with
              | .error error failed => .error error failed
              | .ok _ next =>
                  (chunks limit).run { next with cursor := next.cursor.seek next.chunkEnd } := by
  rw [chunks, run_get_bind]
  cases decoder.cursor.atEnd with
  | true => rfl
  | false =>
      simp only [Bool.not_false, if_true, Bool.false_eq_true, if_false]
      cases begins : beginChunk.run decoder with
      | error error failed => exact run_bind_of_error begins
      | ok kind begun =>
          rw [run_bind_of_ok begins]
          by_cases last : kind = .termination
          · simp only [last, ne_eq, not_true_eq_false, if_false, if_true]
            rfl
          · simp only [last, ne_eq, not_false_eq_true, if_true, if_false]
            cases ran : (chunkBody kind).run begun with
            | error error failed => exact run_bind_of_error ran
            | ok value next => exact run_bind_of_ok ran

/-! ## Positions -/

/-- An invariant of the place where a decoder stands, which survives the actions that do
more than to move forward. -/
structure Positional (invariant : Decoder → Prop) : Prop where
  collecting : ∀ {decoder other : Decoder}, decoder.SamePlace other → invariant decoder →
    invariant other
  moving : ∀ {decoder : Decoder} {cursor : Cursor}, decoder.cursor.Leads cursor →
    invariant decoder → invariant { decoder with cursor := cursor }
  beginning : Upholds invariant beginChunk
  ending : ∀ decoder, invariant decoder →
    invariant { decoder with cursor := decoder.cursor.seek decoder.chunkEnd }
  delivering : Upholds invariant spanningByte

theorem Positional.lasting {invariant : Decoder → Prop} (positional : Positional invariant) :
    Lasting invariant fun _ => True where
  collecting same _ := positional.collecting same
  moving := positional.moving
  beginning := positional.beginning
  ending := positional.ending
  delivering := positional.delivering
  all _ _ _ _ _ := trivial
  blank _ := trivial
  growing _ _ := trivial

end SuperHBench
