import SuperHBench.Proofs.MemoryContents
import SuperHBench.Proofs.Resolution.Patches

/-! # Slots after resolution

Patches whose slots lie apart do not disturb each other: every slot ends up with the value
that belongs there, computed from what it held at first, and no other byte changes. -/

namespace SuperHBench

/-! ## Slots -/

namespace Slot

def Covers (slot : UInt32) (index : Nat) : Prop :=
  slot.toNat ≤ index ∧ index < slot.toNat + 4

/-- The slots have no byte in common. -/
def Apart (slot other : UInt32) : Prop :=
  slot.toNat + 4 ≤ other.toNat ∨ other.toNat + 4 ≤ slot.toNat

instance (slot other : UInt32) : Decidable (Apart slot other) :=
  inferInstanceAs (Decidable (_ ∨ _))

def Inside (memory : Memory) (slot : UInt32) : Prop :=
  slot.toNat + 4 ≤ memory.size

instance (memory : Memory) (slot : UInt32) : Decidable (Inside memory slot) :=
  inferInstanceAs (Decidable (_ ≤ _))

theorem Apart.symm {slot other : UInt32} (apart : Apart slot other) : Apart other slot :=
  Or.symm apart

theorem Apart.free {slot other : UInt32} (apart : Apart slot other) {index : Nat}
    (covers : Covers slot index) : ¬Covers other index := by
  rw [Apart] at apart
  rw [Covers] at covers ⊢
  omega

theorem covers_add (slot : UInt32) {offset : Nat} (within : offset < 4) :
    Covers slot (slot.toNat + offset) :=
  ⟨Nat.le_add_right _ _, Nat.add_lt_add_left within _⟩

end Slot

namespace Memory

variable {memory : Memory} {slot : UInt32}

theorem byte_write_of_free (memory : Memory) (value : UInt32) {index : Nat}
    (free : ¬Slot.Covers slot index) :
    (memory.write slot (.long value)).byte index = memory.byte index := by
  have receives := memory.receives_write slot (.long value)
  rcases Nat.lt_or_ge index memory.size with inside | past
  · rw [receives.bytes index inside]
    exact if_neg free
  · rw [byte_of_size_le _ past, byte_of_size_le _ (receives.size ▸ past)]

theorem holds_write (inside : Slot.Inside memory slot) (value : UInt32) :
    (memory.write slot (.long value)).Holds slot (.long value) := by
  have receives := memory.receives_write slot (.long value)
  rw [Slot.Inside] at inside
  refine ⟨by rw [receives.size]; omega, fun offset within => ?_⟩
  have small : offset < 4 := within
  rw [receives.bytes _ (by omega), Nat.add_sub_cancel_left]
  exact if_pos (Slot.covers_add slot small)

theorem holds_longAt (inside : Slot.Inside memory slot) :
    memory.Holds slot (.long (memory.longAt slot.toNat)) := by
  rw [Slot.Inside] at inside
  refine ⟨by omega, fun offset within => ?_⟩
  exact (memory.byteAt_valueAt slot.toNat .long within).symm

theorem Holds.longAt_eq {value : UInt32} (holds : memory.Holds slot (.long value)) :
    memory.longAt slot.toNat = value := by
  apply Value.long_eq_of_byteAt
  intro offset within
  rw [← holds.bytes offset within]
  exact memory.byteAt_valueAt slot.toNat .long within

theorem Holds.of_bytes {value : Value} {after : Memory} (holds : memory.Holds slot value)
    (size : after.size = memory.size)
    (same : ∀ offset < value.width.bytes,
      after.byte (slot.toNat + offset) = memory.byte (slot.toNat + offset)) :
    after.Holds slot value :=
  ⟨size ▸ holds.inside, fun offset within =>
    (same offset within).trans (holds.bytes offset within)⟩

theorem longAt_congr {other : Memory} {index : Nat}
    (same : ∀ offset < 4, other.byte (index + offset) = memory.byte (index + offset)) :
    other.longAt index = memory.longAt index := by
  have first := same 0 (by decide)
  have second := same 1 (by decide)
  have third := same 2 (by decide)
  have fourth := same 3 (by decide)
  simp only [longAt, wordAt, Nat.add_zero, Nat.add_assoc, Nat.reduceAdd] at first ⊢
  rw [first, second, third, fourth]

theorem readLong_write_of_apart (memory : Memory) {slot other : UInt32}
    (apart : Slot.Apart slot other) (value : UInt32) :
    (memory.write other (.long value)).readLong slot = memory.readLong slot := by
  have same := Memory.longAt_congr fun offset within =>
    memory.byte_write_of_free value (apart.free (Slot.covers_add slot within))
  simp only [readLong, locate, size_write]
  by_cases inside : slot.toNat < memory.size
  · simp only [if_pos inside, Except.map, same]
  · simp only [if_neg inside, Except.map]

end Memory

/-! ## Values -/

namespace Patch

/-- The value that belongs into the slot of a patch which held a word. -/
def value? (sections : List Section) (held : UInt32) : Patch → Option UInt32
  | .long _ relocation =>
      (sections[relocation.sectionIndex]?.bind (·.linkedAddress)).map (· + relocation.target)
  | .short _ relocation =>
      (sections[relocation.sectionIndex]?.bind (·.linkedAddress)).map (· + held)
  | .bound _ relocation binding => some (binding.address + relocation.offset + held)

theorem target_eq_ok_iff {sections : List Section} {part : Section} {index : Nat}
    {base : UInt32} :
    target sections part index = .ok base ↔
      sections[index]?.bind (·.linkedAddress) = some base := by
  rw [target]
  cases sections[index]? with
  | none => simp
  | some target =>
      cases found : target.linkedAddress with
      | none => simp [found]
      | some base => simp [found]

theorem held_eq_ok_iff {memory : Memory} {patch : Patch} {contents : UInt32} :
    patch.held memory = .ok contents ↔
      patch.slot.toNat < memory.size ∧ contents = memory.longAt patch.slot.toNat := by
  rw [held, Memory.readLong, Memory.locate]
  split
  · rename_i inside
    simp [Except.map, Except.mapError, inside, eq_comm]
  · rename_i outside
    simp [Except.map, Except.mapError, outside]

theorem outcome_eq_ok {sections : List Section} {memory : Memory} {patch : Patch}
    {value : UInt32} (outcome : patch.outcome sections memory = .ok value) :
    patch.value? sections (memory.longAt patch.slot.toNat) = some value := by
  cases patch with
  | long part relocation =>
      rw [Patch.outcome] at outcome
      cases found : target sections part relocation.sectionIndex with
      | error error => simp [found, Except.map] at outcome
      | ok base =>
          rw [found] at outcome
          cases outcome
          rw [value?, target_eq_ok_iff.mp found, Option.map_some]
  | short part relocation =>
      rw [Patch.outcome] at outcome
      split at outcome
      · cases outcome
      · rename_i contents reads
        cases found : target sections part relocation.sectionIndex with
        | error error => simp [found, Except.map] at outcome
        | ok base =>
            rw [found] at outcome
            cases outcome
            rw [value?, target_eq_ok_iff.mp found, ← (held_eq_ok_iff.mp reads).2, Option.map_some]
  | bound part relocation binding =>
      rw [Patch.outcome] at outcome
      split at outcome
      · cases outcome
      · rename_i contents reads
        split at outcome
        · cases outcome
        · cases outcome
          rw [value?, ← (held_eq_ok_iff.mp reads).2]

end Patch

/-! ## Rows of patches -/

namespace Carried

variable {sections : List Section} {memory after : Memory} {writes : List SlotWrite}

theorem size_eq (carried : Carried sections memory writes after) : after.size = memory.size := by
  induction carried with
  | nil => rfl
  | cons outcome others induction => rw [induction, Memory.size_write]

theorem byte_eq (carried : Carried sections memory writes after) {index : Nat}
    (free : ∀ write ∈ writes, ¬Slot.Covers write.patch.slot index) :
    after.byte index = memory.byte index := by
  induction carried with
  | nil => rfl
  | cons outcome others induction =>
      rw [induction fun write member => free write (List.mem_cons_of_mem _ member)]
      exact Memory.byte_write_of_free _ _ (free _ List.mem_cons_self)

theorem slot_of_mem (carried : Carried sections memory writes after)
    (apart : (writes.map (·.patch.slot)).Pairwise Slot.Apart)
    (inside : ∀ write ∈ writes, Slot.Inside memory write.patch.slot) {write : SlotWrite}
    (member : write ∈ writes) :
    write.patch.value? sections (memory.longAt write.patch.slot.toNat) = some write.value ∧
      after.Holds write.patch.slot (.long write.value) := by
  induction carried with
  | nil => cases member
  | @cons memory after patch value rest outcome others induction =>
      rw [List.map_cons, List.pairwise_cons] at apart
      have apartFrom (other : SlotWrite) (among : other ∈ rest) :
          Slot.Apart patch.slot other.patch.slot :=
        apart.1 other.patch.slot (List.mem_map_of_mem among)
      rcases List.mem_cons.mp member with rfl | member
      · -- None of the later patches touches the slot again.
        have written := Memory.holds_write (inside _ List.mem_cons_self) value
        refine ⟨Patch.outcome_eq_ok outcome, written.of_bytes others.size_eq ?_⟩
        intro offset within
        exact others.byte_eq fun other among =>
          (apartFrom other among).free (Slot.covers_add patch.slot within)
      · -- The first patch has not touched the slot before.
        have stays := Memory.longAt_congr fun offset within =>
          memory.byte_write_of_free value
            ((apartFrom write member).symm.free (Slot.covers_add write.patch.slot within))
        have settled := induction apart.2
          (fun other among => by
            rw [Slot.Inside, Memory.size_write]
            exact inside other (List.mem_cons_of_mem _ among))
          member
        rwa [stays] at settled

end Carried

/-! ## Resolution -/

/-- All slots got their values, and nothing else happened to memory. -/
structure LinkedObject.Settles (linked : LinkedObject) (bindings : List Binding)
    (memory after : Memory) : Prop where
  size : after.size = memory.size
  slots : ∀ patch ∈ linked.patches bindings, ∃ held value,
    memory.Holds patch.slot (.long held) ∧ patch.value? linked.sections held = some value ∧
      after.Holds patch.slot (.long value)
  rest : ∀ index, (∀ patch ∈ linked.patches bindings, ¬Slot.Covers patch.slot index) →
    after.byte index = memory.byte index
  unbound : ∀ slot ∈ linked.unboundSlots bindings,
    (∀ patch ∈ linked.patches bindings, Slot.Apart slot.address patch.slot) →
    ∀ value, memory.Holds slot.address (.long value) → after.Holds slot.address (.long value)

theorem LinkedObject.settles_of_resolve {file : ObjectFile} {linked : LinkedObject}
    {bindings : List Binding} {memory after : Memory} {resolution : Resolution}
    (links : file.link = .ok linked)
    (resolves : (linked.resolve bindings).run memory = .ok resolution after)
    (apart : ((linked.patches bindings).map Patch.slot).Pairwise Slot.Apart)
    (inside : ∀ patch ∈ linked.patches bindings, Slot.Inside memory patch.slot) :
    linked.Settles bindings memory after := by
  rcases (run_resolve_eq_ok_iff (addressed_of_link links)).mp resolves with
    ⟨writes, all, carried, -⟩
  have among {write : SlotWrite} (member : write ∈ writes) :
      write.patch ∈ linked.patches bindings := all ▸ List.mem_map_of_mem member
  have rest (index : Nat)
      (free : ∀ patch ∈ linked.patches bindings, ¬Slot.Covers patch.slot index) :
      after.byte index = memory.byte index :=
    carried.byte_eq fun write member => free write.patch (among member)
  refine ⟨carried.size_eq, ?_, rest, ?_⟩
  · intro patch member
    rw [← all, List.mem_map] at member
    rcases member with ⟨write, member, rfl⟩
    rw [← all, List.map_map] at apart
    have settled := carried.slot_of_mem apart (fun write member => inside _ (among member)) member
    exact ⟨_, write.value, Memory.holds_longAt (inside _ (among member)), settled⟩
  · intro slot _ free value holds
    refine holds.of_bytes carried.size_eq fun offset within => ?_
    exact rest _ fun patch member => (free patch member).free (Slot.covers_add slot.address within)

/-! ## A table of pointers -/

def importedAt (address : UInt32) (name : String) (offset : UInt32) : ExternalRelocation where
  flags := 0
  address := address
  bitLocation := 0
  fieldLength := 32
  bitCount := 32
  operator := 8
  sectionField := 0
  opcode := 0
  addendLength := 0
  relocationLength := 4
  importIndex := 0
  name := name
  offset := offset
  linkedAddress := none

/-- A section whose words are two local slots and three imported ones, and a section that the
local ones point into. -/
def tableParts : List Section := [
  { index := 0, name := "P", alignment := 4,
    fragments := [⟨0x80, 0, [0, 0, 0, 0, 8, 0, 0, 0, 0, 0, 0, 0, 4, 0, 0, 0, 7, 0, 0, 0]⟩],
    longRelocations := [⟨1, 0, 4, none⟩]
    shortRelocations := [⟨1, 4, none⟩]
    relocations := [importedAt 8 "_helper" 6, importedAt 12 "_helper" 0, importedAt 16 "_free" 0]
    exports := [⟨"_main", 0, 0, 0, none⟩] },
  { index := 1, name := "D", alignment := 16,
    fragments := [⟨0x80, 0, [0, 0, 0, 0, 0, 0, 0, 0, 0]⟩],
    exports := [⟨"_data", 1, 0, 4, none⟩] }]

def tableLinked : LinkedObject where
  file := .ofSections (List.zipWith Section.relocate tableParts [0, 32])
  image := ⟨41, [
    ⟨0, #[0, 0, 0, 0, 8, 0, 0, 0, 0, 0, 0, 0, 4, 0, 0, 0, 7, 0, 0, 0]⟩,
    ⟨32, #[0, 0, 0, 0, 0, 0, 0, 0, 0]⟩]⟩

def tableBindings : List Binding :=
  [⟨"_helper", 0x800⟩, ⟨"_helper", 0x900⟩, ⟨"_other", 0x804⟩]

def tableMemory : Memory :=
  tableLinked.image.load 64 fun _ => 0

theorem link_table : (ObjectFile.ofSections tableParts).link = .ok tableLinked := by
  decide

theorem table_resolves : tableLinked.Resolves tableBindings tableMemory := by
  decide +kernel

theorem table_settles :
    ((tableLinked.patches tableBindings).map Patch.slot).Pairwise Slot.Apart ∧
      (∀ patch ∈ tableLinked.patches tableBindings, Slot.Inside tableMemory patch.slot) ∧
      ∃ resolution after,
        (tableLinked.resolve tableBindings).run tableMemory = .ok resolution after ∧
        tableLinked.Settles tableBindings tableMemory after := by
  have apart : ((tableLinked.patches tableBindings).map Patch.slot).Pairwise Slot.Apart := by
    decide
  have inside : ∀ patch ∈ tableLinked.patches tableBindings,
      Slot.Inside tableMemory patch.slot := by
    decide
  rcases table_resolves with ⟨resolution, after, resolves⟩
  have settles := LinkedObject.settles_of_resolve link_table resolves apart inside
  exact ⟨apart, inside, resolution, after, resolves, settles⟩

/-! ## A slot of two names -/

/-- A section with one slot, into which two names are imported. -/
def sharedParts : List Section := [
  { index := 0, name := "P", alignment := 4, fragments := [⟨0x80, 0, [7, 0, 0, 0]⟩],
    relocations := [importedAt 0 "_f" 0, importedAt 0 "_g" 0] }]

def sharedLinked : LinkedObject where
  file := .ofSections (List.zipWith Section.relocate sharedParts [0])
  image := ⟨4, [⟨0, #[7, 0, 0, 0]⟩]⟩

def sharedMemory : Memory :=
  sharedLinked.image.load 16 fun _ => 0

/-- The patch for the name that is bound changes the slot of the other one, as it is the same. -/
theorem shared_patchesUnbound :
    (ObjectFile.ofSections sharedParts).link = .ok sharedLinked ∧
      ((sharedLinked.patches [⟨"_f", 0x800⟩]).map Patch.slot).Pairwise Slot.Apart ∧
      (∀ patch ∈ sharedLinked.patches [⟨"_f", 0x800⟩], Slot.Inside sharedMemory patch.slot) ∧
      ⟨"_g", 0⟩ ∈ sharedLinked.unboundSlots [⟨"_f", 0x800⟩] ∧
      sharedMemory.Holds 0 (.long 7) ∧
      ∃ resolution after,
        (sharedLinked.resolve [⟨"_f", 0x800⟩]).run sharedMemory = .ok resolution after ∧
        after.Holds 0 (.long 0x807) := by
  have inside : Slot.Inside sharedMemory 0 := by decide
  have seven : sharedMemory.longAt 0 = 7 := by decide
  have held : sharedMemory.Holds 0 (.long 7) := seven ▸ Memory.holds_longAt inside
  exact ⟨by decide, by decide, by decide, by decide, held, _,
    sharedMemory.write 0 (.long 0x807), by rfl, Memory.holds_write inside 0x807⟩

end SuperHBench
