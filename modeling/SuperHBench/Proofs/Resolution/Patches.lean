import Mathlib.Data.List.Basic
import SuperHBench.Proofs.Image.Placement
import SuperHBench.Proofs.Symbols
import SuperHBench.Resolution

/-! # Patches

Every relocation whose slot gets a value is a patch. Resolution carries out the patches of an
object one after another, and collects names and slots without a value on the way. -/

namespace SuperHBench

/-- A relocation whose slot gets a value, together with the section it belongs to. -/
inductive Patch where
  | long (part : Section) (relocation : LongRelocation)
  | short (part : Section) (relocation : ShortRelocation)
  | bound (part : Section) (relocation : ExternalRelocation) (binding : Binding)

namespace Patch

def slot : Patch → UInt32
  | .long part relocation => part.base + relocation.address
  | .short part relocation => part.base + relocation.address
  | .bound part relocation _ => part.base + relocation.address

/-- The base of the section that a local relocation points into. -/
def target (sections : List Section) (part : Section) (index : Nat) :
    Except ResolveError UInt32 :=
  match sections[index]? with
  | none => .error (.unknownSection part.index index)
  | some target =>
      match target.linkedAddress with
      | none => .error (.unlinked target.index)
      | some base => .ok base

/-- What the slot of a patch holds before. -/
def held (memory : Memory) (patch : Patch) : Except ResolveError UInt32 :=
  (memory.readLong patch.slot).mapError .memory

/-- The value for the slot of a patch, or why there is none. -/
def outcome (sections : List Section) (memory : Memory) (patch : Patch) :
    Except ResolveError UInt32 :=
  match patch with
  | .long part relocation =>
      (target sections part relocation.sectionIndex).map (· + relocation.target)
  | .short part relocation =>
      match patch.held memory with
      | .error error => .error error
      | .ok held => (target sections part relocation.sectionIndex).map (· + held)
  | .bound _ relocation binding =>
      match patch.held memory with
      | .error error => .error error
      | .ok held =>
          if relocation.offset ≠ 0 ∧ held ≠ 0 then
            .error (.conflictingOffsets relocation.name relocation.offset held)
          else
            .ok (binding.address + relocation.offset + held)

end Patch

structure SlotWrite where
  patch : Patch
  value : UInt32

namespace SlotWrite

/-- The name that a value got by being the address of an imported symbol. -/
def symbol? (write : SlotWrite) : Option Symbol :=
  match write.patch with
  | .bound _ relocation _ => some ⟨relocation.name, write.value⟩
  | .long _ _ | .short _ _ => none

end SlotWrite

/-- Carry out a patch. A patch without a value leaves memory as it is. -/
def Patch.attempt (sections : List Section) (patch : Patch) : Patching SlotWrite := fun memory =>
  match patch.outcome sections memory with
  | .ok value => .ok ⟨patch, value⟩ (memory.write patch.slot (.long value))
  | .error error => .error error memory

/-! ## The patches of an object -/

namespace Section

def longPatches (part : Section) : List Patch :=
  part.longRelocations.map (Patch.long part)

def shortPatches (part : Section) : List Patch :=
  part.shortRelocations.map (Patch.short part)

def boundPatches (bindings : List Binding) (part : Section) : List Patch :=
  part.relocations.filterMap fun relocation =>
    (bindings.find? (·.name = relocation.name)).map (Patch.bound part relocation)

def unboundSlots (bindings : List Binding) (part : Section) : List UnresolvedSlot :=
  (part.relocations.filter fun relocation => bindings.all (·.name ≠ relocation.name)).map
    fun relocation => ⟨relocation.name, part.base + relocation.address⟩

theorem unboundSlots_eq_flatMap (bindings : List Binding) (part : Section) :
    part.unboundSlots bindings = part.relocations.flatMap fun relocation =>
      if bindings.all (·.name ≠ relocation.name) then
        [⟨relocation.name, part.base + relocation.address⟩]
      else
        [] := by
  rw [unboundSlots]
  induction part.relocations with
  | nil => rfl
  | cons relocation rest induction =>
      rw [List.flatMap_cons, ← induction, List.filter_cons]
      split <;> rfl

end Section

namespace LinkedObject

/-- The patches in their order: local relocations come before imported symbols. -/
def patches (linked : LinkedObject) (bindings : List Binding) : List Patch :=
  linked.sections.flatMap Section.longPatches ++ linked.sections.flatMap Section.shortPatches ++
    linked.sections.flatMap (Section.boundPatches bindings)

def unboundSlots (linked : LinkedObject) (bindings : List Binding) : List UnresolvedSlot :=
  linked.sections.flatMap (Section.unboundSlots bindings)

def Addressed (linked : LinkedObject) : Prop :=
  ∀ part ∈ linked.sections, part.linkedAddress.isSome ∧
    ∀ symbol ∈ part.exports, symbol.linkedAddress.isSome

end LinkedObject

def ExportSymbol.symbol? (symbol : ExportSymbol) : Option Symbol :=
  symbol.linkedAddress.map (⟨symbol.name, ·⟩)

def Resolution.extend (resolution : Resolution) (symbols : List Symbol)
    (slots : List UnresolvedSlot) : Resolution :=
  { resolution with
    symbols := resolution.symbols.addAll symbols
    unresolved := resolution.unresolved ++ slots }

def LinkedObject.conclude (linked : LinkedObject) (bindings : List Binding)
    (writes : List SlotWrite) : Resolution :=
  (Resolution.extend ⟨.empty, [], bindings⟩ (writes.filterMap SlotWrite.symbol?)
    (linked.unboundSlots bindings)).extend
      (linked.file.unit.exports.filterMap ExportSymbol.symbol?) []

/-! ## Carrying out -/

/-- Patches that are carried out one after another, with what their slots get. -/
inductive Carried (sections : List Section) : Memory → List SlotWrite → Memory → Prop
  | nil (memory : Memory) : Carried sections memory [] memory
  | cons {memory after : Memory} {patch : Patch} {value : UInt32} {rest : List SlotWrite}
      (outcome : patch.outcome sections memory = .ok value)
      (others : Carried sections (memory.write patch.slot (.long value)) rest after) :
      Carried sections memory (⟨patch, value⟩ :: rest) after

namespace Patching

variable {sections : List Section}

theorem run_attempt (patch : Patch) (memory : Memory) :
    (patch.attempt sections).run memory =
      match patch.outcome sections memory with
      | .ok value => .ok ⟨patch, value⟩ (memory.write patch.slot (.long value))
      | .error error => .error error memory :=
  rfl

theorem run_mapM_attempt_cons (patch : Patch) (rest : List Patch) (memory : Memory) :
    ((patch :: rest).mapM (Patch.attempt sections)).run memory =
      match patch.outcome sections memory with
      | .error error => .error error memory
      | .ok value =>
          match (rest.mapM (Patch.attempt sections)).run
              (memory.write patch.slot (.long value)) with
          | .error error failed => .error error failed
          | .ok writes after => .ok (⟨patch, value⟩ :: writes) after := by
  rw [List.mapM_cons, EStateM.run_bind, run_attempt]
  cases patch.outcome sections memory with
  | error error => rfl
  | ok value =>
      dsimp only
      rw [EStateM.run_bind]
      cases (rest.mapM (Patch.attempt sections)).run (memory.write patch.slot (.long value)) with
      | error error failed => rfl
      | ok writes after => rfl

theorem run_mapM_attempt_eq_ok_iff {patches : List Patch} {memory after : Memory}
    {writes : List SlotWrite} :
    (patches.mapM (Patch.attempt sections)).run memory = .ok writes after ↔
      writes.map (·.patch) = patches ∧ Carried sections memory writes after := by
  induction patches generalizing memory writes with
  | nil =>
      constructor
      · intro runs
        cases runs
        exact ⟨rfl, .nil _⟩
      · rintro ⟨all, carried⟩
        cases List.map_eq_nil_iff.mp all
        cases carried
        rfl
  | cons patch rest induction =>
      rw [run_mapM_attempt_cons]
      constructor
      · intro runs
        cases outcome : patch.outcome sections memory with
        | error error => simp [outcome] at runs
        | ok value =>
            rw [outcome] at runs
            dsimp only at runs
            split at runs
            · cases runs
            · rename_i others last ranOthers
              cases runs
              rcases induction.mp ranOthers with ⟨all, carried⟩
              exact ⟨congrArg (patch :: ·) all, .cons outcome carried⟩
      · rintro ⟨all, carried⟩
        cases carried with
        | nil => cases all
        | cons outcome others =>
            cases all
            rw [outcome]
            dsimp only
            rw [induction.mpr ⟨rfl, others⟩]

/-- What follows on patches may use that these were carried out. -/
theorem mapM_attempt_bind_congr {α : Type} {patches : List Patch}
    {next other : List SlotWrite → Patching α}
    (same : ∀ writes, writes.map (·.patch) = patches → next writes = other writes) :
    patches.mapM (Patch.attempt sections) >>= next =
      patches.mapM (Patch.attempt sections) >>= other := by
  funext memory
  change EStateM.run _ memory = EStateM.run _ memory
  rw [EStateM.run_bind, EStateM.run_bind]
  cases outcome : (patches.mapM (Patch.attempt sections)).run memory with
  | error error failed => rfl
  | ok writes after =>
      dsimp only
      rw [same writes (run_mapM_attempt_eq_ok_iff.mp outcome).1]

end Patching

theorem SlotWrite.filterMap_symbol?_eq_nil {writes : List SlotWrite} {patches : List Patch}
    (all : writes.map (·.patch) = patches)
    (nameless : ∀ patch ∈ patches, ∀ value, SlotWrite.symbol? ⟨patch, value⟩ = none) :
    writes.filterMap SlotWrite.symbol? = [] := by
  rw [List.filterMap_eq_nil_iff]
  intro write member
  exact nameless write.patch (all ▸ List.mem_map_of_mem member) write.value

/-! ## Resolution as a row of patches -/

namespace Patching

variable {sections : List Section} {bindings : List Binding}

section Loops

variable {α : Type}

theorem forM_eq {items : List α} {step : α → Patching PUnit} {patches : α → List Patch}
    (each : ∀ item ∈ items, step item = do
      let _ ← (patches item).mapM (Patch.attempt sections)
      return ⟨⟩) :
    items.forM step = do
      let _ ← (items.flatMap patches).mapM (Patch.attempt sections)
      return ⟨⟩ := by
  induction items with
  | nil => simp
  | cons item rest induction =>
      have others := induction fun other member => each other (List.mem_cons_of_mem _ member)
      rw [List.forM_eq_forM] at others ⊢
      rw [List.forM_cons, each item List.mem_cons_self, others]
      simp

theorem foldlM_eq {items : List α} {step : Resolution → α → Patching Resolution}
    {patches : α → List Patch} {slots : α → List UnresolvedSlot}
    (each : ∀ item ∈ items, ∀ resolution : Resolution, resolution.bindings = bindings →
      step resolution item = do
        let writes ← (patches item).mapM (Patch.attempt sections)
        return resolution.extend (writes.filterMap SlotWrite.symbol?) (slots item))
    (resolution : Resolution) (same : resolution.bindings = bindings) :
    items.foldlM step resolution = do
      let writes ← (items.flatMap patches).mapM (Patch.attempt sections)
      return resolution.extend (writes.filterMap SlotWrite.symbol?) (items.flatMap slots) := by
  induction items generalizing resolution with
  | nil => simp [Resolution.extend, SymbolTable.addAll]
  | cons item rest induction =>
      have others := induction fun other member => each other (List.mem_cons_of_mem _ member)
      rw [List.foldlM_cons, each item List.mem_cons_self resolution same]
      simp only [bind_assoc, pure_bind, List.flatMap_cons, List.mapM_append]
      congr 1
      funext writes
      rw [others (resolution.extend _ _) same]
      simp [Resolution.extend, SymbolTable.addAll, List.filterMap_append, List.foldl_append]

theorem foldlM_eq_pure {items : List α} {step : Resolution → α → Patching Resolution}
    {symbols : α → List Symbol}
    (each : ∀ item ∈ items, ∀ resolution : Resolution,
      step resolution item = pure (resolution.extend (symbols item) []))
    (resolution : Resolution) :
    items.foldlM step resolution = pure (resolution.extend (items.flatMap symbols) []) := by
  induction items generalizing resolution with
  | nil => simp [Resolution.extend, SymbolTable.addAll]
  | cons item rest induction =>
      have others := induction fun other member => each other (List.mem_cons_of_mem _ member)
      rw [List.foldlM_cons, each item List.mem_cons_self, pure_bind, others]
      simp [Resolution.extend, SymbolTable.addAll, List.foldl_append]

end Loops

variable {part : Section}

theorem baseOf_eq (addressed : part.linkedAddress.isSome) : baseOf part = pure part.base := by
  rcases Option.isSome_iff_exists.mp addressed with ⟨base, found⟩
  simp [baseOf, Section.base, found]

theorem run_targetBase (index : Nat) (memory : Memory) :
    (targetBase sections part index).run memory =
      match Patch.target sections part index with
      | .ok base => .ok base memory
      | .error error => .error error memory := by
  rw [targetBase, Patch.target]
  cases sections[index]? with
  | none => rfl
  | some target =>
      dsimp only
      unfold baseOf
      cases target.linkedAddress with
      | none => rfl
      | some base => rfl

theorem run_readSlot (patch : Patch) (memory : Memory) :
    (readSlot patch.slot).run memory =
      match patch.held memory with
      | .ok held => .ok held memory
      | .error error => .error error memory := by
  rw [readSlot, Patch.held, EStateM.run_bind, EStateM.run_get]
  dsimp only
  cases outcome : memory.readLong patch.slot with
  | ok contents => rfl
  | error error => rfl

theorem attempt_eq {patch : Patch} {action : Patching PUnit}
    (runs : ∀ memory, action.run memory =
      match patch.outcome sections memory with
      | .ok value => .ok ⟨⟩ (memory.write patch.slot (.long value))
      | .error error => .error error memory) :
    action = do
      let _ ← [patch].mapM (Patch.attempt sections)
      return ⟨⟩ := by
  funext memory
  change action.run memory = EStateM.run _ memory
  rw [runs]
  simp only [List.mapM_cons, List.mapM_nil, bind_assoc, pure_bind, EStateM.run_bind, run_attempt]
  cases patch.outcome sections memory with
  | ok value => rfl
  | error error => rfl

theorem patchLong_eq (addressed : part.linkedAddress.isSome) :
    patchLong sections part = do
      let _ ← part.longPatches.mapM (Patch.attempt sections)
      return ⟨⟩ := by
  rw [patchLong, baseOf_eq addressed, pure_bind, Section.longPatches, List.map_eq_flatMap]
  refine forM_eq fun relocation _ => attempt_eq fun memory => ?_
  rw [EStateM.run_bind, run_targetBase, Patch.outcome]
  cases Patch.target sections part relocation.sectionIndex with
  | ok base => rfl
  | error error => rfl

theorem patchShort_eq (addressed : part.linkedAddress.isSome) :
    patchShort sections part = do
      let _ ← part.shortPatches.mapM (Patch.attempt sections)
      return ⟨⟩ := by
  rw [patchShort, baseOf_eq addressed, pure_bind, Section.shortPatches, List.map_eq_flatMap]
  refine forM_eq fun relocation _ => attempt_eq fun memory => ?_
  have reads := run_readSlot (.short part relocation) memory
  rw [Patch.slot] at reads
  rw [EStateM.run_bind, reads, Patch.outcome]
  cases (Patch.short part relocation).held memory with
  | error error => rfl
  | ok held =>
      dsimp only
      rw [EStateM.run_bind, run_targetBase]
      cases Patch.target sections part relocation.sectionIndex with
      | ok base => rfl
      | error error => rfl

theorem patchExternal_eq (part : Section) (relocation : ExternalRelocation)
    (resolution : Resolution) (same : resolution.bindings = bindings) :
    patchExternal part.base resolution relocation = do
      let writes ← ((bindings.find? (·.name = relocation.name)).map
        (Patch.bound part relocation)).toList.mapM (Patch.attempt sections)
      return resolution.extend (writes.filterMap SlotWrite.symbol?)
        (if bindings.all (·.name ≠ relocation.name) then
          [⟨relocation.name, part.base + relocation.address⟩]
        else
          []) := by
  subst same
  rw [patchExternal]
  cases found : resolution.bindings.find? (·.name = relocation.name) with
  | none =>
      have unbound : resolution.bindings.all (·.name ≠ relocation.name) = true := by
        simpa using found
      rw [if_pos unbound]
      rfl
  | some binding =>
      have bound : ¬resolution.bindings.all (·.name ≠ relocation.name) = true := by
        have named := List.find?_some found
        have member := List.mem_of_find?_eq_some found
        simp only [List.all_eq_true, not_forall]
        exact ⟨binding, member, by simpa using named⟩
      rw [if_neg bound]
      funext memory
      change EStateM.run _ memory = EStateM.run _ memory
      have reads := run_readSlot (.bound part relocation binding) memory
      rw [Patch.slot] at reads
      simp only [Option.map_some, Option.toList_some, List.mapM_cons, List.mapM_nil, bind_assoc,
        pure_bind]
      rw [EStateM.run_bind, reads, EStateM.run_bind, run_attempt, Patch.outcome]
      cases (Patch.bound part relocation binding).held memory with
      | error error => rfl
      | ok held =>
          dsimp only
          by_cases conflict : relocation.offset ≠ 0 ∧ held ≠ 0
          · simp only [if_pos conflict]
            rfl
          · simp only [if_neg conflict]
            simp only [List.filterMap_cons, List.filterMap_nil, SlotWrite.symbol?,
              Resolution.extend, List.append_nil]
            rfl

theorem patchExternals_eq (addressed : part.linkedAddress.isSome) (resolution : Resolution)
    (same : resolution.bindings = bindings) :
    patchExternals resolution part = do
      let writes ← (part.boundPatches bindings).mapM (Patch.attempt sections)
      let symbols := writes.filterMap SlotWrite.symbol?
      return resolution.extend symbols (part.unboundSlots bindings) := by
  rw [patchExternals, baseOf_eq addressed, pure_bind, Section.boundPatches,
    List.filterMap_eq_flatMap_toList, Section.unboundSlots_eq_flatMap]
  exact foldlM_eq (fun relocation _ other => patchExternal_eq part relocation other) resolution same

theorem nameExport_eq (resolution : Resolution) {symbol : ExportSymbol}
    (addressed : symbol.linkedAddress.isSome) :
    nameExport part resolution symbol =
      pure (resolution.extend symbol.symbol?.toList []) := by
  rcases Option.isSome_iff_exists.mp addressed with ⟨address, found⟩
  simp [nameExport, ExportSymbol.symbol?, found, Resolution.extend, Resolution.addSymbol,
    SymbolTable.addAll]

theorem nameExports_eq (resolution : Resolution)
    (addressed : ∀ symbol ∈ part.exports, symbol.linkedAddress.isSome) :
    nameExports resolution part =
      pure (resolution.extend (part.exports.filterMap ExportSymbol.symbol?) []) := by
  rw [nameExports, List.filterMap_eq_flatMap_toList]
  refine foldlM_eq_pure (fun symbol member other => ?_) resolution
  exact nameExport_eq other (addressed symbol member)

end Patching

open Patching in
/-- Resolution is to carry out the patches in their order and then to conclude. -/
theorem LinkedObject.resolve_eq {linked : LinkedObject} (addressed : linked.Addressed)
    (bindings : List Binding) :
    linked.resolve bindings = do
      let writes ← (linked.patches bindings).mapM (Patch.attempt linked.sections)
      return linked.conclude bindings writes := by
  let attempt := Patch.attempt linked.sections
  have longs : linked.sections.forM (patchLong linked.sections) = do
      let _ ← (linked.sections.flatMap Section.longPatches).mapM attempt
      return ⟨⟩ :=
    forM_eq fun part member => patchLong_eq (addressed part member).1
  have shorts : linked.sections.forM (patchShort linked.sections) = do
      let _ ← (linked.sections.flatMap Section.shortPatches).mapM attempt
      return ⟨⟩ :=
    forM_eq fun part member => patchShort_eq (addressed part member).1
  have externals (first : Resolution) (same : first.bindings = bindings) :
      linked.sections.foldlM patchExternals first = do
        let writes ← (linked.sections.flatMap (Section.boundPatches bindings)).mapM attempt
        return first.extend (writes.filterMap SlotWrite.symbol?) (linked.unboundSlots bindings) :=
    foldlM_eq (fun part member => patchExternals_eq (addressed part member).1) first same
  have exports (last : Resolution) : linked.sections.foldlM nameExports last =
      pure (last.extend (linked.file.unit.exports.filterMap ExportSymbol.symbol?) []) := by
    rw [ObjectUnit.exports, List.filterMap_flatMap]
    refine foldlM_eq_pure (fun part member other => ?_) last
    exact nameExports_eq other (addressed part member).2
  rw [resolve]
  simp only [longs, shorts, externals ⟨.empty, [], bindings⟩ rfl, exports]
  simp only [patches, List.mapM_append, bind_assoc, pure_bind]
  refine mapM_attempt_bind_congr fun first allLong => ?_
  refine mapM_attempt_bind_congr fun second allShort => ?_
  -- Names come from the last of the three rows only.
  have nameless : (first ++ second).filterMap SlotWrite.symbol? = [] := by
    refine SlotWrite.filterMap_symbol?_eq_nil (List.map_append.trans (congrArg₂ _ allLong allShort))
      fun patch member value => ?_
    simp only [List.mem_append, List.mem_flatMap, Section.longPatches, Section.shortPatches,
      List.mem_map] at member
    rcases member with ⟨part, -, relocation, -, rfl⟩ | ⟨part, -, relocation, -, rfl⟩
    · rfl
    · rfl
  simp only [conclude, List.filterMap_append, nameless, List.nil_append]
  rfl

theorem LinkedObject.addressed_of_link {file : ObjectFile} {linked : LinkedObject}
    (links : file.link = .ok linked) : linked.Addressed := by
  intro place member
  rcases (ObjectFile.placement_of_link links).of_mem member with ⟨part, -, moved⟩
  rw [moved]
  refine ⟨rfl, fun symbol among => ?_⟩
  simp only [Section.relocate, List.mem_map] at among
  rcases among with ⟨origin, -, rfl⟩
  rfl

theorem LinkedObject.run_resolve_eq_ok_iff {linked : LinkedObject} (addressed : linked.Addressed)
    {bindings : List Binding} {memory after : Memory} {resolution : Resolution} :
    (linked.resolve bindings).run memory = .ok resolution after ↔
      ∃ writes, writes.map (·.patch) = linked.patches bindings ∧
        Carried linked.sections memory writes after ∧
        resolution = linked.conclude bindings writes := by
  rw [resolve_eq addressed, EStateM.run_bind]
  constructor
  · intro resolves
    split at resolves
    · rename_i writes last ran
      cases resolves
      rcases Patching.run_mapM_attempt_eq_ok_iff.mp ran with ⟨all, carried⟩
      exact ⟨writes, all, carried, rfl⟩
    · cases resolves
  · rintro ⟨writes, all, carried, rfl⟩
    rw [Patching.run_mapM_attempt_eq_ok_iff.mpr ⟨all, carried⟩]
    rfl

def LinkedObject.Resolves (linked : LinkedObject) (bindings : List Binding) (memory : Memory) :
    Prop :=
  ∃ resolution after, (linked.resolve bindings).run memory = .ok resolution after

instance (linked : LinkedObject) (bindings : List Binding) (memory : Memory) :
    Decidable (linked.Resolves bindings memory) :=
  match outcome : (linked.resolve bindings).run memory with
  | .ok resolution after => .isTrue ⟨resolution, after, outcome⟩
  | .error _ _ => .isFalse fun ⟨_, _, succeeds⟩ => nomatch outcome.symm.trans succeeds

end SuperHBench
