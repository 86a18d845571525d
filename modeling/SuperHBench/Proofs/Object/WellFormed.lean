import SuperHBench.Proofs.Object.Collecting
import SuperHBench.Proofs.Object.Filling

/-! # Well-formed files

What linking relies on without a check. Every step of collecting keeps what is collected well
formed, so every file that decoding accepts is. -/

namespace SuperHBench

open Relation

namespace Section

/-- A section of this index in a file with these imports. -/
structure WellFormed (imports : List ImportSymbol) (index : Nat) (part : Section) : Prop where
  index_eq : part.index = index
  exports : ∀ symbol ∈ part.exports, symbol.sectionIndex = index ∧ symbol.linkedAddress = none
  relocations : ∀ relocation ∈ part.relocations, relocation.Proper imports
  longRelocations : ∀ relocation ∈ part.longRelocations, relocation.linkedAddress = none
  shortRelocations : ∀ relocation ∈ part.shortRelocations, relocation.linkedAddress = none
  ascending : part.fragments.IsChain Follows
  assembled : part.assembledLength = part.assemble.length
  unlinked : part.linkedAddress = none

variable {imports : List ImportSymbol} {index : Nat} {part next : Section}

theorem assembledLength_of_isChain (ascending : part.fragments.IsChain Follows) :
    part.assembledLength = part.assemble.length := by
  rw [length_assemble]
  exact (filled_of_isChain ascending).assembledLength_eq

theorem isChain_of_push {fragment : Fragment} (ascending : part.fragments.IsChain Follows)
    (pushed : part.push fragment = .ok next) : next.fragments.IsChain Follows := by
  rcases push_eq_ok_iff.mp pushed with ⟨forward, rfl⟩
  refine List.isChain_append.mpr ⟨ascending, .singleton _, fun last found other first => ?_⟩
  rw [part.assembledLength_eq, Fragment.reach, found] at forward
  cases first
  exact forward

theorem Blank.wellFormed (blank : part.Blank index) : part.WellFormed imports index := by
  have ascending : part.fragments.IsChain Follows := by
    rw [blank.fragments_eq]
    exact .nil
  refine ⟨blank.index_eq, ?_, ?_, ?_, ?_, ascending, assembledLength_of_isChain ascending,
    blank.unlinked⟩
  · simp [blank.exports_eq]
  · simp [blank.relocations_eq]
  · simp [blank.longRelocations_eq]
  · simp [blank.shortRelocations_eq]

theorem Extends.wellFormed (growth : part.Extends imports next)
    (wellFormed : part.WellFormed imports index) : next.WellFormed imports index := by
  cases growth with
  | push fragment pushed =>
      have ascending := isChain_of_push wellFormed.ascending pushed
      have assembled := assembledLength_of_isChain ascending
      rcases push_eq_ok_iff.mp pushed with ⟨-, rfl⟩
      exact { wellFormed with ascending, assembled }
  | external relocation proper =>
      refine { wellFormed with relocations := ?_ }
      exact List.forall_mem_append.mpr
        ⟨wellFormed.relocations, List.forall_mem_singleton.mpr proper⟩
  | long relocation unlinked =>
      refine { wellFormed with longRelocations := ?_ }
      exact List.forall_mem_append.mpr
        ⟨wellFormed.longRelocations, List.forall_mem_singleton.mpr unlinked⟩
  | short relocation unlinked =>
      refine { wellFormed with shortRelocations := ?_ }
      exact List.forall_mem_append.mpr
        ⟨wellFormed.shortRelocations, List.forall_mem_singleton.mpr unlinked⟩

theorem WellFormed.importing (wellFormed : part.WellFormed imports index)
    (symbol : ImportSymbol) : part.WellFormed (imports ++ [symbol]) index := by
  refine { wellFormed with relocations := fun relocation among => ?_ }
  have proper := wellFormed.relocations relocation among
  have known : relocation.importIndex < imports.length := by
    have found := proper.name
    rw [Option.map_eq_some_iff] at found
    rcases found with ⟨symbol, found, -⟩
    exact (List.getElem?_eq_some_iff.mp found).1
  exact { proper with name := by rw [List.getElem?_append_left known]; exact proper.name }

theorem WellFormed.exporting {symbol : ExportSymbol} (wellFormed : part.WellFormed imports index)
    (here : symbol.sectionIndex = index) (unlinked : symbol.linkedAddress = none) :
    WellFormed imports index { part with exports := part.exports ++ [symbol] } := by
  refine { wellFormed with exports := ?_ }
  exact List.forall_mem_append.mpr
    ⟨wellFormed.exports, List.forall_mem_singleton.mpr ⟨here, unlinked⟩⟩

end Section

namespace Collected

structure WellFormed (collected : Collected) : Prop where
  unitCount : ∀ header, collected.module = some header → header.unitCount ≤ 1
  sections : ∀ unit, collected.unit = some unit → ∀ index (part : Section),
    unit.sections[index]? = some part → part.WellFormed collected.imports index
  selected : ∀ index, collected.selected = some index → index < collected.sectionCount

variable {before after : Collected} {unit : ObjectUnit}

theorem wellFormed_empty : WellFormed {} :=
  ⟨nofun, nofun, nofun⟩

theorem sectionCount_of_present (present : before.unit = some unit) :
    before.sectionCount = unit.sections.length := by
  rw [sectionCount, present]
  rfl

theorem WellFormed.withSections (wellFormed : before.WellFormed) (present : before.unit = some unit)
    {sections : List Section} (more : unit.sections.length ≤ sections.length)
    (all : ∀ index (part : Section), sections[index]? = some part →
      part.WellFormed before.imports index) :
    (before.withSections unit sections).WellFormed where
  unitCount := wellFormed.unitCount
  sections other found := by
    cases found
    exact all
  selected index chosen := by
    have known := wellFormed.selected index chosen
    rw [sectionCount_of_present present] at known
    exact Nat.lt_of_lt_of_le known more

theorem WellFormed.withSection (wellFormed : before.WellFormed) (present : before.unit = some unit)
    {index : Nat} {next : Section} (proper : next.WellFormed before.imports index) :
    (before.withSections unit (unit.sections.set index next)).WellFormed := by
  refine wellFormed.withSections present (by simp) fun other part found => ?_
  by_cases same : index = other
  · subst same
    have inside := (List.getElem?_eq_some_iff.mp found).1
    rw [List.length_set] at inside
    rw [List.getElem?_set_self inside] at found
    cases found
    exact proper
  · rw [List.getElem?_set_ne same] at found
    exact wellFormed.sections unit present other part found

theorem Step.wellFormed (step : before.Step after) (wellFormed : before.WellFormed) :
    after.WellFormed := by
  cases step with
  | module header few =>
      exact { wellFormed with unitCount := fun other found => by cases found; exact few }
  | unit unit missing empty =>
      refine ⟨wellFormed.unitCount, fun other found => ?_, fun index chosen => ?_⟩
      · cases found
        rw [empty]
        exact nofun
      · have known := wellFormed.selected index chosen
        rw [sectionCount, missing] at known
        cases known
  | declare unit part present blank =>
      refine wellFormed.withSections present (by simp) fun index other found => ?_
      rcases Nat.lt_trichotomy index unit.sections.length with earlier | last | beyond
      · rw [List.getElem?_append_left earlier] at found
        exact wellFormed.sections unit present index other found
      · subst last
        rw [List.getElem?_concat_length] at found
        cases found
        exact blank.wellFormed
      · rw [List.getElem?_eq_none (by rw [List.length_append]; exact beyond)] at found
        cases found
  | select index declared =>
      exact { wellFormed with selected := fun other found => by cases found; exact declared }
  | importing symbol =>
      refine { wellFormed with sections := fun unit present index part found => ?_ }
      exact (wellFormed.sections unit present index part found).importing symbol
  | exporting unit part symbol present found unlinked =>
      have proper := wellFormed.sections unit present _ part found
      exact wellFormed.withSection present (proper.exporting rfl unlinked)
  | extend unit part next present found growth =>
      have proper := wellFormed.sections unit present _ part found
      exact wellFormed.withSection present (growth.wellFormed proper)
  | warn warning => exact { wellFormed with }

theorem WellFormed.steps (wellFormed : before.WellFormed) (steps : ReflTransGen Step before after) :
    after.WellFormed := by
  induction steps with
  | refl => exact wellFormed
  | tail _ step induction => exact step.wellFormed induction

end Collected

/-! ## Files -/

open Decoder

theorem Decoder.collected_of_run_decodeFile {decoder after : Decoder} {file : ObjectFile}
    (ran : decodeFile.run decoder = .ok file after) :
    after.collected =
      ⟨some file.module, some file.unit, after.selected, file.imports, file.warnings⟩ := by
  rw [decodeFile, run_get_bind] at ran
  rcases run_bind_eq_ok ran with ⟨_, last, -, finished⟩
  rw [finish, run_get_bind] at finished
  split at finished
  · cases finished
  · cases finished
  · rename_i module unit foundModule foundUnit
    cases finished
    rw [collected, foundModule, foundUnit]

namespace ObjectFile

/-- What linking relies on. -/
structure WellFormed (file : ObjectFile) : Prop where
  unitCount : file.module.unitCount ≤ 1
  sections : ∀ index (part : Section), file.unit.sections[index]? = some part →
    part.WellFormed file.imports index

theorem wellFormed_of_decode {bytes : List UInt8} {file : ObjectFile}
    (decoded : decode bytes = .ok file) : file.WellFormed := by
  rw [decode] at decoded
  split at decoded
  · cases decoded
  · split at decoded
    · rename_i found after ran
      cases decoded
      have steps : ReflTransGen Collected.Step {} _ := makes_decodeFile (start bytes.toArray) rfl
      have wellFormed := Collected.wellFormed_empty.steps steps
      rw [ran, stop, collected_of_run_decodeFile ran] at wellFormed
      exact ⟨wellFormed.unitCount _ rfl, wellFormed.sections _ rfl⟩
    · cases decoded

end ObjectFile

end SuperHBench
