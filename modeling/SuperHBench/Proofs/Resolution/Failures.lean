import SuperHBench.Proofs.Resolution.Slots

/-! # Failures of resolution

Resolution fails at the first patch that has no value. It reads a slot before it patches it, so
it does not get past one outside memory. Long slots are the exception: they are only written,
and a write past the end of memory is lost. -/

namespace SuperHBench

/-! ## Patches without a slot -/

/-- A patch whose value depends on the object alone. -/
def Patch.IsLong : Patch → Prop
  | .long _ _ => True
  | .short _ _ | .bound _ _ _ => False

namespace Memory

variable {memory : Memory}

theorem writeFrom_of_size_le {index : Nat} (past : memory.size ≤ index) (bytes : List UInt8) :
    memory.writeFrom index bytes = memory := by
  induction bytes generalizing index with
  | nil => rfl
  | cons value rest induction =>
      rw [writeFrom, setByte, if_neg (by omega), induction (by omega)]

theorem write_of_size_le {address : UInt32} (past : memory.size ≤ address.toNat) (value : Value) :
    memory.write address value = memory :=
  writeFrom_of_size_le past _

end Memory

namespace Patch

variable {sections : List Section} {memory : Memory} {patch : Patch}

theorem held_of_size_le (past : memory.size ≤ patch.slot.toNat) :
    patch.held memory = .error (.memory (.outOfBounds patch.slot memory.size)) := by
  rw [held, Memory.readLong, Memory.locate, if_neg (by omega)]
  rfl

theorem outcome_of_size_le (looks : ¬patch.IsLong) (past : memory.size ≤ patch.slot.toNat) :
    patch.outcome sections memory = .error (.memory (.outOfBounds patch.slot memory.size)) := by
  have held := held_of_size_le past
  cases patch with
  | long part relocation => exact absurd trivial looks
  | short part relocation => rw [outcome, held]
  | bound part relocation binding => rw [outcome, held]

theorem outcome_ne_memory (long : patch.IsLong) (error : MemoryError) :
    patch.outcome sections memory ≠ .error (.memory error) := by
  cases patch with
  | short part relocation => exact long.elim
  | bound part relocation binding => exact long.elim
  | long part relocation =>
      rw [outcome, target]
      cases sections[relocation.sectionIndex]? with
      | none => simp [Except.map]
      | some target => cases found : target.linkedAddress <;> simp [Except.map, found]

end Patch

/-! ## Rows of patches -/

namespace Carried

variable {sections : List Section} {memory after : Memory} {writes : List SlotWrite}

theorem exists_outcome_of_mem (carried : Carried sections memory writes after)
    {write : SlotWrite} (member : write ∈ writes) :
    ∃ first last between, writes = first ++ write :: last ∧
      Carried sections memory first between ∧
      write.patch.outcome sections between = .ok write.value := by
  induction carried with
  | nil => cases member
  | @cons memory after patch value rest outcome others induction =>
      rcases List.mem_cons.mp member with rfl | member
      · exact ⟨[], rest, memory, rfl, .nil memory, outcome⟩
      · rcases induction member with ⟨first, last, between, rfl, earlier, succeeds⟩
        exact ⟨⟨patch, value⟩ :: first, last, between, rfl, .cons outcome earlier, succeeds⟩

theorem eq_of_size_le (carried : Carried sections memory writes after)
    (past : ∀ write ∈ writes, memory.size ≤ write.patch.slot.toNat) : after = memory := by
  induction carried with
  | nil => rfl
  | @cons memory after patch value rest outcome others induction =>
      have lost := memory.write_of_size_le (past _ List.mem_cons_self) (.long value)
      rw [lost] at induction
      exact induction fun write member => past write (List.mem_cons_of_mem _ member)

end Carried

namespace Patching

variable {sections : List Section}

theorem run_mapM_attempt_eq_error_iff {patches : List Patch} {memory failed : Memory}
    {error : ResolveError} :
    (patches.mapM (Patch.attempt sections)).run memory = .error error failed ↔
      ∃ writes patch behind, patches = writes.map (·.patch) ++ patch :: behind ∧
        Carried sections memory writes failed ∧
        patch.outcome sections failed = .error error := by
  induction patches generalizing memory with
  | nil =>
      constructor
      · intro fails
        cases fails
      · rintro ⟨writes, patch, behind, all, -, -⟩
        simp at all
  | cons first rest induction =>
      rw [run_mapM_attempt_cons]
      constructor
      · intro fails
        cases outcome : first.outcome sections memory with
        | error reason =>
            rw [outcome] at fails
            cases fails
            exact ⟨[], first, rest, rfl, .nil _, outcome⟩
        | ok value =>
            rw [outcome] at fails
            dsimp only at fails
            split at fails
            · rename_i ranOthers
              cases fails
              rcases induction.mp ranOthers with ⟨writes, patch, behind, rfl, carried, reason⟩
              exact ⟨⟨first, value⟩ :: writes, patch, behind, rfl, .cons outcome carried, reason⟩
            · cases fails
      · rintro ⟨writes, patch, behind, all, carried, reason⟩
        cases carried with
        | nil =>
            cases all
            rw [reason]
        | cons outcome others =>
            cases all
            rw [outcome]
            dsimp only
            rw [induction.mpr ⟨_, patch, behind, rfl, others, reason⟩]

end Patching

/-! ## Resolution -/

namespace LinkedObject

variable {linked : LinkedObject} {bindings : List Binding} {memory between : Memory}
  {patch : Patch}

def ComesTo (linked : LinkedObject) (bindings : List Binding) (memory : Memory) (patch : Patch)
    (between : Memory) : Prop :=
  ∃ writes behind, linked.patches bindings = writes.map (·.patch) ++ patch :: behind ∧
    Carried linked.sections memory writes between

theorem ComesTo.mem (comes : linked.ComesTo bindings memory patch between) :
    patch ∈ linked.patches bindings := by
  rcases comes with ⟨writes, behind, all, -⟩
  rw [all]
  exact List.mem_append_right _ List.mem_cons_self

theorem ComesTo.size_eq (comes : linked.ComesTo bindings memory patch between) :
    between.size = memory.size := by
  rcases comes with ⟨writes, behind, -, carried⟩
  exact carried.size_eq

/-- Resolution fails at the first patch that has no value, and keeps what was patched. -/
theorem run_resolve_eq_error_iff (addressed : linked.Addressed) {error : ResolveError} :
    (linked.resolve bindings).run memory = .error error between ↔
      ∃ patch, linked.ComesTo bindings memory patch between ∧
        patch.outcome linked.sections between = .error error := by
  rw [resolve_eq addressed, EStateM.run_bind]
  constructor
  · intro fails
    split at fails
    · cases fails
    · rename_i ran
      cases fails
      rcases Patching.run_mapM_attempt_eq_error_iff.mp ran with
        ⟨writes, patch, behind, all, carried, reason⟩
      exact ⟨patch, ⟨writes, behind, all, carried⟩, reason⟩
  · rintro ⟨patch, ⟨writes, behind, all, carried⟩, reason⟩
    rw [Patching.run_mapM_attempt_eq_error_iff.mpr ⟨writes, patch, behind, all, carried, reason⟩]

theorem comesTo_of_resolve {after : Memory} {resolution : Resolution} (addressed : linked.Addressed)
    (resolves : (linked.resolve bindings).run memory = .ok resolution after)
    (member : patch ∈ linked.patches bindings) :
    ∃ between value, linked.ComesTo bindings memory patch between ∧
      patch.outcome linked.sections between = .ok value := by
  rcases (run_resolve_eq_ok_iff addressed).mp resolves with ⟨writes, all, carried, -⟩
  rw [← all, List.mem_map] at member
  rcases member with ⟨write, among, rfl⟩
  rcases carried.exists_outcome_of_mem among with ⟨first, last, between, rfl, earlier, succeeds⟩
  rw [List.map_append, List.map_cons] at all
  exact ⟨between, write.value, ⟨first, _, all.symm, earlier⟩, succeeds⟩

/-- No slot outside memory is passed over: resolution ends with an error of memory at the first
one, and that error is the patch's own. -/
structure ChecksSlots (linked : LinkedObject) (bindings : List Binding) (memory : Memory) :
    Prop where
  inside : linked.Resolves bindings memory →
    ∀ patch ∈ linked.patches bindings, patch.slot.toNat < memory.size
  refuses : ∀ patch between, linked.ComesTo bindings memory patch between →
    memory.size ≤ patch.slot.toNat →
    patch.outcome linked.sections between =
      .error (.memory (.outOfBounds patch.slot memory.size))
  ends : ∀ patch between, linked.ComesTo bindings memory patch between →
    memory.size ≤ patch.slot.toNat →
    (linked.resolve bindings).run memory =
      .error (.memory (.outOfBounds patch.slot memory.size)) between

theorem checksSlots_iff {file : ObjectFile} (links : file.link = .ok linked) :
    linked.ChecksSlots bindings memory ↔
      ∀ patch between, linked.ComesTo bindings memory patch between → patch.IsLong →
        patch.slot.toNat < memory.size := by
  have addressed := addressed_of_link links
  constructor
  · intro checks patch between comes long
    rcases Nat.lt_or_ge patch.slot.toNat memory.size with inside | past
    · exact inside
    · exact absurd (checks.refuses patch between comes past) (Patch.outcome_ne_memory long _)
  · intro longInside
    -- Whatever else resolution comes to is read first.
    have refuses (patch : Patch) (between : Memory)
        (comes : linked.ComesTo bindings memory patch between)
        (past : memory.size ≤ patch.slot.toNat) :
        patch.outcome linked.sections between =
          .error (.memory (.outOfBounds patch.slot memory.size)) := by
      have looks : ¬patch.IsLong := fun long =>
        Nat.not_lt.mpr past (longInside patch between comes long)
      rw [← comes.size_eq] at past ⊢
      exact Patch.outcome_of_size_le looks past
    refine ⟨?_, refuses, ?_⟩
    · rintro ⟨resolution, after, resolves⟩ patch member
      rcases comesTo_of_resolve addressed resolves member with ⟨between, value, comes, succeeds⟩
      by_contra outside
      have refused := refuses patch between comes (Nat.not_lt.mp outside)
      rw [succeeds] at refused
      cases refused
    · intro patch between comes past
      exact (run_resolve_eq_error_iff addressed).mpr
        ⟨patch, comes, refuses patch between comes past⟩

end LinkedObject

/-! ## A slot behind the end -/

def outlying (longs : List LongRelocation) (shorts : List ShortRelocation) : Section where
  index := 0
  name := "P"
  alignment := 4
  fragments := [⟨0x80, 0, [0, 0, 0, 0]⟩]
  longRelocations := longs
  shortRelocations := shorts

def outlyingLinked (longs : List LongRelocation) (shorts : List ShortRelocation) :
    LinkedObject where
  file := .ofSections [(outlying longs shorts).relocate 0]
  image := ⟨4, [⟨0, #[0, 0, 0, 0]⟩]⟩

def outlyingMemory : Memory :=
  .zeroed 16

theorem link_outlying (longs : List LongRelocation) (shorts : List ShortRelocation) :
    (ObjectFile.ofSections [outlying longs shorts]).link = .ok (outlyingLinked longs shorts) :=
  rfl

def shortOutside : LinkedObject :=
  outlyingLinked [] [⟨0, 16, none⟩]

def longOutside : LinkedObject :=
  outlyingLinked [⟨0, 16, 4, none⟩] []

theorem shortOutside_refused :
    shortOutside.ChecksSlots [] outlyingMemory ∧
      (shortOutside.resolve []).run outlyingMemory =
        .error (.memory (.outOfBounds 16 16)) outlyingMemory := by
  have checks : shortOutside.ChecksSlots [] outlyingMemory := by
    refine (LinkedObject.checksSlots_iff (link_outlying [] [⟨0, 16, none⟩])).mpr ?_
    intro patch between comes long
    rcases List.mem_singleton.mp comes.mem with rfl
    exact long.elim
  exact ⟨checks, checks.ends _ outlyingMemory ⟨[], [], rfl, .nil _⟩ (by decide)⟩

/-- Resolution succeeds, although there is a patch outside memory, and has patched nothing. -/
theorem longOutside_lost :
    longOutside.Resolves [] outlyingMemory ∧
      (∃ patch ∈ longOutside.patches [], outlyingMemory.size ≤ patch.slot.toNat) ∧
      (∀ resolution after, (longOutside.resolve []).run outlyingMemory = .ok resolution after →
        after = outlyingMemory) ∧
      ¬longOutside.ChecksSlots [] outlyingMemory := by
  have resolves : longOutside.Resolves [] outlyingMemory := by
    decide +kernel
  have all : ∀ patch ∈ longOutside.patches [], outlyingMemory.size ≤ patch.slot.toNat := by
    decide
  have outside : ∃ patch ∈ longOutside.patches [], outlyingMemory.size ≤ patch.slot.toNat := by
    decide
  refine ⟨resolves, outside, ?_, ?_⟩
  · intro resolution after resolved
    have addressed := LinkedObject.addressed_of_link (link_outlying [⟨0, 16, 4, none⟩] [])
    rcases (LinkedObject.run_resolve_eq_ok_iff addressed).mp resolved with
      ⟨writes, patched, carried, -⟩
    exact carried.eq_of_size_le fun write member =>
      all write.patch (patched ▸ List.mem_map_of_mem member)
  · intro checks
    rcases outside with ⟨patch, member, past⟩
    exact Nat.not_lt.mpr past (checks.inside resolves patch member)

end SuperHBench
