import SuperHBench.Proofs.Machine.Faults
import SuperHBench.Proofs.Machine.Reports

/-! # Footprints

The bytes that are looked at, by a fetch, a load or a comparison of a string. Two memories
that differ only elsewhere cannot be told apart by it: a step does the same in both, and
they still differ only elsewhere after it. -/

namespace SuperHBench

/-- None of these bytes is hidden. -/
def Shows (hidden : Nat → Prop) (footprint : List Nat) : Prop :=
  ∀ index ∈ footprint, ¬hidden index

theorem shows_append_iff {hidden : Nat → Prop} {front back : List Nat} :
    Shows hidden (front ++ back) ↔ Shows hidden front ∧ Shows hidden back := by
  simp [Shows, or_imp, forall_and]

namespace Memory

/-! ## Memory -/

def footprint (memory : Memory) (address : UInt32) (count : Nat) : List Nat :=
  List.range' address.toNat (min count (memory.size - address.toNat))

/-- The bytes of a string with the zero that ends it, but no more than `limit`. -/
def stringFootprint (memory : Memory) (limit : Nat) (address : UInt32) : List Nat :=
  memory.footprint address (min limit ((memory.stringAt address.toNat limit).length + 1))

structure AgreesOutside (hidden : Nat → Prop) (memory other : Memory) : Prop where
  size : other.size = memory.size
  bytes : ∀ index, ¬hidden index → other.byte index = memory.byte index

namespace AgreesOutside

variable {hidden : Nat → Prop} {memory other : Memory} {address : UInt32}

section

variable {count index : Nat} (agrees : memory.AgreesOutside hidden other)
variable (shown : Shows hidden (memory.footprint address count))
include agrees shown

theorem byte_eq (start : address.toNat ≤ index) (within : index < address.toNat + count) :
    other.byte index = memory.byte index := by
  rcases Nat.lt_or_ge index memory.size with inside | past
  · apply agrees.bytes
    apply shown
    rw [footprint, List.mem_range'_1]
    omega
  · have far : other.size ≤ index := by
      rw [agrees.size]
      exact past
    rw [byte_of_size_le memory past, byte_of_size_le other far]

theorem wordAt_eq (start : address.toNat ≤ index) (within : index + 1 < address.toNat + count) :
    other.wordAt index = memory.wordAt index := by
  rw [wordAt, wordAt, agrees.byte_eq shown start (by omega),
    agrees.byte_eq shown (by omega) within]

end

theorem valueAt_eq (agrees : memory.AgreesOutside hidden other) (width : Width)
    (shown : Shows hidden (memory.footprint address width.bytes)) :
    other.valueAt address.toNat width = memory.valueAt address.toNat width := by
  cases width with
  | byte => exact congrArg Value.byte (agrees.byte_eq shown (by omega) (by simp [Width.bytes]))
  | word => exact congrArg Value.word (agrees.wordAt_eq shown (by omega) (by simp [Width.bytes]))
  | long =>
      rw [valueAt, longAt, agrees.wordAt_eq shown (by omega) (by simp [Width.bytes]),
        agrees.wordAt_eq shown (by omega) (by simp [Width.bytes])]
      rfl

/-- Of a string only the bytes up to its end are looked at. -/
theorem stringAt_eq (agrees : memory.AgreesOutside hidden other) {limit : Nat}
    (shown : Shows hidden (memory.stringFootprint limit address)) :
    other.stringAt address.toNat limit = memory.stringAt address.toNat limit := by
  have same : ∀ index, address.toNat ≤ index →
      index < address.toNat + min limit ((memory.stringAt address.toNat limit).length + 1) →
      other.byte index = memory.byte index :=
    fun index start within => agrees.byte_eq shown start within
  clear shown
  generalize address.toNat = start at same ⊢
  induction limit generalizing start with
  | zero => rfl
  | succ limit induction =>
      have first := same start (Nat.le_refl start) (by omega)
      rw [stringAt, stringAt, first]
      split
      · rfl
      · rename_i more
        rw [induction (start + 1)]
        intro index after within
        apply same index (by omega)
        rw [stringAt]
        simp only [if_neg more, List.length_cons]
        omega

/-! ## Reads -/

theorem map_locate_eq (agrees : memory.AgreesOutside hidden other) {view view' : Nat → α}
    (same : view' address.toNat = view address.toNat) :
    (other.locate address).map view' = (memory.locate address).map view := by
  unfold locate
  rw [agrees.size]
  split
  · exact congrArg Except.ok same
  · rfl

theorem read_eq (agrees : memory.AgreesOutside hidden other) {width : Width}
    (shown : Shows hidden (memory.footprint address width.bytes)) :
    other.read width address = memory.read width address :=
  agrees.map_locate_eq (agrees.valueAt_eq width shown)

theorem readWord_eq (agrees : memory.AgreesOutside hidden other)
    (shown : Shows hidden (memory.footprint address 2)) :
    other.readWord address = memory.readWord address :=
  agrees.map_locate_eq (Value.word.inj (agrees.valueAt_eq .word shown))

theorem readLong_eq (agrees : memory.AgreesOutside hidden other)
    (shown : Shows hidden (memory.footprint address 4)) :
    other.readLong address = memory.readLong address :=
  agrees.map_locate_eq (Value.long.inj (agrees.valueAt_eq .long shown))

theorem readStringWithin_eq (agrees : memory.AgreesOutside hidden other) {limit : Nat}
    (shown : Shows hidden (memory.stringFootprint limit address)) :
    other.readStringWithin limit address = memory.readStringWithin limit address :=
  agrees.map_locate_eq (agrees.stringAt_eq shown)

/-! ## Changes -/

theorem of_receives (agrees : memory.AgreesOutside hidden other) {value : Value}
    {after rest : Memory} (received : memory.Receives address value after)
    (received' : other.Receives address value rest) : after.AgreesOutside hidden rest := by
  constructor
  case size => rw [received'.size, received.size, agrees.size]
  case bytes =>
    intro index shown
    rcases Nat.lt_or_ge index memory.size with inside | past
    · have inside' : index < other.size := by
        rw [agrees.size]
        exact inside
      rw [received.bytes index inside, received'.bytes index inside', agrees.bytes index shown]
    · have far : after.size ≤ index := by
        rw [received.size]
        exact past
      have far' : rest.size ≤ index := by
        rw [received'.size, agrees.size]
        exact past
      rw [byte_of_size_le after far, byte_of_size_le rest far']

theorem of_changes (agrees : memory.AgreesOutside hidden other) {operation : Operation}
    {after rest : Memory} (changes : operation.Changes memory after)
    (changes' : operation.Changes other rest) : after.AgreesOutside hidden rest := by
  cases operation with
  | write target value => exact agrees.of_receives changes changes'
  | generic | read | branch | flow =>
      cases changes
      cases changes'
      exact agrees

end AgreesOutside

end Memory

namespace Machine

/-! ## Steps -/

variable {hidden : Nat → Prop} {machine after : Machine} {other : Memory}
variable {code : UInt16} {instruction : Instruction} {operation : Operation}

/-- The bytes that an instruction has looked at, besides its own. -/
def loaded (machine : Machine) : Operation → List Nat
  | .read source value => machine.memory.footprint source value.width.bytes
  | _ => []

theorem execute_eq_ok_of_agrees (agrees : machine.memory.AgreesOutside hidden other)
    (ran : machine.execute code instruction = .ok operation after)
    (shown : Shows hidden (machine.loaded operation)) :
    ∃ rest, (machine.withMemory other).execute code instruction =
        .ok operation (after.withMemory rest) ∧
      after.memory.AgreesOutside hidden rest := by
  have again : ∃ rest, (machine.withMemory other).execute code instruction =
      .ok operation (after.withMemory rest) := by
    by_cases isRead : operation.IsRead
    · rcases isRead with ⟨source, value, rfl⟩
      cases instruction with
      | load width address destination =>
          rcases load_eq_ok_iff.mp ran with ⟨found, read, same, stored⟩
          cases same
          have sameWidth := (Memory.holds_of_read read).1
          subst sameWidth
          refine ⟨other, load_eq_ok_iff.mpr ⟨value, ?_, ?_, ?_⟩⟩
          · rw [locate_withMemory, ← read]
            exact agrees.read_eq shown
          · rw [locate_withMemory]
          · rw [stored, movePointer_withMemory, setData_withMemory]
      | _ => cases ran
    · exact execute_withMemory other ran isRead
  rcases again with ⟨rest, same⟩
  exact ⟨rest, same, agrees.of_changes (changes_of_execute ran) (changes_of_execute same)⟩

theorem execute_eq_error_of_agrees (agrees : machine.memory.AgreesOutside hidden other)
    {error : MemoryError} (fails : machine.execute code instruction = .error error after) :
    (machine.withMemory other).execute code instruction =
      .error error (after.withMemory other) := by
  rcases execute_eq_error fails with ⟨rfl, width, source, destination, rfl, found⟩
  have outside : other.read width (after.locate width source) = .error error := by
    rcases read_eq_error found with ⟨past, rfl⟩
    have far : ¬(after.locate width source).toNat < other.size := by
      rw [agrees.size]
      exact Nat.not_lt.mpr past
    rw [Memory.read, Memory.locate, if_neg far, agrees.size]
    rfl
  change (load width source destination).run _ = _
  rw [run_load, locate_withMemory]
  simp only [withMemory, outside]

theorem perform_withMemory (agrees : machine.memory.AgreesOutside hidden other)
    (shown : ∀ operation, (machine.perform code).2 = .ok operation →
      Shows hidden (machine.loaded operation)) :
    ∃ rest, (machine.withMemory other).perform code =
        ((machine.perform code).1.withMemory rest, (machine.perform code).2) ∧
      (machine.perform code).1.memory.AgreesOutside hidden rest := by
  unfold perform at shown ⊢
  cases decoded : Instruction.decode? code with
  | none => exact ⟨other, rfl, agrees⟩
  | some instruction =>
      simp only [decoded] at shown ⊢
      cases ran : machine.execute code instruction with
      | ok operation after =>
          rw [ran] at shown
          rcases execute_eq_ok_of_agrees agrees ran (shown operation rfl) with ⟨rest, same, kept⟩
          simp only [same]
          exact ⟨rest, rfl, kept⟩
      | error error after =>
          simp only [execute_eq_error_of_agrees agrees ran]
          rw [(execute_eq_error ran).1]
          exact ⟨other, rfl, agrees⟩

def footprint (machine : Machine) : List Nat :=
  machine.memory.footprint machine.pc 2 ++
    match machine.step.2 with
    | .ok operation => machine.loaded operation
    | .error _ => []

theorem step_withMemory (agrees : machine.memory.AgreesOutside hidden other)
    (shown : Shows hidden machine.footprint) :
    ∃ rest, (machine.withMemory other).step = (machine.step.1.withMemory rest, machine.step.2) ∧
      machine.step.1.memory.AgreesOutside hidden rest := by
  rcases shows_append_iff.mp shown with ⟨fetches, loads⟩
  have refetched : (machine.withMemory other).memory.readWord machine.pc =
      machine.memory.readWord machine.pc := agrees.readWord_eq fetches
  cases fetched : machine.memory.readWord machine.pc with
  | error error =>
      rw [step_of_unfetched fetched, step_of_unfetched (refetched.trans fetched)]
      exact ⟨other, rfl, agrees⟩
  | ok code =>
      rw [step_of_fetched fetched] at loads ⊢
      rw [step_of_fetched (refetched.trans fetched)]
      have entered : (machine.entered code).memory.AgreesOutside hidden other := agrees
      have performs : ∀ operation, ((machine.entered code).perform code).2 = .ok operation →
          Shows hidden ((machine.entered code).loaded operation) := by
        intro operation outcome
        rw [outcome] at loads
        exact loads
      rcases perform_withMemory entered performs with ⟨rest, same, kept⟩
      refine ⟨rest, ?_, ?_⟩
      · rw [entered_withMemory, same, landed_withMemory]
        rfl
      · rw [memory_landed]
        exact kept

end Machine

end SuperHBench
