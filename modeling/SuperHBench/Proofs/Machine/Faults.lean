import SuperHBench.Proofs.Machine.Steps

/-! # Faults

A step that cannot fetch leaves the machine as it is. One that has fetched fails for a
word that is no instruction and for a load from outside memory. It has then moved the
program counter and used up the pending branch; the data is what it was. -/

namespace SuperHBench

namespace Machine

/-! ## What a fault leaves behind -/

structure KeepsData (machine after : Machine) : Prop where
  registers : ∀ index, after.register index = machine.register index
  floats : ∀ index, after.float index = machine.float index
  pr : after.pr = machine.pr
  t : after.t = machine.t
  macl : after.macl = machine.macl
  fpul : after.fpul = machine.fpul
  memory : after.memory = machine.memory

/-- The instruction at the program counter is over, and so is the branch in whose slot
it may have been. -/
structure MovesOn (machine after : Machine) : Prop where
  idle : after.pendingBranch = none
  instructionPc : after.instructionPc = machine.pc
  pc : after.pc = machine.pendingBranch.getD (machine.pc + 2)

/-- The ways in which a word that was fetched fails. -/
inductive Fails (machine : Machine) (code : UInt16) : Fault → Prop where
  | unknown (undecoded : Instruction.decode? code = none) :
      Fails machine code (.unknownInstruction code machine.pc)
  | load (width : Width) (source : Address) (destination : DataRegister)
      (decoded : Instruction.decode? code = some (.load width source destination))
      (outside : machine.memory.size ≤ ((machine.entered code).locate width source).toNat) :
      Fails machine code
        (.memory (.outOfBounds ((machine.entered code).locate width source) machine.memory.size))

/-! ## Instructions -/

variable {machine after : Machine} {code : UInt16}

theorem read_eq_error {memory : Memory} {width : Width} {address : UInt32}
    {error : MemoryError} (fails : memory.read width address = .error error) :
    memory.size ≤ address.toNat ∧ error = .outOfBounds address memory.size := by
  unfold Memory.read Memory.locate at fails
  split at fails
  · cases fails
  · rename_i outside
    cases fails
    exact ⟨Nat.le_of_not_lt outside, rfl⟩

/-- Only a load can fail, and it has changed nothing by then. -/
theorem execute_eq_error {instruction : Instruction} {error : MemoryError}
    (fails : machine.execute code instruction = .error error after) :
    after = machine ∧ ∃ width source destination,
      instruction = .load width source destination ∧
      machine.memory.read width (machine.locate width source) = .error error := by
  cases instruction with
  | load width source destination =>
      change (load width source destination).run machine = _ at fails
      rw [run_load] at fails
      cases found : machine.memory.read width (machine.locate width source) with
      | ok value =>
          rw [found] at fails
          cases fails
      | error cause =>
          rw [found] at fails
          cases fails
          exact ⟨rfl, width, source, destination, rfl, found⟩
  | _ => cases fails

/-! ## Steps -/

theorem perform_entered_eq_error {cause : Fault}
    (fails : (machine.entered code).perform code = (after, .error cause)) :
    after = machine.entered code ∧ machine.Fails code cause := by
  unfold perform at fails
  cases decoded : Instruction.decode? code with
  | none =>
      rw [decoded] at fails
      cases fails
      exact ⟨rfl, .unknown decoded⟩
  | some instruction =>
      simp only [decoded] at fails
      cases ran : (machine.entered code).execute code instruction with
      | ok operation finished =>
          rw [ran] at fails
          cases fails
      | error error failed =>
          rw [ran] at fails
          cases fails
          rcases execute_eq_error ran with ⟨rfl, width, source, destination, rfl, found⟩
          rcases read_eq_error found with ⟨outside, rfl⟩
          exact ⟨rfl, .load width source destination decoded outside⟩

theorem keepsData_landed_entered (machine : Machine) (code : UInt16)
    (target : Option UInt32) : machine.KeepsData ((machine.entered code).landed target) := by
  cases target with
  | none => exact ⟨fun _ => rfl, fun _ => rfl, rfl, rfl, rfl, rfl, rfl⟩
  | some target => exact ⟨fun _ => rfl, fun _ => rfl, rfl, rfl, rfl, rfl, rfl⟩

theorem movesOn_landed_entered (machine : Machine) (code : UInt16) :
    machine.MovesOn ((machine.entered code).landed machine.pendingBranch) := by
  cases pending : machine.pendingBranch with
  | none => exact ⟨rfl, rfl, by rw [pending]; rfl⟩
  | some target => exact ⟨rfl, rfl, by rw [pending]; rfl⟩

theorem intact_of_fault (machine : Machine) :
    (∀ error, machine.memory.readWord machine.pc = .error error →
      machine.step = (machine, .error (.memory error))) ∧
    ∀ code after cause, machine.memory.readWord machine.pc = .ok code →
      machine.step = (after, .error cause) →
      machine.Fails code cause ∧ machine.KeepsData after ∧ machine.MovesOn after := by
  constructor
  · intro error unfetched
    simp only [step, unfetched]
  · intro code after cause fetched fails
    simp only [step, fetched] at fails
    rcases Prod.ext_iff.mp fails with ⟨landed, outcome⟩
    have performed : (machine.entered code).perform code =
        (((machine.entered code).perform code).1, .error cause) := Prod.ext rfl outcome
    rcases perform_entered_eq_error performed with ⟨same, reason⟩
    rw [same] at landed
    subst landed
    exact ⟨reason, machine.keepsData_landed_entered _ _, machine.movesOn_landed_entered _⟩

/-! ## A load through a pointer that leads nowhere -/

/-- A machine in the slot of a branch, in front of a load that would move its pointer. -/
def strayLoading : Machine :=
  { Machine.start (.filled 4 fun index => [0x14, 0x60, 0x09, 0x00].getD index 0) with
    registers := Vector.replicate 16 100
    pendingBranch := some 0x20 }

theorem strayLoading_intact :
    (∃ after, strayLoading.step = (after, .error (.memory (.outOfBounds 100 4))) ∧
      strayLoading.Fails 0x6014 (.memory (.outOfBounds 100 4)) ∧
      strayLoading.KeepsData after ∧ strayLoading.MovesOn after) ∧
    { strayLoading with pc := 4 }.step =
      ({ strayLoading with pc := 4 }, .error (.memory (.outOfBounds 4 4))) := by
  have fetched : strayLoading.memory.readWord strayLoading.pc = .ok 0x6014 := by rfl
  have outcome : strayLoading.step.2 = .error (.memory (.outOfBounds 100 4)) := by rfl
  have fails : strayLoading.step =
      (strayLoading.step.1, .error (.memory (.outOfBounds 100 4))) := Prod.ext rfl outcome
  have outside : { strayLoading with pc := 4 }.memory.readWord 4 =
      .error (.outOfBounds 4 4) := by rfl
  exact ⟨⟨_, fails, (intact_of_fault strayLoading).2 _ _ _ fetched fails⟩,
    (intact_of_fault { strayLoading with pc := 4 }).1 _ outside⟩

end Machine

end SuperHBench
