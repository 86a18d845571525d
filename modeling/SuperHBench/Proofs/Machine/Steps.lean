import SuperHBench.Machine.Execution

/-! # Steps taken apart

A step that succeeds has fetched a word that is an instruction, has carried it out on the
machine that has entered it, and has landed the branch that was pending. -/

namespace SuperHBench

namespace Machine

/-! ## Loads -/

/-- A load does nothing before its read has succeeded. -/
theorem run_load (machine : Machine) (width : Width) (source : Address)
    (destination : DataRegister) :
    (load width source destination).run machine =
      match machine.memory.read width (machine.locate width source) with
      | .ok value =>
          .ok (.read (machine.locate width source) value)
            ((machine.movePointer width source).setData destination value.extended)
      | .error error => .error error machine := by
  simp only [load, readMemory, EStateM.run_bind, EStateM.run_get]
  cases machine.memory.read width (machine.locate width source) with
  | error error => rfl
  | ok value => rfl

theorem load_eq_ok_iff {machine after : Machine} {operation : Operation} {width : Width}
    {source : Address} {destination : DataRegister} :
    (load width source destination).run machine = .ok operation after ↔
      ∃ value, machine.memory.read width (machine.locate width source) = .ok value ∧
        operation = .read (machine.locate width source) value ∧
        after = (machine.movePointer width source).setData destination value.extended := by
  rw [run_load]
  cases machine.memory.read width (machine.locate width source) with
  | error error => simp
  | ok value => simp [eq_comm]

/-! ## Steps -/

structure Stepped (machine after : Machine) (operation : Operation) (code : UInt16)
    (instruction : Instruction) (result : Machine) : Prop where
  fetched : machine.memory.readWord machine.pc = .ok code
  decoded : Instruction.decode? code = some instruction
  ran : (machine.entered code).execute code instruction = .ok operation result
  landed : after = result.landed machine.pendingBranch

theorem perform_eq_ok_iff {machine after : Machine} {code : UInt16} {operation : Operation} :
    machine.perform code = (after, .ok operation) ↔
      ∃ instruction, Instruction.decode? code = some instruction ∧
        machine.execute code instruction = .ok operation after := by
  unfold perform
  cases decoded : Instruction.decode? code with
  | none => simp
  | some instruction =>
      cases ran : machine.execute code instruction with
      | error error failed => simp [ran]
      | ok result finished => simp [ran, Prod.ext_iff, and_comm]

theorem step_of_unfetched {machine : Machine} {error : MemoryError}
    (unfetched : machine.memory.readWord machine.pc = .error error) :
    machine.step = (machine, .error (.memory error)) := by
  simp only [step, unfetched]

theorem step_of_fetched {machine : Machine} {code : UInt16}
    (fetched : machine.memory.readWord machine.pc = .ok code) :
    machine.step = (((machine.entered code).perform code).1.landed machine.pendingBranch,
      ((machine.entered code).perform code).2) := by
  simp only [step, fetched]

theorem step_eq_ok_iff {machine after : Machine} {operation : Operation} :
    machine.step = (after, .ok operation) ↔
      ∃ code instruction result,
        Stepped machine after operation code instruction result := by
  unfold step
  cases fetched : machine.memory.readWord machine.pc with
  | error error =>
      constructor
      · intro impossible
        cases impossible
      · intro ⟨code, instruction, result, stepped⟩
        rw [stepped.fetched] at fetched
        cases fetched
  | ok code =>
      constructor
      · intro stepped
        rcases Prod.ext_iff.mp stepped with ⟨landed, outcome⟩
        have performed : (machine.entered code).perform code =
            (((machine.entered code).perform code).1, .ok operation) := Prod.ext rfl outcome
        rcases perform_eq_ok_iff.mp performed with ⟨instruction, decoded, ran⟩
        exact ⟨code, instruction, _, fetched, decoded, ran, landed.symm⟩
      · intro ⟨code', instruction, result, stepped⟩
        have same : code = code' := by
          have both := stepped.fetched
          rw [fetched] at both
          exact Except.ok.inj both
        subst same
        have performed := perform_eq_ok_iff.mpr ⟨instruction, stepped.decoded, stepped.ran⟩
        simp only [performed, stepped.landed]

@[simp] theorem memory_landed (machine : Machine) (target : Option UInt32) :
    (machine.landed target).memory = machine.memory := by
  cases target with
  | none => rfl
  | some target => rfl

@[simp] theorem t_landed (machine : Machine) (target : Option UInt32) :
    (machine.landed target).t = machine.t := by
  cases target with
  | none => rfl
  | some target => rfl

@[simp] theorem data_landed (machine : Machine) (target : Option UInt32)
    (register : DataRegister) :
    (machine.landed target).data register = machine.data register := by
  cases target with
  | none => rfl
  | some target => rcases register with _ | _ | register <;> rfl

end Machine

end SuperHBench
