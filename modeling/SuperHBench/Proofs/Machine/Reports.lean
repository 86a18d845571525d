import SuperHBench.Proofs.Machine.Steps
import SuperHBench.Proofs.MemoryContents

/-! # Steps and their reports

What a step did to memory, and what it learned from memory, is all in the operation it
returns. A write is the only change, a read is the only dependence besides the
instruction itself. -/

namespace SuperHBench

/-! ## What a report says -/

def Operation.Changes (operation : Operation) (before after : Memory) : Prop :=
  match operation with
  | .write target value => before.Receives target value after
  | _ => after = before

def Operation.IsRead (operation : Operation) : Prop :=
  ∃ source value, operation = .read source value

def DataRegister.isLoadable (width : Width) : DataRegister → Bool
  | .general _ => true
  | .float _ => width = .long
  | .system register => register = .pr ∧ width = .long

structure Memory.SameInstruction (memory other : Memory) (address : UInt32) : Prop where
  inside : address.toNat < other.size
  first : other.byte address.toNat = memory.byte address.toNat
  second : other.byte (address.toNat + 1) = memory.byte (address.toNat + 1)

namespace Machine

def withMemory (machine : Machine) (memory : Memory) : Machine :=
  { machine with memory := memory }

/-- The instruction at the program counter is a load from this address, and its
destination received the value with its sign. -/
def Loads (machine after : Machine) (source : UInt32) (value : Value) : Prop :=
  ∃ code address destination,
    machine.memory.readWord machine.pc = .ok code ∧
    Instruction.decode? code = some (.load value.width address destination) ∧
    (machine.entered code).locate value.width address = source ∧
    destination.isLoadable value.width = true ∧
    (after.data destination).toInt32.toInt = value.signed

structure Reports (machine after : Machine) (operation : Operation) : Prop where
  changes : operation.Changes machine.memory after.memory
  reads : ∀ source value, operation = .read source value →
    machine.memory.Holds source value ∧ machine.Loads after source value
  /-- Without a read, everything but memory is the same for any memory around the
  instruction. -/
  independent : ¬operation.IsRead →
    ∀ other, machine.memory.SameInstruction other machine.pc →
      ∃ rest, (machine.withMemory other).step = (after.withMemory rest, .ok operation)

end Machine

/-! ## Destinations of loads -/

namespace InstructionWord

def loadsProperly : Instruction → Bool
  | .load width _ destination => destination.isLoadable width
  | _ => true

variable (word : InstructionWord)

theorem all_system : word.system.all loadsProperly = true := by
  unfold system
  split <;> first | rfl | (split <;> rfl)

theorem all_storeGroup : word.storeGroup.all loadsProperly = true := by
  unfold storeGroup
  split <;> rfl

theorem all_arithmeticGroup : word.arithmeticGroup.all loadsProperly = true := by
  unfold arithmeticGroup
  split <;> rfl

theorem all_registerGroup : word.registerGroup.all loadsProperly = true := by
  unfold registerGroup
  split <;> rfl

theorem all_moveGroup : word.moveGroup.all loadsProperly = true := by
  unfold moveGroup
  split <;> rfl

theorem all_displacementGroup : word.displacementGroup.all loadsProperly = true := by
  unfold displacementGroup
  split <;> rfl

theorem all_immediateGroup : word.immediateGroup.all loadsProperly = true := by
  unfold immediateGroup
  split <;> rfl

theorem all_floatGroup : word.floatGroup.all loadsProperly = true := by
  unfold floatGroup
  split <;> rfl

theorem all_instruction? : word.instruction?.all loadsProperly = true := by
  unfold instruction?
  split
  · exact word.all_system
  · rfl
  · exact word.all_storeGroup
  · exact word.all_arithmeticGroup
  · exact word.all_registerGroup
  · rfl
  · exact word.all_moveGroup
  · rfl
  · exact word.all_displacementGroup
  · rfl
  · rfl
  · rfl
  · exact word.all_immediateGroup
  · rfl
  · rfl
  · exact word.all_floatGroup
  · rfl

end InstructionWord

theorem Instruction.isLoadable_of_decode? {code : UInt16} {width : Width} {source : Address}
    {destination : DataRegister}
    (decoded : Instruction.decode? code = some (.load width source destination)) :
    destination.isLoadable width = true := by
  have all := (InstructionWord.ofCode code).all_instruction?
  rw [← Instruction.decode?, decoded] at all
  exact all

/-! ## Instructions -/

namespace Machine

variable {machine after : Machine} {operation : Operation} {code : UInt16}
variable {instruction : Instruction}

@[simp] theorem memory_movePointer (machine : Machine) (width : Width) (address : Address) :
    (machine.movePointer width address).memory = machine.memory := by
  cases address <;> rfl

theorem changes_of_execute (ran : machine.execute code instruction = .ok operation after) :
    operation.Changes machine.memory after.memory := by
  cases instruction with
  | load width source destination =>
      rcases load_eq_ok_iff.mp ran with ⟨value, _, rfl, rfl⟩
      change ((machine.movePointer width source).setData destination value.extended).memory = _
      rw [memory_setData, memory_movePointer]
  | store width source target =>
      cases ran
      change machine.memory.Receives _ _ (((machine.movePointer width target).memory).write _ _)
      rw [memory_movePointer]
      exact machine.memory.receives_write _ _
  | transfer source destination =>
      cases ran
      exact machine.memory_setData destination _
  | conditional sense delayed offset =>
      cases ran
      dsimp only [Operation.Changes]
      split
      · split <;> rfl
      · rfl
  | _ =>
      cases ran
      rfl

theorem data_withMemory (machine : Machine) (other : Memory) (register : DataRegister) :
    (machine.withMemory other).data register = machine.data register := by
  rcases register with _ | _ | register
  · rfl
  · rfl
  · cases register <;> rfl

theorem setData_withMemory (machine : Machine) (other : Memory) (register : DataRegister)
    (value : UInt32) :
    (machine.withMemory other).setData register value =
      (machine.setData register value).withMemory other := by
  rcases register with _ | _ | register
  · rfl
  · rfl
  · cases register <;> rfl

theorem source_withMemory (machine : Machine) (other : Memory) (source : Source) :
    (machine.withMemory other).source source = machine.source source := by
  cases source <;> rfl

theorem locate_withMemory (machine : Machine) (other : Memory) (width : Width)
    (address : Address) :
    (machine.withMemory other).locate width address = machine.locate width address := by
  cases address with
  | pcRelative => cases width <;> rfl
  | _ => rfl

theorem movePointer_withMemory (machine : Machine) (other : Memory) (width : Width)
    (address : Address) :
    (machine.withMemory other).movePointer width address =
      (machine.movePointer width address).withMemory other := by
  cases address <;> rfl

theorem execute_withMemory (other : Memory)
    (ran : machine.execute code instruction = .ok operation after)
    (noRead : ¬operation.IsRead) :
    ∃ rest, (machine.withMemory other).execute code instruction =
      .ok operation (after.withMemory rest) := by
  cases instruction with
  | load width source destination =>
      rcases load_eq_ok_iff.mp ran with ⟨value, _, rfl, _⟩
      exact absurd ⟨_, _, rfl⟩ noRead
  | store width source target =>
      cases ran
      simp only [execute, locate_withMemory, data_withMemory, movePointer_withMemory]
      exact ⟨_, rfl⟩
  | transfer source destination =>
      cases ran
      simp only [execute, data_withMemory, setData_withMemory]
      exact ⟨_, rfl⟩
  | combine combination source destination =>
      cases ran
      simp only [execute, source_withMemory]
      exact ⟨other, rfl⟩
  | compare relation source operand =>
      cases ran
      simp only [execute, source_withMemory]
      exact ⟨other, rfl⟩
  | conditional sense delayed offset =>
      cases ran
      refine ⟨other, ?_⟩
      have sameT : (machine.withMemory other).t = machine.t := rfl
      simp only [execute, sameT]
      split
      · cases delayed <;> rfl
      · rfl
  | _ =>
      cases ran
      exact ⟨other, rfl⟩

/-! ## Steps -/

theorem readWord_of_sameInstruction {memory other : Memory} {address : UInt32}
    (fetched : memory.readWord address = .ok code)
    (same : memory.SameInstruction other address) : other.readWord address = .ok code := by
  unfold Memory.readWord Memory.locate at fetched ⊢
  rw [if_pos same.inside]
  split at fetched
  · cases fetched
    simp only [Except.map, Memory.wordAt, same.first, same.second]
  · cases fetched

theorem entered_withMemory (machine : Machine) (other : Memory) (code : UInt16) :
    (machine.withMemory other).entered code = (machine.entered code).withMemory other := rfl

theorem landed_withMemory (machine : Machine) (other : Memory) (target : Option UInt32) :
    (machine.withMemory other).landed target = (machine.landed target).withMemory other := by
  cases target <;> rfl

variable {result : Machine}

theorem Stepped.changes (stepped : Stepped machine after operation code instruction result) :
    operation.Changes machine.memory after.memory := by
  rw [stepped.landed, memory_landed]
  change operation.Changes (machine.entered code).memory result.memory
  exact changes_of_execute stepped.ran

theorem Stepped.reads (stepped : Stepped machine after operation code instruction result)
    {source : UInt32} {value : Value} (isRead : operation = .read source value) :
    machine.memory.Holds source value ∧ machine.Loads after source value := by
  subst isRead
  have ran := stepped.ran
  cases instruction with
  | load width address destination =>
      rcases load_eq_ok_iff.mp ran with ⟨found, read, same, loaded⟩
      cases same
      rcases Memory.holds_of_read read with ⟨rfl, holds⟩
      refine ⟨holds, code, address, destination, stepped.fetched, stepped.decoded, rfl,
        Instruction.isLoadable_of_decode? stepped.decoded, ?_⟩
      rw [stepped.landed, data_landed, loaded, data_setData_same, Value.toInt_extended]
  | _ => cases ran

theorem Stepped.independent
    (stepped : Stepped machine after operation code instruction result)
    (noRead : ¬operation.IsRead) {other : Memory}
    (same : machine.memory.SameInstruction other machine.pc) :
    ∃ rest, (machine.withMemory other).step = (after.withMemory rest, .ok operation) := by
  rcases execute_withMemory other stepped.ran noRead with ⟨rest, ran⟩
  refine ⟨rest, step_eq_ok_iff.mpr ⟨code, instruction, result.withMemory rest, ?_⟩⟩
  exact {
    fetched := readWord_of_sameInstruction stepped.fetched same
    decoded := stepped.decoded
    ran := ran
    landed := by rw [stepped.landed, ← landed_withMemory]; rfl }

/-- The operation of a step that succeeds is a full account of its dealings with memory. -/
theorem reports_of_step (stepped : machine.step = (after, .ok operation)) :
    machine.Reports after operation := by
  rcases step_eq_ok_iff.mp stepped with ⟨code, instruction, result, stepped⟩
  exact {
    changes := stepped.changes
    reads := fun _ _ isRead => stepped.reads isRead
    independent := fun noRead _ same => stepped.independent noRead same }

/-! ## A load over its own pointer -/

/-- A machine in front of a load of one byte that moves the register it goes to. -/
def selfLoading : Machine :=
  { Machine.start (.filled 4 fun index => [0x14, 0x61, 0x00, 0x80].getD index 0) with
    registers := Vector.replicate 16 3 }

theorem selfLoading_reports :
    ∃ after, selfLoading.step = (after, .ok (.read 3 (.byte 0x80))) ∧
      selfLoading.Reports after (.read 3 (.byte 0x80)) := by
  have outcome : selfLoading.step.2 = .ok (.read 3 (.byte 0x80)) := by rfl
  have stepped : selfLoading.step = (selfLoading.step.1, .ok (.read 3 (.byte 0x80))) :=
    Prod.ext rfl outcome
  exact ⟨_, stepped, reports_of_step stepped⟩

end Machine

end SuperHBench
