import SuperHBench.Memory

/-! # Machine state

Sixteen general and sixteen single-precision registers, the program counter, the
registers that branches, multiplication and conversions use, the condition flag,
and memory. A delayed branch waits in `pendingBranch` until the instruction in its
slot has run, so every state between two steps says by itself what comes next.
With `listing` on, a step leaves the line of its instruction in `line`, where it
stays until it is taken or the next instruction is fetched.

Single-precision registers hold bit patterns; a move keeps every bit, of a NaN as
well. -/

namespace SuperHBench

abbrev Register := Fin 16

namespace Register

/-- The register with a number, counted around after the last one. -/
def ofNat (number : Nat) : Register :=
  ⟨number % 16, Nat.mod_lt number (by decide)⟩

def zero : Register :=
  ⟨0, by decide⟩

def one : Register :=
  ⟨1, by decide⟩

def stack : Register :=
  ⟨15, by decide⟩

end Register

inductive SystemRegister where
  | macl
  | pr
  | fpul
deriving DecidableEq, Repr

inductive DataRegister where
  | general (index : Register)
  | float (index : Register)
  | system (register : SystemRegister)
deriving DecidableEq, Repr

structure ListingLine where
  pc : UInt32
  code : UInt16
  mnemonic : String
  operands : List String
  inDelaySlot : Bool
deriving DecidableEq, Repr

structure Machine where
  memory : Memory
  registers : Vector UInt32 16
  floatRegisters : Vector UInt32 16
  pc : UInt32
  pr : UInt32
  t : Bool
  macl : UInt32
  fpul : UInt32
  /-- The target of a branch whose slot is the next instruction. -/
  pendingBranch : Option UInt32
  instructionPc : UInt32
  listing : Bool
  line : Option ListingLine

namespace Machine

/-- A machine before its first step. The stack pointer starts one long word below
the end of memory. -/
def start (memory : Memory) : Machine where
  memory := memory
  registers := (Vector.replicate 16 0).set Register.stack.val
    (UInt32.ofNat (min memory.size (Word.count 32 - 1)) - 4) Register.stack.isLt
  floatRegisters := Vector.replicate 16 0
  pc := 0
  pr := 0
  t := false
  macl := 0
  fpul := 0
  pendingBranch := none
  instructionPc := 0
  listing := false
  line := none

/-! ## Registers -/

def register (machine : Machine) (index : Register) : UInt32 :=
  machine.registers[index.val]

def setRegister (machine : Machine) (index : Register) (value : UInt32) : Machine :=
  { machine with registers := machine.registers.set index.val value index.isLt }

def float (machine : Machine) (index : Register) : UInt32 :=
  machine.floatRegisters[index.val]

def setFloat (machine : Machine) (index : Register) (bits : UInt32) : Machine :=
  { machine with floatRegisters := machine.floatRegisters.set index.val bits index.isLt }

def stackPointer (machine : Machine) : UInt32 :=
  machine.register .stack

def system (machine : Machine) : SystemRegister → UInt32
  | .macl => machine.macl
  | .pr => machine.pr
  | .fpul => machine.fpul

def setSystem (machine : Machine) (register : SystemRegister) (value : UInt32) : Machine :=
  match register with
  | .macl => { machine with macl := value }
  | .pr => { machine with pr := value }
  | .fpul => { machine with fpul := value }

def data (machine : Machine) : DataRegister → UInt32
  | .general index => machine.register index
  | .float index => machine.float index
  | .system register => machine.system register

def setData (machine : Machine) (register : DataRegister) (value : UInt32) : Machine :=
  match register with
  | .general index => machine.setRegister index value
  | .float index => machine.setFloat index value
  | .system register => machine.setSystem register value

theorem register_setRegister_same (machine : Machine) (index : Register) (value : UInt32) :
    (machine.setRegister index value).register index = value := by
  simp [register, setRegister]

theorem register_setRegister_other (machine : Machine) {index other : Register}
    (value : UInt32) (different : index ≠ other) :
    (machine.setRegister index value).register other = machine.register other := by
  simp [register, setRegister, Fin.val_ne_of_ne different]

theorem float_setFloat_same (machine : Machine) (index : Register) (bits : UInt32) :
    (machine.setFloat index bits).float index = bits := by
  simp [float, setFloat]

theorem float_setFloat_other (machine : Machine) {index other : Register}
    (bits : UInt32) (different : index ≠ other) :
    (machine.setFloat index bits).float other = machine.float other := by
  simp [float, setFloat, Fin.val_ne_of_ne different]

theorem data_setData_same (machine : Machine) (register : DataRegister) (value : UInt32) :
    (machine.setData register value).data register = value := by
  rcases register with index | index | register
  · exact machine.register_setRegister_same index value
  · exact machine.float_setFloat_same index value
  · cases register <;> rfl

theorem data_setData_other (machine : Machine) {register other : DataRegister}
    (value : UInt32) (different : register ≠ other) :
    (machine.setData register value).data other = machine.data other := by
  cases register with
  | general index =>
      cases other with
      | general other =>
          exact machine.register_setRegister_other value fun equal =>
            different (congrArg _ equal)
      | float other => rfl
      | system other => cases other <;> rfl
  | float index =>
      cases other with
      | general other => rfl
      | float other =>
          exact machine.float_setFloat_other value fun equal =>
            different (congrArg _ equal)
      | system other => cases other <;> rfl
  | system register =>
      cases register <;> cases other with
      | general other => rfl
      | float other => rfl
      | system other => cases other <;> first | rfl | exact absurd rfl different

@[simp] theorem memory_setData (machine : Machine) (register : DataRegister) (value : UInt32) :
    (machine.setData register value).memory = machine.memory := by
  rcases register with _ | _ | register
  · rfl
  · rfl
  · cases register <;> rfl

/-! ## Memory -/

def store (machine : Machine) (address : UInt32) (value : Value) : Machine :=
  { machine with memory := machine.memory.write address value }

/-! ## Lines -/

def withoutLine (machine : Machine) : Machine :=
  { machine with line := none }

end Machine

end SuperHBench
