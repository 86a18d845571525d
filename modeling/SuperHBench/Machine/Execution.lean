import SuperHBench.Machine.Listing
import SuperHBench.Machine.Operation
import SuperHBench.Machine.SinglePrecision

/-! # Execution

One step fetches an instruction, moves the program counter past it, carries it out
and then lands a branch that was pending before. Only loads can fail, and they
read before they change anything, so a failed step has moved the program counter
and used up the pending branch but kept all data. -/

namespace SuperHBench

/-! ## Operations on data -/

namespace Combination

/-- A register shifted by a signed amount, of which only the sign and the low five bits
count. The low bits of a negative amount say how far it lies above a multiple of 32. One
that lies right on it shifts every bit out, which leaves the word `emptied`. -/
def shift (value amount : UInt32) (right : Nat → UInt32) (emptied : UInt32) : UInt32 :=
  if amount &&& 0x80000000 = 0 then
    value <<< (amount &&& 31)
  else if amount &&& 31 = 0 then
    emptied
  else
    right ((~~~amount &&& 31) + 1).toNat

def result (operation : Combination) (source destination : UInt32) : UInt32 :=
  match operation with
  | .add => destination + source
  | .subtract => destination - source
  | .bitAnd => destination &&& source
  | .bitXor => destination ^^^ source
  | .bitOr => destination ||| source
  | .move => source
  | .complement => ~~~source
  | .negate => -source
  | .zeroExtend width => (Value.truncate width source).raw
  | .signExtend width => (Value.truncate width source).extended
  | .shiftArithmetic =>
      let right (count : Nat) : UInt32 := ⟨destination.toBitVec.sshiftRight count⟩
      shift destination source right (right 31)
  | .shiftLogical =>
      shift destination source (fun count => ⟨destination.toBitVec >>> count⟩) 0

end Combination

def Comparison.holds (relation : Comparison) (operand other : UInt32) : Bool :=
  match relation with
  | .equal => operand = other
  | .higherOrSame => operand ≥ other
  | .greaterOrEqual => operand.toInt32 ≥ other.toInt32
  | .higher => operand > other
  | .greater => operand.toInt32 > other.toInt32
  | .disjoint => operand &&& other = 0

def SignTest.holds (test : SignTest) (operand : UInt32) : Bool :=
  match test with
  | .positiveOrZero => operand.toInt32 ≥ 0
  | .positive => operand.toInt32 > 0

def BitShift.result (shift : BitShift) (operand : UInt32) : UInt32 × Bool :=
  match shift with
  | .left => (operand <<< 1, operand.toBitVec.msb)
  | .right => (operand >>> 1, operand.toBitVec.getLsbD 0)
  | .arithmeticRight => (⟨operand.toBitVec.sshiftRight 1⟩, operand.toBitVec.getLsbD 0)

def LongShift.result (shift : LongShift) (operand : UInt32) : UInt32 :=
  match shift with
  | .left amount => ⟨operand.toBitVec <<< amount⟩
  | .right amount => ⟨operand.toBitVec >>> amount⟩

/-- The sum of two words and then of a carry. An addition has wrapped around if it comes out
below the word that was added to, and either of the two may do so. -/
def carrySum (left right : UInt32) (carry : Bool) : UInt32 × Bool :=
  let part := left + right
  let sum := part + carry.toUInt32
  (sum, part < left || sum < part)

def FloatCombination.result (operation : FloatCombination) (source destination : UInt32) :
    UInt32 :=
  match operation with
  | .add => SinglePrecision.add destination source
  | .subtract => SinglePrecision.subtract destination source
  | .multiply => SinglePrecision.multiply destination source
  | .divide => SinglePrecision.divide destination source

def FloatComparison.holds (relation : FloatComparison) (operand other : UInt32) : Bool :=
  match relation with
  | .equal => SinglePrecision.equal operand other
  | .greater => SinglePrecision.greater operand other

def FloatUpdate.result (update : FloatUpdate) (operand : UInt32) : UInt32 :=
  match update with
  | .negate => SinglePrecision.negate operand
  | .zero => SinglePrecision.zero
  | .one => SinglePrecision.one

namespace Machine

/-! ## Operands -/

def source (machine : Machine) : Source → UInt32
  | .register index => machine.register index
  | .signed immediate => (Value.byte immediate).extended
  | .unsigned immediate => (Value.byte immediate).raw

def relativeTarget (machine : Machine) (offset : UInt32) : UInt32 :=
  Instruction.relativeTarget machine.pc offset

def alignedBase (machine : Machine) : UInt32 :=
  Instruction.alignedBase machine.pc

def locate (machine : Machine) (width : Width) : Address → UInt32
  | .direct base | .postIncrement base => machine.register base
  | .displaced displacement base => machine.register base + displacement
  | .indexed base => machine.register base + machine.register .zero
  | .preDecrement base => machine.register base - UInt32.ofNat width.bytes
  | .pcRelative displacement =>
      match width with
      | .long => machine.alignedBase + displacement
      | _ => machine.pc + 2 + displacement

def movePointer (machine : Machine) (width : Width) : Address → Machine
  | .postIncrement base =>
      machine.setRegister base (machine.register base + UInt32.ofNat width.bytes)
  | .preDecrement base =>
      machine.setRegister base (machine.register base - UInt32.ofNat width.bytes)
  | _ => machine

/-! ## Instructions -/

/-- Hold a branch back until the next instruction has run. -/
def delay (machine : Machine) (target : UInt32) : Machine :=
  { machine with pendingBranch := some target }

def link (machine : Machine) : Machine :=
  { machine with pr := machine.pc + 2 }

/-- An instruction at work changes the machine bit by bit. One that fails leaves the
machine as far as it came. -/
abbrev Executing := EStateM MemoryError Machine

def readMemory (width : Width) (address : UInt32) : Executing Value := do
  match (← get).memory.read width address with
  | .ok value => pure value
  | .error error => throw error

/-- A load reads first and puts its value into the destination last, so the value wins
over the moved pointer when both are the same register. -/
def load (width : Width) (source : Address) (destination : DataRegister) :
    Executing Operation := do
  let address := (← get).locate width source
  let value ← readMemory width address
  modify (·.movePointer width source)
  modify (·.setData destination value.extended)
  return .read address value

/-- Carry out an instruction. The program counter is already past it, and nothing
is pending. -/
def execute (machine : Machine) (code : UInt16) :
    Instruction → EStateM.Result MemoryError Machine Operation
  | .noOperation => .ok .generic machine
  | .load width source destination => (load width source destination).run machine
  | .store width source target =>
      let address := machine.locate width target
      let value := Value.truncate width (machine.data source)
      .ok (.write address value) ((machine.movePointer width target).store address value)
  | .transfer source destination =>
      .ok .generic (machine.setData destination (machine.data source))
  | .combine operation source destination =>
      .ok .generic (machine.setRegister destination
        (operation.result (machine.source source) (machine.register destination)))
  | .compare relation other operand =>
      .ok .generic
        { machine with t := relation.holds (machine.register operand) (machine.source other) }
  | .testSign test operand =>
      .ok .generic { machine with t := test.holds (machine.register operand) }
  | .addWithCarry source destination =>
      let (sum, carry) :=
        carrySum (machine.register destination) (machine.register source) machine.t
      .ok .generic { machine.setRegister destination sum with t := carry }
  | .multiply left right =>
      .ok .generic { machine with macl := machine.register right * machine.register left }
  | .shiftBit shift operand =>
      let (result, bit) := shift.result (machine.register operand)
      .ok .generic { machine.setRegister operand result with t := bit }
  | .shiftLong shift operand =>
      .ok .generic (machine.setRegister operand (shift.result (machine.register operand)))
  | .decrement operand =>
      let result := machine.register operand - 1
      .ok .generic { machine.setRegister operand result with t := result = 0 }
  | .copyCondition destination =>
      .ok .generic (machine.setRegister destination machine.t.toUInt32)
  | .loadAddress displacement =>
      .ok .generic (machine.setRegister .zero (machine.alignedBase + displacement))
  | .floatCombine operation source destination =>
      .ok .generic (machine.setFloat destination
        (operation.result (machine.float source) (machine.float destination)))
  | .floatCompare relation other operand =>
      .ok .generic
        { machine with t := relation.holds (machine.float operand) (machine.float other) }
  | .multiplyAdd factor destination =>
      .ok .generic (machine.setFloat destination
        (SinglePrecision.multiplyAdd (machine.float .zero) (machine.float factor)
          (machine.float destination)))
  | .floatUpdate update operand =>
      .ok .generic (machine.setFloat operand (update.result (machine.float operand)))
  | .integerToFloat destination =>
      .ok .generic (machine.setFloat destination (SinglePrecision.ofInteger machine.fpul))
  | .floatToInteger source =>
      .ok .generic { machine with fpul := SinglePrecision.toInteger (machine.float source) }
  | .conditional sense delayed offset =>
      let target := machine.relativeTarget offset
      let taken := machine.t == sense
      let after :=
        if taken then
          if delayed then machine.delay target else { machine with pc := target }
        else
          machine
      .ok (.flow target taken) after
  | .branchFar distance =>
      let target := machine.relativeTarget (machine.register distance)
      .ok (.flow target true) (machine.delay target)
  | .branch offset =>
      let target := machine.relativeTarget offset
      .ok (.branch code .bra target) (machine.delay target)
  | .branchSubroutine offset =>
      let target := machine.relativeTarget offset
      .ok (.branch code .bsr target) (machine.link.delay target)
  | .jump target =>
      let target := machine.register target
      .ok (.branch code .jmp target) (machine.delay target)
  | .jumpSubroutine target =>
      let target := machine.register target
      .ok (.branch code .jsr target) (machine.link.delay target)
  | .returnSubroutine => .ok (.branch code .rts machine.pr) (machine.delay machine.pr)

/-! ## Steps -/

/-- The machine as the instruction at the program counter finds it. The line is there before
the instruction has done anything, so one that fails has its line too. -/
def entered (machine : Machine) (code : UInt16) : Machine :=
  { machine with
    instructionPc := machine.pc
    pc := machine.pc + 2
    pendingBranch := none
    line :=
      if machine.listing then ListingLine.of? machine.pc code machine.pendingBranch.isSome
      else none }

def landed (machine : Machine) : Option UInt32 → Machine
  | some target => { machine with pc := target }
  | none => machine

def perform (machine : Machine) (code : UInt16) : Machine × Except Fault Operation :=
  match Instruction.decode? code with
  | none => (machine, .error (.unknownInstruction code machine.instructionPc))
  | some instruction =>
      match machine.execute code instruction with
      | .error error after => (after, .error (.memory error))
      | .ok operation after => (after, .ok operation)

def step (machine : Machine) : Machine × Except Fault Operation :=
  match machine.memory.readWord machine.pc with
  | .error error => (machine, .error (.memory error))
  | .ok code =>
      let (after, outcome) := (machine.entered code).perform code
      (after.landed machine.pendingBranch, outcome)

def withoutPending (machine : Machine) : Machine :=
  { machine with pendingBranch := none }

end Machine

end SuperHBench
