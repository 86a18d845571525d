import SuperHBench.Machine.State

/-! # Instructions

The instructions of the processor, apart from how they are encoded, written and
carried out. What several of them do alike is one constructor with a parameter:
a load is a load for every width, way of addressing and kind of register. -/

namespace SuperHBench

/-! ## Operands -/

inductive Address where
  | direct (base : Register)
  | displaced (displacement : UInt32) (base : Register)
  | indexed (base : Register)
  | postIncrement (base : Register)
  | preDecrement (base : Register)
  /-- Counted from the program counter, which a long access rounds down. -/
  | pcRelative (displacement : UInt32)
deriving DecidableEq, Repr

inductive Source where
  | register (index : Register)
  | signed (immediate : UInt8)
  | unsigned (immediate : UInt8)
deriving DecidableEq, Repr

/-! ## Operations -/

/-- Operations that leave their result in their second operand and no condition. -/
inductive Combination where
  | add
  | subtract
  | bitAnd
  | bitXor
  | bitOr
  | move
  | complement
  | negate
  | zeroExtend (width : Width)
  | signExtend (width : Width)
  | shiftArithmetic
  | shiftLogical
deriving DecidableEq, Repr

inductive Comparison where
  | equal
  | higherOrSame
  | greaterOrEqual
  | higher
  | greater
  | disjoint
deriving DecidableEq, Repr

inductive SignTest where
  | positiveOrZero
  | positive
deriving DecidableEq, Repr

inductive BitShift where
  | left
  | right
  | arithmeticRight
deriving DecidableEq, Repr

inductive LongShift where
  | left (amount : Nat)
  | right (amount : Nat)
deriving DecidableEq, Repr

inductive FloatCombination where
  | add
  | subtract
  | multiply
  | divide
deriving DecidableEq, Repr

inductive FloatComparison where
  | equal
  | greater
deriving DecidableEq, Repr

inductive FloatUpdate where
  | negate
  | zero
  | one
deriving DecidableEq, Repr

/-! ## Branches -/

/-- The branches that always take place after one more instruction and that can
call or leave a function. -/
inductive BranchKind where
  | bra
  | bsr
  | jmp
  | jsr
  | rts
deriving DecidableEq, Repr

namespace BranchKind

def isCall : BranchKind → Bool
  | .bsr | .jsr => true
  | _ => false

def isRelative : BranchKind → Bool
  | .bra | .bsr => true
  | _ => false

end BranchKind

/-! ## Instructions -/

inductive Instruction where
  | noOperation
  | load (width : Width) (source : Address) (destination : DataRegister)
  | store (width : Width) (source : DataRegister) (target : Address)
  | transfer (source destination : DataRegister)
  | combine (operation : Combination) (source : Source) (destination : Register)
  | compare (relation : Comparison) (other : Source) (operand : Register)
  | testSign (test : SignTest) (operand : Register)
  | addWithCarry (source destination : Register)
  | multiply (left right : Register)
  | shiftBit (shift : BitShift) (operand : Register)
  | shiftLong (shift : LongShift) (operand : Register)
  | decrement (operand : Register)
  | copyCondition (destination : Register)
  | loadAddress (displacement : UInt32)
  | floatCombine (operation : FloatCombination) (source destination : Register)
  | floatCompare (relation : FloatComparison) (other operand : Register)
  /-- Adds the product of float register 0 and a factor, rounding once. -/
  | multiplyAdd (factor destination : Register)
  | floatUpdate (update : FloatUpdate) (operand : Register)
  | integerToFloat (destination : Register)
  | floatToInteger (source : Register)
  | conditional (sense delayed : Bool) (offset : UInt32)
  /-- A relative branch with its distance in a register. It never calls. -/
  | branchFar (distance : Register)
  | branch (offset : UInt32)
  | branchSubroutine (offset : UInt32)
  | jump (target : Register)
  | jumpSubroutine (target : Register)
  | returnSubroutine
deriving DecidableEq, Repr

namespace Instruction

/-! ## Places near the program counter -/

/-- Relative distances count from two instructions further on. The program counter
has already moved past the instruction when this is asked. -/
def relativeTarget (pc offset : UInt32) : UInt32 :=
  pc + 2 + offset

def alignedBase (pc : UInt32) : UInt32 :=
  (pc + 2) &&& ~~~3

end Instruction

end SuperHBench
