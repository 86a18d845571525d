import SuperHBench.Machine.Instruction

/-! # Instruction encoding

Every instruction is one 16-bit word. Its highest four bits name a group, the next
four mostly the destination register and the four after them the source; immediate
operands and displacements fill the low end. Words outside the table below are no
instructions. -/

namespace SuperHBench

/-! ## Fields of a word -/

structure InstructionWord where
  group : Nat
  /-- The register of bits 8 to 11. -/
  n : Register
  /-- The register of bits 4 to 7. -/
  m : Register
  low : Nat
  immediate : UInt8
  /-- The low twelve bits, read with a sign. -/
  distance : UInt32

namespace InstructionWord

def ofCode (code : UInt16) : InstructionWord where
  group := code.toNat / 4096
  n := .ofNat (code.toNat / 256)
  m := .ofNat (code.toNat / 16)
  low := code.toNat % 16
  immediate := code.toUInt8
  distance := UInt32.ofInt (Int.bmod (code.toNat % 4096) 4096)

def shortDisplacement (word : InstructionWord) (width : Width) : UInt32 :=
  UInt32.ofNat (word.low * width.bytes)

def displacement (word : InstructionWord) (width : Width) : UInt32 :=
  UInt32.ofNat (word.immediate.toNat * width.bytes)

def nearOffset (word : InstructionWord) : UInt32 :=
  UInt32.ofInt (2 * word.immediate.toInt8.toInt)

def farOffset (word : InstructionWord) : UInt32 :=
  2 * word.distance

/-! ## The table -/

def combine (word : InstructionWord) (operation : Combination) : Instruction :=
  .combine operation (.register word.m) word.n

def compare (word : InstructionWord) (relation : Comparison) : Instruction :=
  .compare relation (.register word.m) word.n

def system (word : InstructionWord) : Option Instruction :=
  match word.low, word.m.val with
  | 0x3, 2 => some (.branchFar word.n)
  | 0x4, _ => some (.store .byte (.general word.m) (.indexed word.n))
  | 0x5, _ => some (.store .word (.general word.m) (.indexed word.n))
  | 0x6, _ => some (.store .long (.general word.m) (.indexed word.n))
  | 0x7, _ => some (.multiply word.m word.n)
  | 0x9, 0 => if word.n = .zero then some .noOperation else none
  | 0x9, 2 => some (.copyCondition word.n)
  | 0xa, 1 => some (.transfer (.system .macl) (.general word.n))
  | 0xa, 2 => some (.transfer (.system .pr) (.general word.n))
  | 0xa, 5 => some (.transfer (.system .fpul) (.general word.n))
  | 0xb, 0 => if word.n = .zero then some .returnSubroutine else none
  | 0xc, _ => some (.load .byte (.indexed word.m) (.general word.n))
  | 0xd, _ => some (.load .word (.indexed word.m) (.general word.n))
  | 0xe, _ => some (.load .long (.indexed word.m) (.general word.n))
  | _, _ => none

def storeGroup (word : InstructionWord) : Option Instruction :=
  match word.low with
  | 0x0 => some (.store .byte (.general word.m) (.direct word.n))
  | 0x1 => some (.store .word (.general word.m) (.direct word.n))
  | 0x2 => some (.store .long (.general word.m) (.direct word.n))
  | 0x4 => some (.store .byte (.general word.m) (.preDecrement word.n))
  | 0x5 => some (.store .word (.general word.m) (.preDecrement word.n))
  | 0x6 => some (.store .long (.general word.m) (.preDecrement word.n))
  | 0x8 => some (word.compare .disjoint)
  | 0x9 => some (word.combine .bitAnd)
  | 0xa => some (word.combine .bitXor)
  | 0xb => some (word.combine .bitOr)
  | _ => none

def arithmeticGroup (word : InstructionWord) : Option Instruction :=
  match word.low with
  | 0x0 => some (word.compare .equal)
  | 0x2 => some (word.compare .higherOrSame)
  | 0x3 => some (word.compare .greaterOrEqual)
  | 0x6 => some (word.compare .higher)
  | 0x7 => some (word.compare .greater)
  | 0x8 => some (word.combine .subtract)
  | 0xc => some (word.combine .add)
  | 0xe => some (.addWithCarry word.m word.n)
  | _ => none

def registerGroup (word : InstructionWord) : Option Instruction :=
  match word.low, word.m.val with
  | 0x0, 0 => some (.shiftBit .left word.n)
  | 0x0, 1 => some (.decrement word.n)
  | 0x1, 0 => some (.shiftBit .right word.n)
  | 0x1, 1 => some (.testSign .positiveOrZero word.n)
  | 0x1, 2 => some (.shiftBit .arithmeticRight word.n)
  | 0x2, 2 => some (.store .long (.system .pr) (.preDecrement word.n))
  | 0x5, 1 => some (.testSign .positive word.n)
  | 0x6, 2 => some (.load .long (.postIncrement word.n) (.system .pr))
  | 0x8, 0 => some (.shiftLong (.left 2) word.n)
  | 0x8, 1 => some (.shiftLong (.left 8) word.n)
  | 0x8, 2 => some (.shiftLong (.left 16) word.n)
  | 0x9, 0 => some (.shiftLong (.right 2) word.n)
  | 0x9, 1 => some (.shiftLong (.right 8) word.n)
  | 0x9, 2 => some (.shiftLong (.right 16) word.n)
  | 0xa, 1 => some (.transfer (.general word.n) (.system .macl))
  | 0xa, 2 => some (.transfer (.general word.n) (.system .pr))
  | 0xa, 5 => some (.transfer (.general word.n) (.system .fpul))
  | 0xb, 0 => some (.jumpSubroutine word.n)
  | 0xb, 2 => some (.jump word.n)
  | 0xc, _ => some (word.combine .shiftArithmetic)
  | 0xd, _ => some (word.combine .shiftLogical)
  | _, _ => none

def moveGroup (word : InstructionWord) : Option Instruction :=
  match word.low with
  | 0x0 => some (.load .byte (.direct word.m) (.general word.n))
  | 0x1 => some (.load .word (.direct word.m) (.general word.n))
  | 0x2 => some (.load .long (.direct word.m) (.general word.n))
  | 0x3 => some (word.combine .move)
  | 0x4 => some (.load .byte (.postIncrement word.m) (.general word.n))
  | 0x5 => some (.load .word (.postIncrement word.m) (.general word.n))
  | 0x6 => some (.load .long (.postIncrement word.m) (.general word.n))
  | 0x7 => some (word.combine .complement)
  | 0xb => some (word.combine .negate)
  | 0xc => some (word.combine (.zeroExtend .byte))
  | 0xd => some (word.combine (.zeroExtend .word))
  | 0xe => some (word.combine (.signExtend .byte))
  | 0xf => some (word.combine (.signExtend .word))
  | _ => none

/-- Short displacements and conditional branches. Bits 8 to 11 choose among them,
and the register operand is the one of bits 4 to 7. -/
def displacementGroup (word : InstructionWord) : Option Instruction :=
  match word.n.val with
  | 0x0 => some (.store .byte (.general .zero) (.displaced (word.shortDisplacement .byte) word.m))
  | 0x1 => some (.store .word (.general .zero) (.displaced (word.shortDisplacement .word) word.m))
  | 0x4 => some (.load .byte (.displaced (word.shortDisplacement .byte) word.m) (.general .zero))
  | 0x5 => some (.load .word (.displaced (word.shortDisplacement .word) word.m) (.general .zero))
  | 0x8 => some (.compare .equal (.signed word.immediate) .zero)
  | 0x9 => some (.conditional true false word.nearOffset)
  | 0xb => some (.conditional false false word.nearOffset)
  | 0xd => some (.conditional true true word.nearOffset)
  | 0xf => some (.conditional false true word.nearOffset)
  | _ => none

def immediateGroup (word : InstructionWord) : Option Instruction :=
  match word.n.val with
  | 0x7 => some (.loadAddress (word.displacement .long))
  | 0x8 => some (.compare .disjoint (.unsigned word.immediate) .zero)
  | 0x9 => some (.combine .bitAnd (.unsigned word.immediate) .zero)
  | 0xa => some (.combine .bitXor (.unsigned word.immediate) .zero)
  | 0xb => some (.combine .bitOr (.unsigned word.immediate) .zero)
  | _ => none

def floatGroup (word : InstructionWord) : Option Instruction :=
  match word.low, word.m.val with
  | 0x0, _ => some (.floatCombine .add word.m word.n)
  | 0x1, _ => some (.floatCombine .subtract word.m word.n)
  | 0x2, _ => some (.floatCombine .multiply word.m word.n)
  | 0x3, _ => some (.floatCombine .divide word.m word.n)
  | 0x4, _ => some (.floatCompare .equal word.m word.n)
  | 0x5, _ => some (.floatCompare .greater word.m word.n)
  | 0x6, _ => some (.load .long (.indexed word.m) (.float word.n))
  | 0x7, _ => some (.store .long (.float word.m) (.indexed word.n))
  | 0x8, _ => some (.load .long (.direct word.m) (.float word.n))
  | 0x9, _ => some (.load .long (.postIncrement word.m) (.float word.n))
  | 0xa, _ => some (.store .long (.float word.m) (.direct word.n))
  | 0xb, _ => some (.store .long (.float word.m) (.preDecrement word.n))
  | 0xc, _ => some (.transfer (.float word.m) (.float word.n))
  | 0xd, 0 => some (.transfer (.system .fpul) (.float word.n))
  | 0xd, 1 => some (.transfer (.float word.n) (.system .fpul))
  | 0xd, 2 => some (.integerToFloat word.n)
  | 0xd, 3 => some (.floatToInteger word.n)
  | 0xd, 4 => some (.floatUpdate .negate word.n)
  | 0xd, 8 => some (.floatUpdate .zero word.n)
  | 0xd, 9 => some (.floatUpdate .one word.n)
  | 0xe, _ => some (.multiplyAdd word.m word.n)
  | _, _ => none

def instruction? (word : InstructionWord) : Option Instruction :=
  match word.group with
  | 0x0 => word.system
  | 0x1 => some (.store .long (.general word.m) (.displaced (word.shortDisplacement .long) word.n))
  | 0x2 => word.storeGroup
  | 0x3 => word.arithmeticGroup
  | 0x4 => word.registerGroup
  | 0x5 => some (.load .long (.displaced (word.shortDisplacement .long) word.m) (.general word.n))
  | 0x6 => word.moveGroup
  | 0x7 => some (.combine .add (.signed word.immediate) word.n)
  | 0x8 => word.displacementGroup
  | 0x9 => some (.load .word (.pcRelative (word.displacement .word)) (.general word.n))
  | 0xa => some (.branch word.farOffset)
  | 0xb => some (.branchSubroutine word.farOffset)
  | 0xc => word.immediateGroup
  | 0xd => some (.load .long (.pcRelative (word.displacement .long)) (.general word.n))
  | 0xe => some (.combine .move (.signed word.immediate) word.n)
  | 0xf => word.floatGroup
  | _ => none

end InstructionWord

def Instruction.decode? (code : UInt16) : Option Instruction :=
  (InstructionWord.ofCode code).instruction?

example : Instruction.decode? 0x0009 = some .noOperation := by decide
example : Instruction.decode? 0x300c = some (.combine .add (.register .zero) .zero) := by decide
example : Instruction.decode? 0xafff = some (.branch 0xfffffffe) := by decide
example : Instruction.decode? 0xffff = none := by decide

end SuperHBench
