import SuperHBench.Machine.Encoding

/-! # Listing

Instructions as assembly text. Branch targets and addresses near the program
counter are shown as such, so a line depends on where its instruction stands. -/

namespace SuperHBench

/-! ## Operands -/

def Register.text (index : Register) : String :=
  s!"R{index.val}"

def Register.floatText (index : Register) : String :=
  s!"FR{index.val}"

def SystemRegister.text : SystemRegister → String
  | .macl => "MACL"
  | .pr => "PR"
  | .fpul => "FPUL"

def DataRegister.text : DataRegister → String
  | .general index => Register.text index
  | .float index => Register.floatText index
  | .system register => register.text

def Source.text : Source → String
  | .register index => Register.text index
  | .signed immediate => s!"#{immediate.toInt8.toInt}"
  | .unsigned immediate => s!"#{immediate.toNat}"

def Address.text : Address → String
  | .direct base => s!"@R{base.val}"
  | .displaced displacement base => s!"@({displacement.toNat},R{base.val})"
  | .indexed base => s!"@(R0,R{base.val})"
  | .postIncrement base => s!"@R{base.val}+"
  | .preDecrement base => s!"@-R{base.val}"
  | .pcRelative displacement => s!"@({displacement.toNat},PC)"

def codeAddress (address : UInt32) : String :=
  s!"H'{Text.hexDigits 8 address.toNat}"

/-! ## Mnemonics -/

def Width.suffix : Width → String
  | .byte => "B"
  | .word => "W"
  | .long => "L"

def Combination.mnemonic : Combination → String
  | .add => "ADD"
  | .subtract => "SUB"
  | .bitAnd => "AND"
  | .bitXor => "XOR"
  | .bitOr => "OR"
  | .move => "MOV"
  | .complement => "NOT"
  | .negate => "NEG"
  | .zeroExtend width => s!"EXTU.{width.suffix}"
  | .signExtend width => s!"EXTS.{width.suffix}"
  | .shiftArithmetic => "SHAD"
  | .shiftLogical => "SHLD"

def Comparison.mnemonic : Comparison → String
  | .equal => "CMP/EQ"
  | .higherOrSame => "CMP/HS"
  | .greaterOrEqual => "CMP/GE"
  | .higher => "CMP/HI"
  | .greater => "CMP/GT"
  | .disjoint => "TST"

def SignTest.mnemonic : SignTest → String
  | .positiveOrZero => "CMP/PZ"
  | .positive => "CMP/PL"

def BitShift.mnemonic : BitShift → String
  | .left => "SHLL"
  | .right => "SHLR"
  | .arithmeticRight => "SHAR"

def LongShift.mnemonic : LongShift → String
  | .left amount => s!"SHLL{amount}"
  | .right amount => s!"SHLR{amount}"

def FloatCombination.mnemonic : FloatCombination → String
  | .add => "FADD"
  | .subtract => "FSUB"
  | .multiply => "FMUL"
  | .divide => "FDIV"

def FloatComparison.mnemonic : FloatComparison → String
  | .equal => "FCMP/EQ"
  | .greater => "FCMP/GT"

def FloatUpdate.mnemonic : FloatUpdate → String
  | .negate => "FNEG"
  | .zero => "FLDI0"
  | .one => "FLDI1"

namespace Instruction

def mnemonic : Instruction → String
  | .noOperation => "NOP"
  | .load width _ (.general _) => s!"MOV.{width.suffix}"
  | .load _ _ (.float _) => "FMOV.S"
  | .load width _ (.system _) => s!"LDS.{width.suffix}"
  | .store width (.general _) _ => s!"MOV.{width.suffix}"
  | .store _ (.float _) _ => "FMOV.S"
  | .store width (.system _) _ => s!"STS.{width.suffix}"
  | .transfer (.general _) (.general _) => "MOV"
  | .transfer (.float _) (.float _) => "FMOV"
  | .transfer (.float _) _ => "FLDS"
  | .transfer _ (.float _) => "FSTS"
  | .transfer (.system _) _ => "STS"
  | .transfer _ (.system _) => "LDS"
  | .combine operation _ _ => operation.mnemonic
  | .compare relation _ _ => relation.mnemonic
  | .testSign test _ => test.mnemonic
  | .addWithCarry _ _ => "ADDC"
  | .multiply _ _ => "MUL.L"
  | .shiftBit shift _ => shift.mnemonic
  | .shiftLong shift _ => shift.mnemonic
  | .decrement _ => "DT"
  | .copyCondition _ => "MOVT"
  | .loadAddress _ => "MOVA"
  | .floatCombine operation _ _ => operation.mnemonic
  | .floatCompare relation _ _ => relation.mnemonic
  | .multiplyAdd _ _ => "FMAC"
  | .floatUpdate update _ => update.mnemonic
  | .integerToFloat _ => "FLOAT"
  | .floatToInteger _ => "FTRC"
  | .conditional true false _ => "BT"
  | .conditional false false _ => "BF"
  | .conditional true true _ => "BT/S"
  | .conditional false true _ => "BF/S"
  | .branchFar _ => "BRAF"
  | .branch _ => "BRA"
  | .branchSubroutine _ => "BSR"
  | .jump _ => "JMP"
  | .jumpSubroutine _ => "JSR"
  | .returnSubroutine => "RTS"

/-- The operands in the order of assembly text, destinations last. The program counter is
already past the instruction. -/
def operands (pc : UInt32) : Instruction → List String
  | .noOperation | .returnSubroutine => []
  | .load _ source destination => [source.text, destination.text]
  | .store _ source target => [source.text, target.text]
  | .transfer source destination => [source.text, destination.text]
  | .combine _ source destination => [source.text, Register.text destination]
  | .compare _ other operand => [other.text, Register.text operand]
  | .addWithCarry left right | .multiply left right =>
      [Register.text left, Register.text right]
  | .testSign _ operand | .shiftBit _ operand | .shiftLong _ operand | .decrement operand
  | .copyCondition operand | .branchFar operand => [Register.text operand]
  | .loadAddress displacement =>
      [codeAddress (alignedBase pc + displacement), Register.text .zero]
  | .floatCombine _ left right | .floatCompare _ left right =>
      [Register.floatText left, Register.floatText right]
  | .multiplyAdd factor destination =>
      [Register.floatText .zero, Register.floatText factor, Register.floatText destination]
  | .floatUpdate _ operand => [Register.floatText operand]
  | .integerToFloat destination => [SystemRegister.fpul.text, Register.floatText destination]
  | .floatToInteger source => [Register.floatText source, SystemRegister.fpul.text]
  | .conditional _ _ offset | .branch offset | .branchSubroutine offset =>
      [codeAddress (relativeTarget pc offset)]
  | .jump target | .jumpSubroutine target => [(Address.direct target).text]

end Instruction

/-! ## Lines -/

namespace ListingLine

def of? (pc : UInt32) (code : UInt16) (inDelaySlot : Bool) : Option ListingLine :=
  (Instruction.decode? code).map fun instruction =>
    { pc
      code
      mnemonic := instruction.mnemonic
      operands := instruction.operands (pc + 2)
      inDelaySlot }

/-- A line as it is printed. An underscore marks a delay slot. -/
def text (line : ListingLine) : String :=
  let mark := if line.inDelaySlot then "_" else " "
  let head := s!"{Text.hexDigits 8 line.pc.toNat} {Text.hexDigits 4 line.code.toNat} " ++
    mark ++ Text.padRight 8 line.mnemonic
  match line.operands with
  | [] => head
  | operands => head ++ " " ++ String.intercalate "," operands

end ListingLine

def Machine.listing? (machine : Machine) : Option ListingLine :=
  match machine.memory.readWord machine.pc with
  | .error _ => none
  | .ok code => ListingLine.of? machine.pc code machine.pendingBranch.isSome

end SuperHBench
