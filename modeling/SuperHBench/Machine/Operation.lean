import SuperHBench.Machine.Instruction

/-! # Operations

What an executed instruction did as far as anything outside the machine can
observe it, and the ways in which a simulation ends without an answer. -/

namespace SuperHBench

inductive Operation where
  | generic
  | read (source : UInt32) (value : Value)
  | write (target : UInt32) (value : Value)
  | branch (code : UInt16) (kind : BranchKind) (target : UInt32)
  /-- A branch that is never a call, whether taken or not. -/
  | flow (target : UInt32) (taken : Bool)
deriving DecidableEq, Repr

inductive Fault where
  | unknownInstruction (code : UInt16) (pc : UInt32)
  | memory (error : MemoryError)
deriving DecidableEq, Repr

inductive SimulationError where
  | fault (cause : Fault)
  | unresolvedRead (address : UInt32) (name : String) (pc : UInt32)
  | instructionLimit (limit : Nat)
  | divisionByZero (function : String) (pc : UInt32)
  | callback (text : String)
deriving DecidableEq, Repr

def Fault.message : Fault → String
  | .unknownInstruction code pc =>
      s!"unknown instruction {Text.hexNumberDigits 4 code.toNat} at {Text.address pc}"
  | .memory error => error.message

def SimulationError.message : SimulationError → String
  | .fault cause => cause.message
  | .unresolvedRead address name pc =>
      s!"read of unresolved relocation {name} at {Text.address address} " ++
        s!"(pc {Text.address pc})"
  | .instructionLimit limit => s!"instruction limit of {limit} reached"
  | .divisionByZero function pc => s!"division by zero in {function} at {Text.address pc}"
  | .callback text => s!"callback failed: {text}"

end SuperHBench
