import SuperHBench.CallingConvention
import SuperHBench.Machine.Operation
import SuperHBench.Text.Quoted

/-! # Expectations

What a program is expected to do, as far as a test asks: calls of functions that
are not there, and reads and writes of memory. Numbers are given as integers of
either sign and must fit the register or the access they are compared with. -/

namespace SuperHBench

/-! ## Values of arguments and results -/

inductive Scalar where
  | integer (value : Int)
  | float (bits : UInt32)
deriving DecidableEq, Repr

namespace Scalar

def pattern : Scalar → Except RangeError UInt32
  | .integer value => Value.patternOfInt value
  | .float bits => .ok bits

def kind : Scalar → ArgumentKind
  | .integer _ => .general
  | .float _ => .float

end Scalar

inductive Argument where
  | scalar (value : Scalar)
  | string (contents : List UInt8)
  | wildcard
  | stackPointer
deriving DecidableEq, Repr

def Argument.kind : Argument → ArgumentKind
  | .scalar value => value.kind
  | .string _ | .wildcard | .stackPointer => .general

/-! ## Calls -/

/-- What happens in the machine when an expected call takes place. -/
abbrev Callback :=
  Machine → List Argument → Except SimulationError Machine

structure CallExpectation where
  name : String
  /-- Where the function is thought to be. A run looks the name up if this is open. -/
  address : Option UInt32
  arguments : List Argument
  returns : Option Scalar
  callback : Option Callback

/-! ## Memory -/

structure MemoryAccess where
  address : UInt32
  value : Value
deriving DecidableEq, Repr

def MemoryAccess.ofInt (bits : Nat) (address : UInt32) (value : Int) :
    Except RangeError MemoryAccess :=
  (Value.ofInt bits value).map (⟨address, ·⟩)

/-! ## Expectations -/

inductive Expectation where
  | call (expected : CallExpectation)
  | read (access : MemoryAccess)
  | write (access : MemoryAccess)
  /-- A pointer to this string is written to an address. -/
  | stringWrite (address : UInt32) (contents : List UInt8)

namespace Expectation

open Text in
def describe : Expectation → String
  | .call expected => s!"call to {expected.name}"
  | .read access =>
      s!"{access.value.bits}-bit read of {hexNumber access.value.raw.toNat} " ++
        s!"from {Text.address access.address}"
  | .write access =>
      s!"{access.value.bits}-bit write of {hexNumber access.value.raw.toNat} " ++
        s!"to {Text.address access.address}"
  | .stringWrite address contents =>
      s!"char* write of {quoteBytes contents} to {Text.address address}"

def writtenAddress? : Expectation → Option UInt32
  | .write access => some access.address
  | .stringWrite address _ => some address
  | .call _ | .read _ => none

end Expectation

def describeNext (pending : List Expectation) : String :=
  match pending with
  | [] => "nothing"
  | next :: _ => next.describe

end SuperHBench
