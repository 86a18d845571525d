import SuperHBench.Scenario
import SuperHBench.Text.Decimal

/-! # Failures of a run

A run fails because the program did what it was not expected to do, because the
simulation could not go on, or because it could not begin. -/

namespace SuperHBench

/-! ## Values in messages -/

inductive AccessValue where
  | number (value : Value)
  | string (contents : List UInt8)
deriving DecidableEq, Repr

def AccessValue.text : AccessValue → String
  | .number value =>
      s!"{value.raw.toNat} ({Text.hexNumber value.raw.toNat}, {value.bits}-bit)"
  | .string contents => Text.quoteBytes contents

def integerText (contents : UInt32) : String :=
  s!"{contents.toInt32.toInt} ({Text.hexNumber contents.toNat})"

inductive ArgumentLocation where
  | register (index : Register)
  | float (index : Register)
  | stack (offset address : UInt32)
deriving DecidableEq, Repr

def ArgumentLocation.text : ArgumentLocation → String
  | .register index => s!"r{index.val}"
  | .float index => s!"fr{index.val}"
  | .stack offset address => s!"stack offset {offset.toNat} ({Text.address address})"

/-! ## Unmet expectations -/

inductive AccessMismatch where
  | notExpected (next : String)
  | width (expected : Nat)
  | address (expected : String)
  | value (expected : AccessValue)
deriving DecidableEq, Repr

def AccessMismatch.message : AccessMismatch → String
  | .notExpected next => s!"expecting {next}"
  | .width expected => s!"expecting a {expected}-bit access"
  | .address expected => s!"expecting an access to {expected}"
  | .value expected => s!"expecting {expected.text}"

inductive ExpectationError where
  | unexpectedCall (target : String) (pc : UInt32) (next : String)
  | nameMismatch (target : String) (pc : UInt32) (expected : String)
  | argumentMismatch (function : String) (location : ArgumentLocation)
      (expected actual : String)
  | unexpectedWrite (address : UInt32) (location : String) (actual : AccessValue)
      (reason : AccessMismatch)
  | unexpectedRead (address : UInt32) (location : String) (actual : AccessValue)
      (reason : AccessMismatch)
  | pendingExpectations (count : Nat) (next : String)
  | unexpectedReturn (expected actual : String)
deriving DecidableEq, Repr

def ExpectationError.message : ExpectationError → String
  | .unexpectedCall target pc next =>
      s!"unexpected call to {target} at {Text.address pc}, expecting {next}"
  | .nameMismatch target pc expected =>
      s!"unexpected call to {target} at {Text.address pc}, expecting {expected}"
  | .argumentMismatch function location expected actual =>
      s!"unexpected argument for {function} in {location.text}: " ++
        s!"expected {expected}, got {actual}"
  | .unexpectedWrite _ location actual reason =>
      s!"unexpected write of {actual.text} to {location}, {reason.message}"
  | .unexpectedRead _ location actual reason =>
      s!"unexpected read of {actual.text} from {location}, {reason.message}"
  | .pendingExpectations count next =>
      s!"{count} expectation(s) still pending, next is {next}"
  | .unexpectedReturn expected actual =>
      s!"unexpected return value {actual}, expecting {expected}"

/-! ## All failures -/

inductive RunError where
  | simulation (cause : SimulationError)
  | expectation (cause : ExpectationError)
  | setup (cause : ResolveError)
  | definition (cause : RangeError)
  | unsupported (what : String)
deriving DecidableEq, Repr

namespace RunError

def message : RunError → String
  | .simulation cause => cause.message
  | .expectation cause => cause.message
  | .setup cause => cause.message
  | .definition cause => s!"invalid test definition: {cause.message}"
  | .unsupported what => s!"unsupported: {what}"

/-- Whether the program is at fault, and not the test or the simulation of it. -/
def isExpectation : RunError → Bool
  | .expectation _ => true
  | _ => false

end RunError

end SuperHBench
