import SuperHBench.Expectation
import SuperHBench.Resolution

/-! # Scenarios

Everything that is said about one run of a program: which function runs with which
arguments, what memory and external symbols it finds, what it has to do and what
it has to return. -/

namespace SuperHBench

/-- A value put into memory before a run. Only the widths of memory accesses are
supported, which is checked when the run begins. -/
structure Initialization where
  bits : Nat
  address : UInt32
  value : UInt32
deriving DecidableEq, Repr

def Initialization.ofInt (bits : Nat) (address : UInt32) (value : Int) :
    Except RangeError Initialization :=
  (Value.ofInt bits value).map fun value => ⟨bits, address, value.raw⟩

structure Scenario where
  entry : String
  arguments : List Scalar := []
  returns : Option Scalar := none
  expectations : List Expectation := []
  bindings : List Binding := []
  initializations : List Initialization := []
  randomizeMemory : Bool := false
  stopWhenFulfilled : Bool := false

end SuperHBench
