import SuperHBench.Machine.State

/-! # Calling convention

Where the arguments of a call are. Each kind of argument has four registers of its
own; whatever finds none left goes to the stack, where both kinds share one row of
four-byte slots. -/

namespace SuperHBench

inductive ArgumentKind where
  | general
  | float
deriving DecidableEq, Repr

inductive ArgumentSlot where
  | register (index : Register)
  | float (index : Register)
  | stack (offset : UInt32)
deriving DecidableEq, Repr

structure CallingConvention where
  general : Nat
  float : Nat
  stackSize : UInt32
deriving DecidableEq, Repr

namespace CallingConvention

def start : CallingConvention :=
  ⟨0, 0, 0⟩

def registerCount : Nat :=
  4

/-- The register of the argument with a given number among those of its kind. -/
def registerOf (number : Nat) : Register :=
  .ofNat (4 + number)

def nextOnStack (convention : CallingConvention) : ArgumentSlot × CallingConvention :=
  (.stack convention.stackSize, { convention with stackSize := convention.stackSize + 4 })

def next (convention : CallingConvention) : ArgumentKind → ArgumentSlot × CallingConvention
  | .general =>
      if convention.general < registerCount then
        (.register (registerOf convention.general),
          { convention with general := convention.general + 1 })
      else
        convention.nextOnStack
  | .float =>
      if convention.float < registerCount then
        (.float (registerOf convention.float),
          { convention with float := convention.float + 1 })
      else
        convention.nextOnStack

end CallingConvention

end SuperHBench
