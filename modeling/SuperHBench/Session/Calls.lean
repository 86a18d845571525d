import SuperHBench.Session.State

/-! # Calls

An unconditional branch is judged once its delay slot has run. It is a call of
something outside the program when it goes to a symbol, or to the address where the
next expected call is thought to be. Such a call has to be the next expectation,
unless it is one of the arithmetic routines that compilers rely on; the function
itself is never entered. Calls that lead anywhere else are calls inside the program,
of which only the depth is kept. -/

namespace SuperHBench

/-! ## Arithmetic routines -/

/-- The division routines of the compiler. The dividend is in register 1, the
divisor in register 0, where the result goes too. -/
inductive Intrinsic where
  | divideSigned
  | remainderSigned
  | divideUnsigned
  | remainderUnsigned
deriving DecidableEq, Repr

namespace Intrinsic

def name : Intrinsic → String
  | .divideSigned => "__divls"
  | .remainderSigned => "__modls"
  | .divideUnsigned => "__divlu"
  | .remainderUnsigned => "__modlu"

def ofName? (name : String) : Option Intrinsic :=
  [divideSigned, remainderSigned, divideUnsigned, remainderUnsigned].find? (·.name = name)

/-- Signed division cuts off, and its one quotient that does not fit wraps around. -/
def result (intrinsic : Intrinsic) (dividend divisor : UInt32) : UInt32 :=
  match intrinsic with
  | .divideSigned => ⟨dividend.toBitVec.sdiv divisor.toBitVec⟩
  | .remainderSigned => ⟨dividend.toBitVec.srem divisor.toBitVec⟩
  | .divideUnsigned => dividend / divisor
  | .remainderUnsigned => dividend % divisor

def run (intrinsic : Intrinsic) (machine : Machine) : Except SimulationError Machine :=
  let divisor := machine.register .zero
  if divisor = 0 then
    .error (.divisionByZero intrinsic.name machine.instructionPc)
  else
    .ok (machine.setRegister .zero (intrinsic.result (machine.register .one) divisor))

theorem ofName?_name (intrinsic : Intrinsic) : ofName? intrinsic.name = some intrinsic := by
  cases intrinsic <;> decide

example : result .divideSigned 0x80000000 0xffffffff = 0x80000000 := by decide
example : result .remainderSigned 0xfffffff9 2 = 0xffffffff := by decide

end Intrinsic

/-! ## Arguments -/

def Machine.slot (machine : Machine) :
    ArgumentSlot → Except MemoryError (UInt32 × ArgumentLocation)
  | .register index => .ok (machine.register index, .register index)
  | .float index => .ok (machine.float index, .float index)
  | .stack offset =>
      let address := machine.stackPointer + offset
      (machine.memory.readLong address).map fun contents =>
        (contents, .stack offset address)

/-- How many bytes of a string are read. A string that is too long shows in one more
byte than expected, and messages are to show something of it. -/
def stringLimit (expected : List UInt8) : Nat :=
  max 256 (expected.length + 1)

namespace Judging

def mismatch (function : String) (location : ArgumentLocation) (expected actual : String) :
    RunError :=
  .expectation (.argumentMismatch function location expected actual)

def checkArgument (machine : Machine) (function : String) (slot : ArgumentSlot) :
    Argument → Judging PUnit
  | .wildcard => pure ()
  | .scalar (.integer value) => do
      let expected ← pattern (Value.patternOfInt value)
      let (actual, location) ← inspect (machine.slot slot)
      if actual ≠ expected then
        throw (mismatch function location (integerText expected) (integerText actual))
  | .scalar (.float expected) => do
      let (actual, location) ← inspect (machine.slot slot)
      if actual ≠ expected then
        throw (mismatch function location (Text.single expected) (Text.single actual))
  | .string expected => do
      let (pointer, location) ← inspect (machine.slot slot)
      let actual ← inspect (machine.memory.readStringWithin (stringLimit expected) pointer)
      if actual ≠ expected then
        throw (mismatch function location
          (AccessValue.string expected).text (AccessValue.string actual).text)
  | .stackPointer => do
      let (pointer, location) ← inspect (machine.slot slot)
      if pointer < machine.stackPointer then
        throw (mismatch function location
          s!"a stack pointer (>= {Text.address machine.stackPointer})" (Text.address pointer))

def checkArguments (machine : Machine) (function : String) (convention : CallingConvention) :
    List Argument → Judging PUnit
  | [] => pure ()
  | argument :: rest => do
      let (slot, convention) := convention.next argument.kind
      checkArgument machine function slot argument
      checkArguments machine function convention rest

/-! ## Expected calls -/

def runCallback (call : CallExpectation) : Judging PUnit :=
  match call.callback with
  | none => pure ()
  | some callback => do
      let session ← get
      set (session.tell (.callback call.arguments session.machine))
      match callback session.machine call.arguments with
      | .ok machine => modify ({ · with machine })
      | .error error => throw (.simulation error)

def giveResult : Option Scalar → Judging PUnit
  | none => pure ()
  | some (.integer value) => do
      let contents ← pattern (Value.patternOfInt value)
      modify fun session => { session with machine := session.machine.setRegister .zero contents }
  | some (.float bits) =>
      modify fun session => { session with machine := session.machine.setFloat .zero bits }

end Judging

/-- The name that a call goes by: that of a symbol, else that of a binding. -/
def Session.calleeName? (session : Session) (target : UInt32) : Option String :=
  ((session.resolution.symbols.at? target).map (·.name)).or (session.resolution.nameAt? target)

def Session.expectedCallAddress? (session : Session) : Option UInt32 :=
  match session.pending with
  | .call call :: _ => call.address
  | _ => none

namespace Judging

def meetCall (name : Option String) (readable : String) : Judging PUnit := do
  let session ← get
  let pc := session.machine.pc
  match session.pending with
  | .call call :: _ =>
      if name ≠ some call.name then
        throw (.expectation (.nameMismatch readable pc call.name))
      checkArguments session.machine readable .start call.arguments
      runCallback call
      giveResult call.returns
      modify (·.consume s!"Called {readable}")
  | pending => throw (.expectation (.unexpectedCall readable pc (describeNext pending)))

def judgeCall (target : UInt32) : Judging PUnit := do
  let session ← get
  let name := session.calleeName? target
  match name.bind Intrinsic.ofName? with
  | some intrinsic =>
      match intrinsic.run session.machine with
      | .ok machine => set { session with machine }
      | .error error => throw (.simulation error)
  | none => meetCall name (name.getD "<NO_SYMBOL>" ++ s!" ({Text.address target})")

end Judging

namespace Session

/-- Go on behind the call, as the called function would have done by returning. -/
def returnToCaller (session : Session) : Session :=
  let machine := session.machine
  { session with machine := { machine with pc := machine.pr, pendingBranch := none } }

def leave (session : Session) (text : String) : Session :=
  { session.tell (.info text) with running := false }

def returned (session : Session) : Session :=
  if session.callDepth = 0 then
    session.leave "Program returned"
  else
    { session with callDepth := session.callDepth - 1 }

end Session

def Judging.judgeBranch (latch : Latch) : Judging PUnit := do
  let session ← get
  let target := latch.target
  let toSymbol := (session.resolution.symbols.at? target).isSome
  if toSymbol || session.expectedCallAddress? = some target then
    judgeCall target
    if latch.kind.isCall then
      modify Session.returnToCaller
    else
      let place := if toSymbol then "symbol" else "address"
      modify (·.leave s!"Program jumped to {place} at {Text.address target}")
  else if latch.kind.isCall then
    set { session with callDepth := session.callDepth + 1 }

end SuperHBench
