import SuperHBench.Session.Accesses

/-! # Runs

A run prepares a machine for a scenario, carries out one instruction after another
and judges each, and in the end asks for what is still open. The number of
instructions is bounded: by the limit of the run, and without one by the range of
the 64-bit counter that a report shows. -/

namespace SuperHBench

structure RunOptions where
  limit : Option Nat := some 10000000
  listing : Bool := false
deriving DecidableEq, Repr

structure RunReport where
  coverage : Coverage
  /-- Expectations met, and one more for a result that was asked for. -/
  fulfilled : Nat
  instructions : Nat

structure RunOutcome where
  events : List Event
  result : Except RunError RunReport

/-- The bound of a run without a limit. -/
def RunOptions.bound (options : RunOptions) : Nat :=
  options.limit.getD (Word.count 64)

/-! ## Preparation -/

def Initialization.apply (memory : Memory) (initialization : Initialization) :
    Except RunError Memory :=
  match Width.ofBits? initialization.bits with
  | some width => .ok (memory.write initialization.address (.truncate width initialization.value))
  | none => .error (.unsupported s!"{initialization.bits}-bit memory initialization")

def assignSlots (convention : CallingConvention) :
    List Scalar → Except RangeError (List (ArgumentSlot × UInt32) × CallingConvention)
  | [] => .ok ([], convention)
  | argument :: rest => do
      let contents ← argument.pattern
      let (slot, convention) := convention.next argument.kind
      let (slots, convention) ← assignSlots convention rest
      return ((slot, contents) :: slots, convention)

namespace Machine

def putArgument (machine : Machine) : ArgumentSlot × UInt32 → Machine
  | (.register index, contents) => machine.setRegister index contents
  | (.float index, contents) => machine.setFloat index contents
  | (.stack offset, contents) => machine.store (machine.stackPointer + offset) (.long contents)

def placeArguments (machine : Machine) (arguments : List Scalar) : Except RangeError Machine := do
  let (slots, convention) ← assignSlots .start arguments
  let machine :=
    machine.setRegister .stack (machine.stackPointer - convention.stackSize)
  return slots.foldl putArgument machine

end Machine

/-- Look up the address of an expected call that does not give one: the first
binding of its name, else the export. -/
def CallExpectation.locate (linked : LinkedObject) (bindings : List Binding)
    (call : CallExpectation) : CallExpectation :=
  let bound := (bindings.find? (·.name = call.name)).map (·.address)
  { call with address := call.address.or (bound.or (linked.exportAddress? call.name)) }

def Expectation.locate (linked : LinkedObject) (bindings : List Binding) :
    Expectation → Expectation
  | .call expected => .call (expected.locate linked bindings)
  | other => other

def LinkedObject.resolveIn (linked : LinkedObject) (bindings : List Binding)
    (memory : Memory) : Except RunError (Resolution × Memory) :=
  match (linked.resolve bindings).run memory with
  | .ok resolution memory => .ok (resolution, memory)
  | .error error _ => .error (.setup error)

def Scenario.memory (scenario : Scenario) (linked : LinkedObject) (noise : Nat → UInt8) :
    Except RunError Memory :=
  let background := if scenario.randomizeMemory then noise else fun _ => 0
  let loaded := linked.image.load Memory.defaultSize background
  scenario.initializations.foldlM Initialization.apply loaded

def Scenario.prepare (scenario : Scenario) (linked : LinkedObject) (listing : Bool)
    (noise : Nat → UInt8) : Except RunError Session := do
  let memory ← scenario.memory linked noise
  let (resolution, memory) ← linked.resolveIn scenario.bindings memory
  match linked.exportAddress? scenario.entry with
  | none => throw (.setup (.missingEntry scenario.entry))
  | some entry =>
      let machine := { Machine.start memory with listing, pc := entry }
      match machine.placeArguments scenario.arguments with
      | .error error => throw (.definition error)
      | .ok machine =>
          let expectations := scenario.expectations.map (·.locate linked scenario.bindings)
          return .start machine expectations resolution

/-! ## Instructions -/

namespace Judging

/-- Judge what an instruction did. A return is judged at once, all other
unconditional branches wait for their delay slot. -/
def judge : Operation → Judging PUnit
  | .generic | .flow _ _ => pure ()
  | .read source value => judgeRead source value
  | .write target value => judgeWrite target value
  | .branch _ .rts _ => modify Session.returned
  | .branch _ kind target => modify ({ · with latch := some ⟨kind, target⟩ })

/-- Carry out one instruction and judge it, and after it the branch whose delay slot
it was in. Onlookers get the line that the machine then holds, whatever left it there. -/
def advance : Judging PUnit := do
  let session ← get
  let before := session.machine
  let (machine, outcome) := before.step
  let stepped :=
    { session with
      machine := machine.withoutLine
      latch := none
      coverage := session.coverage.logExecute before.pc 2
      events := machine.line.toList.map Event.instruction ++ session.events }
  match outcome with
  | .error cause =>
      set stepped
      throw (fault cause)
  | .ok operation =>
      set { stepped with instructions := session.instructions + 1 }
      judge operation
      match session.latch with
      | some latch => judgeBranch latch
      | none => pure ()

def satisfied (scenario : Scenario) (session : Session) : Bool :=
  scenario.stopWhenFulfilled && session.pending.isEmpty

/-- Run until the program is left, for at most `remaining` instructions. -/
def drive (scenario : Scenario) (options : RunOptions) : (remaining : Nat) → Judging PUnit
  | 0 => do
      if !(← get).finished then
        throw (.simulation (.instructionLimit options.bound))
  | remaining + 1 => do
      if !(← get).finished then
        advance
        if !satisfied scenario (← get) then
          drive scenario options remaining

/-! ## Results -/

def checkReturn : Option Scalar → Judging PUnit
  | none => pure ()
  | some (.integer value) => do
      let expected ← pattern (Value.patternOfInt value)
      let actual := (← get).machine.register .zero
      if actual ≠ expected then
        throw (.expectation (.unexpectedReturn (integerText expected) (integerText actual)))
      modify (·.fulfill s!"Returned {integerText expected}")
  | some (.float expected) => do
      let actual := (← get).machine.float .zero
      if actual ≠ expected then
        throw (.expectation (.unexpectedReturn (Text.single expected) (Text.single actual)))
      modify (·.fulfill s!"Returned float {Text.single expected}")

/-- Nothing may be open at the end. -/
def finish (scenario : Scenario) : Judging PUnit := do
  match (← get).pending with
  | [] => checkReturn scenario.returns
  | next :: rest =>
      throw (.expectation (.pendingExpectations (rest.length + 1) next.describe))

def complete (scenario : Scenario) (options : RunOptions) : Judging PUnit := do
  drive scenario options options.bound
  finish scenario

end Judging

def Session.report (session : Session) : RunReport :=
  ⟨session.coverage, session.fulfilled, session.instructions⟩

/-- Run a scenario against a linked object. `noise` is what memory holds at first
where the scenario does not want zeros. -/
def Scenario.execute (scenario : Scenario) (linked : LinkedObject) (options : RunOptions)
    (noise : Nat → UInt8) : RunOutcome :=
  match scenario.prepare linked options.listing noise with
  | .error error => ⟨[], .error error⟩
  | .ok session =>
      match (Judging.complete scenario options).run session with
      | .ok _ session => ⟨session.events.reverse, .ok session.report⟩
      | .error error session => ⟨session.events.reverse, .error error⟩

end SuperHBench
