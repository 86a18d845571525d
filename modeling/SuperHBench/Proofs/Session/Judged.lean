import SuperHBench.Session.Run

/-! # Judgements

What the program does is judged in two places: an instruction right after it has run,
and an unconditional branch once its delay slot has run. `Judged` lists everything
that a successful judgement can do to a session, one constructor for each way. -/

namespace SuperHBench

/-! ## Calls -/

def CallExpectation.CallbackYields (call : CallExpectation) (machine changed : Machine) : Prop :=
  match call.callback with
  | none => changed = machine
  | some callback => callback machine call.arguments = .ok changed

/-- A declared result is left where the caller looks for it. -/
def Machine.Receives (machine : Machine) (returns : Option Scalar) (after : Machine) : Prop :=
  match returns with
  | none => after = machine
  | some (.integer value) =>
      ∃ contents, Value.patternOfInt value = .ok contents ∧
        after = machine.setRegister .zero contents
  | some (.float bits) => after = machine.setFloat .zero bits

/-- What an expected call does to the machine in place of the function that is called. -/
def CallExpectation.CarriedOut (call : CallExpectation) (machine after : Machine) : Prop :=
  ∃ changed, call.CallbackYields machine changed ∧ changed.Receives call.returns after

namespace Session

def calleeText (session : Session) (target : UInt32) : String :=
  (session.calleeName? target).getD "<NO_SYMBOL>" ++ s!" ({Text.address target})"

def routineAt? (session : Session) (target : UInt32) : Option Intrinsic :=
  (session.calleeName? target).bind Intrinsic.ofName?

/-- Whether a branch to an address leaves the program: for a symbol, or for the stub
that is expected next. -/
def recognises (session : Session) (target : UInt32) : Bool :=
  (session.resolution.symbols.at? target).isSome || session.expectedCallAddress? = some target

/-- The arguments that a call finds are those it expects. -/
def PassesArguments (session : Session) (target : UInt32) (call : CallExpectation) : Prop :=
  (Judging.checkArguments session.machine (session.calleeText target) .start
    call.arguments).run session = .ok ⟨⟩ session

def announce (session : Session) (call : CallExpectation) : Session :=
  match call.callback with
  | none => session
  | some _ => session.tell (.callback call.arguments session.machine)

def logRead (session : Session) (source : UInt32) (value : Value) : Session :=
  { session with coverage := session.coverage.logRead source value.width.bytes }

def logWrite (session : Session) (target : UInt32) (value : Value) : Session :=
  { session with coverage := session.coverage.logWrite target value.width.bytes }

end Session

theorem Session.announce_eq (session : Session) (call : CallExpectation) :
    session.announce call = { session with events := (session.announce call).events } := by
  unfold Session.announce
  cases call.callback with
  | none => rfl
  | some callback => rfl

inductive Called (target : UInt32) (session : Session) : Session → Prop where
  | routine (routine : Intrinsic) (machine : Machine)
      (named : session.routineAt? target = some routine)
      (divides : routine.run session.machine = .ok machine) :
      Called target session { session with machine }
  | expected (call : CallExpectation) (rest : List Expectation) (machine : Machine)
      (unusual : session.routineAt? target = none)
      (front : session.pending = .call call :: rest)
      (named : session.calleeName? target = some call.name)
      (passes : session.PassesArguments target call)
      (carriedOut : call.CarriedOut session.machine machine) :
      Called target session
        ({ session.announce call with machine }.consume s!"Called {session.calleeText target}")

theorem Called.frame {target : UInt32} {session after : Session}
    (called : Called target session after) :
    after = { session with
      machine := after.machine
      pending := after.pending
      fulfilled := after.fulfilled
      events := after.events } := by
  cases called with
  | routine => rfl
  | expected call =>
      rw [session.announce_eq call]
      rfl

/-! ## Judgements -/

/-- What is judged: the effect of an instruction, or a branch with its slot done. -/
inductive Deed where
  | instruction (operation : Operation)
  | branch (latch : Latch)
deriving DecidableEq, Repr

def Deed.judge : Deed → Judging PUnit
  | .instruction operation => Judging.judge operation
  | .branch latch => Judging.judgeBranch latch

inductive Judged : Deed → Session → Session → Prop where
  | generic (session : Session) : Judged (.instruction .generic) session session
  | flow (target : UInt32) (taken : Bool) (session : Session) :
      Judged (.instruction (.flow target taken)) session session
  | freeLoad (source : UInt32) (value : Value) (session : Session)
      (resolved : session.resolution.unresolvedAt? source = none)
      (elsewhere : ∀ expected rest, session.pending = .read expected :: rest →
        expected.address ≠ source) :
      Judged (.instruction (.read source value)) session (session.logRead source value)
  | expectedLoad (source : UInt32) (value : Value) (session : Session)
      (rest : List Expectation)
      (resolved : session.resolution.unresolvedAt? source = none)
      (front : session.pending = .read ⟨source, value⟩ :: rest) :
      Judged (.instruction (.read source value)) session
        ((session.logRead source value).consume
          s!"Read {value.readable} from {session.resolution.describe source}")
  | stackStore (target : UInt32) (value : Value) (session : Session)
      (allowed : session.allowsStackWrite target = true) :
      Judged (.instruction (.write target value)) session
        ((session.logWrite target value).tell
          (.info (s!"Allowed stack write of {value.readable} to " ++
            s!"{session.resolution.describe target}")))
  | expectedStore (target : UInt32) (value : Value) (session : Session)
      (rest : List Expectation)
      (strict : session.allowsStackWrite target = false)
      (front : session.pending = .write ⟨target, value⟩ :: rest) :
      Judged (.instruction (.write target value)) session
        ((session.logWrite target value).consume
          s!"Wrote {value.readable} to {session.resolution.describe target}")
  | expectedString (target pointer : UInt32) (contents : List UInt8) (session : Session)
      (rest : List Expectation)
      (strict : session.allowsStackWrite target = false)
      (front : session.pending = .stringWrite target contents :: rest)
      (held : session.machine.memory.readStringWithin (stringLimit contents) pointer =
        .ok contents) :
      Judged (.instruction (.write target (.long pointer))) session
        ((session.logWrite target (.long pointer)).consume
          (s!"Wrote string {(AccessValue.string contents).text} to " ++
            s!"{session.resolution.describe target}"))
  | returned (code : UInt16) (target : UInt32) (session : Session) :
      Judged (.instruction (.branch code .rts target)) session session.returned
  | latched (code : UInt16) (kind : BranchKind) (target : UInt32) (session : Session)
      (delayed : kind ≠ .rts) :
      Judged (.instruction (.branch code kind target)) session
        { session with latch := some ⟨kind, target⟩ }
  | call (latch : Latch) (session called : Session)
      (links : latch.kind.isCall = true)
      (outside : session.recognises latch.target = true)
      (answered : Called latch.target session called) :
      Judged (.branch latch) session called.returnToCaller
  | jump (latch : Latch) (session called : Session) (place : String)
      (jumps : latch.kind.isCall = false)
      (outside : session.recognises latch.target = true)
      (answered : Called latch.target session called)
      (placed : place =
        if (session.resolution.symbols.at? latch.target).isSome then "symbol" else "address") :
      Judged (.branch latch) session
        (called.leave s!"Program jumped to {place} at {Text.address latch.target}")
  | localCall (latch : Latch) (session : Session)
      (links : latch.kind.isCall = true)
      (inside : session.recognises latch.target = false) :
      Judged (.branch latch) session { session with callDepth := session.callDepth + 1 }
  | localJump (latch : Latch) (session : Session)
      (jumps : latch.kind.isCall = false)
      (inside : session.recognises latch.target = false) :
      Judged (.branch latch) session session

theorem Judged.frame {deed : Deed} {before after : Session} (judged : Judged deed before after) :
    after.resolution = before.resolution ∧ after.instructions = before.instructions := by
  cases judged with
  | generic | flow | freeLoad | expectedLoad | stackStore | expectedStore | expectedString =>
      exact ⟨rfl, rfl⟩
  | latched | localCall | localJump => exact ⟨rfl, rfl⟩
  | returned =>
      unfold Session.returned
      split
      · exact ⟨rfl, rfl⟩
      · exact ⟨rfl, rfl⟩
  | call _ _ _ _ _ answered =>
      rw [answered.frame]
      exact ⟨rfl, rfl⟩
  | jump _ _ _ _ _ _ answered =>
      rw [answered.frame]
      exact ⟨rfl, rfl⟩

theorem Judged.machine_eq {operation : Operation} {before after : Session}
    (judged : Judged (.instruction operation) before after) : after.machine = before.machine := by
  cases judged with
  | returned =>
      unfold Session.returned
      split
      · rfl
      · rfl
  | _ => rfl

end SuperHBench
