import SuperHBench.Coverage
import SuperHBench.Machine.Execution
import SuperHBench.Session.Error

/-! # Sessions

A session is a run under way: the machine, the expectations that are still open and
what has happened so far. Every action on it either succeeds or fails with a
`RunError`, and in both cases leaves the session as far as it came, so the events
before a failure are not lost. -/

namespace SuperHBench

inductive Event where
  | instruction (line : ListingLine)
  | fulfilled (text : String)
  | info (text : String)
  | callback (arguments : List Argument) (machine : Machine)

/-- An unconditional branch that is judged when its delay slot has run. -/
structure Latch where
  kind : BranchKind
  target : UInt32
deriving DecidableEq, Repr

structure Session where
  machine : Machine
  pending : List Expectation
  resolution : Resolution
  coverage : Coverage
  /-- Cleared when the function has returned or left by a jump. -/
  running : Bool
  /-- Local functions that were called and have not returned. -/
  callDepth : Nat
  fulfilled : Nat
  latch : Option Latch
  instructions : Nat
  events : List Event

abbrev Judging := EStateM RunError Session

namespace Session

def start (machine : Machine) (pending : List Expectation) (resolution : Resolution) :
    Session where
  machine := machine
  pending := pending
  resolution := resolution
  coverage := .empty
  running := true
  callDepth := 0
  fulfilled := 0
  latch := none
  instructions := 0
  events := []

def finished (session : Session) : Bool :=
  !session.running && session.machine.pendingBranch.isNone

def tell (session : Session) (event : Event) : Session :=
  { session with events := event :: session.events }

def fulfill (session : Session) (text : String) : Session :=
  { session.tell (.fulfilled text) with fulfilled := session.fulfilled + 1 }

def consume (session : Session) (text : String) : Session :=
  { session.fulfill text with pending := session.pending.tail }

end Session

namespace Judging

def fault (cause : Fault) : RunError :=
  .simulation (.fault cause)

def inspect (result : Except MemoryError α) : Judging α :=
  match result with
  | .ok value => pure value
  | .error error => throw (fault (.memory error))

def pattern (result : Except RangeError α) : Judging α :=
  match result with
  | .ok value => pure value
  | .error error => throw (.definition error)

end Judging

end SuperHBench
