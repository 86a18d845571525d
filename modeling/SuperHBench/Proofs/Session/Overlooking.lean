import SuperHBench.Proofs.Machine.Footprints
import SuperHBench.Proofs.Session.Turns

/-! # Judgements over other memory

A judgement looks at memory for the arguments of a call, where they are on the stack or
are strings, and for a string to which a pointer is stored. It changes memory through a
callback only. Over memory that differs where it does not look it goes the same way. -/

namespace SuperHBench

/-! ## Bytes that are looked at -/

namespace Machine

def slotFootprint (machine : Machine) : ArgumentSlot → List Nat
  | .register _ | .float _ => []
  | .stack offset => machine.memory.footprint (machine.stackPointer + offset) 4

def argumentFootprint (machine : Machine) (slot : ArgumentSlot) : Argument → List Nat
  | .wildcard => []
  | .scalar (.integer value) =>
      match Value.patternOfInt value with
      | .ok _ => machine.slotFootprint slot
      | .error _ => []
  | .scalar (.float _) | .stackPointer => machine.slotFootprint slot
  | .string contents =>
      machine.slotFootprint slot ++
        match machine.slot slot with
        | .ok (pointer, _) => machine.memory.stringFootprint (stringLimit contents) pointer
        | .error _ => []

end Machine

namespace Session

/-- Arguments behind one that does not match are not looked at. -/
def argumentsFootprint (session : Session) (function : String)
    (convention : CallingConvention) : List Argument → List Nat
  | [] => []
  | argument :: rest =>
      let (slot, convention) := convention.next argument.kind
      session.machine.argumentFootprint slot argument ++
        match (Judging.checkArgument session.machine function slot argument).run session with
        | .ok _ _ => session.argumentsFootprint function convention rest
        | .error _ _ => []

def callFootprint (session : Session) (target : UInt32) : List Nat :=
  if session.recognises target && (session.routineAt? target).isNone then
    match session.pending with
    | .call call :: _ =>
        if session.calleeName? target = some call.name then
          session.argumentsFootprint (session.calleeText target) .start call.arguments
        else
          []
    | _ => []
  else
    []

def storeFootprint (session : Session) (target : UInt32) (value : Value) : List Nat :=
  if session.allowsStackWrite target then
    []
  else
    match session.pending, value with
    | .stringWrite _ contents :: _, .long pointer =>
        session.machine.memory.stringFootprint (stringLimit contents) pointer
    | _, _ => []

end Session

def Deed.footprint (session : Session) : Deed → List Nat
  | .instruction (.write target value) => session.storeFootprint target value
  | .instruction _ => []
  | .branch latch => session.callFootprint latch.target

namespace Session

def withMemory (session : Session) (memory : Memory) : Session :=
  { session with machine := session.machine.withMemory memory }

def Quiet (session : Session) : Prop :=
  ∀ call, .call call ∈ session.pending → call.callback = none

@[simp] theorem pending_withMemory (session : Session) (other : Memory) :
    (session.withMemory other).pending = session.pending := rfl

@[simp] theorem resolution_withMemory (session : Session) (other : Memory) :
    (session.withMemory other).resolution = session.resolution := rfl

@[simp] theorem latch_withMemory (session : Session) (other : Memory) :
    (session.withMemory other).latch = session.latch := rfl

theorem memory_returned (session : Session) :
    session.returned.machine.memory = session.machine.memory := by
  unfold returned
  split
  · rfl
  · rfl

theorem returned_withMemory (session : Session) (other : Memory) :
    (session.withMemory other).returned = session.returned.withMemory other := by
  unfold returned
  by_cases atZero : session.callDepth = 0
  · rw [if_pos atZero]
    exact if_pos atZero
  · rw [if_neg atZero]
    exact if_neg atZero

end Session

namespace Judging

/-! ## Steps of an action -/

/-- Over other memory an action comes to the same end, and it leaves memory alone. -/
def Overlooks (session : Session) (other : Memory) (action again : Judging α) : Prop :=
  match action.run session with
  | .ok value after =>
      after.machine.memory = session.machine.memory ∧
        again.run (session.withMemory other) = .ok value (after.withMemory other)
  | .error error after =>
      after.machine.memory = session.machine.memory ∧
        again.run (session.withMemory other) = .error error (after.withMemory other)

variable {session : Session} {other : Memory}

theorem overlooks_pure (value : α) :
    Overlooks session other (pure value : Judging α) (pure value) :=
  ⟨rfl, rfl⟩

theorem overlooks_throw (error : RunError) :
    Overlooks session other (throw error : Judging α) (throw error) :=
  ⟨rfl, rfl⟩

theorem overlooks_set {next : Session} (kept : next.machine.memory = session.machine.memory) :
    Overlooks session other (set next : Judging PUnit) (set (next.withMemory other)) :=
  ⟨kept, rfl⟩

theorem overlooks_modify {change : Session → Session}
    (kept : (change session).machine.memory = session.machine.memory)
    (same : change (session.withMemory other) = (change session).withMemory other) :
    Overlooks session other (modify change : Judging PUnit) (modify change) :=
  ⟨kept, congrArg (EStateM.Result.ok PUnit.unit) same⟩

theorem overlooks_bind {action again : Judging α} {next further : α → Judging β}
    (first : Overlooks session other action again)
    (second : ∀ value between, action.run session = .ok value between →
      between.machine.memory = session.machine.memory →
      Overlooks between other (next value) (further value)) :
    Overlooks session other (action >>= next) (again >>= further) := by
  unfold Overlooks at first ⊢
  rw [EStateM.run_bind, EStateM.run_bind]
  cases outcome : action.run session with
  | error error after =>
      rw [outcome] at first
      rw [first.2]
      exact ⟨first.1, rfl⟩
  | ok value between =>
      rw [outcome] at first
      have rest := second value between outcome first.1
      unfold Overlooks at rest
      rw [first.2]
      dsimp only
      rw [first.1] at rest
      exact rest

theorem overlooks_get_bind {next further : Session → Judging α}
    (rest : Overlooks session other (next session) (further (session.withMemory other))) :
    Overlooks session other (get >>= next) (get >>= further) :=
  rest

theorem overlooks_ite {condition : Prop} [Decidable condition]
    {first second again further : Judging α} (whenTrue : Overlooks session other first again)
    (whenFalse : Overlooks session other second further) :
    Overlooks session other (if condition then first else second)
      (if condition then again else further) := by
  split
  · exact whenTrue
  · exact whenFalse

theorem overlooks_guard_bind {condition : Prop} [Decidable condition] {error : RunError}
    {next further : PUnit → Judging α}
    (rest : ¬condition → Overlooks session other (next ⟨⟩) (further ⟨⟩)) :
    Overlooks session other
      (if condition then (do let done ← throw error; next done) else next ⟨⟩)
      (if condition then (do let done ← throw error; further done) else further ⟨⟩) := by
  split
  · exact ⟨rfl, rfl⟩
  · rename_i passes
    exact rest passes

theorem overlooks_guard {condition : Prop} [Decidable condition] (error : RunError) :
    Overlooks session other (if condition then throw error else pure ⟨⟩ : Judging PUnit)
      (if condition then throw error else pure ⟨⟩) :=
  overlooks_ite (overlooks_throw error) (overlooks_pure _)

theorem overlooks_inspect {result again : Except MemoryError α} (same : again = result) :
    Overlooks session other (inspect result) (inspect again) := by
  rw [same]
  cases result with
  | ok value => exact overlooks_pure value
  | error error => exact overlooks_throw _

theorem overlooks_pattern (result : Except RangeError α) :
    Overlooks session other (pattern result) (pattern result) := by
  cases result with
  | ok value => exact overlooks_pure value
  | error error => exact overlooks_throw _

/-! ## Calls -/

section Calls

variable {hidden : Nat → Prop} {machine : Machine}

theorem slot_withMemory (agrees : machine.memory.AgreesOutside hidden other)
    {slot : ArgumentSlot} (shown : Shows hidden (machine.slotFootprint slot)) :
    (machine.withMemory other).slot slot = machine.slot slot := by
  cases slot with
  | register | float => rfl
  | stack offset =>
      change (other.readLong (machine.stackPointer + offset)).map _ = _
      rw [agrees.readLong_eq shown]
      rfl

theorem overlooks_checkArgument (agrees : machine.memory.AgreesOutside hidden other)
    (function : String) {slot : ArgumentSlot} {argument : Argument}
    (shown : Shows hidden (machine.argumentFootprint slot argument)) :
    Overlooks session other (checkArgument machine function slot argument)
      (checkArgument (machine.withMemory other) function slot argument) := by
  cases argument with
  | wildcard => exact overlooks_pure _
  | stackPointer =>
      apply overlooks_bind (overlooks_inspect (slot_withMemory agrees shown))
      intro ⟨pointer, location⟩ between _ _
      exact overlooks_guard _
  | scalar value =>
      cases value with
      | integer value =>
          apply overlooks_bind (overlooks_pattern _)
          intro expected between fits _
          rw [Machine.argumentFootprint, (run_pattern_eq_ok_iff.mp fits).1] at shown
          apply overlooks_bind (overlooks_inspect (slot_withMemory agrees shown))
          intro ⟨actual, location⟩ between _ _
          exact overlooks_guard _
      | float bits =>
          apply overlooks_bind (overlooks_inspect (slot_withMemory agrees shown))
          intro ⟨actual, location⟩ between _ _
          exact overlooks_guard _
  | string contents =>
      rcases shows_append_iff.mp shown with ⟨inSlot, inString⟩
      apply overlooks_bind (overlooks_inspect (slot_withMemory agrees inSlot))
      intro ⟨pointer, location⟩ between found _
      rw [(run_inspect_eq_ok_iff.mp found).1] at inString
      apply overlooks_bind (overlooks_inspect (agrees.readStringWithin_eq inString))
      intro actual between _ _
      exact overlooks_guard _

theorem overlooks_checkArguments
    (agrees : session.machine.memory.AgreesOutside hidden other) (function : String)
    {convention : CallingConvention} {arguments : List Argument}
    (shown : Shows hidden (session.argumentsFootprint function convention arguments)) :
    Overlooks session other (checkArguments session.machine function convention arguments)
      (checkArguments (session.machine.withMemory other) function convention arguments) := by
  induction arguments generalizing convention with
  | nil => exact overlooks_pure _
  | cons argument rest induction =>
      rcases shows_append_iff.mp shown with ⟨here, behind⟩
      apply overlooks_bind (overlooks_checkArgument agrees function here)
      intro _ between passes _
      have same := session_eq_of_run_checkArgument passes
      subst same
      rw [passes] at behind
      exact induction behind

theorem overlooks_giveResult (returns : Option Scalar) :
    Overlooks session other (giveResult returns) (giveResult returns) := by
  cases returns with
  | none => exact overlooks_pure _
  | some returned =>
      cases returned with
      | integer value =>
          apply overlooks_bind (overlooks_pattern _)
          intro contents between _ _
          exact overlooks_modify rfl rfl
      | float bits => exact overlooks_modify rfl rfl

theorem overlooks_meetCall (quiet : session.Quiet)
    (agrees : session.machine.memory.AgreesOutside hidden other) {name : Option String}
    {readable : String}
    (shown : ∀ call rest, session.pending = .call call :: rest → name = some call.name →
      Shows hidden (session.argumentsFootprint readable .start call.arguments)) :
    Overlooks session other (meetCall name readable) (meetCall name readable) := by
  apply overlooks_get_bind
  simp only [Session.pending_withMemory]
  cases front : session.pending with
  | nil => exact overlooks_throw _
  | cons next rest =>
      cases next with
      | read | write | stringWrite => exact overlooks_throw _
      | call call =>
          have silent : call.callback = none := quiet call (by simp [front])
          apply overlooks_guard_bind
          intro named
          have looks := shown call rest front (Decidable.not_not.mp named)
          apply overlooks_bind (overlooks_checkArguments agrees readable looks)
          intro _ checked _ _
          simp only [runCallback, silent]
          apply overlooks_bind (overlooks_pure _)
          intro _ called _ _
          apply overlooks_bind (overlooks_giveResult call.returns)
          intro _ answered _ _
          exact overlooks_modify rfl rfl

theorem overlooks_judgeCall (quiet : session.Quiet)
    (agrees : session.machine.memory.AgreesOutside hidden other) {target : UInt32}
    (outside : session.recognises target = true)
    (shown : Shows hidden (session.callFootprint target)) :
    Overlooks session other (judgeCall target) (judgeCall target) := by
  apply overlooks_get_bind
  cases routineAt : session.routineAt? target with
  | some routine =>
      have here : (session.calleeName? target).bind Intrinsic.ofName? = some routine := routineAt
      have there : ((session.withMemory other).calleeName? target).bind Intrinsic.ofName? =
          some routine := routineAt
      simp only [here, there]
      by_cases zero : session.machine.register .zero = 0
      · have fails : routine.run session.machine =
            .error (.divisionByZero routine.name session.machine.instructionPc) := if_pos zero
        have again : routine.run (session.withMemory other).machine =
            .error (.divisionByZero routine.name session.machine.instructionPc) := if_pos zero
        simp only [fails, again]
        exact overlooks_throw _
      · have divides : routine.run session.machine = .ok _ := if_neg zero
        have again : routine.run (session.withMemory other).machine = .ok _ := if_neg zero
        simp only [divides, again]
        exact ⟨rfl, rfl⟩
  | none =>
      have here : (session.calleeName? target).bind Intrinsic.ofName? = none := routineAt
      have there : ((session.withMemory other).calleeName? target).bind Intrinsic.ofName? =
          none := routineAt
      simp only [here, there]
      apply overlooks_meetCall quiet agrees
      intro call rest front named
      simp only [Session.callFootprint, outside, routineAt, front, named, Option.isNone_none,
        Bool.and_true, if_true] at shown
      exact shown

theorem overlooks_judgeBranch (quiet : session.Quiet)
    (agrees : session.machine.memory.AgreesOutside hidden other) {latch : Latch}
    (shown : Shows hidden (session.callFootprint latch.target)) :
    Overlooks session other (judgeBranch latch) (judgeBranch latch) := by
  apply overlooks_get_bind
  change Overlooks session other
    (if session.recognises latch.target then _ else _)
    (if session.recognises latch.target then _ else _)
  by_cases outside : session.recognises latch.target
  · rw [if_pos outside, if_pos outside]
    apply overlooks_bind (overlooks_judgeCall quiet agrees outside shown)
    intro _ called _ _
    exact overlooks_ite (overlooks_modify rfl rfl) (overlooks_modify rfl rfl)
  · rw [if_neg outside, if_neg outside]
    exact overlooks_ite (overlooks_set rfl) (overlooks_pure _)

/-! ## Accesses -/

theorem overlooks_meetRead (expected : MemoryAccess) (source : UInt32) (value : Value) :
    Overlooks session other (meetRead expected source value)
      (meetRead expected source value) := by
  apply overlooks_ite
  · apply overlooks_get_bind
    simp only [Session.resolution_withMemory]
    cases expected.mismatch? session.resolution source value with
    | some reason => exact overlooks_throw _
    | none => exact overlooks_set rfl
  · exact overlooks_pure _

theorem overlooks_judgeRead (source : UInt32) (value : Value) :
    Overlooks session other (judgeRead source value) (judgeRead source value) := by
  apply overlooks_bind (overlooks_modify rfl rfl)
  intro _ logged _ _
  apply overlooks_get_bind
  simp only [Session.resolution_withMemory, Session.pending_withMemory]
  cases logged.resolution.unresolvedAt? source with
  | some slot => exact overlooks_throw _
  | none =>
      dsimp only
      split
      · exact overlooks_meetRead _ _ _
      · exact overlooks_pure _

theorem overlooks_meetWrite (expected : MemoryAccess) (target : UInt32) (value : Value) :
    Overlooks session other (meetWrite expected target value)
      (meetWrite expected target value) := by
  apply overlooks_get_bind
  simp only [Session.resolution_withMemory]
  cases expected.mismatch? session.resolution target value with
  | some reason => exact overlooks_throw _
  | none => exact overlooks_set rfl

theorem overlooks_meetStringWrite
    (agrees : session.machine.memory.AgreesOutside hidden other) (address : UInt32)
    (contents : List UInt8) (target : UInt32) {value : Value}
    (shown : ∀ pointer, value = .long pointer →
      Shows hidden (session.machine.memory.stringFootprint (stringLimit contents) pointer)) :
    Overlooks session other (meetStringWrite address contents target value)
      (meetStringWrite address contents target value) := by
  apply overlooks_get_bind
  apply overlooks_guard_bind
  intro long
  cases value with
  | byte | word => exact absurd (by simp [Value.width]) long
  | long pointer =>
      apply overlooks_bind (overlooks_inspect (agrees.readStringWithin_eq (shown pointer rfl)))
      intro written between found _
      have same := (run_inspect_eq_ok_iff.mp found).2
      subst same
      apply overlooks_guard_bind
      intro _
      apply overlooks_guard_bind
      intro _
      exact overlooks_set rfl

theorem overlooks_judgeWrite (agrees : session.machine.memory.AgreesOutside hidden other)
    {target : UInt32} {value : Value}
    (shown : Shows hidden (session.storeFootprint target value)) :
    Overlooks session other (judgeWrite target value) (judgeWrite target value) := by
  apply overlooks_bind (overlooks_modify rfl rfl)
  intro _ logged modified _
  have same : logged = session.logWrite target value := by
    cases modified
    rfl
  have agrees : logged.machine.memory.AgreesOutside hidden other := by
    rw [same]
    exact agrees
  have shown : Shows hidden (logged.storeFootprint target value) := by
    rw [same]
    exact shown
  apply overlooks_get_bind
  change Overlooks logged other
    (if logged.allowsStackWrite target then _ else _)
    (if logged.allowsStackWrite target then _ else _)
  by_cases allowed : logged.allowsStackWrite target
  · rw [if_pos allowed, if_pos allowed]
    exact overlooks_set rfl
  · rw [if_neg allowed, if_neg allowed]
    simp only [Session.pending_withMemory]
    cases front : logged.pending with
    | nil => exact overlooks_throw _
    | cons next rest =>
        cases next with
        | call | read => exact overlooks_throw _
        | write expected => exact overlooks_meetWrite _ _ _
        | stringWrite address contents =>
            apply overlooks_meetStringWrite agrees
            rintro pointer rfl
            simp only [Session.storeFootprint, if_neg allowed, front] at shown
            exact shown

end Calls

end Judging

theorem Deed.overlooks {deed : Deed} {hidden : Nat → Prop} {session : Session} {other : Memory}
    (quiet : session.Quiet) (agrees : session.machine.memory.AgreesOutside hidden other)
    (shown : Shows hidden (deed.footprint session)) :
    Judging.Overlooks session other deed.judge deed.judge := by
  cases deed with
  | branch latch => exact Judging.overlooks_judgeBranch quiet agrees shown
  | instruction operation =>
      cases operation with
      | generic | flow => exact Judging.overlooks_pure _
      | read source value => exact Judging.overlooks_judgeRead source value
      | write target value => exact Judging.overlooks_judgeWrite agrees shown
      | branch code kind target =>
          cases kind with
          | rts =>
              exact Judging.overlooks_modify session.memory_returned
                (session.returned_withMemory other)
          | bra | bsr | jmp | jsr => exact Judging.overlooks_modify rfl rfl

end SuperHBench
