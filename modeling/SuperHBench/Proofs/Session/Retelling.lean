import SuperHBench.Proofs.Machine.Lines
import SuperHBench.Proofs.Resolution.Rebinding
import SuperHBench.Proofs.Session.Limit

/-! # Retelling

No judgement looks at the lines of a listing or at what has been told, and of the bindings none
asks for more than the name of an address. A run without lines, or one that keeps its bindings
otherwise, is the same run, as long as no callback looks at the lines. -/

namespace SuperHBench

/-! ## What is told -/

/-- Other bindings in the place of those that are known, which give an address the same name.
All lines are left out if the retelling is silent. -/
structure Retelling where
  silent : Bool
  bindings : List Binding → List Binding
  find?_bindings : ∀ known (address : UInt32),
    (bindings known).find? (·.address = address) = known.find? (·.address = address)

namespace Event

/-- The line that an event shows. All other events are messages. -/
def line? : Event → Option ListingLine
  | .instruction line => some line
  | .fulfilled _ | .info _ | .callback _ _ => none

def isMessage (event : Event) : Bool :=
  event.line?.isNone

end Event

namespace Retelling

variable (retelling : Retelling)

def machine (machine : Machine) : Machine :=
  machine.withListing (!retelling.silent && machine.listing)
    (if retelling.silent then none else machine.line)

def event : Event → Event
  | .callback arguments machine => .callback arguments (retelling.machine machine)
  | other => other

def events (told : List Event) : List Event :=
  (told.filter fun event => !retelling.silent || event.isMessage).map retelling.event

def call (call : CallExpectation) : CallExpectation :=
  { call with
    callback := call.callback.map fun callback machine arguments =>
      (callback machine arguments).map retelling.machine }

def expectation : Expectation → Expectation
  | .call expected => .call (retelling.call expected)
  | other => other

theorem events_cons {event : Event} (message : event.isMessage = true) (told : List Event) :
    retelling.events (event :: told) = retelling.event event :: retelling.events told := by
  unfold events
  rw [List.filter_cons_of_pos, List.map_cons]
  rw [message, Bool.or_true]

variable {retelling}

theorem machine_of_loud (loud : retelling.silent = false) (machine : Machine) :
    retelling.machine machine = machine := by
  simp only [Retelling.machine, loud]
  rfl

theorem event_of_loud (loud : retelling.silent = false) (event : Event) :
    retelling.event event = event := by
  cases event with
  | callback => rw [Retelling.event, machine_of_loud loud]
  | instruction | fulfilled | info => rfl

theorem events_of_loud (loud : retelling.silent = false) (told : List Event) :
    retelling.events told = told := by
  have all : (fun event : Event => !retelling.silent || event.isMessage) = fun _ => true := by
    rw [loud]
    rfl
  rw [events, all, List.filter_true, funext (event_of_loud loud), List.map_id']

theorem expectation_of_loud (loud : retelling.silent = false) (expectation : Expectation) :
    retelling.expectation expectation = expectation := by
  cases expectation with
  | read | write | stringWrite => rfl
  | call expected =>
      have same (result : Except SimulationError Machine) :
          result.map retelling.machine = result := by
        rw [funext (machine_of_loud loud)]
        cases result <;> rfl
      simp only [Retelling.expectation, Retelling.call, same, Option.map_id']

theorem machine_of_silent (silent : retelling.silent = true) (machine : Machine) :
    retelling.machine machine = machine.unlisted := by
  simp only [Retelling.machine, silent]
  rfl

end Retelling

namespace Session

def lines (session : Session) : List ListingLine :=
  session.events.filterMap Event.line?

theorem lines_stepped (session : Session) :
    session.stepped.lines = session.machine.step.1.line.toList ++ session.lines := by
  simp only [stepped, lines, List.filterMap_append]
  cases session.machine.step.1.line <;> rfl

theorem lines_returned (session : Session) : session.returned.lines = session.lines := by
  unfold returned
  split
  · rfl
  · rfl

end Session

variable {retelling : Retelling}

/-! ## Machines that are told otherwise -/

namespace Machine

variable (machine : Machine)

theorem step_retold : (retelling.machine machine).step.2 = machine.step.2 := by
  unfold Retelling.machine
  rw [step_withListing]

theorem withoutLine_step_retold :
    (retelling.machine machine).step.1.withoutLine =
      retelling.machine machine.step.1.withoutLine := by
  have moved := congrArg Prod.fst (machine.step_withListing (!retelling.silent && machine.listing)
    (if retelling.silent then none else machine.line))
  change (retelling.machine machine).step.1 = _ at moved
  rw [moved, ← machine.listing_step]
  unfold Retelling.machine
  cases retelling.silent <;> rfl

theorem line_step_retold :
    (retelling.machine machine).step.1.line =
      if retelling.silent then none else machine.step.1.line := by
  cases silent : retelling.silent with
  | false => rw [Retelling.machine_of_loud silent, if_neg Bool.false_ne_true]
  | true => rw [Retelling.machine_of_silent silent, line_step_unlisted, if_pos rfl]

theorem slot_retold (slot : ArgumentSlot) :
    (retelling.machine machine).slot slot = machine.slot slot := by
  cases slot <;> rfl

end Machine

theorem Intrinsic.run_retold (intrinsic : Intrinsic) (machine : Machine) :
    intrinsic.run (retelling.machine machine) = (intrinsic.run machine).map retelling.machine := by
  simp only [run]
  change (if machine.register .zero = 0 then _ else _) = _
  split
  · rfl
  · rfl

/-! ## Callbacks -/

/-- The callback does not look at lines: machines that differ in nothing else have the same
outcome, lines aside. -/
def CallExpectation.Deaf (call : CallExpectation) : Prop :=
  ∀ callback machine other, call.callback = some callback →
    machine.unlisted = other.unlisted →
    (callback machine call.arguments).map Machine.unlisted =
      (callback other call.arguments).map Machine.unlisted

def Session.Unaware (session : Session) (retelling : Retelling) : Prop :=
  retelling.silent = true → ∀ call, .call call ∈ session.pending → call.Deaf

theorem Session.Unaware.of_subset {before after : Session} (unaware : before.Unaware retelling)
    (fewer : after.pending ⊆ before.pending) : after.Unaware retelling :=
  fun silent call waits => unaware silent call (fewer waits)

theorem CallExpectation.map_callback {call : CallExpectation} {callback : Callback}
    (deaf : retelling.silent = true → call.Deaf) (found : call.callback = some callback)
    (machine : Machine) :
    (callback (retelling.machine machine) call.arguments).map retelling.machine =
      (callback machine call.arguments).map retelling.machine := by
  cases silent : retelling.silent with
  | false => rw [Retelling.machine_of_loud silent]
  | true =>
      have same := funext (Retelling.machine_of_silent silent)
      rw [same]
      exact deaf silent callback _ _ found rfl

/-! ## Sessions that are told otherwise -/

namespace Session

def retold (session : Session) (retelling : Retelling) : Session :=
  { session with
    machine := retelling.machine session.machine
    pending := session.pending.map retelling.expectation
    resolution := session.resolution.rebound retelling.bindings
    events := retelling.events session.events }

variable (session : Session)

@[simp] theorem pending_retold :
    (session.retold retelling).pending = session.pending.map retelling.expectation := rfl

@[simp] theorem machine_retold :
    (session.retold retelling).machine = retelling.machine session.machine := rfl

@[simp] theorem latch_retold : (session.retold retelling).latch = session.latch := rfl

@[simp] theorem symbols_retold :
    (session.retold retelling).resolution.symbols = session.resolution.symbols := rfl

@[simp] theorem unresolvedAt?_retold (address : UInt32) :
    (session.retold retelling).resolution.unresolvedAt? address =
      session.resolution.unresolvedAt? address := rfl

@[simp] theorem nameAt?_retold (address : UInt32) :
    (session.retold retelling).resolution.nameAt? address =
      session.resolution.nameAt? address := by
  have known := retelling.find?_bindings session.resolution.bindings address
  rw [Resolution.nameAt?, Resolution.nameAt?, Resolution.bindingAt?, Resolution.bindingAt?,
    ← known]
  rfl

@[simp] theorem describe_retold (address : UInt32) :
    (session.retold retelling).resolution.describe address =
      session.resolution.describe address := by
  rw [Resolution.describe, nameAt?_retold, Resolution.describe]

@[simp] theorem mismatch?_retold (expected : MemoryAccess) (address : UInt32) (value : Value) :
    expected.mismatch? (session.retold retelling).resolution address value =
      expected.mismatch? session.resolution address value := by
  simp only [MemoryAccess.mismatch?, describe_retold]

@[simp] theorem calleeName?_retold (target : UInt32) :
    (session.retold retelling).calleeName? target = session.calleeName? target := by
  rw [calleeName?, nameAt?_retold, symbols_retold, calleeName?]

@[simp] theorem expectedCallAddress?_retold :
    (session.retold retelling).expectedCallAddress? = session.expectedCallAddress? := by
  unfold expectedCallAddress?
  rw [pending_retold]
  cases session.pending with
  | nil => rfl
  | cons next rest => cases next <;> rfl

@[simp] theorem allowsStackWrite_retold (target : UInt32) :
    (session.retold retelling).allowsStackWrite target = session.allowsStackWrite target := by
  have wants : (session.retold retelling).wantsWrite target = session.wantsWrite target := by
    unfold wantsWrite
    rw [pending_retold]
    cases session.pending with
    | nil => rfl
    | cons next rest => cases next <;> rfl
  unfold allowsStackWrite
  rw [wants]
  rfl

theorem satisfied_retold (scenario : Scenario) :
    Judging.satisfied scenario (session.retold retelling) =
      Judging.satisfied scenario session := by
  rw [Judging.satisfied, pending_retold, List.isEmpty_map, Judging.satisfied]

theorem tell_retold {event : Event} (message : event.isMessage = true) :
    (session.retold retelling).tell (retelling.event event) =
      (session.tell event).retold retelling := by
  unfold tell retold
  rw [retelling.events_cons message session.events]

theorem fulfill_retold (text : String) :
    (session.retold retelling).fulfill text = (session.fulfill text).retold retelling := by
  have told := @tell_retold retelling session (.fulfilled text) rfl
  unfold fulfill
  rw [show retelling.event (.fulfilled text) = .fulfilled text from rfl] at told
  rw [told]
  rfl

theorem consume_retold (text : String) :
    (session.retold retelling).consume text = (session.consume text).retold retelling := by
  unfold consume
  rw [session.fulfill_retold, pending_retold, ← List.map_tail]
  rfl

theorem leave_retold (text : String) :
    (session.retold retelling).leave text = (session.leave text).retold retelling := by
  have told := @tell_retold retelling session (.info text) rfl
  unfold leave
  rw [show retelling.event (.info text) = .info text from rfl] at told
  rw [told]
  rfl

theorem returned_retold :
    (session.retold retelling).returned = session.returned.retold retelling := by
  unfold returned
  by_cases atZero : session.callDepth = 0
  · rw [if_pos atZero, ← session.leave_retold]
    exact if_pos atZero
  · rw [if_neg atZero]
    exact if_neg atZero

theorem stepped_retold : (session.retold retelling).stepped = session.stepped.retold retelling := by
  have lines : (session.retold retelling).stepped.events =
      retelling.events session.stepped.events := by
    change (retelling.machine session.machine).step.1.line.toList.map Event.instruction ++
      retelling.events session.events = retelling.events
        (session.machine.step.1.line.toList.map Event.instruction ++ session.events)
    rw [Machine.line_step_retold]
    unfold Retelling.events
    cases retelling.silent with
    | false => cases session.machine.step.1.line <;> simp [Retelling.event]
    | true => cases session.machine.step.1.line <;> simp [Event.isMessage, Event.line?]
  have machine : (session.retold retelling).stepped.machine =
      retelling.machine session.stepped.machine := session.machine.withoutLine_step_retold
  have whole : (session.retold retelling).stepped =
      { session.stepped.retold retelling with
        machine := (session.retold retelling).stepped.machine
        events := (session.retold retelling).stepped.events } := rfl
  rw [whole, machine, lines]
  rfl

end Session

namespace Judging

/-! ## Steps of an action -/

/-- The action shows these lines, the last of them first. Where everything so far is told
otherwise it comes to the same end, told otherwise. -/
def Retells (retelling : Retelling) (session : Session) (lines : List ListingLine)
    (action again : Judging α) : Prop :=
  match action.run session with
  | .ok value after =>
      after.lines = lines ++ session.lines ∧
        again.run (session.retold retelling) = .ok value (after.retold retelling)
  | .error error after =>
      after.lines = lines ++ session.lines ∧
        again.run (session.retold retelling) = .error error (after.retold retelling)

/-- The session that an action leaves, whether it succeeds or not. -/
def sessionAfter : EStateM.Result RunError Session α → Session
  | .ok _ session | .error _ session => session

variable {session : Session}

theorem Retells.lines_sessionAfter {lines : List ListingLine} {action again : Judging α}
    (retells : Retells retelling session lines action again) :
    (sessionAfter (action.run session)).lines = lines ++ session.lines := by
  unfold Retells at retells
  cases outcome : action.run session with
  | ok value after =>
      rw [outcome] at retells
      exact retells.1
  | error error after =>
      rw [outcome] at retells
      exact retells.1

theorem retells_pure (value : α) :
    Retells retelling session [] (pure value : Judging α) (pure value) :=
  ⟨rfl, rfl⟩

theorem retells_throw (error : RunError) :
    Retells retelling session [] (throw error : Judging α) (throw error) :=
  ⟨rfl, rfl⟩

theorem retells_set {next further : Session} (silent : next.lines = session.lines)
    (same : further = next.retold retelling) :
    Retells retelling session [] (set next : Judging PUnit) (set further) :=
  ⟨silent, congrArg (EStateM.Result.ok PUnit.unit) same⟩

theorem retells_modify {change again : Session → Session}
    (silent : (change session).lines = session.lines)
    (same : again (session.retold retelling) = (change session).retold retelling) :
    Retells retelling session [] (modify change : Judging PUnit) (modify again) :=
  ⟨silent, congrArg (EStateM.Result.ok PUnit.unit) same⟩

theorem retells_bind {lines : List ListingLine} {action again : Judging α}
    {next further : α → Judging β} (first : Retells retelling session lines action again)
    (second : ∀ value between, action.run session = .ok value between →
      Retells retelling between [] (next value) (further value)) :
    Retells retelling session lines (action >>= next) (again >>= further) := by
  unfold Retells at first ⊢
  rw [EStateM.run_bind, EStateM.run_bind]
  cases outcome : action.run session with
  | error error after =>
      rw [outcome] at first
      rw [first.2]
      exact ⟨first.1, rfl⟩
  | ok value between =>
      rw [outcome] at first
      have rest := second value between outcome
      unfold Retells at rest
      rw [first.2]
      dsimp only
      rw [first.1] at rest
      exact rest

theorem retells_get_bind {next further : Session → Judging α}
    (rest : Retells retelling session [] (next session) (further (session.retold retelling))) :
    Retells retelling session [] (get >>= next) (get >>= further) :=
  rest

theorem retells_ite {condition : Prop} [Decidable condition]
    {first second again further : Judging α}
    (whenTrue : Retells retelling session [] first again)
    (whenFalse : Retells retelling session [] second further) :
    Retells retelling session [] (if condition then first else second)
      (if condition then again else further) := by
  split
  · exact whenTrue
  · exact whenFalse

theorem retells_guard_bind {condition : Prop} [Decidable condition] {error : RunError}
    {next further : PUnit → Judging α}
    (rest : Retells retelling session [] (next ⟨⟩) (further ⟨⟩)) :
    Retells retelling session []
      (if condition then (do let done ← throw error; next done) else next ⟨⟩)
      (if condition then (do let done ← throw error; further done) else further ⟨⟩) :=
  retells_ite ⟨rfl, rfl⟩ rest

theorem retells_guard {condition : Prop} [Decidable condition] (error : RunError) :
    Retells retelling session [] (if condition then throw error else pure ⟨⟩ : Judging PUnit)
      (if condition then throw error else pure ⟨⟩) :=
  retells_ite (retells_throw error) (retells_pure _)

theorem retells_inspect (result : Except MemoryError α) :
    Retells retelling session [] (inspect result) (inspect result) := by
  cases result with
  | ok value => exact retells_pure value
  | error error => exact retells_throw _

theorem retells_pattern (result : Except RangeError α) :
    Retells retelling session [] (pattern result) (pattern result) := by
  cases result with
  | ok value => exact retells_pure value
  | error error => exact retells_throw _

/-! ## Calls -/

theorem retells_checkArgument (machine : Machine) (function : String) (slot : ArgumentSlot)
    (argument : Argument) :
    Retells retelling session [] (checkArgument machine function slot argument)
      (checkArgument machine function slot argument) := by
  cases argument with
  | wildcard => exact retells_pure _
  | stackPointer =>
      apply retells_bind (retells_inspect _)
      intro ⟨pointer, location⟩ between _
      exact retells_guard _
  | scalar value =>
      cases value with
      | integer value =>
          apply retells_bind (retells_pattern _)
          intro expected between _
          apply retells_bind (retells_inspect _)
          intro ⟨actual, location⟩ between _
          exact retells_guard _
      | float bits =>
          apply retells_bind (retells_inspect _)
          intro ⟨actual, location⟩ between _
          exact retells_guard _
  | string contents =>
      apply retells_bind (retells_inspect _)
      intro ⟨pointer, location⟩ between _
      apply retells_bind (retells_inspect _)
      intro actual between _
      exact retells_guard _

theorem checkArgument_retold (machine : Machine) (function : String) (slot : ArgumentSlot)
    (argument : Argument) :
    checkArgument (retelling.machine machine) function slot argument =
      checkArgument machine function slot argument := by
  cases argument with
  | wildcard => rfl
  | stackPointer =>
      simp only [checkArgument, Machine.slot_retold]
      rfl
  | scalar value =>
      cases value <;> simp only [checkArgument, Machine.slot_retold]
  | string contents =>
      simp only [checkArgument, Machine.slot_retold]
      rfl

theorem checkArguments_retold (machine : Machine) (function : String)
    (convention : CallingConvention) (arguments : List Argument) :
    checkArguments (retelling.machine machine) function convention arguments =
      checkArguments machine function convention arguments := by
  induction arguments generalizing convention with
  | nil => rfl
  | cons argument rest induction => simp only [checkArguments, checkArgument_retold, induction]

theorem retells_checkArguments (machine : Machine) (function : String)
    (convention : CallingConvention) (arguments : List Argument) :
    Retells retelling session [] (checkArguments machine function convention arguments)
      (checkArguments machine function convention arguments) := by
  induction arguments generalizing convention session with
  | nil => exact retells_pure _
  | cons argument rest induction =>
      apply retells_bind (retells_checkArgument _ _ _ argument)
      intro _ between _
      exact induction _

/-- A callback is given the machine, which knows neither events nor bindings, but may look for
lines in it. -/
theorem retells_runCallback {call : CallExpectation}
    (deaf : retelling.silent = true → call.Deaf) :
    Retells retelling session [] (runCallback call) (runCallback (retelling.call call)) := by
  unfold runCallback
  cases found : call.callback with
  | none =>
      simp only [Retelling.call, found]
      exact retells_pure _
  | some callback =>
      simp only [Retelling.call, found, Option.map_some]
      apply retells_get_bind
      apply retells_bind
      · exact retells_set rfl (@Session.tell_retold retelling session (.callback _ _) rfl)
      · intro _ told _
        simp only [Session.machine_retold, CallExpectation.map_callback deaf found]
        cases callback session.machine call.arguments with
        | ok machine => exact retells_modify rfl rfl
        | error error => exact retells_throw _

theorem retells_giveResult (returns : Option Scalar) :
    Retells retelling session [] (giveResult returns) (giveResult returns) := by
  cases returns with
  | none => exact retells_pure _
  | some returned =>
      cases returned with
      | integer value =>
          apply retells_bind (retells_pattern _)
          intro contents between _
          exact retells_modify rfl rfl
      | float bits => exact retells_modify rfl rfl

theorem retells_meetCall (unaware : session.Unaware retelling) (name : Option String)
    (readable : String) :
    Retells retelling session [] (meetCall name readable) (meetCall name readable) := by
  apply retells_get_bind
  simp only [Session.pending_retold, Session.machine_retold]
  cases front : session.pending with
  | nil => exact retells_throw _
  | cons next rest =>
      cases next with
      | read | write | stringWrite => exact retells_throw _
      | call call =>
          have waits : .call call ∈ session.pending := by simp [front]
          apply retells_guard_bind
          rw [checkArguments_retold]
          apply retells_bind (retells_checkArguments _ _ _ _)
          intro _ checked _
          apply retells_bind (retells_runCallback fun silent => unaware silent call waits)
          intro _ called _
          apply retells_bind (retells_giveResult call.returns)
          intro _ answered _
          exact retells_modify rfl (answered.consume_retold _)

theorem retells_judgeCall (unaware : session.Unaware retelling) (target : UInt32) :
    Retells retelling session [] (judgeCall target) (judgeCall target) := by
  apply retells_get_bind
  simp only [Session.calleeName?_retold, Session.machine_retold]
  cases (session.calleeName? target).bind Intrinsic.ofName? with
  | none => exact retells_meetCall unaware _ _
  | some intrinsic =>
      simp only [Intrinsic.run_retold]
      cases intrinsic.run session.machine with
      | error error => exact retells_throw _
      | ok machine => exact retells_set rfl rfl

theorem retells_judgeBranch (unaware : session.Unaware retelling) (latch : Latch) :
    Retells retelling session [] (judgeBranch latch) (judgeBranch latch) := by
  apply retells_get_bind
  rw [session.expectedCallAddress?_retold]
  apply retells_ite
  · apply retells_bind (retells_judgeCall unaware _)
    intro _ called _
    exact retells_ite (retells_modify rfl rfl) (retells_modify rfl (called.leave_retold _))
  · exact retells_ite (retells_set rfl rfl) (retells_pure _)

/-! ## Accesses -/

theorem retells_meetRead (expected : MemoryAccess) (source : UInt32) (value : Value) :
    Retells retelling session [] (meetRead expected source value)
      (meetRead expected source value) := by
  apply retells_ite
  · apply retells_get_bind
    simp only [Session.describe_retold, Session.mismatch?_retold]
    split
    · exact retells_throw _
    · exact retells_set rfl (session.consume_retold _)
  · exact retells_pure _

theorem retells_judgeRead (source : UInt32) (value : Value) :
    Retells retelling session [] (judgeRead source value) (judgeRead source value) := by
  unfold judgeRead
  apply retells_bind
  · exact retells_modify rfl rfl
  · intro _ logged _
    apply retells_get_bind
    simp only [Session.unresolvedAt?_retold, Session.machine_retold, Session.pending_retold]
    split
    · exact retells_throw _
    · cases logged.pending with
      | nil => exact retells_pure _
      | cons next rest =>
          cases next with
          | read => exact retells_meetRead _ _ _
          | call | write | stringWrite => exact retells_pure _

theorem retells_meetWrite (expected : MemoryAccess) (target : UInt32) (value : Value) :
    Retells retelling session [] (meetWrite expected target value)
      (meetWrite expected target value) := by
  apply retells_get_bind
  simp only [Session.describe_retold, Session.mismatch?_retold]
  split
  · exact retells_throw _
  · exact retells_set rfl (session.consume_retold _)

theorem retells_meetStringWrite (address : UInt32) (contents : List UInt8) (target : UInt32)
    (value : Value) :
    Retells retelling session [] (meetStringWrite address contents target value)
      (meetStringWrite address contents target value) := by
  apply retells_get_bind
  simp only [Session.describe_retold, Session.machine_retold]
  apply retells_guard_bind
  apply retells_bind (retells_inspect _)
  intro written between found
  have same := (run_inspect_eq_ok_iff.mp found).2
  subst same
  apply retells_guard_bind
  apply retells_guard_bind
  exact retells_set rfl (session.consume_retold _)

theorem retells_judgeWrite (target : UInt32) (value : Value) :
    Retells retelling session [] (judgeWrite target value) (judgeWrite target value) := by
  unfold judgeWrite
  apply retells_bind
  · exact retells_modify rfl rfl
  · intro _ logged _
    apply retells_get_bind
    simp only [Session.describe_retold, Session.pending_retold, Session.allowsStackWrite_retold]
    apply retells_ite
    · exact retells_set rfl (@Session.tell_retold retelling logged (.info _) rfl)
    · cases logged.pending with
      | nil => exact retells_throw _
      | cons next rest =>
          cases next with
          | write => exact retells_meetWrite _ _ _
          | stringWrite => exact retells_meetStringWrite _ _ _ _
          | call | read => exact retells_throw _

theorem retells_judge (unaware : session.Unaware retelling) (deed : Deed) :
    Retells retelling session [] deed.judge deed.judge := by
  cases deed with
  | branch latch => exact retells_judgeBranch unaware latch
  | instruction operation =>
      cases operation with
      | generic | flow => exact retells_pure _
      | read source value => exact retells_judgeRead source value
      | write target value => exact retells_judgeWrite target value
      | branch code kind target =>
          cases kind with
          | rts => exact retells_modify session.lines_returned session.returned_retold
          | bra | bsr | jmp | jsr => exact retells_modify rfl rfl

/-! ## Turns -/

theorem retells_of_run {session between : Session} {lines : List ListingLine}
    (more : List ListingLine) {action again next further : Judging α}
    (shown : between.lines = lines ++ session.lines)
    (here : action.run session = next.run between)
    (there : again.run (session.retold retelling) = further.run (between.retold retelling))
    (rest : Retells retelling between more next further) :
    Retells retelling session (more ++ lines) action again := by
  unfold Retells at rest ⊢
  rw [shown, ← List.append_assoc] at rest
  rw [here, there]
  exact rest

theorem retells_advance (unaware : session.Unaware retelling) :
    Retells retelling session session.machine.step.1.line.toList advance advance := by
  have same : (session.retold retelling).machine.step.2 = session.machine.step.2 :=
    session.machine.step_retold
  have shown := session.lines_stepped
  cases outcome : session.machine.step.2 with
  | error cause =>
      unfold Retells
      rw [run_advance_of_fault outcome, run_advance_of_fault (same.trans outcome),
        session.stepped_retold]
      exact ⟨shown, rfl⟩
  | ok operation =>
      have stepped : session.stepped.Unaware retelling := unaware
      have there := run_advance_of_step (same.trans outcome)
      rw [session.stepped_retold] at there
      refine retells_of_run [] shown (run_advance_of_step outcome) there ?_
      apply retells_bind (retells_judge stepped (.instruction operation))
      intro _ judged judges
      have effect := (Deed.instruction operation).run_judge_eq_ok_iff.mp judges
      simp only [Session.latch_retold]
      cases session.latch with
      | none => exact retells_pure _
      | some latch =>
          exact retells_judge (stepped.of_subset effect.pending_subset) (.branch latch)

/-! ## The loop -/

/-- The lines that are shown when these instructions are begun, the last of them first. -/
def linesOf (heads : List Session) : List ListingLine :=
  (heads.filterMap (·.machine.step.1.line)).reverse

theorem linesOf_cons (head : Session) (rest : List Session) :
    linesOf (head :: rest) = linesOf rest ++ head.machine.step.1.line.toList := by
  unfold linesOf
  cases ahead : head.machine.step.1.line with
  | none => simp [ahead]
  | some line => simp [ahead]

variable {options : RunOptions}

theorem retells_drive (scenario : Scenario) (remaining : Nat) (session : Session)
    (unaware : session.Unaware retelling) :
    Retells retelling session (linesOf (begun scenario remaining session))
        (drive scenario options remaining) (drive scenario options remaining) ∧
      begun scenario remaining (session.retold retelling) =
        (begun scenario remaining session).map (·.retold retelling) := by
  -- nothing that decides whether the loop goes on has to do with what was told
  induction remaining, session using loop_induction scenario with
  | left remaining session finished =>
      have finished' : (session.retold retelling).finished = true := finished
      unfold Retells
      rw [run_drive_of_finished finished, run_drive_of_finished finished',
        begun_of_finished finished, begun_of_finished finished']
      exact ⟨⟨rfl, rfl⟩, rfl⟩
  | spent session unfinished =>
      have unfinished' : (session.retold retelling).finished = false := unfinished
      unfold Retells
      rw [run_drive_zero unfinished, run_drive_zero unfinished']
      exact ⟨⟨rfl, rfl⟩, rfl⟩
  | fails remaining session error failed unfinished advances =>
      have unfinished' : (session.retold retelling).finished = false := unfinished
      have turn := retells_advance unaware
      unfold Retells at turn ⊢
      rw [advances] at turn
      rcases turn with ⟨shown, likewise⟩
      rw [begun_of_advance_error unfinished advances, begun_of_advance_error unfinished' likewise,
        run_drive_of_advance_error unfinished advances,
        run_drive_of_advance_error unfinished' likewise, linesOf_cons]
      exact ⟨⟨shown, rfl⟩, rfl⟩
  | ends remaining turn unfinished enough =>
      have unfinished' : (turn.before.retold retelling).finished = false := unfinished
      have enough' : satisfied scenario (turn.after.retold retelling) = true :=
        (turn.after.satisfied_retold scenario).trans enough
      have step := retells_advance unaware
      unfold Retells at step ⊢
      rw [turn.advances] at step
      rcases step with ⟨shown, likewise⟩
      rw [begun_of_advance_ok unfinished turn.advances, begun_of_advance_ok unfinished' likewise,
        run_drive_of_turn turn unfinished, run_drive_of_advance_ok unfinished' likewise,
        if_pos enough, if_pos enough, if_pos enough', if_pos enough', linesOf_cons]
      exact ⟨⟨shown, rfl⟩, rfl⟩
  | goesOn remaining turn unfinished further induction =>
      have unfinished' : (turn.before.retold retelling).finished = false := unfinished
      have further' : satisfied scenario (turn.after.retold retelling) = false :=
        (turn.after.satisfied_retold scenario).trans further
      have step := retells_advance unaware
      unfold Retells at step
      rw [turn.advances] at step
      rcases step with ⟨shown, likewise⟩
      rcases induction (unaware.of_subset turn.pending_subset) with ⟨rest, heads⟩
      rw [begun_of_advance_ok unfinished turn.advances, begun_of_advance_ok unfinished' likewise,
        further, further', linesOf_cons]
      constructor
      · apply retells_of_run _ shown _ _ rest
        · rw [run_drive_of_turn turn unfinished, further]
          rfl
        · rw [run_drive_of_advance_ok unfinished' likewise, further']
          rfl
      · exact congrArg _ heads

theorem retells_finish (scenario : Scenario) (session : Session) :
    Retells retelling session [] (finish scenario) (finish scenario) := by
  apply retells_get_bind
  simp only [Session.pending_retold]
  cases session.pending with
  | cons next rest =>
      have described : (retelling.expectation next).describe = next.describe := by
        cases next <;> rfl
      simp only [List.map_cons, List.length_map, described]
      exact retells_throw _
  | nil =>
      simp only [List.map_nil]
      cases scenario.returns with
      | none => exact retells_pure _
      | some returned =>
          cases returned with
          | integer value =>
              apply retells_bind (retells_pattern _)
              intro expected between _
              apply retells_get_bind
              apply retells_guard_bind
              exact retells_modify rfl (between.fulfill_retold _)
          | float bits =>
              apply retells_get_bind
              apply retells_guard_bind
              exact retells_modify rfl (session.fulfill_retold _)

theorem retells_complete (scenario : Scenario) (options : RunOptions)
    (unaware : session.Unaware retelling) :
    Retells retelling session (linesOf (begun scenario options.bound session))
      (complete scenario options) (complete scenario options) := by
  apply retells_bind (retells_drive scenario options.bound session unaware).1
  intro _ last _
  exact retells_finish scenario last

end Judging

end SuperHBench
