import SuperHBench.Proofs.Session.Judged

/-! # Invariants of judgements

Whether a judgement succeeds or fails, on its way it changes the machine, the coverage and
what is met and told, and nothing else of a session. Whatever does not depend on these is
kept by all judging actions, and the errors of an action are its own or those of a
callback. -/

namespace SuperHBench

def RunError.IsLimit (error : RunError) : Prop :=
  ∃ limit, error = .simulation (.instructionLimit limit)

namespace Session

/-- What a session on its way through a judgement has in common with the one before it. -/
structure Progress (before after : Session) : Prop where
  running : after.running = before.running
  callDepth : after.callDepth = before.callDepth
  latch : after.latch = before.latch
  resolution : after.resolution = before.resolution
  instructions : after.instructions = before.instructions
  pending : after.pending ⊆ before.pending

theorem progress_tell (session : Session) (event : Event) :
    session.Progress (session.tell event) :=
  ⟨rfl, rfl, rfl, rfl, rfl, List.Subset.refl _⟩

theorem progress_withMachine (session : Session) (machine : Machine) :
    session.Progress { session with machine } :=
  ⟨rfl, rfl, rfl, rfl, rfl, List.Subset.refl _⟩

theorem progress_withCoverage (session : Session) (coverage : Coverage) :
    session.Progress { session with coverage } :=
  ⟨rfl, rfl, rfl, rfl, rfl, List.Subset.refl _⟩

theorem progress_fulfill (session : Session) (text : String) :
    session.Progress (session.fulfill text) :=
  ⟨rfl, rfl, rfl, rfl, rfl, List.Subset.refl _⟩

theorem progress_consume (session : Session) (text : String) :
    session.Progress (session.consume text) :=
  ⟨rfl, rfl, rfl, rfl, rfl, fun _ => List.mem_of_mem_tail⟩

end Session

/-- What holds of a session through a judgement, and of the error and the session that a
judgement leaves when it fails. -/
structure Invariant where
  Holds : Session → Prop
  Fails : RunError → Session → Prop
  kept : ∀ {before after}, Holds before → before.Progress after → Holds after
  thrown : ∀ {session} {error : RunError}, Holds session → ¬error.IsLimit → Fails error session
  /-- A callback of an open call has failed. -/
  calledBack : ∀ {session failed call callback machine error}, Holds session →
    .call call ∈ session.pending → call.callback = some callback →
    callback machine call.arguments = .error error → Holds failed →
    Fails (.simulation error) failed

namespace Judging

def Keeps (invariant : Invariant) (action : Judging α) : Prop :=
  ∀ session, invariant.Holds session →
    match action.run session with
    | .ok _ after => invariant.Holds after
    | .error error after => invariant.Fails error after

variable {invariant : Invariant}

theorem Keeps.of_error {action : Judging α} {session after : Session} {error : RunError}
    (keeps : Keeps invariant action) (holds : invariant.Holds session)
    (fails : action.run session = .error error after) : invariant.Fails error after := by
  have kept := keeps session holds
  rw [fails] at kept
  exact kept

/-! ## Steps of an action -/

theorem keeps_pure (value : α) : Keeps invariant (pure value : Judging α) :=
  fun _ holds => holds

theorem keeps_throw {error : RunError} (own : ¬error.IsLimit) :
    Keeps invariant (throw error : Judging α) :=
  fun _ holds => invariant.thrown holds own

theorem keeps_set {session : Session} (holds : invariant.Holds session) :
    Keeps invariant (set session : Judging PUnit) :=
  fun _ _ => holds

theorem keeps_modify {change : Session → Session}
    (progress : ∀ session : Session, session.Progress (change session)) :
    Keeps invariant (modify change : Judging PUnit) :=
  fun session holds => invariant.kept holds (progress session)

theorem keeps_bind {action : Judging α} {next : α → Judging β} (first : Keeps invariant action)
    (second : ∀ value, Keeps invariant (next value)) : Keeps invariant (action >>= next) := by
  intro session holds
  have kept := first session holds
  rw [EStateM.run_bind]
  cases outcome : action.run session with
  | error error after =>
      rw [outcome] at kept
      exact kept
  | ok value between =>
      rw [outcome] at kept
      exact second value between kept

theorem keeps_get_bind {next : Session → Judging α}
    (rest : ∀ session, invariant.Holds session → Keeps invariant (next session)) :
    Keeps invariant (get >>= next) :=
  fun session holds => rest session holds session holds

theorem keeps_ite {condition : Prop} [Decidable condition] {first second : Judging α}
    (whenTrue : Keeps invariant first) (whenFalse : Keeps invariant second) :
    Keeps invariant (if condition then first else second) := by
  split
  · exact whenTrue
  · exact whenFalse

theorem keeps_guard_bind {condition : Prop} [Decidable condition] {error : RunError}
    {next : PUnit → Judging α} (own : ¬error.IsLimit) (rest : Keeps invariant (next ⟨⟩)) :
    Keeps invariant
      (if condition then (do let done ← throw error; next done) else next ⟨⟩) :=
  keeps_ite (keeps_bind (keeps_throw own) fun _ => rest) rest

theorem keeps_guard {condition : Prop} [Decidable condition] {error : RunError}
    (own : ¬error.IsLimit) :
    Keeps invariant (if condition then throw error else pure ⟨⟩ : Judging PUnit) :=
  keeps_ite (keeps_throw own) (keeps_pure _)

theorem not_isLimit_expectation (cause : ExpectationError) :
    ¬(RunError.expectation cause).IsLimit := by
  intro ⟨limit, same⟩
  cases same

theorem not_isLimit_fault (cause : Fault) : ¬(fault cause).IsLimit := by
  intro ⟨limit, same⟩
  cases same

theorem keeps_inspect (result : Except MemoryError α) : Keeps invariant (inspect result) := by
  cases result with
  | ok value => exact keeps_pure value
  | error error => exact keeps_throw (not_isLimit_fault _)

theorem keeps_pattern (result : Except RangeError α) : Keeps invariant (pattern result) := by
  cases result with
  | ok value => exact keeps_pure value
  | error error =>
      apply keeps_throw
      intro ⟨limit, same⟩
      cases same

/-! ## Calls -/

theorem keeps_checkArgument (machine : Machine) (function : String) (slot : ArgumentSlot)
    (argument : Argument) : Keeps invariant (checkArgument machine function slot argument) := by
  cases argument with
  | wildcard => exact keeps_pure _
  | scalar value =>
      cases value with
      | integer value =>
          apply keeps_bind (keeps_pattern _)
          intro expected
          apply keeps_bind (keeps_inspect _)
          intro ⟨actual, location⟩
          exact keeps_guard (not_isLimit_expectation _)
      | float bits =>
          apply keeps_bind (keeps_inspect _)
          intro ⟨actual, location⟩
          exact keeps_guard (not_isLimit_expectation _)
  | string expected =>
      apply keeps_bind (keeps_inspect _)
      intro ⟨pointer, location⟩
      apply keeps_bind (keeps_inspect _)
      intro actual
      exact keeps_guard (not_isLimit_expectation _)
  | stackPointer =>
      apply keeps_bind (keeps_inspect _)
      intro ⟨pointer, location⟩
      exact keeps_guard (not_isLimit_expectation _)

theorem keeps_checkArguments (machine : Machine) (function : String)
    (convention : CallingConvention) (arguments : List Argument) :
    Keeps invariant (checkArguments machine function convention arguments) := by
  induction arguments generalizing convention with
  | nil => exact keeps_pure _
  | cons argument rest induction =>
      apply keeps_bind (keeps_checkArgument _ _ _ argument)
      intro _
      exact induction _

theorem keeps_runCallback {call : CallExpectation} {session : Session}
    (holds : invariant.Holds session) (waits : .call call ∈ session.pending) :
    Keeps invariant (runCallback call) := by
  unfold runCallback
  cases found : call.callback with
  | none => exact keeps_pure _
  | some callback =>
      apply keeps_get_bind
      intro current still
      apply keeps_bind
      · exact keeps_set (invariant.kept still (current.progress_tell _))
      · intro _
        cases outcome : callback current.machine call.arguments with
        | ok machine => exact keeps_modify fun session => session.progress_withMachine machine
        | error error =>
            exact fun failed left => invariant.calledBack holds waits found outcome left

theorem keeps_giveResult (returns : Option Scalar) : Keeps invariant (giveResult returns) := by
  cases returns with
  | none => exact keeps_pure _
  | some returned =>
      cases returned with
      | integer value =>
          apply keeps_bind (keeps_pattern _)
          intro contents
          exact keeps_modify fun session => session.progress_withMachine _
      | float bits => exact keeps_modify fun session => session.progress_withMachine _

theorem keeps_meetCall (name : Option String) (readable : String) :
    Keeps invariant (meetCall name readable) := by
  apply keeps_get_bind
  intro session holds
  cases front : session.pending with
  | nil => exact keeps_throw (not_isLimit_expectation _)
  | cons next rest =>
      cases next with
      | read | write | stringWrite => exact keeps_throw (not_isLimit_expectation _)
      | call call =>
          have waits : .call call ∈ session.pending := by simp [front]
          apply keeps_guard_bind (not_isLimit_expectation _)
          apply keeps_bind (keeps_checkArguments _ _ _ _)
          intro _
          apply keeps_bind (keeps_runCallback holds waits)
          intro _
          apply keeps_bind (keeps_giveResult call.returns)
          intro _
          exact keeps_modify fun session => session.progress_consume _

theorem not_isLimit_of_run {routine : Intrinsic} {machine : Machine} {error : SimulationError}
    (fails : routine.run machine = .error error) : ¬(RunError.simulation error).IsLimit := by
  intro ⟨limit, same⟩
  cases same
  simp only [Intrinsic.run] at fails
  split at fails
  · cases fails
  · cases fails

theorem keeps_judgeCall (target : UInt32) : Keeps invariant (judgeCall target) := by
  apply keeps_get_bind
  intro session holds
  dsimp only
  split
  · split
    · exact keeps_set (invariant.kept holds (session.progress_withMachine _))
    · rename_i fails
      exact keeps_throw (not_isLimit_of_run fails)
  · exact keeps_meetCall _ _

/-! ## Accesses -/

theorem keeps_meetRead (expected : MemoryAccess) (source : UInt32) (value : Value) :
    Keeps invariant (meetRead expected source value) := by
  apply keeps_ite
  · apply keeps_get_bind
    intro session holds
    dsimp only
    split
    · exact keeps_throw (not_isLimit_expectation _)
    · exact keeps_set (invariant.kept holds (session.progress_consume _))
  · exact keeps_pure _

theorem keeps_judgeRead (source : UInt32) (value : Value) :
    Keeps invariant (judgeRead source value) := by
  unfold judgeRead
  apply keeps_bind
  · exact keeps_modify fun session => session.progress_withCoverage _
  · intro _
    apply keeps_get_bind
    intro session holds
    split
    · apply keeps_throw
      intro ⟨limit, same⟩
      cases same
    · split
      · exact keeps_meetRead _ _ _
      · exact keeps_pure _

theorem keeps_meetWrite (expected : MemoryAccess) (target : UInt32) (value : Value) :
    Keeps invariant (meetWrite expected target value) := by
  apply keeps_get_bind
  intro session holds
  dsimp only
  split
  · exact keeps_throw (not_isLimit_expectation _)
  · exact keeps_set (invariant.kept holds (session.progress_consume _))

theorem keeps_meetStringWrite (address : UInt32) (contents : List UInt8) (target : UInt32)
    (value : Value) : Keeps invariant (meetStringWrite address contents target value) := by
  apply keeps_get_bind
  intro session holds
  apply keeps_guard_bind (not_isLimit_expectation _)
  apply keeps_bind (keeps_inspect _)
  intro written
  apply keeps_guard_bind (not_isLimit_expectation _)
  apply keeps_guard_bind (not_isLimit_expectation _)
  exact keeps_set (invariant.kept holds (session.progress_consume _))

theorem keeps_judgeWrite (target : UInt32) (value : Value) :
    Keeps invariant (judgeWrite target value) := by
  unfold judgeWrite
  apply keeps_bind
  · exact keeps_modify fun session => session.progress_withCoverage _
  · intro _
    apply keeps_get_bind
    intro session holds
    apply keeps_ite
    · exact keeps_set (invariant.kept holds (session.progress_tell _))
    · split
      · exact keeps_meetWrite _ _ _
      · exact keeps_meetStringWrite _ _ _ _
      · exact keeps_throw (not_isLimit_expectation _)

/-! ## Judgements that fail -/

theorem fails_of_run_judgeBranch_eq_error {latch : Latch} {session after : Session}
    {error : RunError} (holds : invariant.Holds session)
    (fails : (judgeBranch latch).run session = .error error after) :
    invariant.Fails error after := by
  unfold judgeBranch at fails
  rw [EStateM.run_bind, EStateM.run_get] at fails
  dsimp only at fails
  split at fails
  · rw [EStateM.run_bind] at fails
    -- what follows a call that was answered cannot fail
    cases answered : (judgeCall latch.target).run session with
    | error cause failed =>
        rw [answered] at fails
        cases fails
        exact (keeps_judgeCall latch.target).of_error holds answered
    | ok result called =>
        rw [answered] at fails
        cases links : latch.kind.isCall with
        | true =>
            rw [links] at fails
            cases fails
        | false =>
            rw [links] at fails
            cases fails
  · split at fails
    · cases fails
    · cases fails

end Judging

theorem Deed.fails_of_run_judge_eq_error (invariant : Invariant) {deed : Deed}
    {before after : Session} {error : RunError} (holds : invariant.Holds before)
    (fails : deed.judge.run before = .error error after) : invariant.Fails error after := by
  cases deed with
  | instruction operation =>
      cases operation with
      | generic | flow => cases fails
      | read source value => exact (Judging.keeps_judgeRead source value).of_error holds fails
      | write target value => exact (Judging.keeps_judgeWrite target value).of_error holds fails
      | branch code kind target => cases kind <;> cases fails
  | branch latch => exact Judging.fails_of_run_judgeBranch_eq_error holds fails

end SuperHBench
