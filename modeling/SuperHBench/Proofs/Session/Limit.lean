import SuperHBench.Proofs.Session.Begun
import SuperHBench.Proofs.Session.Consumption

/-! # The limit of a run

The limit bounds the instructions of a run and does nothing else. It is reported only when
that many instructions have run; a run that fits into it is the same under any limit that
is no lower, and under none. -/

namespace SuperHBench

/-! ## Where the limit is reported -/

def CallExpectation.SparesLimit (call : CallExpectation) : Prop :=
  ∀ callback machine limit, call.callback = some callback →
    callback machine call.arguments ≠ .error (.instructionLimit limit)

def Session.SparesLimit (session : Session) : Prop :=
  ∀ call, .call call ∈ session.pending → call.SparesLimit

def Invariant.sparesLimit : Invariant where
  Holds := Session.SparesLimit
  Fails error _ := ¬error.IsLimit
  kept spares progress call waits := spares call (progress.pending waits)
  thrown _ own := own
  calledBack spares waits found outcome _ := by
    intro ⟨limit, same⟩
    cases same
    exact spares _ waits _ _ limit found outcome

theorem Session.SparesLimit.of_subset {before after : Session} (spares : before.SparesLimit)
    (fewer : after.pending ⊆ before.pending) : after.SparesLimit :=
  fun call waits => spares call (fewer waits)

namespace Judging

variable {scenario : Scenario} {options : RunOptions} {session : Session}

theorem not_isLimit_of_run_advance {failed : Session} {error : RunError}
    (spares : session.SparesLimit)
    (fails : advance.run session = .error error failed) : ¬error.IsLimit := by
  cases outcome : session.machine.step.2 with
  | error cause =>
      rw [run_advance_of_fault outcome] at fails
      cases fails
      exact not_isLimit_fault cause
  | ok operation =>
      rw [run_advance_of_step outcome, EStateM.run_bind] at fails
      cases judged : (judge operation).run session.stepped with
      | error cause stopped =>
          rw [judged] at fails
          cases fails
          have stepped : session.stepped.SparesLimit := spares
          exact (Deed.instruction operation).fails_of_run_judge_eq_error .sparesLimit stepped judged
      | ok result between =>
          rw [judged] at fails
          have effect := (Deed.instruction operation).run_judge_eq_ok_iff.mp judged
          cases waiting : session.latch with
          | none =>
              rw [waiting] at fails
              cases fails
          | some latch =>
              rw [waiting] at fails
              exact (Deed.branch latch).fails_of_run_judge_eq_error .sparesLimit
                (spares.of_subset effect.pending_subset) fails

/-- The limit is reached after as many instructions, all of which have run. -/
structure LimitReached (scenario : Scenario) (options : RunOptions) (remaining : Nat)
    (session : Session) (error : RunError) : Prop where
  reason : error = .simulation (.instructionLimit options.bound)
  count : (begun scenario remaining session).length = remaining
  ran : ∀ head ∈ begun scenario remaining session, ∃ operation, head.machine.step.2 = .ok operation

theorem limitReached_of_isLimit {remaining : Nat} {failed : Session} {error : RunError}
    (spares : session.SparesLimit)
    (fails : (drive scenario options remaining).run session = .error error failed)
    (limit : error.IsLimit) : LimitReached scenario options remaining session error := by
  induction remaining, session using loop_induction scenario with
  | left remaining session finished =>
      rw [run_drive_of_finished finished] at fails
      cases fails
  | spent session unfinished =>
      rw [run_drive_zero unfinished] at fails
      cases fails
      exact ⟨rfl, rfl, fun head member => absurd member List.not_mem_nil⟩
  | fails remaining session cause stopped unfinished advances =>
      rw [run_drive_of_advance_error unfinished advances] at fails
      cases fails
      exact absurd limit (not_isLimit_of_run_advance spares advances)
  | ends remaining turn unfinished enough =>
      rw [run_drive_of_turn turn unfinished, if_pos enough] at fails
      cases fails
  | goesOn remaining turn unfinished further induction =>
      rw [run_drive_of_turn turn unfinished, further] at fails
      have rest := induction (spares.of_subset turn.pending_subset) fails
      have row : begun scenario (remaining + 1) turn.before = _ :=
        begun_of_advance_ok unfinished turn.advances
      rw [further] at row
      constructor
      case reason => exact rest.reason
      case count => rw [row, List.length_cons, if_neg Bool.false_ne_true, rest.count]
      case ran =>
        intro head member
        rw [row] at member
        rcases List.mem_cons.mp member with rfl | later
        · exact ⟨turn.operation, turn.steps⟩
        · exact rest.ran head later

theorem keeps_checkReturn {invariant : Invariant} (returns : Option Scalar) :
    Keeps invariant (checkReturn returns) := by
  cases returns with
  | none => exact keeps_pure _
  | some returned =>
      cases returned with
      | integer value =>
          apply keeps_bind (keeps_pattern _)
          intro expected
          apply keeps_get_bind
          intro session holds
          apply keeps_guard_bind (not_isLimit_expectation _)
          exact keeps_modify fun session => session.progress_fulfill _
      | float bits =>
          apply keeps_get_bind
          intro session holds
          apply keeps_guard_bind (not_isLimit_expectation _)
          exact keeps_modify fun session => session.progress_fulfill _

theorem keeps_finish {invariant : Invariant} (scenario : Scenario) :
    Keeps invariant (finish scenario) := by
  apply keeps_get_bind
  intro session holds
  split
  · exact keeps_checkReturn scenario.returns
  · exact keeps_throw (not_isLimit_expectation _)

end Judging

/-! ## Preparation -/

theorem except_bind_eq_error_iff {action : Except ε α} {next : α → Except ε β} {error : ε} :
    (action >>= next) = .error error ↔
      action = .error error ∨ ∃ value, action = .ok value ∧ next value = .error error := by
  cases action with
  | error cause => simp [bind, Except.bind]
  | ok value => simp [bind, Except.bind]

namespace Scenario

variable {scenario : Scenario} {linked : LinkedObject} {listing : Bool} {noise : Nat → UInt8}

theorem eq_unsupported_of_initialize {initializations : List Initialization} {memory : Memory}
    {error : RunError}
    (fails : initializations.foldlM Initialization.apply memory = .error error) :
    ∃ what, error = .unsupported what := by
  induction initializations generalizing memory with
  | nil => cases fails
  | cons initialization rest induction =>
      rw [List.foldlM_cons, except_bind_eq_error_iff] at fails
      rcases fails with here | ⟨between, _, later⟩
      · unfold Initialization.apply at here
        split at here
        · cases here
        · cases here
          exact ⟨_, rfl⟩
      · exact induction later

theorem ne_simulation_of_prepare {error : RunError}
    (fails : scenario.prepare linked listing noise = .error error) (cause : SimulationError) :
    error ≠ .simulation cause := by
  unfold prepare at fails
  rw [except_bind_eq_error_iff] at fails
  rcases fails with unfit | ⟨memory, _, fails⟩
  · rcases eq_unsupported_of_initialize unfit with ⟨what, rfl⟩
    simp
  rw [except_bind_eq_error_iff] at fails
  rcases fails with unresolved | ⟨⟨resolution, patched⟩, _, fails⟩
  · unfold LinkedObject.resolveIn at unresolved
    split at unresolved
    · cases unresolved
    · cases unresolved
      simp
  simp only at fails
  split at fails
  · cases fails
    simp
  · split at fails
    · cases fails
      simp
    · cases fails

/-! ## Whole runs -/

def SparesLimit (scenario : Scenario) : Prop :=
  ∀ call, .call call ∈ scenario.expectations → call.SparesLimit

theorem SparesLimit.of_prepare {first : Session} (spares : scenario.SparesLimit)
    (prepared : scenario.prepare linked listing noise = .ok first) : first.SparesLimit := by
  intro call waits
  rcases exists_call_of_prepare prepared waits with ⟨expected, member, rfl⟩
  exact spares expected member

/-- The sessions in which a run begins an instruction. Each of them takes the machine one
step further, unless that step fails. -/
def begun (scenario : Scenario) (linked : LinkedObject) (options : RunOptions)
    (noise : Nat → UInt8) : List Session :=
  match scenario.prepare linked options.listing noise with
  | .ok first => Judging.begun scenario options.bound first
  | .error _ => []

variable {options others : RunOptions}

theorem begun_eq {first : Session}
    (prepared : scenario.prepare linked options.listing noise = .ok first) :
    scenario.begun linked options noise = Judging.begun scenario options.bound first := by
  simp only [begun, prepared]

theorem execute_eq_of_run_drive_eq (listed : others.listing = options.listing)
    (same : ∀ first, scenario.prepare linked options.listing noise = .ok first →
      (Judging.drive scenario others others.bound).run first =
        (Judging.drive scenario options options.bound).run first) :
    scenario.execute linked others noise = scenario.execute linked options noise := by
  unfold execute
  rw [listed]
  cases prepared : scenario.prepare linked options.listing noise with
  | error error => rfl
  | ok first =>
      have completes : (Judging.complete scenario others).run first =
          (Judging.complete scenario options).run first := by
        rw [Judging.complete, Judging.complete, EStateM.run_bind, EStateM.run_bind,
          same first prepared]
      simp only [completes]

theorem result_eq_error_of_run_drive {first failed : Session} {error : RunError}
    (prepared : scenario.prepare linked options.listing noise = .ok first)
    (fails : (Judging.drive scenario options options.bound).run first = .error error failed) :
    (scenario.execute linked options noise).result = .error error := by
  have completes : (Judging.complete scenario options).run first = .error error failed := by
    rw [Judging.complete, EStateM.run_bind, fails]
  simp only [execute, prepared, completes]

theorem length_begun_of_execute {report : RunReport}
    (passes : (scenario.execute linked options noise).result = .ok report) :
    (scenario.begun linked options noise).length = report.instructions := by
  rcases execute_eq_ok_iff.mp passes with ⟨run, rfl⟩
  rw [begun_eq run.prepared, Judging.begun_eq_of_stops run.reached run.stops, List.length_map]
  exact run.conforms.instructions.symm

theorem limitReached_of_execute {count : Nat} (spares : scenario.SparesLimit)
    (fails : (scenario.execute linked options noise).result =
      .error (.simulation (.instructionLimit count))) :
    ∃ first, scenario.prepare linked options.listing noise = .ok first ∧
      Judging.LimitReached scenario options options.bound first
        (.simulation (.instructionLimit count)) := by
  have isLimit : (RunError.simulation (.instructionLimit count)).IsLimit := ⟨count, rfl⟩
  unfold execute at fails
  cases prepared : scenario.prepare linked options.listing noise with
  | error error =>
      rw [prepared] at fails
      cases fails
      exact absurd rfl (ne_simulation_of_prepare prepared _)
  | ok first =>
      have sparing := spares.of_prepare prepared
      refine ⟨first, rfl, ?_⟩
      simp only [prepared, Judging.complete, EStateM.run_bind] at fails
      cases driven : (Judging.drive scenario options options.bound).run first with
      | error error failed =>
          rw [driven] at fails
          cases fails
          exact Judging.limitReached_of_isLimit sparing driven isLimit
      | ok result last =>
          -- the end of a run only complains about expectations and results
          rcases Judging.run_drive_eq_ok_iff.mp driven with ⟨turns, reached, _⟩
          have still := reached.invariant Session.SparesLimit sparing
            fun turn spares => spares.of_subset turn.pending_subset
          have keeps : Judging.Keeps .sparesLimit (Judging.finish scenario) :=
            Judging.keeps_finish scenario
          rw [driven] at fails
          dsimp only at fails
          cases finished : (Judging.finish scenario).run last with
          | ok result final =>
              rw [finished] at fails
              cases fails
          | error error failed =>
              rw [finished] at fails
              cases fails
              exact absurd isLimit (keeps.of_error still finished)

end Scenario

def RunOptions.limited (options : RunOptions) (limit : Option UInt64) : RunOptions :=
  { options with limit := limit.map UInt64.toNat }

theorem RunOptions.bound_of_unlimited {options : RunOptions} (unlimited : options.limit = none) :
    options.bound = Word.count 64 := by
  rw [bound, unlimited, Option.getD_none]

theorem RunOptions.le_bound_limited (options : RunOptions) {limit : UInt64}
    {more : Option UInt64} (higher : ∀ other ∈ more, limit ≤ other) :
    limit.toNat ≤ (options.limited more).bound := by
  cases more with
  | none =>
      have full : limit.toNat < Word.count 64 := limit.toNat_lt
      rw [bound_of_unlimited rfl]
      exact Nat.le_of_lt full
  | some other => exact UInt64.le_iff_toNat_le.mp (higher other rfl)

structure Scenario.Watched (scenario : Scenario) (linked : LinkedObject) (options : RunOptions)
    (noise : Nat → UInt8) (limit : UInt64) : Prop where
  bounded : (scenario.begun linked (options.limited limit) noise).length ≤ limit.toNat
  turns : ∀ first, scenario.prepare linked options.listing noise = .ok first → ∀ head,
    head ∈ scenario.begun linked (options.limited limit) noise ↔
      ∃ turns, Reaches scenario (options.limited limit) first turns head ∧
        GoesOn scenario (options.limited limit) turns head
  counted : ∀ report, (scenario.execute linked (options.limited limit) noise).result = .ok report →
    report.instructions = (scenario.begun linked (options.limited limit) noise).length
  reported : ∀ count,
    (scenario.execute linked (options.limited limit) noise).result =
      .error (.simulation (.instructionLimit count)) →
    count = limit.toNat ∧
      (scenario.begun linked (options.limited limit) noise).length = limit.toNat ∧
      ∀ head ∈ scenario.begun linked (options.limited limit) noise,
        ∃ operation, head.machine.step.2 = .ok operation
  /-- Any other outcome is that of all higher limits, and of none. -/
  unlimited : (∀ count, (scenario.execute linked (options.limited limit) noise).result ≠
      .error (.simulation (.instructionLimit count))) →
    ∀ more : Option UInt64, (∀ higher ∈ more, limit ≤ higher) →
      scenario.execute linked (options.limited more) noise =
        scenario.execute linked (options.limited limit) noise
  /-- A run that passes with as many instructions is not cut by the limit. -/
  fits : ∀ other report,
    (scenario.execute linked (options.limited other) noise).result = .ok report →
    report.instructions = limit.toNat →
    scenario.execute linked (options.limited limit) noise =
      scenario.execute linked (options.limited other) noise

theorem Scenario.watched (scenario : Scenario) (linked : LinkedObject) (options : RunOptions)
    (noise : Nat → UInt8) (limit : UInt64) (spares : scenario.SparesLimit) :
    scenario.Watched linked options noise limit := by
  constructor
  case bounded =>
    cases prepared : scenario.prepare linked (options.limited limit).listing noise with
    | error error =>
        simp only [begun, prepared]
        exact Nat.zero_le _
    | ok first =>
        rw [begun_eq prepared]
        exact Judging.length_begun_le _ _ _
  case turns =>
    intro first prepared head
    have row : scenario.begun linked (options.limited limit) noise = _ := begun_eq prepared
    rw [row]
    exact Judging.mem_begun_iff
  case counted =>
    intro report passes
    exact (length_begun_of_execute passes).symm
  case reported =>
    intro count fails
    rcases limitReached_of_execute spares fails with ⟨first, prepared, reached⟩
    rw [begun_eq prepared]
    have same : count = limit.toNat := by
      have reason := reached.reason
      simp only [RunError.simulation.injEq, SimulationError.instructionLimit.injEq] at reason
      exact reason
    exact ⟨same, reached.count, reached.ran⟩
  case unlimited =>
    intro other more higher
    refine execute_eq_of_run_drive_eq (by rfl) fun first prepared => ?_
    apply Judging.run_drive_eq_of_length_begun_le
    · rintro error failed fails ⟨count, rfl⟩
      exact other count (result_eq_error_of_run_drive prepared fails)
    · exact Nat.le_trans (Judging.length_begun_le _ _ _) (options.le_bound_limited higher)
  case fits =>
    intro other report passes count
    refine execute_eq_of_run_drive_eq (by rfl) fun first prepared => ?_
    apply Judging.run_drive_eq_of_length_begun_le
    · intro error failed fails
      rw [result_eq_error_of_run_drive prepared fails] at passes
      cases passes
    · rw [← begun_eq prepared, length_begun_of_execute passes, count]
      exact Nat.le_refl _

/-- The scenario of `relay` with a callback that leaves its mark in the machine. -/
def markedRelay : Scenario :=
  { relay with
    expectations := [
      .read ⟨12, .long 0x800⟩,
      .call ⟨"_ask", none, [.scalar (.integer 7)], some (.integer 5),
        some fun machine _ => .ok (machine.setRegister 8 1)⟩,
      .write ⟨0x800, .long 5⟩] }

theorem markedRelay_watched :
    markedRelay.SparesLimit ∧
      markedRelay.Watched relayText.linked {} (fun _ => 0) 6 ∧
      markedRelay.Watched relayText.linked {} (fun _ => 0) 5 ∧
      (∃ report, (markedRelay.execute relayText.linked (RunOptions.limited {} (some 6))
        fun _ => 0).result = .ok report ∧ report.instructions = 6) ∧
      (markedRelay.execute relayText.linked (RunOptions.limited {} (some 5))
        fun _ => 0).result = .error (.simulation (.instructionLimit 5)) := by
  have spares : markedRelay.SparesLimit := by
    intro call waits callback machine limit found
    simp only [markedRelay, List.mem_cons, reduceCtorEq, Expectation.call.injEq, false_or,
      List.not_mem_nil, or_false] at waits
    subst waits
    cases found
    simp
  have long : (markedRelay.execute relayText.linked (RunOptions.limited {} (some 6))
      fun _ => 0).result.toOption.any (·.instructions = 6) = true := by decide +kernel
  have short : (markedRelay.execute relayText.linked (RunOptions.limited {} (some 5))
      fun _ => 0).failure? = some (.simulation (.instructionLimit 5)) := by decide +kernel
  rcases exists_ok_of_any long with ⟨report, passes, six⟩
  exact ⟨spares, markedRelay.watched _ _ _ 6 spares, markedRelay.watched _ _ _ 5 spares,
    ⟨report, passes, of_decide_eq_true six⟩, RunOutcome.failure?_eq_some_iff.mp short⟩

end SuperHBench
