import SuperHBench.Proofs.Session.Judgements

/-! # Passing runs

A run that passes begins with a fresh session, takes turns until the loop is left, and
leaves nothing open: no expectation, and no result that differs from the one that is
asked for. -/

namespace SuperHBench

/-! ## Results -/

def Session.Answers (session : Session) (returns : Option Scalar) (final : Session) : Prop :=
  match returns with
  | none => final = session
  | some (.integer value) =>
      ∃ contents, Value.patternOfInt value = .ok contents ∧
        session.machine.register .zero = contents ∧
        final = session.fulfill s!"Returned {integerText contents}"
  | some (.float bits) =>
      session.machine.float .zero = bits ∧
        final = session.fulfill s!"Returned float {Text.single bits}"

theorem Session.Answers.fulfilled {session final : Session} {returns : Option Scalar}
    (answers : session.Answers returns final) :
    final.fulfilled = session.fulfilled + if returns.isSome then 1 else 0 := by
  unfold Session.Answers at answers
  split at answers
  · rw [answers]
    rfl
  · rcases answers with ⟨contents, _, _, same⟩
    rw [same]
    rfl
  · rw [answers.2]
    rfl

theorem Session.Answers.instructions {session final : Session} {returns : Option Scalar}
    (answers : session.Answers returns final) :
    final.instructions = session.instructions := by
  unfold Session.Answers at answers
  split at answers
  · rw [answers]
  · rcases answers with ⟨contents, _, _, same⟩
    rw [same]
    rfl
  · rw [answers.2]
    rfl

namespace Judging

theorem run_checkReturn_eq_ok_iff {returns : Option Scalar} {session final : Session} :
    (checkReturn returns).run session = .ok ⟨⟩ final ↔ session.Answers returns final := by
  unfold Session.Answers
  cases returns with
  | none =>
      simp only [checkReturn, EStateM.run_pure, EStateM.Result.ok.injEq, true_and]
      exact eq_comm
  | some returned =>
      cases returned with
      | integer value =>
          simp only [checkReturn]
          rw [run_bind_eq_ok_iff]
          simp only [run_pattern_eq_ok_iff, EStateM.run_bind, EStateM.run_get]
          constructor
          · intro ⟨contents, between, ⟨found, same⟩, checked⟩
            subst same
            by_cases equal : session.machine.register .zero = contents
            · simp [equal] at checked
              exact ⟨contents, found, equal, checked.symm⟩
            · simp [equal] at checked
          · intro ⟨contents, found, equal, same⟩
            refine ⟨contents, session, ⟨found, rfl⟩, ?_⟩
            simp [equal, same]
      | float bits =>
          simp only [checkReturn, EStateM.run_bind, EStateM.run_get]
          by_cases equal : session.machine.float .zero = bits
          · simp [equal, eq_comm]
          · simp [equal]

theorem run_finish_eq_ok_iff {scenario : Scenario} {session final : Session} :
    (finish scenario).run session = .ok ⟨⟩ final ↔
      session.pending = [] ∧ session.Answers scenario.returns final := by
  unfold finish
  rw [EStateM.run_bind, EStateM.run_get]
  constructor
  · intro succeeds
    simp only at succeeds
    split at succeeds
    · rename_i empty
      exact ⟨empty, run_checkReturn_eq_ok_iff.mp succeeds⟩
    · cases succeeds
  · intro ⟨empty, answers⟩
    simp only [empty]
    exact run_checkReturn_eq_ok_iff.mpr answers

end Judging

/-! ## Preparation -/

theorem except_bind_eq_ok_iff {action : Except ε α} {next : α → Except ε β} {result : β} :
    (action >>= next) = .ok result ↔ ∃ value, action = .ok value ∧ next value = .ok result := by
  cases action with
  | error error => simp [bind, Except.bind]
  | ok value => simp [bind, Except.bind]

theorem Scenario.prepare_eq_ok_iff {scenario : Scenario} {linked : LinkedObject}
    {listing : Bool} {noise : Nat → UInt8} {first : Session} :
    scenario.prepare linked listing noise = .ok first ↔
      ∃ memory resolution patched entry machine,
        scenario.memory linked noise = .ok memory ∧
        linked.resolveIn scenario.bindings memory = .ok (resolution, patched) ∧
        linked.exportAddress? scenario.entry = some entry ∧
        Machine.placeArguments { Machine.start patched with listing, pc := entry }
          scenario.arguments = .ok machine ∧
        first = .start machine
          (scenario.expectations.map (·.locate linked scenario.bindings)) resolution := by
  unfold Scenario.prepare
  simp only [except_bind_eq_ok_iff]
  constructor
  · intro ⟨memory, held, ⟨resolution, patched⟩, resolved, started⟩
    cases exported : linked.exportAddress? scenario.entry with
    | none =>
        rw [exported] at started
        cases started
    | some entry =>
        simp only [exported] at started
        split at started
        · cases started
        · rename_i machine placed
          cases started
          exact ⟨memory, resolution, patched, entry, machine, held, resolved, rfl, placed, rfl⟩
  · intro ⟨memory, resolution, patched, entry, machine, held, resolved, exported, placed, same⟩
    refine ⟨memory, held, (resolution, patched), resolved, ?_⟩
    simp only [exported, placed, same]
    rfl

theorem Scenario.prepare_eq_start {scenario : Scenario} {linked : LinkedObject}
    {listing : Bool} {noise : Nat → UInt8} {first : Session}
    (prepared : scenario.prepare linked listing noise = .ok first) :
    ∃ machine resolution, first =
      .start machine (scenario.expectations.map (·.locate linked scenario.bindings))
        resolution := by
  rcases prepare_eq_ok_iff.mp prepared with
    ⟨_, resolution, _, _, machine, _, _, _, _, fresh⟩
  exact ⟨machine, resolution, fresh⟩

theorem Scenario.exists_call_of_prepare {scenario : Scenario} {linked : LinkedObject}
    {listing : Bool} {noise : Nat → UInt8} {first : Session} {call : CallExpectation}
    (prepared : scenario.prepare linked listing noise = .ok first)
    (waits : .call call ∈ first.pending) :
    ∃ expected, .call expected ∈ scenario.expectations ∧
      call = expected.locate linked scenario.bindings := by
  rcases prepare_eq_start prepared with ⟨machine, resolution, rfl⟩
  rcases List.mem_map.mp waits with ⟨expectation, member, located⟩
  cases expectation with
  | call expected =>
      cases located
      exact ⟨expected, member, rfl⟩
  | read | write | stringWrite => cases located

theorem Scenario.latch_of_prepare {scenario : Scenario} {linked : LinkedObject}
    {listing : Bool} {noise : Nat → UInt8} {first : Session}
    (prepared : scenario.prepare linked listing noise = .ok first) : first.latch = none := by
  rcases prepare_eq_start prepared with ⟨machine, resolution, fresh⟩
  rw [fresh]
  rfl

/-! ## The whole run -/

/-- A run of a scenario that passes, turn by turn. -/
structure PassingRun (scenario : Scenario) (linked : LinkedObject) (options : RunOptions)
    (noise : Nat → UInt8) where
  first : Session
  turns : List Turn
  last : Session
  final : Session
  prepared : scenario.prepare linked options.listing noise = .ok first
  reached : Reaches scenario options first turns last
  stops : Stops scenario turns last
  satisfied : last.pending = []
  answers : last.Answers scenario.returns final

theorem Scenario.execute_eq_ok_iff {scenario : Scenario} {linked : LinkedObject}
    {options : RunOptions} {noise : Nat → UInt8} {report : RunReport} :
    (scenario.execute linked options noise).result = .ok report ↔
      ∃ run : PassingRun scenario linked options noise, run.final.report = report := by
  unfold Scenario.execute
  constructor
  · intro passes
    cases prepared : scenario.prepare linked options.listing noise with
    | error error =>
        rw [prepared] at passes
        cases passes
    | ok first =>
        simp only [prepared] at passes
        cases outcome : (Judging.complete scenario options).run first with
        | error error failed =>
            rw [outcome] at passes
            cases passes
        | ok result final =>
            rw [outcome] at passes
            cases passes
            rcases Judging.run_then_eq_ok_iff.mp outcome with ⟨last, driven, finished⟩
            rcases Judging.run_drive_eq_ok_iff.mp driven with ⟨turns, reached, stops⟩
            rcases Judging.run_finish_eq_ok_iff.mp finished with ⟨satisfied, answers⟩
            exact ⟨⟨first, turns, last, final, prepared, reached, stops, satisfied, answers⟩, rfl⟩
  · intro ⟨run, same⟩
    have driven := Judging.run_drive_eq_ok_iff.mpr ⟨run.turns, run.reached, run.stops⟩
    have finished := Judging.run_finish_eq_ok_iff.mpr ⟨run.satisfied, run.answers⟩
    have outcome : (Judging.complete scenario options).run run.first = .ok ⟨⟩ run.final :=
      Judging.run_then_eq_ok_iff.mpr ⟨run.last, driven, finished⟩
    simp only [run.prepared, outcome]
    exact congrArg Except.ok same

theorem Scenario.execute_eq_error_of_attempts {scenario : Scenario} {linked : LinkedObject}
    {options : RunOptions} {noise : Nat → UInt8} {first session failed : Session} {deed : Deed}
    {error : RunError} (prepared : scenario.prepare linked options.listing noise = .ok first)
    (attempts : Attempts scenario options first deed session)
    (fails : deed.judge.run session = .error error failed) :
    (scenario.execute linked options noise).result = .error error := by
  have outcome : (Judging.complete scenario options).run first = .error error failed := by
    rw [Judging.complete, EStateM.run_bind, attempts.run_drive_eq_error fails]
  simp only [execute, prepared, outcome]

def RunOutcome.fulfilled? (outcome : RunOutcome) : Option Nat :=
  outcome.result.toOption.map RunReport.fulfilled

theorem RunOutcome.fulfilled?_eq_some_iff {outcome : RunOutcome} {count : Nat} :
    outcome.fulfilled? = some count ↔
      ∃ report, outcome.result = .ok report ∧ report.fulfilled = count := by
  unfold RunOutcome.fulfilled?
  cases outcome.result with
  | error error => simp [Except.toOption]
  | ok report => simp [Except.toOption]

def RunOutcome.failure? (outcome : RunOutcome) : Option RunError :=
  match outcome.result with
  | .ok _ => none
  | .error error => some error

theorem RunOutcome.failure?_eq_some_iff {outcome : RunOutcome} {error : RunError} :
    outcome.failure? = some error ↔ outcome.result = .error error := by
  unfold RunOutcome.failure?
  cases outcome.result with
  | ok report => simp
  | error cause => simp

end SuperHBench
