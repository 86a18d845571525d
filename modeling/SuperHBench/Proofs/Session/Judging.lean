import SuperHBench.Proofs.Session.Judged

/-! # Judging

The judging actions succeed in exactly the ways that `Judged` lists. Nothing beyond
this module looks into an action again. -/

namespace SuperHBench

namespace Judging

/-! ## Successful actions -/

theorem run_bind_eq_ok_iff {action : Judging α} {next : α → Judging β} {result : β}
    {session after : Session} :
    (action >>= next).run session = .ok result after ↔
      ∃ value between, action.run session = .ok value between ∧
        (next value).run between = .ok result after := by
  rw [EStateM.run_bind]
  constructor
  · intro succeeds
    cases outcome : action.run session with
    | ok value between =>
        rw [outcome] at succeeds
        exact ⟨value, between, rfl, succeeds⟩
    | error error between =>
        rw [outcome] at succeeds
        cases succeeds
  · intro ⟨value, between, first, second⟩
    rw [first]
    exact second

/-- The form of `run_bind_eq_ok_iff` for actions without a result. -/
theorem run_then_eq_ok_iff {action : Judging PUnit} {next : PUnit → Judging α} {result : α}
    {session after : Session} :
    (action >>= next).run session = .ok result after ↔
      ∃ between, action.run session = .ok ⟨⟩ between ∧
        (next ⟨⟩).run between = .ok result after := by
  rw [run_bind_eq_ok_iff]
  constructor
  · intro ⟨⟨⟩, between, first, second⟩
    exact ⟨between, first, second⟩
  · intro ⟨between, first, second⟩
    exact ⟨⟨⟩, between, first, second⟩

theorem run_inspect_eq_ok_iff {result : Except MemoryError α} {value : α}
    {session after : Session} :
    (inspect result).run session = .ok value after ↔ result = .ok value ∧ session = after := by
  cases result with
  | ok found => simp [inspect]
  | error error =>
      constructor
      · intro succeeds
        cases succeeds
      · intro both
        cases both.left

theorem run_pattern_eq_ok_iff {result : Except RangeError α} {value : α}
    {session after : Session} :
    (pattern result).run session = .ok value after ↔ result = .ok value ∧ session = after := by
  cases result with
  | ok found => simp [pattern]
  | error error =>
      constructor
      · intro succeeds
        cases succeeds
      · intro both
        cases both.left

theorem run_guard_eq_ok_iff {condition : Prop} [Decidable condition] {error : RunError}
    {session after : Session} :
    (if condition then throw error else pure ⟨⟩ : Judging PUnit).run session = .ok ⟨⟩ after ↔
      ¬condition ∧ session = after := by
  by_cases holds : condition <;> simp [holds]

theorem run_guard_bind_eq_ok_iff {condition : Prop} [Decidable condition] {error : RunError}
    {next : PUnit → Judging α} {result : α} {session after : Session} :
    (if condition then (do let done ← throw error; next done) else next ⟨⟩ : Judging α).run
        session = .ok result after ↔
      ¬condition ∧ (next ⟨⟩).run session = .ok result after := by
  by_cases holds : condition
  · simp [holds]
  · simp [holds]

/-! ## Loads and stores -/

theorem run_meetRead_eq_ok_iff {expected : MemoryAccess} {source : UInt32} {value : Value}
    {session after : Session} :
    (meetRead expected source value).run session = .ok ⟨⟩ after ↔
      expected.address ≠ source ∧ after = session ∨
      expected = ⟨source, value⟩ ∧
        after = session.consume
          s!"Read {value.readable} from {session.resolution.describe source}" := by
  unfold meetRead
  by_cases here : expected.address = source
  · rw [if_pos here, EStateM.run_bind, EStateM.run_get]
    simp only [here, ne_eq, not_true_eq_false, false_and, false_or]
    rw [← MemoryAccess.mismatch?_eq_none_iff expected session.resolution source value]
    cases differs : expected.mismatch? session.resolution source value with
    | none => simp [eq_comm]
    | some reason => simp
  · have different : expected ≠ ⟨source, value⟩ := by
      intro equal
      exact here (congrArg MemoryAccess.address equal)
    simp [here, different, eq_comm]

theorem run_judgeRead_eq_ok_iff {source : UInt32} {value : Value} {session after : Session} :
    (judgeRead source value).run session = .ok ⟨⟩ after ↔
      Judged (.instruction (.read source value)) session after := by
  constructor
  · intro succeeds
    simp only [judgeRead, EStateM.run_bind, EStateM.run_modify, EStateM.run_get] at succeeds
    cases resolved : session.resolution.unresolvedAt? source with
    | some slot => simp [resolved] at succeeds
    | none =>
        simp only [resolved] at succeeds
        split at succeeds
        · rename_i expected rest front
          rcases run_meetRead_eq_ok_iff.mp succeeds with ⟨different, rfl⟩ | ⟨rfl, rfl⟩
          · apply Judged.freeLoad _ _ _ resolved
            intro other others same
            rw [front] at same
            cases same
            exact different
          · exact Judged.expectedLoad _ _ _ rest resolved front
        · rename_i noRead
          cases succeeds
          apply Judged.freeLoad _ _ _ resolved
          intro expected rest front
          exact absurd front (noRead expected rest)
  · intro judged
    cases judged with
    | freeLoad _ _ _ resolved elsewhere =>
        simp only [judgeRead, EStateM.run_bind, EStateM.run_modify, EStateM.run_get, resolved]
        split
        · rename_i expected rest front
          exact run_meetRead_eq_ok_iff.mpr (.inl ⟨elsewhere expected rest front, rfl⟩)
        · rfl
    | expectedLoad _ _ _ rest resolved front =>
        simp only [judgeRead, EStateM.run_bind, EStateM.run_modify, EStateM.run_get, resolved]
        split
        · rename_i expected others found
          rw [front] at found
          cases found
          exact run_meetRead_eq_ok_iff.mpr (.inr ⟨rfl, rfl⟩)
        · rename_i noRead
          exact absurd front (noRead _ rest)

theorem run_meetWrite_eq_ok_iff {expected : MemoryAccess} {target : UInt32} {value : Value}
    {session after : Session} :
    (meetWrite expected target value).run session = .ok ⟨⟩ after ↔
      expected = ⟨target, value⟩ ∧
        after = session.consume
          s!"Wrote {value.readable} to {session.resolution.describe target}" := by
  unfold meetWrite
  rw [← MemoryAccess.mismatch?_eq_none_iff expected session.resolution target value,
    EStateM.run_bind, EStateM.run_get]
  cases differs : expected.mismatch? session.resolution target value with
  | none => simp [differs, eq_comm]
  | some reason => simp [differs]

theorem run_meetStringWrite_eq_ok_iff {address target : UInt32} {contents : List UInt8}
    {value : Value} {session after : Session} :
    (meetStringWrite address contents target value).run session = .ok ⟨⟩ after ↔
      ∃ pointer, value = .long pointer ∧ address = target ∧
        session.machine.memory.readStringWithin (stringLimit contents) pointer = .ok contents ∧
        after = session.consume (s!"Wrote string {(AccessValue.string contents).text} to " ++
          s!"{session.resolution.describe target}") := by
  cases value with
  | byte stored => simp [meetStringWrite, Value.width]
  | word stored => simp [meetStringWrite, Value.width]
  | long pointer =>
      unfold meetStringWrite
      rw [EStateM.run_bind, EStateM.run_get]
      simp only [run_guard_bind_eq_ok_iff, run_bind_eq_ok_iff, run_inspect_eq_ok_iff]
      constructor
      · rintro ⟨_, written, _, ⟨held, rfl⟩, same, equal, stored⟩
        have sameContents := Decidable.not_not.mp equal
        subst sameContents
        cases stored
        exact ⟨pointer, rfl, Decidable.not_not.mp same, held, rfl⟩
      · rintro ⟨_, sameValue, same, held, stored⟩
        cases sameValue
        exact ⟨by simp [Value.width], contents, session, ⟨held, rfl⟩, by simp [same],
          by simp, by rw [stored]; rfl⟩

theorem run_judgeWrite {target : UInt32} {value : Value} {session : Session} :
    (judgeWrite target value).run session =
      (if session.allowsStackWrite target then
        set ((session.logWrite target value).tell (.info (
          s!"Allowed stack write of {value.readable} to {session.resolution.describe target}")))
      else
        match session.pending with
        | .write expected :: _ => meetWrite expected target value
        | .stringWrite address contents :: _ => meetStringWrite address contents target value
        | pending =>
            throw (.expectation (.unexpectedWrite target (session.resolution.describe target)
              (.number value) (.notExpected (describeNext pending)))) : Judging PUnit).run
        (session.logWrite target value) :=
  rfl

theorem run_judgeWrite_eq_ok_iff {target : UInt32} {value : Value} {session after : Session} :
    (judgeWrite target value).run session = .ok ⟨⟩ after ↔
      Judged (.instruction (.write target value)) session after := by
  rw [run_judgeWrite]
  cases allowed : session.allowsStackWrite target with
  | true =>
      constructor
      · intro succeeds
        cases succeeds
        exact Judged.stackStore _ _ _ allowed
      · intro judged
        cases judged with
        | stackStore => rfl
        | expectedStore _ _ _ _ strict => simp [allowed] at strict
        | expectedString _ _ _ _ _ strict => simp [allowed] at strict
  | false =>
      constructor
      · intro succeeds
        simp only [Bool.false_eq_true, if_false] at succeeds
        split at succeeds
        · rename_i expected rest front
          rcases run_meetWrite_eq_ok_iff.mp succeeds with ⟨rfl, rfl⟩
          exact Judged.expectedStore _ _ _ rest allowed front
        · rename_i address contents rest front
          rcases run_meetStringWrite_eq_ok_iff.mp succeeds with
            ⟨pointer, rfl, rfl, held, rfl⟩
          exact Judged.expectedString _ _ _ _ rest allowed front held
        · cases succeeds
      · intro judged
        simp only [Bool.false_eq_true, if_false]
        cases judged with
        | stackStore _ _ _ strict => simp [allowed] at strict
        | expectedStore _ _ _ rest strict front =>
            split
            · rename_i expected others found
              rw [front] at found
              cases found
              exact run_meetWrite_eq_ok_iff.mpr ⟨rfl, rfl⟩
            · rename_i found
              rw [front] at found
              cases found
            · rename_i noWrite _
              exact absurd front (noWrite _ rest)
        | expectedString _ pointer contents _ rest strict front held =>
            split
            · rename_i found
              rw [front] at found
              cases found
            · rename_i address others more found
              rw [front] at found
              cases found
              exact run_meetStringWrite_eq_ok_iff.mpr ⟨pointer, rfl, rfl, held, rfl⟩
            · rename_i noString
              exact absurd front (noString _ _ rest)

/-! ## Calls -/

theorem session_eq_of_run_checkArgument {machine : Machine} {function : String}
    {slot : ArgumentSlot} {argument : Argument} {session after : Session}
    (passes : (checkArgument machine function slot argument).run session = .ok ⟨⟩ after) :
    after = session := by
  cases argument with
  | wildcard =>
      cases passes
      rfl
  | stackPointer =>
      simp only [checkArgument, run_bind_eq_ok_iff, run_inspect_eq_ok_iff,
        run_guard_eq_ok_iff] at passes
      rcases passes with ⟨_, _, ⟨_, rfl⟩, _, rfl⟩
      rfl
  | string contents =>
      simp only [checkArgument, run_bind_eq_ok_iff, run_inspect_eq_ok_iff,
        run_guard_eq_ok_iff] at passes
      rcases passes with ⟨_, _, ⟨_, rfl⟩, _, _, ⟨_, rfl⟩, _, rfl⟩
      rfl
  | scalar value =>
      cases value with
      | integer value =>
          simp only [checkArgument, run_bind_eq_ok_iff, run_inspect_eq_ok_iff,
            run_pattern_eq_ok_iff, run_guard_eq_ok_iff] at passes
          rcases passes with ⟨_, _, ⟨_, rfl⟩, _, _, ⟨_, rfl⟩, _, rfl⟩
          rfl
      | float bits =>
          simp only [checkArgument, run_bind_eq_ok_iff, run_inspect_eq_ok_iff,
            run_guard_eq_ok_iff] at passes
          rcases passes with ⟨_, _, ⟨_, rfl⟩, _, rfl⟩
          rfl

theorem session_eq_of_run_checkArguments {machine : Machine} {function : String}
    {convention : CallingConvention} {arguments : List Argument} {session after : Session}
    (passes : (checkArguments machine function convention arguments).run session =
      .ok ⟨⟩ after) : after = session := by
  induction arguments generalizing convention session with
  | nil =>
      cases passes
      rfl
  | cons argument rest induction =>
      simp only [checkArguments, run_then_eq_ok_iff] at passes
      rcases passes with ⟨between, first, others⟩
      have same := session_eq_of_run_checkArgument first
      subst same
      exact induction others

theorem run_runCallback_eq_ok_iff {call : CallExpectation} {session after : Session} :
    (runCallback call).run session = .ok ⟨⟩ after ↔
      ∃ changed, call.CallbackYields session.machine changed ∧
        after = { session.announce call with machine := changed } := by
  unfold runCallback CallExpectation.CallbackYields Session.announce
  cases call.callback with
  | none =>
      simp only [EStateM.run_pure, EStateM.Result.ok.injEq, true_and, exists_eq_left]
      exact eq_comm
  | some callback =>
      simp only [EStateM.run_bind, EStateM.run_get, EStateM.run_set]
      cases outcome : callback session.machine call.arguments with
      | ok machine => simp [eq_comm]
      | error error => simp

theorem run_giveResult_eq_ok_iff {returns : Option Scalar} {session after : Session} :
    (giveResult returns).run session = .ok ⟨⟩ after ↔
      ∃ machine, session.machine.Receives returns machine ∧
        after = { session with machine } := by
  unfold giveResult Machine.Receives
  split
  · simp only [EStateM.run_pure, EStateM.Result.ok.injEq, true_and, exists_eq_left]
    exact eq_comm
  · rename_i value
    simp only [run_bind_eq_ok_iff, run_pattern_eq_ok_iff, EStateM.run_modify]
    constructor
    · intro ⟨contents, _, ⟨fits, rfl⟩, stored⟩
      cases stored
      exact ⟨_, ⟨contents, fits, rfl⟩, rfl⟩
    · intro ⟨_, ⟨contents, fits, rfl⟩, stored⟩
      exact ⟨contents, session, ⟨fits, rfl⟩, by rw [stored]⟩
  · simp [eq_comm]

theorem run_meetCall_eq_ok_iff {name : Option String} {readable : String}
    {session after : Session} :
    (meetCall name readable).run session = .ok ⟨⟩ after ↔
      ∃ call rest machine, session.pending = .call call :: rest ∧ name = some call.name ∧
        (checkArguments session.machine readable .start call.arguments).run session =
          .ok ⟨⟩ session ∧
        call.CarriedOut session.machine machine ∧
        after = { session.announce call with machine }.consume s!"Called {readable}" := by
  unfold meetCall
  rw [EStateM.run_bind, EStateM.run_get]
  constructor
  · intro succeeds
    simp only at succeeds
    split at succeeds
    · rename_i call rest front
      simp only [run_guard_bind_eq_ok_iff, run_then_eq_ok_iff] at succeeds
      rcases succeeds with ⟨named, checked, passes, called, yields, given, receives, finish⟩
      have same := session_eq_of_run_checkArguments passes
      subst same
      rcases run_runCallback_eq_ok_iff.mp yields with ⟨changed, callback, rfl⟩
      rcases run_giveResult_eq_ok_iff.mp receives with ⟨machine, result, rfl⟩
      cases finish
      exact ⟨call, rest, machine, front, Decidable.not_not.mp named, passes,
        ⟨changed, callback, result⟩, rfl⟩
    · cases succeeds
  · intro ⟨call, rest, machine, front, named, passes, ⟨changed, callback, result⟩, finish⟩
    simp only
    split
    · rename_i other others found
      rw [front] at found
      cases found
      simp only [run_guard_bind_eq_ok_iff, run_then_eq_ok_iff]
      exact ⟨by simp [named], session, passes, _,
        run_runCallback_eq_ok_iff.mpr ⟨changed, callback, rfl⟩, _,
        run_giveResult_eq_ok_iff.mpr ⟨machine, result, rfl⟩, by rw [finish]; rfl⟩
    · rename_i noCall
      exact absurd front (noCall call rest)

theorem run_judgeCall {target : UInt32} {session : Session} :
    (judgeCall target).run session =
      (match session.routineAt? target with
      | some routine =>
          match routine.run session.machine with
          | .ok machine => set { session with machine }
          | .error error => throw (.simulation error)
      | none => meetCall (session.calleeName? target) (session.calleeText target) :
        Judging PUnit).run session := by
  rw [judgeCall, EStateM.run_bind, EStateM.run_get]
  rfl

theorem run_judgeCall_eq_ok_iff {target : UInt32} {session after : Session} :
    (judgeCall target).run session = .ok ⟨⟩ after ↔ Called target session after := by
  rw [run_judgeCall]
  cases routineAt : session.routineAt? target with
  | some routine =>
      simp only
      constructor
      · intro succeeds
        cases divides : routine.run session.machine with
        | ok machine =>
            rw [divides] at succeeds
            cases succeeds
            exact Called.routine routine machine routineAt divides
        | error error =>
            rw [divides] at succeeds
            cases succeeds
      · intro called
        cases called with
        | routine other machine named divides =>
            rw [routineAt] at named
            cases named
            rw [divides]
            rfl
        | expected _ _ _ unusual => simp [routineAt] at unusual
  | none =>
      simp only [run_meetCall_eq_ok_iff]
      constructor
      · intro ⟨call, rest, machine, front, named, passes, carriedOut, finish⟩
        subst finish
        exact Called.expected call rest machine routineAt front named passes carriedOut
      · intro called
        cases called with
        | routine _ _ named => simp [routineAt] at named
        | expected call rest machine _ front named passes carriedOut =>
            exact ⟨call, rest, machine, front, named, passes, carriedOut, rfl⟩

theorem run_judgeBranch {latch : Latch} {session : Session} :
    (judgeBranch latch).run session =
      (if session.recognises latch.target then do
        judgeCall latch.target
        if latch.kind.isCall then
          modify Session.returnToCaller
        else
          let place := if (session.resolution.symbols.at? latch.target).isSome then "symbol"
            else "address"
          modify (·.leave s!"Program jumped to {place} at {Text.address latch.target}")
      else if latch.kind.isCall then
        set { session with callDepth := session.callDepth + 1 }
      else pure ⟨⟩ : Judging PUnit).run session := rfl

theorem run_judgeBranch_eq_ok_iff {latch : Latch} {session after : Session} :
    (judgeBranch latch).run session = .ok ⟨⟩ after ↔ Judged (.branch latch) session after := by
  rw [run_judgeBranch]
  cases outside : session.recognises latch.target with
  | true =>
      simp only [if_true, run_then_eq_ok_iff, run_judgeCall_eq_ok_iff]
      cases links : latch.kind.isCall with
      | true =>
          constructor
          · intro ⟨called, answered, finish⟩
            cases finish
            exact Judged.call latch session called links outside answered
          · intro judged
            cases judged with
            | call _ _ called _ _ answered => exact ⟨called, answered, rfl⟩
            | jump _ _ _ _ jumps => simp [links] at jumps
            | localCall _ _ _ inside => simp [outside] at inside
            | localJump _ _ jumps => simp [links] at jumps
      | false =>
          constructor
          · intro ⟨called, answered, finish⟩
            cases finish
            exact Judged.jump latch session called _ links outside answered rfl
          · intro judged
            cases judged with
            | call _ _ _ isCall => simp [links] at isCall
            | jump _ _ called place _ _ answered placed =>
                exact ⟨called, answered, by rw [placed]; rfl⟩
            | localCall _ _ isCall => simp [links] at isCall
            | localJump _ _ _ inside => simp [outside] at inside
  | false =>
      simp only [Bool.false_eq_true, if_false]
      cases links : latch.kind.isCall with
      | true =>
          constructor
          · intro finish
            cases finish
            exact Judged.localCall latch session links outside
          · intro judged
            cases judged with
            | call _ _ _ _ recognised => simp [outside] at recognised
            | jump _ _ _ _ jumps => simp [links] at jumps
            | localCall => rfl
            | localJump _ _ jumps => simp [links] at jumps
      | false =>
          constructor
          · intro finish
            cases finish
            exact Judged.localJump latch session links outside
          · intro judged
            cases judged with
            | call _ _ _ isCall => simp [links] at isCall
            | jump _ _ _ _ _ recognised => simp [outside] at recognised
            | localCall _ _ isCall => simp [links] at isCall
            | localJump => rfl

end Judging

/-! ## All judgements -/

theorem Deed.run_judge_eq_ok_iff (deed : Deed) {session after : Session} :
    deed.judge.run session = .ok ⟨⟩ after ↔ Judged deed session after := by
  cases deed with
  | branch latch => exact Judging.run_judgeBranch_eq_ok_iff
  | instruction operation =>
      cases operation with
      | read source value => exact Judging.run_judgeRead_eq_ok_iff
      | write target value => exact Judging.run_judgeWrite_eq_ok_iff
      | generic =>
          constructor
          · intro succeeds
            cases succeeds
            exact Judged.generic session
          · intro judged
            cases judged
            rfl
      | flow target taken =>
          constructor
          · intro succeeds
            cases succeeds
            exact Judged.flow target taken session
          · intro judged
            cases judged
            rfl
      | branch code kind target =>
          constructor
          · intro succeeds
            cases kind with
            | rts =>
                cases succeeds
                exact Judged.returned code target session
            | bra | bsr | jmp | jsr =>
                cases succeeds
                exact Judged.latched code _ target session (by decide)
          · intro judged
            cases judged with
            | returned => rfl
            | latched _ _ _ _ delayed =>
                cases kind with
                | rts => exact absurd rfl delayed
                | bra | bsr | jmp | jsr => rfl

end SuperHBench
