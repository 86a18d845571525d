import SuperHBench.Proofs.CodeObject
import SuperHBench.Proofs.Session.Passing

/-! # Stubs at addresses

A call to an address without a symbol is recognised by the address of the expectation
that is next in line, but it is answered by name. So the address of a stub has to be
bound to the name of the stub: one that is nothing but an address is never answered. -/

namespace SuperHBench

/-- An expected call has taken place: it is expected no longer, what it does to the
machine is done, and the program goes on behind it. -/
structure AnsweredBy (call : CallExpectation) (machine : Machine) (session after : Session) :
    Prop where
  taken : session.pending = .call call :: after.pending
  counted : after.fulfilled = session.fulfilled + 1
  resumed : after.machine = { machine with pc := machine.pr, pendingBranch := none }

structure CallsStub (latch : Latch) (session : Session) (call : CallExpectation)
    (rest : List Expectation) (machine : Machine) : Prop where
  links : latch.kind.isCall = true
  unlinked : session.resolution.symbols.at? latch.target = none
  front : session.pending = .call call :: rest
  stub : call.address = some latch.target
  passes : session.PassesArguments latch.target call
  carriedOut : call.CarriedOut session.machine machine

namespace CallsStub

variable {latch : Latch} {session : Session} {call : CallExpectation}
variable {rest : List Expectation} {machine : Machine}

theorem recognised (calls : CallsStub latch session call rest machine) :
    session.recognises latch.target = true := by
  simp [Session.recognises, Session.expectedCallAddress?, calls.front, calls.stub]

theorem calleeName?_eq (calls : CallsStub latch session call rest machine) :
    session.calleeName? latch.target = session.resolution.nameAt? latch.target := by
  simp [Session.calleeName?, calls.unlinked]

theorem named_of_called (calls : CallsStub latch session call rest machine) {called : Session}
    (answered : Called latch.target session called)
    (taken : session.pending = .call call :: called.pending) :
    session.calleeName? latch.target = some call.name ∧ Intrinsic.ofName? call.name = none := by
  cases answered with
  | routine =>
      have length := congrArg List.length taken
      simp at length
  | expected other _ _ unusual front named =>
      rw [calls.front] at front
      cases front
      rw [Session.routineAt?, named, Option.bind_some] at unusual
      exact ⟨named, unusual⟩

theorem answered_iff (calls : CallsStub latch session call rest machine) :
    (∃ after, (Judging.judgeBranch latch).run session = .ok ⟨⟩ after ∧
      AnsweredBy call machine session after) ↔
      session.resolution.nameAt? latch.target = some call.name ∧
        Intrinsic.ofName? call.name = none := by
  rw [← calls.calleeName?_eq]
  constructor
  · intro ⟨after, succeeds, answered⟩
    have links := calls.links
    have outside := calls.recognised
    cases Judging.run_judgeBranch_eq_ok_iff.mp succeeds with
    | call _ _ called _ _ answeredBy => exact calls.named_of_called answeredBy answered.taken
    | jump _ _ _ _ jumps =>
        rw [links] at jumps
        cases jumps
    | localCall _ _ _ inside | localJump _ _ _ inside =>
        rw [outside] at inside
        cases inside
  · intro ⟨named, ordinary⟩
    have unusual : session.routineAt? latch.target = none := by
      rw [Session.routineAt?, named, Option.bind_some, ordinary]
    have called := Called.expected call rest machine unusual calls.front named calls.passes
      calls.carriedOut
    have judged := Judged.call latch session _ calls.links calls.recognised called
    refine ⟨_, Judging.run_judgeBranch_eq_ok_iff.mpr judged, ?_, ?_, rfl⟩
    · rw [session.announce_eq call]
      change session.pending = .call call :: session.pending.tail
      rw [calls.front, List.tail_cons]
    · rw [session.announce_eq call]
      rfl

/-- A stub without a name is refused for its name. -/
theorem run_judgeBranch_of_unnamed (calls : CallsStub latch session call rest machine)
    (unnamed : session.resolution.nameAt? latch.target = none) :
    (Judging.judgeBranch latch).run session =
      .error (.expectation (.nameMismatch (session.calleeText latch.target) session.machine.pc
        call.name)) session := by
  have nameless : session.calleeName? latch.target = none := calls.calleeName?_eq.trans unnamed
  have unusual : session.routineAt? latch.target = none := by
    rw [Session.routineAt?, nameless, Option.bind_none]
  have refused : (Judging.judgeCall latch.target).run session =
      .error (.expectation (.nameMismatch (session.calleeText latch.target) session.machine.pc
        call.name)) session := by
    rw [Judging.run_judgeCall, unusual, nameless, Judging.meetCall, EStateM.run_bind,
      EStateM.run_get]
    simp [calls.front]
  rw [Judging.run_judgeBranch, if_pos calls.recognised, EStateM.run_bind, refused]

/-- Stubs are called by name, whether their addresses are given or looked up. -/
theorem answered_by_name (calls : CallsStub latch session call rest machine) :
    ((∃ after, (Judging.judgeBranch latch).run session = .ok ⟨⟩ after ∧
        AnsweredBy call machine session after) ↔
      session.resolution.nameAt? latch.target = some call.name ∧
        Intrinsic.ofName? call.name = none) ∧
      (session.resolution.nameAt? latch.target = none →
        (Judging.judgeBranch latch).run session =
          .error (.expectation (.nameMismatch (session.calleeText latch.target)
            session.machine.pc call.name)) session) :=
  ⟨calls.answered_iff, calls.run_judgeBranch_of_unnamed⟩

end CallsStub

/-! ## A stub without a name -/

namespace Judging

def answer (session : Session) (target : UInt32) (call : CallExpectation) : Judging PUnit := do
  checkArguments session.machine (session.calleeText target) .start call.arguments
  runCallback call
  giveResult call.returns

def callsUnnamed (scenario : Scenario) (options : RunOptions) (count : Nat) (first : Session) :
    Bool :=
  match branchAfter scenario options first count with
  | none => false
  | some (latch, session) =>
      match session.pending with
      | .call call :: _ =>
          latch.kind.isCall && (session.resolution.symbols.at? latch.target).isNone &&
            (session.resolution.nameAt? latch.target).isNone &&
            call.address = some latch.target &&
            match (answer session latch.target call).run session with
            | .ok _ _ => true
            | .error _ _ => false
      | _ => false

theorem callsStub_of_callsUnnamed {scenario : Scenario} {options : RunOptions} {count : Nat}
    {first : Session} (unnamed : callsUnnamed scenario options count first = true) :
    ∃ latch session call rest machine,
      Attempts scenario options first (.branch latch) session ∧
      CallsStub latch session call rest machine ∧
      session.resolution.nameAt? latch.target = none := by
  unfold callsUnnamed at unnamed
  split at unnamed
  · cases unnamed
  · rename_i latch session computed
    split at unnamed
    · rename_i call rest front
      cases outcome : (answer session latch.target call).run session with
      | error error failed => simp [outcome] at unnamed
      | ok result after =>
          simp only [outcome, Bool.and_true, Bool.and_eq_true, decide_eq_true_eq,
            Option.isNone_iff_eq_none] at unnamed
          rcases unnamed with ⟨⟨⟨links, unlinked⟩, nameless⟩, stub⟩
          simp only [answer, run_then_eq_ok_iff] at outcome
          rcases outcome with ⟨checked, passes, called, yields, receives⟩
          have same := session_eq_of_run_checkArguments passes
          subst same
          rcases run_runCallback_eq_ok_iff.mp yields with ⟨changed, callback, rfl⟩
          rcases run_giveResult_eq_ok_iff.mp receives with ⟨machine, result, rfl⟩
          exact ⟨latch, _, call, rest, machine, attempts_of_branchAfter computed,
            ⟨links, unlinked, front, stub, passes, changed, callback, result⟩, nameless⟩
    · cases unnamed

end Judging

/-- A function that calls another by its address and returns what that returns. -/
def knockText : CodeText where
  code := [
    0xd102, 0x410b, 0xe407, -- mov.l @(2,pc),r1; jsr @r1; mov #7,r4
    0x000b, 0x0009, 0x0009, -- rts; nop
    0x0800, 0x0000]
  exports := [("_knock", 0)]
  imports := []

def knock : Scenario where
  entry := "_knock"
  returns := some (.integer 5)
  expectations := [.call ⟨"_door", some 0x800, [.scalar (.integer 7)], some (.integer 5), none⟩]

theorem knock_callsUnnamed :
    ∃ first, knock.prepare knockText.linked false (fun _ => 0) = .ok first ∧
      Judging.callsUnnamed knock {} 2 first = true := by
  apply exists_ok_of_any
  decide +kernel

theorem knock_answered_by_name :
    ∃ latch session call rest machine, CallsStub latch session call rest machine ∧
      ((∃ after, (Judging.judgeBranch latch).run session = .ok ⟨⟩ after ∧
          AnsweredBy call machine session after) ↔
        session.resolution.nameAt? latch.target = some call.name ∧
          Intrinsic.ofName? call.name = none) ∧
        (session.resolution.nameAt? latch.target = none →
          (Judging.judgeBranch latch).run session =
            .error (.expectation (.nameMismatch (session.calleeText latch.target)
              session.machine.pc call.name)) session) := by
  rcases knock_callsUnnamed with ⟨first, _, computed⟩
  rcases Judging.callsStub_of_callsUnnamed computed with
    ⟨latch, session, call, rest, machine, _, calls, _⟩
  exact ⟨latch, session, call, rest, machine, calls, calls.answered_by_name⟩

theorem knock_refused :
    knockText.file.link = .ok knockText.linked ∧
      ∃ first latch session call rest machine,
        knock.prepare knockText.linked false (fun _ => 0) = .ok first ∧
        Attempts knock {} first (.branch latch) session ∧
        CallsStub latch session call rest machine ∧
        session.resolution.nameAt? latch.target = none ∧
        ¬∃ after, (Judging.judgeBranch latch).run session = .ok ⟨⟩ after ∧
          AnsweredBy call machine session after := by
  rcases knock_callsUnnamed with ⟨first, prepared, computed⟩
  rcases Judging.callsStub_of_callsUnnamed computed with
    ⟨latch, session, call, rest, machine, attempts, calls, unnamed⟩
  refine ⟨knockText.link_file (by decide), first, latch, session, call, rest, machine, prepared,
    attempts, calls, unnamed, ?_⟩
  intro ⟨after, succeeds, _⟩
  rw [calls.run_judgeBranch_of_unnamed unnamed] at succeeds
  cases succeeds

end SuperHBench
