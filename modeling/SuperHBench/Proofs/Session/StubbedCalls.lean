import SuperHBench.Proofs.CodeObject
import SuperHBench.Proofs.Session.Arguments
import SuperHBench.Proofs.Session.Control
import SuperHBench.Proofs.Session.Passing

/-! # Calls that are answered

A function outside the program is never entered. Where a call of one is answered, the program
goes on behind the call with the result in place, and apart from that the machine is as the
delay slot left it. -/

namespace SuperHBench

/-! ## Results -/

namespace Scalar

def destination : Scalar → DataRegister
  | .integer _ => .general .zero
  | .float _ => .float .zero

theorem eq_bits_of_pattern {scalar : Scalar} {contents : UInt32}
    (found : scalar.pattern = .ok contents) : contents = scalar.bits := by
  by_cases fits : scalar.Fits
  · rw [pattern_eq_ok fits] at found
    exact (Except.ok.inj found).symm
  · cases scalar with
    | float bits => exact absurd trivial fits
    | integer value =>
        have unbounded : ¬(-(Word.count (Width.long.bits - 1) : Int) ≤ value ∧
            value < Word.count Width.long.bits) := fits
        simp only [pattern, Value.patternOfInt, Value.ofInt, Width.ofBits?, if_neg unbounded]
          at found
        cases found

end Scalar

namespace Machine

def deliver (machine : Machine) : Option (DataRegister × UInt32) → Machine
  | none => machine
  | some (register, contents) => machine.setData register contents

theorem eq_deliver_of_receives {machine after : Machine} {returns : Option Scalar}
    (receives : machine.Receives returns after) :
    after = machine.deliver (returns.map fun scalar => (scalar.destination, scalar.bits)) := by
  unfold Receives at receives
  split at receives
  · exact receives
  · rename_i value
    rcases receives with ⟨contents, fits, rfl⟩
    have found : (Scalar.integer value).pattern = .ok contents := fits
    rw [Scalar.eq_bits_of_pattern found]
    rfl
  · exact receives

variable (machine : Machine)

theorem data_deliver_same (register : DataRegister) (contents : UInt32) :
    (machine.deliver (some (register, contents))).data register = contents :=
  machine.data_setData_same register contents

theorem data_deliver_other {result : Option (DataRegister × UInt32)} {register : DataRegister}
    (different : result.map Prod.fst ≠ some register) :
    (machine.deliver result).data register = machine.data register := by
  cases result with
  | none => rfl
  | some entry =>
      apply machine.data_setData_other entry.2
      exact fun same => different (congrArg some same)

theorem t_deliver (result : Option (DataRegister × UInt32)) :
    (machine.deliver result).t = machine.t := by
  rcases result with _ | ⟨_ | _ | register, contents⟩
  · rfl
  · rfl
  · rfl
  · cases register <;> rfl

theorem memory_deliver (result : Option (DataRegister × UInt32)) :
    (machine.deliver result).memory = machine.memory := by
  cases result with
  | none => rfl
  | some entry => exact machine.memory_setData entry.1 entry.2

end Machine

/-! ## Calls -/

namespace Session

/-- What a call brings back: what a routine has computed, or what the expected call declares. -/
def callResult? (session : Session) (target : UInt32) : Option (DataRegister × UInt32) :=
  match session.routineAt? target with
  | some routine =>
      some (.general .zero,
        routine.result (session.machine.register .one) (session.machine.register .zero))
  | none =>
      match session.pending with
      | .call call :: _ => call.returns.map fun scalar => (scalar.destination, scalar.bits)
      | _ => none

def AnswersQuietly (session : Session) (target : UInt32) : Prop :=
  session.routineAt? target = none → ∀ call rest, session.pending = .call call :: rest →
    call.callback = none

theorem callResult?_register {session : Session} {target : UInt32} {register : DataRegister}
    {contents : UInt32} (result : session.callResult? target = some (register, contents)) :
    register = .general .zero ∨ register = .float .zero := by
  unfold callResult? at result
  split at result
  · cases result
    exact .inl rfl
  · split at result
    · rcases Option.map_eq_some_iff.mp result with ⟨scalar, -, same⟩
      cases same
      cases scalar with
      | integer value => exact .inl rfl
      | float bits => exact .inr rfl
    · cases result

end Session

theorem Intrinsic.eq_of_run {routine : Intrinsic} {machine after : Machine}
    (divides : routine.run machine = .ok after) :
    after = machine.setRegister .zero
      (routine.result (machine.register .one) (machine.register .zero)) := by
  rw [run] at divides
  split at divides
  · cases divides
  · cases divides
    rfl

theorem Called.machine_eq {target : UInt32} {session called : Session}
    (answered : Called target session called) (quiet : session.AnswersQuietly target) :
    called.machine = session.machine.deliver (session.callResult? target) := by
  cases answered with
  | routine routine machine named divides =>
      rw [Session.callResult?, named, Intrinsic.eq_of_run divides]
      rfl
  | expected call rest machine unusual front named passes carriedOut =>
      rcases carriedOut with ⟨changed, yields, receives⟩
      rw [CallExpectation.CallbackYields, quiet unusual call rest front] at yields
      subst yields
      simp only [Session.callResult?, unusual, front]
      exact Machine.eq_deliver_of_receives receives

/-- The program goes on behind a call. But for the result, and for what was expected, all is
as it was before the answer. -/
structure ComesBack (target : UInt32) (session after : Session) : Prop where
  resumed : after.machine.pc = session.machine.pr
  idle : after.machine.pendingBranch = none
  result : ∀ register contents, session.callResult? target = some (register, contents) →
    (register = .general .zero ∨ register = .float .zero) ∧
      after.machine.data register = contents
  registers : ∀ register, (session.callResult? target).map Prod.fst ≠ some register →
    after.machine.data register = session.machine.data register
  t : after.machine.t = session.machine.t
  memory : after.machine.memory = session.machine.memory
  control : after.control = session.control
  routine : (session.routineAt? target).isSome → after.pending = session.pending ∧
    after.fulfilled = session.fulfilled
  expected : session.routineAt? target = none → ∃ call,
    session.pending = .call call :: after.pending ∧ after.fulfilled = session.fulfilled + 1
  rest : after.coverage = session.coverage ∧ after.resolution = session.resolution ∧
    after.latch = session.latch ∧ after.instructions = session.instructions

theorem Called.comesBack {target : UInt32} {session called : Session}
    (answered : Called target session called) (quiet : session.AnswersQuietly target) :
    ComesBack target session called.returnToCaller := by
  have machine := answered.machine_eq quiet
  have kept (register : DataRegister)
      (other : (session.callResult? target).map Prod.fst ≠ some register) :
      called.machine.data register = session.machine.data register := by
    rw [machine]
    exact session.machine.data_deliver_other other
  constructor
  case resumed =>
    apply kept (.system .pr)
    -- no result goes to the register that holds the way back
    intro same
    rcases Option.map_eq_some_iff.mp same with ⟨⟨register, contents⟩, result, rfl⟩
    rcases Session.callResult?_register result with impossible | impossible
    · cases impossible
    · cases impossible
  case idle => rfl
  case result =>
    intro register contents result
    refine ⟨Session.callResult?_register result, ?_⟩
    change called.machine.data register = contents
    rw [machine, result]
    exact session.machine.data_deliver_same register contents
  case registers => exact kept
  case t =>
    change called.machine.t = session.machine.t
    rw [machine]
    exact session.machine.t_deliver _
  case memory =>
    change called.machine.memory = session.machine.memory
    rw [machine]
    exact session.machine.memory_deliver _
  case control =>
    rw [answered.frame]
    rfl
  case routine =>
    intro usual
    cases answered with
    | routine => exact ⟨rfl, rfl⟩
    | expected _ _ _ unusual => simp [unusual] at usual
  case expected =>
    intro unusual
    cases answered with
    | routine _ _ named => simp [unusual] at named
    | expected call rest _ _ front =>
        refine ⟨call, ?_, ?_⟩
        · rw [session.announce_eq call]
          change session.pending = .call call :: session.pending.tail
          rw [front, List.tail_cons]
        · rw [session.announce_eq call]
          rfl
  case rest =>
    rw [answered.frame]
    exact ⟨rfl, rfl, rfl, rfl⟩

namespace Judging

theorem comesBack_of_run_judgeBranch {latch : Latch} {session after : Session}
    (links : latch.kind.isCall = true) (outside : session.recognises latch.target = true)
    (quiet : session.AnswersQuietly latch.target)
    (succeeds : (judgeBranch latch).run session = .ok ⟨⟩ after) :
    ComesBack latch.target session after := by
  cases run_judgeBranch_eq_ok_iff.mp succeeds with
  | call _ _ called _ _ answered => exact answered.comesBack quiet
  | jump _ _ _ _ jumps =>
      rw [links] at jumps
      cases jumps
  | localCall _ _ _ inside | localJump _ _ _ inside =>
      rw [outside] at inside
      cases inside

/-! ## A slot that chooses where the call comes back -/

/-- After a number of turns a call without callback is recognised and answered. -/
def callsQuietly (scenario : Scenario) (options : RunOptions) (count : Nat) (first : Session) :
    Bool :=
  match branchAfter scenario options first count with
  | none => false
  | some (latch, session) =>
      match session.pending with
      | .call call :: _ =>
          latch.kind.isCall && session.recognises latch.target && call.callback.isNone &&
            match (judgeBranch latch).run session with
            | .ok _ _ => true
            | .error _ _ => false
      | _ => false

end Judging

/-- A function that calls another and has it come back further on. -/
def errandText : CodeText where
  code := [
    0xd103, 0xe30c, 0x410b, 0x432a, -- mov.l @(3,pc),r1; mov #12,r3; jsr @r1; lds r3,pr
    0x0009, 0x0009, 0x000b, 0x0009, -- nop; nop; rts; nop
    0x0800, 0x0000]
  exports := [("_errand", 0)]
  imports := []

def errand : Scenario where
  entry := "_errand"
  returns := some (.integer (-1))
  expectations := [.call ⟨"_ask", none, [], some (.integer (-1)), none⟩]
  bindings := [⟨"_ask", 0x800⟩]

theorem errand_comesBack :
    errandText.file.link = .ok errandText.linked ∧
      ∃ first latch session after,
        errand.prepare errandText.linked false (fun _ => 0) = .ok first ∧
        Attempts errand {} first (.branch latch) session ∧
        latch.kind.isCall = true ∧ session.recognises latch.target = true ∧
        session.AnswersQuietly latch.target ∧
        (Judging.judgeBranch latch).run session = .ok ⟨⟩ after ∧
        ComesBack latch.target session after := by
  have calls : ((errand.prepare errandText.linked false fun _ => 0).toOption.any
      (Judging.callsQuietly errand {} 3)) = true := by
    decide +kernel
  rcases exists_ok_of_any calls with ⟨first, prepared, computed⟩
  unfold Judging.callsQuietly at computed
  split at computed
  · cases computed
  · rename_i latch session reached
    split at computed
    · rename_i call rest front
      cases outcome : (Judging.judgeBranch latch).run session with
      | error error failed => simp [outcome] at computed
      | ok result after =>
          simp only [outcome, Bool.and_true, Bool.and_eq_true, Option.isNone_iff_eq_none]
            at computed
          rcases computed with ⟨⟨links, outside⟩, callback⟩
          have quiet : session.AnswersQuietly latch.target := by
            intro _ expected others waiting
            rw [front] at waiting
            cases waiting
            exact callback
          exact ⟨errandText.link_file (by decide), first, latch, session, after, prepared,
            Judging.attempts_of_branchAfter reached, links, outside, quiet, outcome,
            Judging.comesBack_of_run_judgeBranch links outside quiet outcome⟩
    · cases computed

end SuperHBench
