import SuperHBench.Proofs.Session.Invariants

/-! # Control of a run

Whether the program is left and how deep it is inside itself is all that decides when a
run ends. Judgements move control in four ways and touch it in no other; one that fails
does not touch it at all. -/

namespace SuperHBench

/-! ## Moves -/

structure Control where
  running : Bool
  callDepth : Nat
deriving DecidableEq, Repr

def Session.control (session : Session) : Control :=
  ⟨session.running, session.callDepth⟩

/-- What a judgement does to control. -/
inductive Move where
  | stay
  | enter
  | goBack
  | leave
deriving DecidableEq, Repr

def Deed.move (session : Session) : Deed → Move
  | .instruction (.branch _ .rts _) => .goBack
  | .instruction _ => .stay
  | .branch latch =>
      match latch.kind.isCall, session.recognises latch.target with
      | true, true => .stay
      | true, false => .enter
      | false, true => .leave
      | false, false => .stay

theorem Deed.move_eq_leave_iff {deed : Deed} {session : Session} :
    deed.move session = .leave ↔
      ∃ latch, deed = .branch latch ∧ latch.kind.isCall = false ∧
        session.recognises latch.target = true := by
  constructor
  · intro leaves
    unfold Deed.move at leaves
    split at leaves
    · cases leaves
    · cases leaves
    · rename_i latch
      split at leaves
      · cases leaves
      · cases leaves
      · rename_i jumps outside
        exact ⟨latch, rfl, jumps, outside⟩
      · cases leaves
  · intro ⟨latch, same, jumps, outside⟩
    rw [same, Deed.move, jumps, outside]

def Control.after (control : Control) : Move → Control
  | .stay => control
  | .enter => { control with callDepth := control.callDepth + 1 }
  | .goBack =>
      if control.callDepth = 0 then
        { control with running := false }
      else
        { control with callDepth := control.callDepth - 1 }
  | .leave => { control with running := false }

theorem Judged.control_eq {deed : Deed} {before after : Session}
    (judged : Judged deed before after) :
    after.control = before.control.after (deed.move before) := by
  cases judged with
  | generic | flow | freeLoad | expectedLoad | stackStore | expectedStore | expectedString => rfl
  | latched code kind target _ delayed =>
      cases kind with
      | rts => exact absurd rfl delayed
      | bra | bsr | jmp | jsr => rfl
  | returned =>
      by_cases atZero : before.callDepth = 0
      · simp [Session.returned, Session.control, Deed.move, Control.after, atZero,
          Session.leave, Session.tell]
      · simp [Session.returned, Session.control, Deed.move, Control.after, atZero]
  | call latch _ called links outside answered =>
      rw [Deed.move, links, outside, answered.frame]
      rfl
  | jump latch _ called place jumps outside answered =>
      rw [Deed.move, jumps, outside, answered.frame]
      rfl
  | localCall latch _ links inside =>
      rw [Deed.move, links, inside]
      rfl
  | localJump latch _ jumps inside =>
      rw [Deed.move, jumps, inside]
      rfl

namespace Control

/-- Only a jump, or a return at depth zero, clears `running`. -/
theorem running_after_eq_false_iff {control : Control} {move : Move}
    (running : control.running = true) :
    (control.after move).running = false ↔
      move = .leave ∨ move = .goBack ∧ control.callDepth = 0 := by
  cases move with
  | stay | enter => simp [after, running]
  | leave => simp [after]
  | goBack =>
      by_cases atZero : control.callDepth = 0
      · simp [after, atZero]
      · simp [after, atZero, running]

def comesBack (control : Control) (move : Move) : Bool :=
  move = .goBack ∧ 0 < control.callDepth

theorem callDepth_after (control : Control) (move : Move) :
    (control.after move).callDepth + (if control.comesBack move then 1 else 0) =
      control.callDepth + if decide (move = .enter) then 1 else 0 := by
  cases move with
  | stay | enter | leave => simp [after, comesBack]
  | goBack =>
      by_cases atZero : control.callDepth = 0
      · simp [after, comesBack, atZero]
      · have deep : 0 < control.callDepth := Nat.pos_of_ne_zero atZero
        simp [after, comesBack, atZero, deep]
        omega

theorem callDepth_after_of_leaving {control : Control} {move : Move}
    (running : control.running = true) (left : (control.after move).running = false)
    (shallow : move = .leave → control.callDepth = 0) :
    (control.after move).callDepth = 0 := by
  rcases (running_after_eq_false_iff running).mp left with rfl | ⟨rfl, atZero⟩
  · exact shallow rfl
  · simp [after, atZero]

theorem running_after_of_left {control : Control} {move : Move}
    (left : control.running = false) : (control.after move).running = false := by
  cases move with
  | stay | enter => exact left
  | leave => rfl
  | goBack =>
      by_cases atZero : control.callDepth = 0
      · simp [after, atZero]
      · simp [after, atZero, left]

end Control

/-! ## Judgements that fail -/

def Invariant.control (control : Control) : Invariant where
  Holds session := session.control = control
  Fails _ session := session.control = control
  kept same progress := by
    rw [← same, Session.control, progress.running, progress.callDepth, Session.control]
  thrown same _ := same
  calledBack _ _ _ _ same := same

theorem Deed.control_eq_of_run_judge_eq_error {deed : Deed} {before after : Session}
    {error : RunError} (fails : deed.judge.run before = .error error after) :
    after.control = before.control :=
  Deed.fails_of_run_judge_eq_error (Invariant.control before.control) rfl fails

end SuperHBench
