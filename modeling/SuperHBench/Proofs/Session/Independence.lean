import SuperHBench.Proofs.CodeObject
import SuperHBench.Proofs.Session.Begun
import SuperHBench.Proofs.Session.Consumption
import SuperHBench.Proofs.Session.Overlooking

/-! # Independence of unread memory

Without callbacks a run depends on the memory that it looks at and on no other. Two runs
over memories that differ elsewhere take the same turns, come to the same end, and leave
memories that differ elsewhere still. -/

namespace SuperHBench

/-! ## One turn -/

def Session.footprint (session : Session) : List Nat :=
  session.machine.footprint ++
    match session.machine.step.2 with
    | .error _ => []
    | .ok operation =>
        (Deed.instruction operation).footprint session.stepped ++
          match session.latch, (Judging.judge operation).run session.stepped with
          | some latch, .ok _ judged => (Deed.branch latch).footprint judged
          | _, _ => []

def Session.fetch (session : Session) : UInt32 × Except MemoryError UInt16 :=
  (session.machine.pc, session.machine.memory.readWord session.machine.pc)

theorem Session.Quiet.of_subset {before after : Session} (quiet : before.Quiet)
    (fewer : after.pending ⊆ before.pending) : after.Quiet :=
  fun call waits => quiet call (fewer waits)

namespace Judging

def SameOutside (hidden : Nat → Prop) (result again : EStateM.Result RunError Session PUnit) :
    Prop :=
  match result with
  | .ok _ last => ∃ rest, last.machine.memory.AgreesOutside hidden rest ∧
      again = .ok ⟨⟩ (last.withMemory rest)
  | .error error failed => ∃ rest, failed.machine.memory.AgreesOutside hidden rest ∧
      again = .error error (failed.withMemory rest)

variable {hidden : Nat → Prop} {session : Session} {other : Memory}

theorem Overlooks.sameOutside {action again : Judging PUnit}
    (overlooks : Overlooks session other action again)
    (agrees : session.machine.memory.AgreesOutside hidden other) :
    SameOutside hidden (action.run session) (again.run (session.withMemory other)) := by
  unfold Overlooks at overlooks
  unfold SameOutside
  cases outcome : action.run session with
  | ok result after =>
      rw [outcome] at overlooks
      dsimp only at overlooks ⊢
      rw [overlooks.1]
      exact ⟨other, agrees, overlooks.2⟩
  | error error after =>
      rw [outcome] at overlooks
      dsimp only at overlooks ⊢
      rw [overlooks.1]
      exact ⟨other, agrees, overlooks.2⟩

theorem stepped_withMemory {rest : Memory}
    (steps : (session.machine.withMemory other).step =
      (session.machine.step.1.withMemory rest, session.machine.step.2)) :
    (session.withMemory other).stepped = session.stepped.withMemory rest := by
  have moved : (session.withMemory other).machine.step.1 = session.machine.step.1.withMemory rest :=
    congrArg Prod.fst steps
  unfold Session.stepped
  rw [moved]
  rfl

theorem sameOutside_advance (quiet : session.Quiet)
    (agrees : session.machine.memory.AgreesOutside hidden other)
    (shown : Shows hidden session.footprint) :
    SameOutside hidden (advance.run session) (advance.run (session.withMemory other)) := by
  rcases shows_append_iff.mp shown with ⟨inStep, inJudgement⟩
  rcases Machine.step_withMemory agrees inStep with ⟨rest, steps, kept⟩
  have stepped : (session.withMemory other).stepped = session.stepped.withMemory rest :=
    stepped_withMemory steps
  have same : (session.withMemory other).machine.step.2 = session.machine.step.2 := by
    change (session.machine.withMemory other).step.2 = _
    rw [steps]
  cases outcome : session.machine.step.2 with
  | error cause =>
      rw [run_advance_of_fault outcome, run_advance_of_fault (same.trans outcome), stepped]
      exact ⟨rest, kept, rfl⟩
  | ok operation =>
      rw [outcome] at inJudgement
      rcases shows_append_iff.mp inJudgement with ⟨inInstruction, inBranch⟩
      rw [run_advance_of_step outcome, run_advance_of_step (same.trans outcome), stepped]
      apply Overlooks.sameOutside _ kept
      apply overlooks_bind
      · exact (Deed.instruction operation).overlooks quiet kept inInstruction
      · intro _ judged judges unchanged
        simp only [Session.latch_withMemory]
        cases waiting : session.latch with
        | none => exact overlooks_pure _
        | some latch =>
            rw [waiting, judges] at inBranch
            have effect := (Deed.instruction operation).run_judge_eq_ok_iff.mp judges
            have still : judged.machine.memory.AgreesOutside hidden rest := by
              rw [unchanged]
              exact kept
            exact (Deed.branch latch).overlooks (quiet.of_subset effect.pending_subset) still
              inBranch

/-! ## The loop -/

theorem fetch_withMemory (agrees : session.machine.memory.AgreesOutside hidden other)
    (shown : Shows hidden session.footprint) :
    (session.withMemory other).fetch = session.fetch := by
  have inFetch := (shows_append_iff.mp (shows_append_iff.mp shown).1).1
  exact congrArg (Prod.mk session.machine.pc) (agrees.readWord_eq inFetch)

variable {scenario : Scenario} {options : RunOptions}

theorem sameOutside_drive {remaining : Nat} (quiet : session.Quiet)
    (agrees : session.machine.memory.AgreesOutside hidden other)
    (shown : ∀ head ∈ begun scenario remaining session, Shows hidden head.footprint) :
    SameOutside hidden ((drive scenario options remaining).run session)
        ((drive scenario options remaining).run (session.withMemory other)) ∧
      (begun scenario remaining (session.withMemory other)).map Session.fetch =
        (begun scenario remaining session).map Session.fetch := by
  -- a turn may write to hidden bytes too, so the other memory is not the same all along
  induction remaining, session using loop_induction scenario generalizing other with
  | left remaining session finished =>
      have finished' : (session.withMemory other).finished = true := finished
      rw [run_drive_of_finished finished, run_drive_of_finished finished',
        begun_of_finished finished, begun_of_finished finished']
      exact ⟨⟨other, agrees, rfl⟩, rfl⟩
  | spent session unfinished =>
      have unfinished' : (session.withMemory other).finished = false := unfinished
      rw [run_drive_zero unfinished, run_drive_zero unfinished']
      exact ⟨⟨other, agrees, rfl⟩, rfl⟩
  | fails remaining session error failed unfinished advances =>
      have unfinished' : (session.withMemory other).finished = false := unfinished
      rw [begun_of_advance_error unfinished advances] at shown ⊢
      have here := shown session (List.mem_singleton_self session)
      have turn := sameOutside_advance quiet agrees here
      rw [advances] at turn
      rcases turn with ⟨rest, kept, again⟩
      rw [run_drive_of_advance_error unfinished advances,
        run_drive_of_advance_error unfinished' again, begun_of_advance_error unfinished' again]
      exact ⟨⟨rest, kept, rfl⟩, congrArg (· :: []) (fetch_withMemory agrees here)⟩
  | ends remaining turn unfinished enough =>
      have unfinished' : (turn.before.withMemory other).finished = false := unfinished
      rw [begun_of_advance_ok unfinished turn.advances, if_pos enough] at shown ⊢
      have here := shown turn.before (List.mem_singleton_self turn.before)
      have same := sameOutside_advance quiet agrees here
      rw [turn.advances] at same
      rcases same with ⟨rest, kept, again⟩
      have enough' : satisfied scenario (turn.after.withMemory rest) = true := enough
      rw [run_drive_of_turn turn unfinished, run_drive_of_advance_ok unfinished' again,
        begun_of_advance_ok unfinished' again, if_pos enough, if_pos enough', if_pos enough']
      exact ⟨⟨rest, kept, rfl⟩, congrArg (· :: []) (fetch_withMemory agrees here)⟩
  | goesOn remaining turn unfinished further induction =>
      have unfinished' : (turn.before.withMemory other).finished = false := unfinished
      rw [begun_of_advance_ok unfinished turn.advances, further] at shown ⊢
      have here := shown turn.before List.mem_cons_self
      have same := sameOutside_advance quiet agrees here
      rw [turn.advances] at same
      rcases same with ⟨rest, kept, again⟩
      have further' : satisfied scenario (turn.after.withMemory rest) = false := further
      rw [run_drive_of_turn turn unfinished, run_drive_of_advance_ok unfinished' again,
        begun_of_advance_ok unfinished' again, further, further', List.map_cons, List.map_cons,
        fetch_withMemory agrees here]
      have behind := fun head member => shown head (List.mem_cons_of_mem _ member)
      rcases induction (quiet.of_subset turn.pending_subset) kept behind with ⟨ends, fetches⟩
      exact ⟨ends, congrArg _ fetches⟩

/-- The bytes that a whole run looks at. -/
def footprint (scenario : Scenario) (options : RunOptions) (first : Session) : List Nat :=
  (begun scenario options.bound first).flatMap Session.footprint

/-- What a run does not look at makes no difference to it. -/
theorem drive_sameOutside_footprint (scenario : Scenario) (options : RunOptions)
    {hidden : Nat → Prop} {first : Session} {other : Memory} (quiet : first.Quiet)
    (agrees : first.machine.memory.AgreesOutside hidden other)
    (shown : Shows hidden (footprint scenario options first)) :
    SameOutside hidden ((drive scenario options options.bound).run first)
        ((drive scenario options options.bound).run (first.withMemory other)) ∧
      (begun scenario options.bound (first.withMemory other)).map Session.fetch =
        (begun scenario options.bound first).map Session.fetch :=
  sameOutside_drive quiet agrees fun head member index inside =>
    shown index (List.mem_flatMap.mpr ⟨head, member, inside⟩)

end Judging

/-! ## A run that looks at little -/

/-- A function that passes a string on and then leaves it to be found. -/
def greetingText : CodeText where
  code := [
    0xd103, 0xd404, 0x410b, 0x0009, -- mov.l @(3,pc),r1; mov.l @(4,pc),r4; jsr @r1; nop
    0x2142, 0x000b, 0x0009, 0x0009, -- mov.l r4,@r1; rts; nop; nop
    0x0800, 0x0000, 0x0018, 0x0000, 0x6968, 0x0000]
  exports := [("_greeting", 0)]
  imports := []

def greeting : Scenario where
  entry := "_greeting"
  expectations := [
    .call ⟨"_greet", none, [.string [0x68, 0x69]], none, none⟩,
    .stringWrite 0x800 [0x68, 0x69]]
  bindings := [⟨"_greet", 0x800⟩]

def Memory.blurred (memory : Memory) (start : Nat) : Memory :=
  { memory with background := fun index => if index < start then memory.background index else 0xa5 }

theorem Memory.agreesOutside_blurred (memory : Memory) (start : Nat) :
    memory.AgreesOutside (start ≤ ·) (memory.blurred start) := by
  constructor
  case size => rfl
  case bytes =>
    intro index before
    simp only [byte, blurred, if_pos (Nat.lt_of_not_le before)]

theorem greeting_sameOutside :
    (greeting.execute greetingText.linked {} fun _ => 0).fulfilled? = some 2 ∧
      ∃ first, greeting.prepare greetingText.linked false (fun _ => 0) = .ok first ∧ first.Quiet ∧
        Shows (0x100 ≤ ·) (Judging.footprint greeting {} first) ∧
        Judging.SameOutside (0x100 ≤ ·)
          ((Judging.drive greeting {} (RunOptions.bound {})).run first)
          ((Judging.drive greeting {} (RunOptions.bound {})).run
            (first.withMemory (first.machine.memory.blurred 0x100))) := by
  have counted : (greeting.execute greetingText.linked {} fun _ => 0).fulfilled? = some 2 := by
    decide +kernel
  have low : ((greeting.prepare greetingText.linked false fun _ => 0).toOption.any fun first =>
      (Judging.footprint greeting {} first).all (· < 0x100)) = true := by
    decide +kernel
  rcases exists_ok_of_any low with ⟨first, prepared, inside⟩
  have quiet : first.Quiet := by
    intro call waits
    rcases Scenario.exists_call_of_prepare prepared waits with ⟨expected, member, rfl⟩
    simp only [greeting, List.mem_cons, Expectation.call.injEq, reduceCtorEq, List.not_mem_nil,
      or_false] at member
    rw [member]
    rfl
  have shown : Shows (0x100 ≤ ·) (Judging.footprint greeting {} first) := by
    intro index member
    exact Nat.not_le_of_lt (of_decide_eq_true (List.all_eq_true.mp inside index member))
  have agrees := first.machine.memory.agreesOutside_blurred 0x100
  exact ⟨counted, first, prepared, quiet, shown,
    (Judging.drive_sameOutside_footprint greeting {} quiet agrees shown).1⟩

end SuperHBench
