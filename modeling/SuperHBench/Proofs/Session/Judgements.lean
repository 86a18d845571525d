import SuperHBench.Proofs.Session.Turns

/-! # Judgements of a run

A turn makes one judgement of its instruction and one of the branch that has waited for
it. A run comes to the judgements of its turns, and to those of a turn that fails. -/

namespace SuperHBench

/-! ## Judgements of a turn -/

structure Judgement where
  deed : Deed
  before : Session
  after : Session

inductive Follows : Session → List Judgement → Session → Prop where
  | nil (session : Session) : Follows session [] session
  | cons (judgement : Judgement) {rest : List Judgement} {last : Session}
      (judged : Judged judgement.deed judgement.before judgement.after)
      (follows : Follows judgement.after rest last) :
      Follows judgement.before (judgement :: rest) last

namespace Follows

variable {first last : Session} {judgements : List Judgement}

theorem judged_of_mem (follows : Follows first judgements last) {judgement : Judgement}
    (member : judgement ∈ judgements) :
    Judged judgement.deed judgement.before judgement.after := by
  induction follows with
  | nil => cases member
  | cons judgement judged _ induction =>
      rcases List.mem_cons.mp member with rfl | later
      · exact judged
      · exact induction later

theorem unchanged {β : Type} (follows : Follows first judgements last) (view : Session → β)
    (kept : ∀ {deed before after}, Judged deed before after → view after = view before) :
    view last = view first := by
  induction follows with
  | nil => rfl
  | cons judgement judged _ induction => rw [induction, kept judged]

end Follows

namespace Turn

variable (turn : Turn)

def judgements : List Judgement :=
  ⟨.instruction turn.operation, turn.before.stepped, turn.judged⟩ ::
    (turn.before.latch.map fun latch => ⟨.branch latch, turn.judged, turn.after⟩).toList

theorem mem_judgements_iff {judgement : Judgement} :
    judgement ∈ turn.judgements ↔
      judgement = ⟨.instruction turn.operation, turn.before.stepped, turn.judged⟩ ∨
        ∃ latch, turn.before.latch = some latch ∧
          judgement = ⟨.branch latch, turn.judged, turn.after⟩ := by
  unfold judgements
  cases turn.before.latch with
  | none => simp
  | some latch => simp

theorem follows : Follows turn.before.stepped turn.judgements turn.after := by
  have settles := turn.settles
  apply Follows.cons ⟨_, turn.before.stepped, turn.judged⟩ turn.effect
  cases waiting : turn.before.latch with
  | none =>
      rw [waiting] at settles
      rw [settles]
      exact .nil turn.judged
  | some latch =>
      rw [waiting] at settles
      exact .cons ⟨.branch latch, turn.judged, turn.after⟩ settles (.nil turn.after)

theorem latch_of_mem {judgement : Judgement} {latch : Latch}
    (member : judgement ∈ turn.judgements) (branch : judgement.deed = .branch latch) :
    turn.before.latch = some latch := by
  rcases turn.mem_judgements_iff.mp member with rfl | ⟨other, waits, rfl⟩
  · cases branch
  · cases branch
    exact waits

theorem branch_mem {latch : Latch} (waits : turn.before.latch = some latch) :
    ⟨.branch latch, turn.judged, turn.after⟩ ∈ turn.judgements :=
  turn.mem_judgements_iff.mpr (.inr ⟨latch, waits, rfl⟩)

theorem resolution_after : turn.after.resolution = turn.before.resolution :=
  turn.follows.unchanged Session.resolution fun judged => judged.frame.1

theorem instructions_after : turn.after.instructions = turn.before.instructions + 1 :=
  turn.follows.unchanged Session.instructions fun judged => judged.frame.2

end Turn

def judgementsOf (turns : List Turn) : List Judgement :=
  turns.flatMap Turn.judgements

theorem judgementsOf_concat (turns : List Turn) (turn : Turn) :
    judgementsOf (turns ++ [turn]) = judgementsOf turns ++ turn.judgements := by
  simp [judgementsOf]

theorem judged_of_mem_judgementsOf {turns : List Turn}
    {judgement : Judgement} (member : judgement ∈ judgementsOf turns) :
    Judged judgement.deed judgement.before judgement.after := by
  rcases List.mem_flatMap.mp member with ⟨turn, _, judged⟩
  exact turn.follows.judged_of_mem judged

/-- What a run comes to judge, and the session it judges it in. The last of these may
fail. -/
inductive Attempts (scenario : Scenario) (options : RunOptions) (first : Session) :
    Deed → Session → Prop where
  | instruction {turns : List Turn} {head : Session} {operation : Operation}
      (reached : Reaches scenario options first turns head)
      (goesOn : GoesOn scenario options turns head)
      (steps : head.machine.step.2 = .ok operation) :
      Attempts scenario options first (.instruction operation) head.stepped
  | branch {turns : List Turn} {head judged : Session}
      {operation : Operation} {latch : Latch}
      (reached : Reaches scenario options first turns head)
      (goesOn : GoesOn scenario options turns head)
      (steps : head.machine.step.2 = .ok operation)
      (effect : Judged (.instruction operation) head.stepped judged)
      (waits : head.latch = some latch) :
      Attempts scenario options first (.branch latch) judged

theorem Reaches.turn_of_mem {scenario : Scenario} {options : RunOptions} {first head : Session}
    {turns : List Turn} (reached : Reaches scenario options first turns head)
    {judgement : Judgement} (member : judgement ∈ judgementsOf turns) :
    ∃ (earlier : List Turn) (turn : Turn),
      Reaches scenario options first earlier turn.before ∧
        GoesOn scenario options earlier turn.before ∧ judgement ∈ turn.judgements := by
  rcases List.mem_flatMap.mp member with ⟨turn, taken, within⟩
  rcases List.append_of_mem taken with ⟨earlier, later, rfl⟩
  exact ⟨earlier, turn, reached.of_append.1, reached.of_append.2, within⟩

theorem Reaches.attempts {scenario : Scenario} {options : RunOptions} {first head : Session}
    {turns : List Turn} (reached : Reaches scenario options first turns head)
    {judgement : Judgement} (member : judgement ∈ judgementsOf turns) :
    Attempts scenario options first judgement.deed judgement.before := by
  rcases reached.turn_of_mem member with ⟨earlier, turn, before, goesOn, within⟩
  rcases turn.mem_judgements_iff.mp within with rfl | ⟨latch, waits, rfl⟩
  · exact .instruction before goesOn turn.steps
  · exact .branch before goesOn turn.steps turn.effect waits

theorem Reaches.resolution_eq {scenario : Scenario} {options : RunOptions}
    {first head : Session} {turns : List Turn}
    (reached : Reaches scenario options first turns head) :
    head.resolution = first.resolution := by
  apply reached.invariant fun session => session.resolution = first.resolution
  · rfl
  · intro turn same
    rw [turn.resolution_after, same]

theorem Attempts.resolution_eq {scenario : Scenario} {options : RunOptions}
    {first session : Session} {deed : Deed}
    (attempts : Attempts scenario options first deed session) :
    session.resolution = first.resolution := by
  cases attempts with
  | instruction reached => exact reached.resolution_eq
  | branch reached _ _ effect => exact effect.frame.1.trans reached.resolution_eq

theorem Attempts.run_drive_eq_error {scenario : Scenario} {options : RunOptions}
    {first session failed : Session} {deed : Deed} {error : RunError}
    (attempts : Attempts scenario options first deed session)
    (fails : deed.judge.run session = .error error failed) :
    (Judging.drive scenario options options.bound).run first = .error error failed := by
  have ends : ∀ {turns : List Turn} {head : Session},
      Reaches scenario options first turns head → GoesOn scenario options turns head →
      Judging.advance.run head = .error error failed →
      (Judging.drive scenario options options.bound).run first = .error error failed := by
    intro turns head reached goesOn advances
    rw [Judging.run_drive_eq_of_reaches reached goesOn.unsatisfied, goesOn.room, Judging.drive,
      EStateM.run_bind, EStateM.run_get]
    simp only [goesOn.unfinished, Bool.not_false, if_true]
    rw [EStateM.run_bind, advances]
  cases attempts with
  | @instruction _ _ operation reached goesOn steps =>
      apply ends reached goesOn
      change (Judging.judge operation).run _ = _ at fails
      rw [Judging.run_advance_of_step steps, EStateM.run_bind, fails]
  | @branch _ _ _ operation latch reached goesOn steps effect waits =>
      apply ends reached goesOn
      have judges := (Deed.run_judge_eq_ok_iff _).mpr effect
      change (Judging.judge operation).run _ = _ at judges
      rw [Judging.run_advance_of_step steps, EStateM.run_bind, judges, waits]
      exact fails

/-! ## Waiting branches -/

def Operation.latch? : Operation → Option Latch
  | .branch _ kind target => if kind = .rts then none else some ⟨kind, target⟩
  | _ => none

theorem Operation.latch?_eq_some_iff {operation : Operation} {latch : Latch} :
    operation.latch? = some latch ↔
      latch.kind ≠ .rts ∧ ∃ code, operation = .branch code latch.kind latch.target := by
  constructor
  · intro waits
    unfold Operation.latch? at waits
    split at waits
    · rename_i code kind target
      by_cases returns : kind = .rts
      · rw [if_pos returns] at waits
        cases waits
      · rw [if_neg returns] at waits
        cases waits
        exact ⟨returns, code, rfl⟩
    · cases waits
  · intro ⟨delayed, code, same⟩
    rw [same, Operation.latch?, if_neg delayed]

theorem Judged.latch_of_instruction {operation : Operation} {before after : Session}
    (judged : Judged (.instruction operation) before after) (idle : before.latch = none) :
    after.latch = operation.latch? := by
  cases judged with
  | generic | flow | freeLoad | expectedLoad | stackStore | expectedStore | expectedString =>
      exact idle
  | latched _ _ _ _ delayed => simp [Operation.latch?, delayed]
  | returned =>
      unfold Session.returned
      split
      · exact idle
      · exact idle

theorem Judged.latch_of_branch {latch : Latch} {before after : Session}
    (judged : Judged (.branch latch) before after) : after.latch = before.latch := by
  cases judged with
  | localCall | localJump => rfl
  | call _ _ _ _ _ answered =>
      rw [answered.frame]
      rfl
  | jump _ _ _ _ _ _ answered =>
      rw [answered.frame]
      rfl

theorem Turn.latch_after (turn : Turn) : turn.after.latch = turn.operation.latch? := by
  have effect : turn.judged.latch = turn.operation.latch? :=
    turn.effect.latch_of_instruction rfl
  have settles := turn.settles
  cases waiting : turn.before.latch with
  | none =>
      rw [waiting] at settles
      rw [settles, effect]
  | some latch =>
      rw [waiting] at settles
      rw [Judged.latch_of_branch settles, effect]

/-- Between two turns the branch that waits is the one that has just run. -/
theorem Reaches.latch_eq {scenario : Scenario} {options : RunOptions} {first head : Session}
    {turns : List Turn} (reached : Reaches scenario options first turns head)
    (idle : first.latch = none) :
    head.latch = turns.getLast?.bind (·.operation.latch?) := by
  cases reached with
  | start => exact idle
  | turn turn => rw [turn.latch_after, List.getLast?_concat, Option.bind_some]

/-! ## Computed runs -/

namespace Judging

variable (scenario : Scenario) (options : RunOptions) (first : Session)

/-- The session after a number of turns, where the loop comes that far and goes on. -/
def headAfter : (count : Nat) → Option Session
  | 0 => if first.finished || options.bound = 0 then none else some first
  | count + 1 =>
      (headAfter count).bind fun head =>
        match advance.run head with
        | .ok _ after =>
            if after.finished || satisfied scenario after || options.bound ≤ count + 1 then
              none
            else
              some after
        | .error _ _ => none

def instructionAfter (count : Nat) : Option (Operation × Session) :=
  (headAfter scenario options first count).bind fun head =>
    match head.machine.step.2 with
    | .ok operation => some (operation, head.stepped)
    | .error _ => none

def branchAfter (count : Nat) : Option (Latch × Session) :=
  (headAfter scenario options first count).bind fun head =>
    match head.machine.step.2, head.latch with
    | .ok operation, some latch =>
        match (judge operation).run head.stepped with
        | .ok _ judged => some (latch, judged)
        | .error _ _ => none
    | _, _ => none

variable {scenario options first}

theorem reaches_of_headAfter {count : Nat} {head : Session}
    (computed : headAfter scenario options first count = some head) :
    ∃ turns, turns.length = count ∧ Reaches scenario options first turns head ∧
      GoesOn scenario options turns head := by
  induction count generalizing head with
  | zero =>
      simp only [headAfter] at computed
      split at computed
      · cases computed
      · rename_i further
        cases computed
        simp only [Bool.or_eq_true, decide_eq_true_eq, not_or] at further
        exact ⟨[], rfl, .start, by simpa using further.1, by simp,
          Nat.pos_of_ne_zero further.2⟩
  | succ count induction =>
      rw [headAfter] at computed
      rcases Option.bind_eq_some_iff.mp computed with ⟨before, earlier, later⟩
      rcases induction earlier with ⟨turns, length, reached, goesOn⟩
      cases outcome : advance.run before with
      | error error failed =>
          rw [outcome] at later
          cases later
      | ok result after =>
          simp only [outcome] at later
          split at later
          · cases later
          · rename_i further
            cases later
            simp only [Bool.or_eq_true, decide_eq_true_eq, not_or, Bool.not_eq_true,
              Nat.not_le] at further
            rcases run_advance_eq_ok_iff.mp outcome with ⟨turn, rfl, rfl⟩
            have longer : (turns ++ [turn]).length = count + 1 := by simp [length]
            refine ⟨turns ++ [turn], longer, .turn turn reached goesOn, further.1.1,
              fun _ => further.1.2, ?_⟩
            rw [longer]
            exact further.2

theorem attempts_of_instructionAfter {count : Nat} {operation : Operation} {session : Session}
    (computed : instructionAfter scenario options first count = some (operation, session)) :
    Attempts scenario options first (.instruction operation) session := by
  unfold instructionAfter at computed
  rcases Option.bind_eq_some_iff.mp computed with ⟨head, earlier, later⟩
  rcases reaches_of_headAfter earlier with ⟨turns, _, reached, goesOn⟩
  split at later
  · rename_i steps
    cases later
    exact .instruction reached goesOn steps
  · cases later

theorem attempts_of_branchAfter {count : Nat} {latch : Latch} {judged : Session}
    (computed : branchAfter scenario options first count = some (latch, judged)) :
    Attempts scenario options first (.branch latch) judged := by
  unfold branchAfter at computed
  rcases Option.bind_eq_some_iff.mp computed with ⟨head, earlier, later⟩
  rcases reaches_of_headAfter earlier with ⟨turns, _, reached, goesOn⟩
  split at later
  · rename_i operation latch' steps waits
    cases outcome : (judge operation).run head.stepped with
    | error error failed =>
        rw [outcome] at later
        cases later
    | ok result after =>
        rw [outcome] at later
        cases later
        have effect := (Deed.instruction operation).run_judge_eq_ok_iff.mp outcome
        exact .branch reached goesOn steps effect waits
  · cases later

end Judging

end SuperHBench
