import SuperHBench.Proofs.Session.Judging

/-! # Turns of a run

A turn is one pass of the loop: an instruction runs, its effect is judged, and after
it the branch whose delay slot it was in. `Reaches` follows the turns of a run to the
sessions between them. A run that passes is one whose turns lead to a session where
nothing is open. -/

namespace SuperHBench

/-! ## One turn -/

namespace Session

/-- The session once its next instruction has run, before anything is judged. -/
def stepped (session : Session) : Session :=
  let machine := session.machine.step.1
  { session with
    machine := machine.withoutLine
    latch := none
    coverage := session.coverage.logExecute session.machine.pc 2
    instructions := session.instructions + 1
    events := machine.line.toList.map Event.instruction ++ session.events }

end Session

def Settled : Option Latch → Session → Session → Prop
  | none, judged, after => after = judged
  | some latch, judged, after => Judged (.branch latch) judged after

structure Turn where
  before : Session
  operation : Operation
  /-- The session when the instruction has been judged. -/
  judged : Session
  after : Session
  steps : before.machine.step.2 = .ok operation
  effect : Judged (.instruction operation) before.stepped judged
  settles : Settled before.latch judged after

namespace Judging

theorem run_advance_of_step {session : Session} {operation : Operation}
    (steps : session.machine.step.2 = .ok operation) :
    advance.run session =
      (do
        judge operation
        match session.latch with
        | some latch => judgeBranch latch
        | none => pure ⟨⟩ : Judging PUnit).run session.stepped := by
  unfold advance
  rw [EStateM.run_bind, EStateM.run_get]
  simp only [steps]
  rfl

theorem run_advance_of_fault {session : Session} {cause : Fault}
    (fails : session.machine.step.2 = .error cause) :
    advance.run session =
      .error (fault cause) { session.stepped with instructions := session.instructions } := by
  unfold advance
  rw [EStateM.run_bind, EStateM.run_get]
  simp only [fails]
  rfl

theorem run_settle_eq_ok_iff {latch : Option Latch} {judged after : Session} :
    (match latch with
      | some latch => judgeBranch latch
      | none => pure ⟨⟩ : Judging PUnit).run judged = .ok ⟨⟩ after ↔
      Settled latch judged after := by
  cases latch with
  | none =>
      constructor
      · intro same
        cases same
        rfl
      · intro same
        rw [same]
        rfl
  | some latch => exact run_judgeBranch_eq_ok_iff

theorem run_advance_eq_ok_iff {session after : Session} :
    advance.run session = .ok ⟨⟩ after ↔
      ∃ turn : Turn, turn.before = session ∧ turn.after = after := by
  constructor
  · intro succeeds
    cases outcome : session.machine.step.2 with
    | ok operation =>
        rw [run_advance_of_step outcome, run_then_eq_ok_iff] at succeeds
        rcases succeeds with ⟨judged, effect, settles⟩
        exact ⟨⟨session, operation, judged, after, outcome,
          (Deed.instruction operation).run_judge_eq_ok_iff.mp effect,
          run_settle_eq_ok_iff.mp settles⟩, rfl, rfl⟩
    | error cause =>
        rw [run_advance_of_fault outcome] at succeeds
        cases succeeds
  · intro ⟨turn, start, stop⟩
    subst start stop
    rw [run_advance_of_step turn.steps, run_then_eq_ok_iff]
    exact ⟨turn.judged, (Deed.instruction turn.operation).run_judge_eq_ok_iff.mpr turn.effect,
      run_settle_eq_ok_iff.mpr turn.settles⟩

end Judging

/-! ## The loop -/

section Loop

variable {scenario : Scenario} {options : RunOptions} {first : Session}

structure GoesOn (scenario : Scenario) (options : RunOptions)
    (turns : List Turn) (head : Session) : Prop where
  unfinished : head.finished = false
  unsatisfied : turns ≠ [] → Judging.satisfied scenario head = false
  within : turns.length < options.bound

theorem GoesOn.room {turns : List Turn} {head : Session}
    (goesOn : GoesOn scenario options turns head) :
    options.bound - turns.length = options.bound - (turns.length + 1) + 1 := by
  have within := goesOn.within
  omega

theorem GoesOn.pending_of_left {turns : List Turn} {head : Session}
    (goesOn : GoesOn scenario options turns head) (left : head.running = false) :
    head.machine.pendingBranch.isSome = true := by
  have unfinished := goesOn.unfinished
  simpa [Session.finished, left, Option.isSome_iff_ne_none] using unfinished

/-- The sessions between the turns of a run, with the turns that lead to them. -/
inductive Reaches (scenario : Scenario) (options : RunOptions) (first : Session) :
    List Turn → Session → Prop where
  | start : Reaches scenario options first [] first
  | turn {turns : List Turn} (turn : Turn)
      (reached : Reaches scenario options first turns turn.before)
      (goesOn : GoesOn scenario options turns turn.before) :
      Reaches scenario options first (turns ++ [turn]) turn.after

/-- The loop is left, and not because of the limit. -/
def Stops (scenario : Scenario) (turns : List Turn) (last : Session) : Prop :=
  last.finished = true ∨ turns ≠ [] ∧ Judging.satisfied scenario last = true

namespace Judging

theorem run_drive_of_finished {remaining : Nat} {head : Session}
    (finished : head.finished = true) :
    (drive scenario options remaining).run head = .ok ⟨⟩ head := by
  cases remaining with
  | zero =>
      rw [drive, EStateM.run_bind, EStateM.run_get]
      simp [finished]
  | succ remaining =>
      rw [drive, EStateM.run_bind, EStateM.run_get]
      simp [finished]

theorem run_drive_of_turn {remaining : Nat} (turn : Turn)
    (unfinished : turn.before.finished = false) :
    (drive scenario options (remaining + 1)).run turn.before =
      if satisfied scenario turn.after then .ok ⟨⟩ turn.after
      else (drive scenario options remaining).run turn.after := by
  have advances : advance.run turn.before = .ok ⟨⟩ turn.after :=
    run_advance_eq_ok_iff.mpr ⟨turn, rfl, rfl⟩
  rw [drive, EStateM.run_bind, EStateM.run_get]
  simp only [unfinished, Bool.not_false, if_true]
  rw [EStateM.run_bind, advances]
  simp only [EStateM.run_bind, EStateM.run_get]
  cases satisfied scenario turn.after with
  | true => rfl
  | false => rfl

theorem run_drive_eq_of_reaches {turns : List Turn} {head : Session}
    (reached : Reaches scenario options first turns head)
    (unsatisfied : turns ≠ [] → satisfied scenario head = false) :
    (drive scenario options options.bound).run first =
      (drive scenario options (options.bound - turns.length)).run head := by
  induction reached with
  | start => rfl
  | @turn turns turn reached goesOn induction =>
      rw [induction goesOn.unsatisfied, goesOn.room, run_drive_of_turn turn goesOn.unfinished,
        unsatisfied (by simp), List.length_append, List.length_singleton]
      rfl

theorem reaches_of_run_drive {remaining : Nat} {turns : List Turn}
    {head last : Session} (reached : Reaches scenario options first turns head)
    (unsatisfied : turns ≠ [] → satisfied scenario head = false)
    (count : turns.length + remaining = options.bound)
    (succeeds : (drive scenario options remaining).run head = .ok ⟨⟩ last) :
    ∃ turns, Reaches scenario options first turns last ∧ Stops scenario turns last := by
  -- the turns taken and the room left always make up the bound
  induction remaining generalizing turns head with
  | zero =>
      cases finished : head.finished with
      | true =>
          rw [run_drive_of_finished finished] at succeeds
          cases succeeds
          exact ⟨turns, reached, .inl finished⟩
      | false =>
          rw [drive, EStateM.run_bind, EStateM.run_get] at succeeds
          simp [finished] at succeeds
  | succ remaining induction =>
      cases finished : head.finished with
      | true =>
          rw [run_drive_of_finished finished] at succeeds
          cases succeeds
          exact ⟨turns, reached, .inl finished⟩
      | false =>
          have goesOn : GoesOn scenario options turns head := ⟨finished, unsatisfied, by omega⟩
          cases outcome : advance.run head with
          | error error failed =>
              rw [drive, EStateM.run_bind, EStateM.run_get] at succeeds
              simp only [finished, Bool.not_false, if_true, EStateM.run_bind, outcome] at succeeds
              cases succeeds
          | ok result after =>
              rcases run_advance_eq_ok_iff.mp outcome with ⟨turn, rfl, rfl⟩
              have further := Reaches.turn turn reached goesOn
              rw [run_drive_of_turn turn finished] at succeeds
              cases enough : satisfied scenario turn.after with
              | true =>
                  rw [enough] at succeeds
                  cases succeeds
                  exact ⟨_, further, .inr ⟨by simp, enough⟩⟩
              | false =>
                  rw [enough] at succeeds
                  apply induction further (fun _ => enough) _ succeeds
                  rw [List.length_append, List.length_singleton]
                  omega

theorem run_drive_eq_ok_iff {last : Session} :
    (drive scenario options options.bound).run first = .ok ⟨⟩ last ↔
      ∃ turns, Reaches scenario options first turns last ∧ Stops scenario turns last := by
  constructor
  · intro succeeds
    exact reaches_of_run_drive .start (by simp) (by simp) succeeds
  · intro ⟨turns, reached, stops⟩
    cases reached with
    | start =>
        rcases stops with finished | ⟨nonempty, _⟩
        · exact run_drive_of_finished finished
        · exact absurd rfl nonempty
    | @turn turns turn reached goesOn =>
        rw [run_drive_eq_of_reaches reached goesOn.unsatisfied, goesOn.room,
          run_drive_of_turn turn goesOn.unfinished]
        rcases stops with finished | ⟨_, enough⟩
        · rw [run_drive_of_finished finished, ite_self]
        · rw [if_pos enough]

end Judging

theorem Reaches.of_append {earlier later : List Turn} {turn : Turn} {last : Session}
    (reached : Reaches scenario options first (earlier ++ turn :: later) last) :
    Reaches scenario options first earlier turn.before ∧
      GoesOn scenario options earlier turn.before := by
  generalize whole : earlier ++ turn :: later = turns at reached
  induction reached generalizing later with
  | start => simp at whole
  | @turn turns final reached goesOn induction =>
      rcases List.eq_nil_or_concat later with rfl | ⟨front, back, rfl⟩
      · rcases List.append_inj' whole rfl with ⟨rfl, same⟩
        cases same
        exact ⟨reached, goesOn⟩
      · rw [List.concat_eq_append, ← List.cons_append, ← List.append_assoc] at whole
        exact induction (List.append_inj' whole rfl).1

theorem Reaches.invariant {turns : List Turn} {head : Session}
    (reached : Reaches scenario options first turns head) (Holds : Session → Prop)
    (start : Holds first)
    (kept : ∀ turn : Turn, Holds turn.before → Holds turn.after) :
    Holds head := by
  induction reached with
  | start => exact start
  | turn turn _ _ induction => exact kept turn induction

end Loop

end SuperHBench
