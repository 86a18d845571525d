import SuperHBench.Proofs.Session.Invariants
import SuperHBench.Proofs.Session.Turns

/-! # Instructions that are begun

Every pass of the loop begins one instruction. The sessions in which a run does so are the
heads of its turns and, where it fails, of the turn that fails. As long as they are no more
than the loop has room for, the room makes no difference. -/

namespace SuperHBench

theorem Turn.advances (turn : Turn) : Judging.advance.run turn.before = .ok ⟨⟩ turn.after :=
  Judging.run_advance_eq_ok_iff.mpr ⟨turn, rfl, rfl⟩

namespace Judging

/-- The sessions in which the loop begins an instruction, in their order. -/
def begun (scenario : Scenario) : (remaining : Nat) → Session → List Session
  | 0, _ => []
  | remaining + 1, session =>
      if session.finished then
        []
      else
        session ::
          match advance.run session with
          | .ok _ after =>
              if satisfied scenario after then [] else begun scenario remaining after
          | .error _ _ => []

variable {scenario : Scenario} {options others : RunOptions}
variable {remaining : Nat} {session : Session}

theorem length_begun_le (scenario : Scenario) (remaining : Nat)
    (session : Session) : (begun scenario remaining session).length ≤ remaining := by
  induction remaining generalizing session with
  | zero => exact Nat.le_refl 0
  | succ remaining induction =>
      rw [begun]
      split
      · exact Nat.zero_le _
      · rw [List.length_cons]
        apply Nat.succ_le_succ
        split
        · split
          · exact Nat.zero_le _
          · exact induction _
        · exact Nat.zero_le _

/-! ## One pass of the loop -/

/-- Induction along the loop: it is left, has no room left, fails, or takes a turn that is
its last or is not. -/
theorem loop_induction (scenario : Scenario) {motive : Nat → Session → Prop}
    (left : ∀ remaining session, session.finished = true → motive remaining session)
    (spent : ∀ session, session.finished = false → motive 0 session)
    (fails : ∀ remaining session error failed, session.finished = false →
      advance.run session = .error error failed → motive (remaining + 1) session)
    (ends : ∀ remaining (turn : Turn), turn.before.finished = false →
      satisfied scenario turn.after = true → motive (remaining + 1) turn.before)
    (goesOn : ∀ remaining (turn : Turn), turn.before.finished = false →
      satisfied scenario turn.after = false → motive remaining turn.after →
      motive (remaining + 1) turn.before)
    (remaining : Nat) (session : Session) : motive remaining session := by
  induction remaining generalizing session with
  | zero =>
      cases finished : session.finished with
      | true => exact left 0 session finished
      | false => exact spent session finished
  | succ remaining induction =>
      cases finished : session.finished with
      | true => exact left (remaining + 1) session finished
      | false =>
          cases advances : advance.run session with
          | error error failed => exact fails remaining session error failed finished advances
          | ok result after =>
              rcases run_advance_eq_ok_iff.mp advances with ⟨turn, rfl, rfl⟩
              cases enough : satisfied scenario turn.after with
              | true => exact ends remaining turn finished enough
              | false => exact goesOn remaining turn finished enough (induction turn.after)

theorem begun_of_finished (finished : session.finished = true) :
    begun scenario remaining session = [] := by
  cases remaining with
  | zero => rfl
  | succ remaining => rw [begun, if_pos finished]

theorem begun_of_advance_ok {after : Session} (unfinished : session.finished = false)
    (advances : advance.run session = .ok ⟨⟩ after) :
    begun scenario (remaining + 1) session =
      session :: if satisfied scenario after then [] else begun scenario remaining after := by
  rw [begun, unfinished, advances]
  rfl

theorem begun_of_advance_error {error : RunError} {failed : Session}
    (unfinished : session.finished = false)
    (advances : advance.run session = .error error failed) :
    begun scenario (remaining + 1) session = [session] := by
  rw [begun, unfinished, advances]
  rfl

theorem run_drive_zero (unfinished : session.finished = false) :
    (drive scenario options 0).run session =
      .error (.simulation (.instructionLimit options.bound)) session := by
  rw [drive, EStateM.run_bind, EStateM.run_get]
  simp [unfinished]

theorem run_drive_of_advance_ok {after : Session} (unfinished : session.finished = false)
    (advances : advance.run session = .ok ⟨⟩ after) :
    (drive scenario options (remaining + 1)).run session =
      if satisfied scenario after then .ok ⟨⟩ after
      else (drive scenario options remaining).run after := by
  rcases run_advance_eq_ok_iff.mp advances with ⟨turn, rfl, rfl⟩
  exact run_drive_of_turn turn unfinished

theorem run_drive_of_advance_error {error : RunError} {failed : Session}
    (unfinished : session.finished = false)
    (advances : advance.run session = .error error failed) :
    (drive scenario options (remaining + 1)).run session = .error error failed := by
  rw [drive, EStateM.run_bind, EStateM.run_get]
  simp only [unfinished, Bool.not_false, if_true, EStateM.run_bind, advances]

/-! ## Along a run -/

theorem begun_eq_of_reaches {first head : Session} {turns : List Turn}
    (reached : Reaches scenario options first turns head)
    (unsatisfied : turns ≠ [] → satisfied scenario head = false) :
    begun scenario options.bound first = turns.map Turn.before ++
        begun scenario (options.bound - turns.length) head := by
  induction reached with
  | start => rfl
  | @turn turns turn reached goesOn induction =>
      rw [induction goesOn.unsatisfied, goesOn.room,
        begun_of_advance_ok goesOn.unfinished turn.advances, unsatisfied (by simp),
        List.map_append, List.append_assoc, List.length_append, List.length_singleton]
      rfl

theorem begun_eq_of_stops {first last : Session} {turns : List Turn}
    (reached : Reaches scenario options first turns last) (stops : Stops scenario turns last) :
    begun scenario options.bound first = turns.map Turn.before := by
  cases reached with
  | start =>
      rcases stops with finished | ⟨nonempty, _⟩
      · exact begun_of_finished finished
      · exact absurd rfl nonempty
  | @turn turns turn reached goesOn =>
      have here : begun scenario (options.bound - turns.length) turn.before = [turn.before] := by
        rw [goesOn.room, begun_of_advance_ok goesOn.unfinished turn.advances]
        rcases stops with finished | ⟨_, enough⟩
        · rw [begun_of_finished finished, ite_self]
        · rw [if_pos enough]
      rw [begun_eq_of_reaches reached goesOn.unsatisfied, here, List.map_append]
      rfl

theorem reaches_of_mem_begun {first head : Session} {turns : List Turn}
    (reached : Reaches scenario options first turns session)
    (unsatisfied : turns ≠ [] → satisfied scenario session = false)
    (count : turns.length + remaining = options.bound)
    (member : head ∈ begun scenario remaining session) :
    ∃ turns, Reaches scenario options first turns head ∧ GoesOn scenario options turns head := by
  induction remaining, session using loop_induction scenario generalizing turns with
  | left remaining session finished =>
      rw [begun_of_finished finished] at member
      cases member
  | spent session unfinished => cases member
  | fails remaining session error failed unfinished advances =>
      rw [begun_of_advance_error unfinished advances, List.mem_singleton] at member
      subst member
      exact ⟨turns, reached, unfinished, unsatisfied, by omega⟩
  | ends remaining turn unfinished enough =>
      rw [begun_of_advance_ok unfinished turn.advances, if_pos enough,
        List.mem_singleton] at member
      subst member
      exact ⟨turns, reached, unfinished, unsatisfied, by omega⟩
  | goesOn remaining turn unfinished further induction =>
      have goesOn : GoesOn scenario options turns turn.before :=
        ⟨unfinished, unsatisfied, by omega⟩
      rw [begun_of_advance_ok unfinished turn.advances, further] at member
      rcases List.mem_cons.mp member with rfl | later
      · exact ⟨turns, reached, goesOn⟩
      · apply induction (.turn turn reached goesOn) (fun _ => further) _ later
        rw [List.length_append, List.length_singleton]
        omega

theorem mem_begun_iff {first head : Session} :
    head ∈ begun scenario options.bound first ↔
      ∃ turns, Reaches scenario options first turns head ∧ GoesOn scenario options turns head := by
  constructor
  · intro member
    exact reaches_of_mem_begun .start (absurd rfl) (Nat.zero_add _) member
  · intro ⟨turns, reached, goesOn⟩
    rw [begun_eq_of_reaches reached goesOn.unsatisfied, goesOn.room, begun, goesOn.unfinished]
    exact List.mem_append_right _ List.mem_cons_self

/-- A loop that does not run out of room would have gone the same way with any room that
its instructions fit into. -/
theorem run_drive_eq_of_length_begun_le (unlimited : ∀ error failed,
    (drive scenario options remaining).run session = .error error failed → ¬error.IsLimit)
    {more : Nat} (enough : (begun scenario remaining session).length ≤ more) :
    (drive scenario others more).run session = (drive scenario options remaining).run session := by
  induction remaining, session using loop_induction scenario generalizing more with
  | left remaining session finished =>
      rw [run_drive_of_finished finished, run_drive_of_finished finished]
  | spent session unfinished => exact absurd ⟨_, rfl⟩ (unlimited _ _ (run_drive_zero unfinished))
  | fails remaining session error failed unfinished advances =>
      rw [begun_of_advance_error unfinished advances, List.length_singleton] at enough
      rcases Nat.exists_eq_add_of_le' enough with ⟨more, rfl⟩
      rw [run_drive_of_advance_error unfinished advances,
        run_drive_of_advance_error unfinished advances]
  | ends remaining turn unfinished satisfied =>
      rw [begun_of_advance_ok unfinished turn.advances, if_pos satisfied,
        List.length_singleton] at enough
      rcases Nat.exists_eq_add_of_le' enough with ⟨more, rfl⟩
      rw [run_drive_of_turn turn unfinished, run_drive_of_turn turn unfinished,
        if_pos satisfied, if_pos satisfied]
  | goesOn remaining turn unfinished further induction =>
      rw [begun_of_advance_ok unfinished turn.advances, further] at enough
      have room : 1 ≤ more := Nat.le_trans (Nat.succ_le_succ (Nat.zero_le _)) enough
      rcases Nat.exists_eq_add_of_le' room with ⟨more, rfl⟩
      rw [run_drive_of_turn turn unfinished, further] at unlimited
      rw [run_drive_of_turn turn unfinished, run_drive_of_turn turn unfinished, further]
      exact induction unlimited (Nat.le_of_succ_le_succ enough)

end Judging

end SuperHBench
