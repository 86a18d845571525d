import SuperHBench.Proofs.Coverage
import SuperHBench.Proofs.Session.Consumption

/-! # Stopping early

A run that stops as soon as nothing more is expected goes turn by turn with the run that
does not, up to the first session in which nothing is expected any more. Where the longer
run passes, what it has met by then is all that it meets. -/

namespace SuperHBench

def Scenario.stopping (scenario : Scenario) (early : Bool) : Scenario :=
  { scenario with stopWhenFulfilled := early }

/-! ## Coverage along a run -/

theorem Judged.coverage_within {deed : Deed} {before after : Session}
    (judged : Judged deed before after) : before.coverage.Within after.coverage := by
  cases judged with
  | generic | flow | latched | localCall | localJump => exact Coverage.within_refl _
  | freeLoad | expectedLoad => exact Coverage.within_log _ _ _ _
  | stackStore | expectedStore | expectedString => exact Coverage.within_log _ _ _ _
  | returned =>
      unfold Session.returned
      split
      · exact Coverage.within_refl _
      · exact Coverage.within_refl _
  | call _ _ _ _ _ answered =>
      rw [answered.frame]
      exact Coverage.within_refl _
  | jump _ _ _ _ _ _ answered =>
      rw [answered.frame]
      exact Coverage.within_refl _

theorem Follows.coverage_within {first last : Session} {judgements : List Judgement}
    (follows : Follows first judgements last) : first.coverage.Within last.coverage := by
  induction follows with
  | nil => exact Coverage.within_refl _
  | cons judgement judged _ induction => exact judged.coverage_within.trans induction

theorem Turn.coverage_within (turn : Turn) : turn.before.coverage.Within turn.after.coverage :=
  (Coverage.within_log _ _ _ _).trans turn.follows.coverage_within

/-! ## The turns of both runs -/

section Loop

variable {scenario : Scenario} {options : RunOptions} {first head : Session}
variable {turns : List Turn}

theorem satisfied_stopping_true {session : Session} :
    Judging.satisfied (scenario.stopping true) session = true ↔ session.pending = [] := by
  simp [Judging.satisfied, Scenario.stopping, List.isEmpty_iff]

/-- Where the run that stops early has ended by the time the other one has come to a
session: in some session on the way there, or nowhere yet. -/
inductive CutShort (scenario : Scenario) (options : RunOptions) (first : Session)
    (turns : List Turn) (head : Session) : Prop where
  | notYet (reached : Reaches (scenario.stopping true) options first turns head)
      (waiting : turns ≠ [] → head.pending ≠ [])
  | earlier (part : List Turn) (last : Session)
      (before : part <+: turns) (begun : part ≠ [])
      (reached : Reaches (scenario.stopping true) options first part last)
      (nothing : last.pending = []) (covered : last.coverage.Within head.coverage)

theorem Reaches.cutShort (reached : Reaches (scenario.stopping false) options first turns head) :
    CutShort scenario options first turns head := by
  induction reached with
  | start => exact .notYet .start (absurd rfl)
  | @turn turns turn _ goesOn induction =>
      cases induction with
      | earlier part last before begun reached nothing covered =>
          exact .earlier part last (before.trans (List.prefix_append _ _)) begun reached nothing
            (covered.trans turn.coverage_within)
      | notYet reached waiting =>
          have further : GoesOn (scenario.stopping true) options turns turn.before := {
            unfinished := goesOn.unfinished
            unsatisfied := fun begun =>
              Bool.eq_false_iff.mpr (mt satisfied_stopping_true.mp (waiting begun))
            within := goesOn.within }
          have both := Reaches.turn turn reached further
          by_cases nothing : turn.after.pending = []
          · exact .earlier (turns ++ [turn]) turn.after (List.prefix_refl _) (by simp) both nothing
              (Coverage.within_refl _)
          · exact .notYet both fun _ => nothing

end Loop

/-! ## Whole runs -/

/-- One report is that of a run that has done part of what the other has done. -/
structure RunReport.PartOf (part whole : RunReport) : Prop where
  fulfilled : part.fulfilled = whole.fulfilled
  instructions : part.instructions ≤ whole.instructions
  coverage : part.coverage.Within whole.coverage

theorem Session.answers_none_iff {session final : Session} :
    session.Answers none final ↔ final = session :=
  Iff.rfl

namespace PassingRun

variable {scenario : Scenario} {linked : LinkedObject} {options : RunOptions}
variable {noise : Nat → UInt8}

theorem exists_part (returnless : scenario.returns = none)
    (whole : PassingRun (scenario.stopping false) linked options noise) :
    ∃ part : PassingRun (scenario.stopping true) linked options noise,
      part.first = whole.first ∧ part.turns <+: whole.turns ∧
        part.last.coverage.Within whole.last.coverage := by
  have answered (last : Session) : last.Answers (scenario.stopping true).returns last := by
    rw [show (scenario.stopping true).returns = none from returnless, Session.answers_none_iff]
  cases whole.reached.cutShort with
  | earlier turns last before begun reached nothing covered =>
      have stops : Stops (scenario.stopping true) turns last :=
        .inr ⟨begun, satisfied_stopping_true.mpr nothing⟩
      exact ⟨⟨whole.first, turns, last, last, whole.prepared, reached, stops, nothing,
        answered last⟩, rfl, before, covered⟩
  | notYet reached waiting =>
      -- then the longer run has not taken a turn, and was finished from the start
      have finished : whole.last.finished = true := by
        rcases whole.stops with finished | ⟨begun, _⟩
        · exact finished
        · exact absurd whole.satisfied (waiting begun)
      exact ⟨⟨whole.first, whole.turns, whole.last, whole.last, whole.prepared, reached,
        .inl finished, whole.satisfied, answered whole.last⟩, rfl, List.prefix_refl _,
        Coverage.within_refl _⟩

theorem report_eq_of_returnless {early : Bool} (returnless : scenario.returns = none)
    (run : PassingRun (scenario.stopping early) linked options noise) :
    run.report = run.last.report := by
  have answers := run.answers
  rw [show (scenario.stopping early).returns = none from returnless,
    Session.answers_none_iff] at answers
  rw [report, answers]

theorem partOf_of_prefix (returnless : scenario.returns = none)
    {part : PassingRun (scenario.stopping true) linked options noise}
    {whole : PassingRun (scenario.stopping false) linked options noise}
    (same : part.first = whole.first) (before : part.turns <+: whole.turns)
    (covered : part.last.coverage.Within whole.last.coverage) :
    part.report.PartOf whole.report := by
  have partly := part.reached.ledger
  have wholly := whole.reached.ledger
  rw [part.satisfied, List.append_nil] at partly
  rw [whole.satisfied, List.append_nil] at wholly
  rw [part.report_eq_of_returnless returnless, whole.report_eq_of_returnless returnless]
  constructor
  case fulfilled =>
    change part.last.fulfilled = whole.last.fulfilled
    rw [partly.2, wholly.2, ← partly.1, ← wholly.1, same]
  case instructions =>
    change part.last.instructions ≤ whole.last.instructions
    rw [part.reached.instructions_eq, whole.reached.instructions_eq, same]
    exact Nat.add_le_add_left before.length_le _
  case coverage => exact covered

end PassingRun

theorem Scenario.passes_stopping_of_passes {scenario : Scenario} {linked : LinkedObject}
    {options : RunOptions} {noise : Nat → UInt8} {whole : RunReport}
    (returnless : scenario.returns = none)
    (passes : ((scenario.stopping false).execute linked options noise).result = .ok whole) :
    ∃ part, ((scenario.stopping true).execute linked options noise).result = .ok part ∧
      part.PartOf whole := by
  rcases execute_eq_ok_iff.mp passes with ⟨run, rfl⟩
  rcases run.exists_part returnless with ⟨part, same, before, covered⟩
  exact ⟨part.report, execute_eq_ok_iff.mpr ⟨part, rfl⟩,
    PassingRun.partOf_of_prefix returnless same before covered⟩

/-- The scenario of `relay` without a result: nothing is expected behind the store. -/
def relayed : Scenario :=
  { relay with returns := none }

theorem relayed_stopping :
    ∃ whole part,
      ((relayed.stopping false).execute relayText.linked {} fun _ => 0).result = .ok whole ∧
      ((relayed.stopping true).execute relayText.linked {} fun _ => 0).result = .ok part ∧
      whole.instructions = 6 ∧ part.instructions = 4 ∧ part.PartOf whole := by
  have returnless : relayed.returns = none := rfl
  have long : ((relayed.stopping false).execute relayText.linked {}
      fun _ => 0).result.toOption.any (·.instructions = 6) = true := by decide +kernel
  have short : ((relayed.stopping true).execute relayText.linked {}
      fun _ => 0).result.toOption.any (·.instructions = 4) = true := by decide +kernel
  rcases exists_ok_of_any long with ⟨whole, passes, six⟩
  rcases exists_ok_of_any short with ⟨report, ends, four⟩
  rcases Scenario.passes_stopping_of_passes returnless passes with ⟨part, stopped, partOf⟩
  rw [ends] at stopped
  cases stopped
  exact ⟨whole, report, passes, ends, of_decide_eq_true six, of_decide_eq_true four, partOf⟩

end SuperHBench
