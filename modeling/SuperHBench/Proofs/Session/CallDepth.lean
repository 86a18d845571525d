import SuperHBench.Proofs.CodeObject
import SuperHBench.Proofs.Machine.Steps
import SuperHBench.Proofs.Session.Control
import SuperHBench.Proofs.Session.Passing

/-! # Calls inside the program

A return inside a local function goes back to its caller. A jump to a symbol or to an
expected stub ends the run at any depth. So the program is left at depth zero exactly
where no such jump is made inside a local function. -/

namespace SuperHBench

/-! ## Branches -/

namespace Machine

theorem pendingBranch_of_execute {machine after : Machine} {code word : UInt16}
    {instruction : Instruction} {kind : BranchKind} {target : UInt32}
    (ran : machine.execute word instruction = .ok (.branch code kind target) after) :
    after.pendingBranch = some target := by
  cases instruction with
  | branch | branchSubroutine | jump | jumpSubroutine | returnSubroutine =>
      cases ran
      rfl
  | load width source destination =>
      rcases load_eq_ok_iff.mp ran with ⟨value, _, impossible, _⟩
      cases impossible
  | _ => simp [execute] at ran

theorem pendingBranch_of_step {machine : Machine} {code : UInt16} {kind : BranchKind}
    {target : UInt32} (steps : machine.step.2 = .ok (.branch code kind target)) :
    machine.step.1.pendingBranch = some target := by
  unfold step at *
  cases fetched : machine.memory.readWord machine.pc with
  | error error =>
      simp only [fetched] at steps
      cases steps
  | ok word =>
      simp only [fetched, perform] at steps ⊢
      cases decoded : Instruction.decode? word with
      | none =>
          simp only [decoded] at steps
          cases steps
      | some instruction =>
          simp only [decoded] at steps ⊢
          cases ran : (machine.entered word).execute word instruction with
          | error error after =>
              simp only [ran] at steps
              cases steps
          | ok operation after =>
              simp only [ran] at steps ⊢
              cases steps
              have waits := pendingBranch_of_execute ran
              cases machine.pendingBranch with
              | none => exact waits
              | some pending => exact waits

end Machine

/-! ## Rows of judgements -/

namespace Judgement

def move (judgement : Judgement) : Move :=
  judgement.deed.move judgement.before

def enters (judgement : Judgement) : Bool :=
  judgement.move = .enter

def comesBack (judgement : Judgement) : Bool :=
  judgement.before.control.comesBack judgement.move

/-- The program has been left already. Only branches in delay slots are that late. -/
def late (judgement : Judgement) : Bool :=
  !judgement.before.running

end Judgement

inductive Moves : Control → List Judgement → Control → Prop where
  | nil (control : Control) : Moves control [] control
  | cons (judgement : Judgement) {rest : List Judgement} {last : Control}
      (moved : judgement.after.control = judgement.before.control.after judgement.move)
      (moves : Moves judgement.after.control rest last) :
      Moves judgement.before.control (judgement :: rest) last

namespace Moves

variable {first last : Control} {judgements : List Judgement}

theorem append {middle : Control} {later : List Judgement} (moves : Moves first judgements middle)
    (others : Moves middle later last) : Moves first (judgements ++ later) last := by
  induction moves with
  | nil => exact others
  | cons judgement moved _ induction => exact .cons judgement moved (induction others)

/-- Local functions are entered and left one at a time. -/
theorem balance (moves : Moves first judgements last) :
    last.callDepth + judgements.countP Judgement.comesBack =
      first.callDepth + judgements.countP Judgement.enters := by
  induction moves with
  | nil => rfl
  | @cons judgement rest last moved _ induction =>
      have step := judgement.before.control.callDepth_after judgement.move
      rw [← moved] at step
      change _ + (if judgement.comesBack then 1 else 0) =
        _ + if judgement.enters then 1 else 0 at step
      rw [List.countP_cons, List.countP_cons]
      omega

theorem late_balance (moves : Moves first judgements last)
    (shallow : ∀ judgement ∈ judgements, judgement.before.running = true →
      judgement.move = .leave → judgement.before.callDepth = 0)
    (left : last.running = false) :
    last.callDepth + judgements.countP (fun judgement => judgement.late && judgement.comesBack) =
      (if first.running then 0 else first.callDepth) +
        judgements.countP (fun judgement => judgement.late && judgement.enters) := by
  induction moves with
  | nil control => simp [left]
  | @cons judgement rest last moved _ induction =>
      have later := induction (fun other member => shallow other (by simp [member])) left
      have step := judgement.before.control.callDepth_after judgement.move
      rw [← moved] at step
      change _ + (if judgement.comesBack then 1 else 0) =
        _ + if judgement.enters then 1 else 0 at step
      rw [List.countP_cons, List.countP_cons]
      cases running : judgement.before.running with
      | false =>
          have still : judgement.after.control.running = false := by
            rw [moved]
            exact Control.running_after_of_left running
          have late : judgement.late = true := by simp [Judgement.late, running]
          have begun : judgement.before.control.running = false := running
          simp only [late, Bool.true_and, still, begun, Bool.false_eq_true, if_false] at later ⊢
          omega
      | true =>
          -- nothing is counted before the program is left, and it is left at depth zero
          have timely : judgement.late = false := by simp [Judgement.late, running]
          have begun : judgement.before.control.running = true := running
          simp only [timely, Bool.false_and, begun, Bool.false_eq_true, if_true, if_false]
          cases remains : judgement.after.control.running with
          | true =>
              simp only [remains, if_true] at later
              exact later
          | false =>
              have shut : judgement.after.control.callDepth = 0 := by
                rw [moved] at remains ⊢
                exact Control.callDepth_after_of_leaving begun remains
                  (shallow judgement (by simp) running)
              simp only [remains, shut, Bool.false_eq_true, if_false] at later
              exact later

end Moves

theorem Follows.moves {first last : Session} {judgements : List Judgement}
    (follows : Follows first judgements last) : Moves first.control judgements last.control := by
  induction follows with
  | nil session => exact .nil session.control
  | cons judgement judged _ induction => exact .cons judgement judged.control_eq induction

/-! ## Runs -/

/-- A judgement is made, whether it succeeds or not, and leaves a session behind. -/
def Deed.Leads (deed : Deed) (before after : Session) : Prop :=
  deed.judge.run before = .ok ⟨⟩ after ∨ ∃ error, deed.judge.run before = .error error after

section Runs

variable (scenario : Scenario) (options : RunOptions) (first : Session)

/-- The program is left only while no local function is entered. -/
def LeavesAtDepthZero : Prop :=
  ∀ deed before after, Attempts scenario options first deed before → deed.Leads before after →
    before.running = true → after.running = false → before.callDepth = 0

/-- A run that has ended has come back from all local functions. -/
def ComesBackFromAll : Prop :=
  ∀ turns last, Reaches scenario options first turns last → last.finished = true →
    (judgementsOf turns).countP Judgement.comesBack =
      (judgementsOf turns).countP Judgement.enters

/-- No jump to something outside the program is answered inside a local function. -/
def JumpsAtDepthZero : Prop :=
  ∀ latch before after, Attempts scenario options first (.branch latch) before →
    Judged (.branch latch) before after → before.running = true →
    latch.kind.isCall = false → before.recognises latch.target = true → before.callDepth = 0

/-- Local functions that are entered when the program is left already are left too. -/
def ComesBackLate : Prop :=
  ∀ turns last, Reaches scenario options first turns last → last.finished = true →
    (judgementsOf turns).countP (fun judgement => judgement.late && judgement.comesBack) =
      (judgementsOf turns).countP (fun judgement => judgement.late && judgement.enters)

def ReturnsToCaller : Prop :=
  ∀ code target before after,
    Attempts scenario options first (.instruction (.branch code .rts target)) before →
    (Deed.instruction (.branch code .rts target)).Leads before after → 0 < before.callDepth →
    after = { before with callDepth := before.callDepth - 1 } ∧
      after.machine.pendingBranch = some target

end Runs

section Loop

variable {scenario : Scenario} {options : RunOptions} {first : Session}

theorem Reaches.moves {turns : List Turn} {head : Session}
    (reached : Reaches scenario options first turns head) :
    Moves first.control (judgementsOf turns) head.control := by
  induction reached with
  | start => exact .nil first.control
  | turn turn _ _ induction =>
      rw [judgementsOf_concat]
      exact induction.append turn.follows.moves

theorem JumpsAtDepthZero.shallow (jumps : JumpsAtDepthZero scenario options first)
    {deed : Deed} {before after : Session}
    (attempts : Attempts scenario options first deed before)
    (judged : Judged deed before after) (running : before.running = true)
    (leaves : deed.move before = .leave) : before.callDepth = 0 := by
  rcases Deed.move_eq_leave_iff.mp leaves with ⟨latch, rfl, kind, outside⟩
  exact jumps latch before after attempts judged running kind outside

theorem leavesAtDepthZero_iff :
    LeavesAtDepthZero scenario options first ↔ JumpsAtDepthZero scenario options first := by
  constructor
  · intro leaves latch before after attempts judged running jumps outside
    have move := Deed.move_eq_leave_iff.mpr ⟨latch, rfl, jumps, outside⟩
    have left : after.control.running = false := by
      rw [judged.control_eq, move]
      rfl
    exact leaves _ before after attempts (.inl (Deed.run_judge_eq_ok_iff _ |>.mpr judged))
      running left
  · intro jumps deed before after attempts leads running left
    rcases leads with succeeds | ⟨error, fails⟩
    · have judged := (Deed.run_judge_eq_ok_iff deed).mp succeeds
      have stopped : (before.control.after (deed.move before)).running = false := by
        rw [← judged.control_eq]
        exact left
      rcases (Control.running_after_eq_false_iff running).mp stopped with leaves | ⟨_, atZero⟩
      · exact jumps.shallow attempts judged running leaves
      · exact atZero
    · have same : after.running = before.running :=
        congrArg Control.running (Deed.control_eq_of_run_judge_eq_error fails)
      rw [left, running] at same
      cases same

theorem returnsToCaller : ReturnsToCaller scenario options first := by
  intro code target before after attempts leads deep
  have outcome : after = before.returned := by
    rcases leads with succeeds | ⟨error, fails⟩
    · cases succeeds
      rfl
    · cases fails
  have back : before.returned = { before with callDepth := before.callDepth - 1 } := by
    rw [Session.returned, if_neg (Nat.ne_of_gt deep)]
  refine ⟨outcome.trans back, ?_⟩
  rw [outcome, back]
  cases attempts with
  | instruction _ _ steps => exact Machine.pendingBranch_of_step steps

/-- At the end of a run that leaves outside local functions, the local functions that are
open are the late ones. -/
theorem Reaches.depth_of_finished (jumps : JumpsAtDepthZero scenario options first)
    (fresh : first.control = ⟨true, 0⟩) {turns : List Turn} {last : Session}
    (reached : Reaches scenario options first turns last) (finished : last.finished = true) :
    last.callDepth + (judgementsOf turns).countP Judgement.comesBack =
        (judgementsOf turns).countP Judgement.enters ∧
      last.callDepth +
          (judgementsOf turns).countP (fun judgement => judgement.late && judgement.comesBack) =
        (judgementsOf turns).countP (fun judgement => judgement.late && judgement.enters) := by
  have moves := reached.moves
  rw [fresh] at moves
  have left : last.control.running = false := by
    simp only [Session.finished, Bool.and_eq_true, Bool.not_eq_true'] at finished
    exact finished.1
  have shallow : ∀ judgement ∈ judgementsOf turns, judgement.before.running = true →
      judgement.move = .leave → judgement.before.callDepth = 0 := by
    intro judgement member
    exact jumps.shallow (reached.attempts member) (judged_of_mem_judgementsOf member)
  have all := moves.balance
  have late := moves.late_balance shallow left
  simp only [Nat.zero_add, if_true] at all late
  exact ⟨all, late⟩

theorem leaves_and_comesBack_iff (fresh : first.control = ⟨true, 0⟩) :
    LeavesAtDepthZero scenario options first ∧ ComesBackFromAll scenario options first ↔
      JumpsAtDepthZero scenario options first ∧ ComesBackLate scenario options first := by
  rw [leavesAtDepthZero_iff]
  apply and_congr_right
  intro jumps
  constructor
  · intro comesBack turns last reached finished
    have same := comesBack turns last reached finished
    have depth := reached.depth_of_finished jumps fresh finished
    omega
  · intro comesBackLate turns last reached finished
    have same := comesBackLate turns last reached finished
    have depth := reached.depth_of_finished jumps fresh finished
    omega

end Loop

theorem Scenario.control_of_prepare {scenario : Scenario} {linked : LinkedObject}
    {listing : Bool} {noise : Nat → UInt8} {first : Session}
    (prepared : scenario.prepare linked listing noise = .ok first) :
    first.control = ⟨true, 0⟩ := by
  rcases prepare_eq_start prepared with ⟨machine, resolution, fresh⟩
  rw [fresh]
  rfl

/-- The depth of a run is right exactly where jumps leave the program outside local
functions and calls in the slot of the last branch come back. -/
theorem Scenario.callDepth_sound_iff {scenario : Scenario} {linked : LinkedObject}
    {options : RunOptions} {noise : Nat → UInt8} {first : Session}
    (prepared : scenario.prepare linked options.listing noise = .ok first) :
    (LeavesAtDepthZero scenario options first ∧ ComesBackFromAll scenario options first ↔
      JumpsAtDepthZero scenario options first ∧ ComesBackLate scenario options first) ∧
      ReturnsToCaller scenario options first := by
  exact ⟨leaves_and_comesBack_iff (control_of_prepare prepared), returnsToCaller⟩

/-! ## A jump inside a local function -/

namespace Judging

def jumpsInside (scenario : Scenario) (options : RunOptions) (count : Nat) (first : Session) :
    Bool :=
  match branchAfter scenario options first count with
  | none => false
  | some (latch, session) =>
      session.running && 0 < session.callDepth && !latch.kind.isCall &&
        session.recognises latch.target &&
        match (judgeBranch latch).run session with
        | .ok _ _ => true
        | .error _ _ => false

theorem not_jumpsAtDepthZero {scenario : Scenario} {options : RunOptions} {count : Nat}
    {first : Session} (inside : jumpsInside scenario options count first = true) :
    ¬JumpsAtDepthZero scenario options first := by
  intro jumps
  unfold jumpsInside at inside
  split at inside
  · cases inside
  · rename_i latch session computed
    cases outcome : (judgeBranch latch).run session with
    | error error failed => simp [outcome] at inside
    | ok result after =>
        simp only [outcome, Bool.and_true, Bool.and_eq_true, decide_eq_true_eq,
          Bool.not_eq_true'] at inside
        rcases inside with ⟨⟨⟨running, deep⟩, kind⟩, outside⟩
        have judged := run_judgeBranch_eq_ok_iff.mp outcome
        have atZero := jumps latch session after (attempts_of_branchAfter computed) judged
          running kind outside
        omega

end Judging

/-- A function that calls a part of itself, which ends in a jump to another function. -/
def detourText : CodeText where
  code := [
    0xd104, 0xb003, 0x0009, -- mov.l @(4,pc),r1; bsr 0xc; nop
    0x2102, 0x000b, 0x0009, -- mov.l r0,@r1; rts; nop
    0x412b, 0xe405,         -- jmp @r1; mov #5,r4
    0x0009, 0x0009, 0x0800, 0x0000]
  exports := [("_main", 0)]
  imports := []

def detour : Scenario where
  entry := "_main"
  expectations := [
    .call ⟨"_stub", none, [.scalar (.integer 5)], none, none⟩,
    .write ⟨0x800, .long 0⟩]
  bindings := [⟨"_stub", 0x800⟩]

theorem detour_jumpsInside :
    ∃ first, detour.prepare detourText.linked false (fun _ => 0) = .ok first ∧
      Judging.jumpsInside detour {} 4 first = true := by
  apply exists_ok_of_any
  decide +kernel

theorem detour_callDepth :
    ∃ first, detour.prepare detourText.linked false (fun _ => 0) = .ok first ∧
      (LeavesAtDepthZero detour {} first ∧ ComesBackFromAll detour {} first ↔
        JumpsAtDepthZero detour {} first ∧ ComesBackLate detour {} first) ∧
      ReturnsToCaller detour {} first := by
  rcases detour_jumpsInside with ⟨first, prepared, _⟩
  exact ⟨first, prepared, Scenario.callDepth_sound_iff prepared⟩

theorem detour_leaves_inside :
    detourText.file.link = .ok detourText.linked ∧
      ∃ first, detour.prepare detourText.linked false (fun _ => 0) = .ok first ∧
        ¬LeavesAtDepthZero detour {} first := by
  rcases detour_jumpsInside with ⟨first, prepared, inside⟩
  refine ⟨detourText.link_file (by decide), first, prepared, ?_⟩
  rw [leavesAtDepthZero_iff]
  exact Judging.not_jumpsAtDepthZero inside

end SuperHBench
