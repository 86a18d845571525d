import SuperHBench.Proofs.Machine.DelayedBranches
import SuperHBench.Proofs.Session.Begun
import SuperHBench.Proofs.Session.CallDepth

/-! # Latched branches

The loop keeps an unconditional branch until its slot has run, and so does the machine. As
long as no delayed branch stands in the slot of another, both keep the same branch, and it is
judged when the machine has landed it. -/

namespace SuperHBench

/-! ## What the loop keeps -/

def Operation.branch? : Operation → Option Latch
  | .branch _ kind target => some ⟨kind, target⟩
  | _ => none

theorem Operation.branch?_eq_some_iff {operation : Operation} {latch : Latch} :
    operation.branch? = some latch ↔ ∃ code, operation = .branch code latch.kind latch.target := by
  constructor
  · intro branches
    unfold branch? at branches
    split at branches
    · rename_i code kind target
      cases branches
      exact ⟨code, rfl⟩
    · cases branches
  · rintro ⟨code, rfl⟩
    rfl

theorem Operation.latch?_eq_filter (operation : Operation) :
    operation.latch? = operation.branch?.filter (·.kind ≠ .rts) := by
  cases operation with
  | branch code kind target =>
      by_cases returns : kind = .rts
      · simp [latch?, branch?, Option.filter, returns]
      · simp [latch?, branch?, Option.filter, returns]
  | _ => rfl

def branchAtEnd (turns : List Turn) : Option Latch :=
  turns.getLast?.bind (·.operation.branch?)

/-- What is judged in turns, the first of which stands in the slot of `waiting`: every
instruction, and after it the branch in whose slot it stands. -/
def deedsOf (waiting : Option Latch) : List Turn → List Deed
  | [] => []
  | turn :: rest =>
      .instruction turn.operation ::
        ((waiting.map Deed.branch).toList ++ deedsOf turn.operation.latch? rest)

theorem deedsOf_concat (waiting : Option Latch) (turns : List Turn) (turn : Turn) :
    deedsOf waiting (turns ++ [turn]) =
      deedsOf waiting turns ++ .instruction turn.operation ::
        ((turns.getLast?.elim waiting (·.operation.latch?)).map Deed.branch).toList := by
  induction turns generalizing waiting with
  | nil => simp [deedsOf]
  | cons earlier rest induction =>
      rw [List.cons_append, deedsOf, deedsOf, induction]
      cases rest with
      | nil => simp
      | cons next others => simp [List.getLast?_cons]

theorem Turn.map_deed_judgements (turn : Turn) :
    turn.judgements.map Judgement.deed =
      .instruction turn.operation :: (turn.before.latch.map Deed.branch).toList := by
  unfold judgements
  cases turn.before.latch with
  | none => rfl
  | some latch => rfl

/-! ## Machines between turns -/

theorem Turn.step_eq (turn : Turn) :
    turn.before.machine.step = (turn.before.machine.step.1, .ok turn.operation) :=
  Prod.ext rfl turn.steps

theorem Turn.machine_judged (turn : Turn) :
    turn.judged.machine = turn.before.machine.step.1.withoutLine :=
  turn.effect.machine_eq

theorem Turn.after_of_unlatched {turn : Turn}
    (unlatched : turn.before.latch = none) : turn.after = turn.judged := by
  have settles := turn.settles
  rw [unlatched] at settles
  exact settles

theorem Machine.branchTarget?_of_step {machine after : Machine} {operation : Operation}
    {latch : Latch} (steps : machine.step = (after, .ok operation))
    (branches : operation.branch? = some latch) : machine.branchTarget? = some latch.target := by
  rcases Operation.branch?_eq_some_iff.mp branches with ⟨code, rfl⟩
  have waits := pendingBranch_of_step (congrArg Prod.snd steps)
  rw [steps] at waits
  rw [← pendingBranch_of_step_eq_ok steps, waits]

theorem Machine.pc_of_step_of_pending {machine after : Machine} {operation : Operation}
    {target : UInt32} (steps : machine.step = (after, .ok operation))
    (pending : machine.pendingBranch = some target) : after.pc = target := by
  rcases step_eq_ok_iff.mp steps with ⟨code, instruction, result, stepped⟩
  rw [stepped.landed, pending]
  rfl

theorem Machine.pc_of_step_of_branch {machine after : Machine} {operation : Operation}
    {target : UInt32} (steps : machine.step = (after, .ok operation))
    (idle : machine.pendingBranch = none) (branches : machine.branchTarget? = some target) :
    after.pc = machine.pc + 2 := by
  rcases Option.bind_eq_some_iff.mp branches with ⟨instruction, found, delays⟩
  rcases step_of_delayedTarget? idle found delays with ⟨other, waits⟩
  rw [steps] at waits
  cases waits
  rfl

/-! ## Runs -/

section Runs

variable {scenario : Scenario} {options : RunOptions} {first : Session}

/-- No delayed branch that takes place stands in the slot of another. -/
def NoDelayedBranchInSlot (scenario : Scenario) (options : RunOptions) (first : Session) : Prop :=
  ∀ turns head, Reaches scenario options first turns head → GoesOn scenario options turns head →
    head.machine.pendingBranch.isSome = true → head.machine.branchTarget? = none

theorem noDelayedBranchInSlot_iff :
    NoDelayedBranchInSlot scenario options first ↔
      ∀ head ∈ Judging.begun scenario options.bound first,
        head.machine.pendingBranch.isSome = true → head.machine.branchTarget? = none := by
  constructor
  · intro legal head member
    rcases Judging.mem_begun_iff.mp member with ⟨turns, reached, goesOn⟩
    exact legal turns head reached goesOn
  · intro legal turns head reached goesOn
    exact legal head (Judging.mem_begun_iff.mpr ⟨turns, reached, goesOn⟩)

def Session.InStep (session : Session) : Prop :=
  ∀ latch, session.latch = some latch → session.machine.pendingBranch = some latch.target

theorem NoDelayedBranchInSlot.idle (legal : NoDelayedBranchInSlot scenario options first)
    {turns : List Turn} {turn : Turn} {latch : Latch}
    (reached : Reaches scenario options first turns turn.before)
    (goesOn : GoesOn scenario options turns turn.before)
    (branches : turn.operation.branch? = some latch) :
    turn.before.machine.pendingBranch = none := by
  cases pending : turn.before.machine.pendingBranch with
  | none => rfl
  | some other =>
      have nothing := legal turns turn.before reached goesOn (Option.isSome_of_eq_some pending)
      rw [Machine.branchTarget?_of_step turn.step_eq branches] at nothing
      cases nothing

theorem NoDelayedBranchInSlot.branch (legal : NoDelayedBranchInSlot scenario options first)
    {turns : List Turn} {turn : Turn} {latch : Latch}
    (reached : Reaches scenario options first turns turn.before)
    (goesOn : GoesOn scenario options turns turn.before) (inStep : turn.before.InStep)
    (branches : turn.operation.branch? = some latch) :
    turn.after = turn.judged ∧ turn.after.machine.pendingBranch = some latch.target ∧
      turn.after.machine.pc = turn.before.machine.pc + 2 := by
  have idle := legal.idle reached goesOn branches
  have unlatched : turn.before.latch = none := by
    cases latched : turn.before.latch with
    | none => rfl
    | some other =>
        rw [inStep other latched] at idle
        cases idle
  have target := Machine.branchTarget?_of_step turn.step_eq branches
  have waits := (Machine.pendingBranch_of_step_eq_ok turn.step_eq).trans target
  have moves := Machine.pc_of_step_of_branch turn.step_eq idle target
  rw [Turn.after_of_unlatched unlatched, turn.machine_judged]
  exact ⟨rfl, waits, moves⟩

theorem Reaches.inStep {turns : List Turn} {head : Session}
    (reached : Reaches scenario options first turns head) (idle : first.latch = none)
    (legal : NoDelayedBranchInSlot scenario options first) : head.InStep := by
  induction reached with
  | start =>
      intro latch latched
      rw [idle] at latched
      cases latched
  | turn turn reached goesOn before =>
      intro latch latched
      rw [turn.latch_after, Operation.latch?_eq_filter, Option.filter_eq_some_iff] at latched
      exact (legal.branch reached goesOn before latched.1).2.1

theorem Reaches.head_eq {turns : List Turn} {turn : Turn}
    {head : Session} (reached : Reaches scenario options first (turns ++ [turn]) head) :
    head = turn.after := by
  generalize whole : turns ++ [turn] = all at reached
  cases reached with
  | start => simp at whole
  | turn last =>
      cases (List.append_inj' whole rfl).2
      rfl

theorem Reaches.pending_of_branchAtEnd {turns : List Turn} {head : Session}
    {latch : Latch} (reached : Reaches scenario options first turns head)
    (idle : first.latch = none) (legal : NoDelayedBranchInSlot scenario options first)
    (branches : branchAtEnd turns = some latch) :
    head.machine.pendingBranch = some latch.target := by
  cases reached with
  | start => cases branches
  | turn turn reached goesOn =>
      rw [branchAtEnd, List.getLast?_concat] at branches
      exact (legal.branch reached goesOn (reached.inStep idle legal) branches).2.1

theorem Reaches.latch_eq_filter {turns : List Turn} {head : Session}
    (reached : Reaches scenario options first turns head) (idle : first.latch = none) :
    head.latch = (branchAtEnd turns).filter (·.kind ≠ .rts) := by
  rw [reached.latch_eq idle, branchAtEnd]
  cases turns.getLast? with
  | none => rfl
  | some turn => exact turn.operation.latch?_eq_filter

theorem Reaches.map_deed_judgementsOf {turns : List Turn} {head : Session}
    (reached : Reaches scenario options first turns head) (idle : first.latch = none) :
    (judgementsOf turns).map Judgement.deed = deedsOf none turns := by
  induction reached with
  | start => rfl
  | @turn turns turn reached goesOn induction =>
      rw [judgementsOf_concat, List.map_append, induction, deedsOf_concat,
        turn.map_deed_judgements, reached.latch_eq idle]
      cases turns.getLast? with
      | none => rfl
      | some last => rfl

theorem Attempts.landed {latch : Latch} {session : Session}
    (attempts : Attempts scenario options first (.branch latch) session)
    (idle : first.latch = none) (legal : NoDelayedBranchInSlot scenario options first) :
    session.machine.pc = latch.target ∧ session.machine.pendingBranch = none := by
  cases attempts with
  | @branch turns head _ operation _ reached goesOn steps effect waits =>
      have pending := reached.inStep idle legal latch waits
      have nothing := legal turns head reached goesOn (Option.isSome_of_eq_some pending)
      have stepped : head.machine.step = (head.machine.step.1, .ok operation) :=
        Prod.ext rfl steps
      have arrives := Machine.pc_of_step_of_pending stepped pending
      have clears := (Machine.pendingBranch_of_step_eq_ok stepped).trans nothing
      rw [effect.machine_eq]
      exact ⟨arrives, clears⟩

/-- The loop is left with a branch latched only because nothing more is expected. -/
theorem Stops.satisfied_of_pending {turns : List Turn} {last : Session}
    {target : UInt32} (stops : Stops scenario turns last)
    (pending : last.machine.pendingBranch = some target) :
    Judging.satisfied scenario last = true := by
  rcases stops with finished | ⟨_, enough⟩
  · simp [Session.finished, pending] at finished
  · exact enough

theorem NoDelayedBranchInSlot.finished (legal : NoDelayedBranchInSlot scenario options first)
    {turns : List Turn} {slot : Turn}
    (reached : Reaches scenario options first turns slot.before)
    (goesOn : GoesOn scenario options turns slot.before) (left : slot.before.running = false)
    (unlatched : slot.before.latch = none) : slot.after.finished = true := by
  have nothing := legal turns slot.before reached goesOn (goesOn.pending_of_left left)
  have still : slot.judged.control.running = false := by
    rw [slot.effect.control_eq]
    exact Control.running_after_of_left left
  have landed : slot.judged.machine.pendingBranch = none := by
    rw [slot.machine_judged]
    exact (Machine.pendingBranch_of_step_eq_ok slot.step_eq).trans nothing
  have running : slot.judged.running = false := still
  rw [Turn.after_of_unlatched unlatched]
  simp [Session.finished, running, landed]

/-- What a run does after a return that leaves the program: it runs the slot of the return,
unless nothing more is expected. -/
theorem Reaches.after_return {earlier later : List Turn}
    {turn : Turn} {last : Session} {code : UInt16} {target : UInt32}
    (reached : Reaches scenario options first (earlier ++ turn :: later) last)
    (stops : Stops scenario (earlier ++ turn :: later) last) (idle : first.latch = none)
    (legal : NoDelayedBranchInSlot scenario options first)
    (returns : turn.operation = .branch code .rts target)
    (left : turn.judged.running = false) :
    (later = [] ∧ Judging.satisfied scenario last = true) ∨
      ∃ slot, later = [slot] ∧ slot.before.machine.pendingBranch = some target ∧
        slot.before.machine.pc = turn.before.machine.pc + 2 := by
  rcases reached.of_append with ⟨before, goesOn⟩
  have branches : turn.operation.branch? = some ⟨.rts, target⟩ := by
    rw [returns]
    rfl
  rcases legal.branch before goesOn (before.inStep idle legal) branches with
    ⟨same, pending, moved⟩
  have whole : earlier ++ turn :: later = (earlier ++ [turn]) ++ later := by simp
  rw [whole] at reached stops
  cases later with
  | nil =>
      rw [List.append_nil] at reached stops
      rw [← reached.head_eq] at pending
      exact .inl ⟨rfl, stops.satisfied_of_pending pending⟩
  | cons slot rest =>
      rcases reached.of_append with ⟨inSlot, slotGoesOn⟩
      have head := inSlot.head_eq
      have slotLeft : slot.before.running = false := by
        rw [head, same]
        exact left
      -- a return is judged at once and leaves nothing for the slot to judge
      have unlatched : slot.before.latch = none := by
        rw [head, turn.latch_after, returns]
        rfl
      have finished := legal.finished inSlot slotGoesOn slotLeft unlatched
      cases rest with
      | nil =>
          refine .inr ⟨slot, rfl, ?_, ?_⟩
          · rw [head]
            exact pending
          · rw [head]
            exact moved
      | cons next others =>
          -- the loop does not go on from a session that is finished
          have further : earlier ++ [turn] ++ slot :: next :: others =
              (earlier ++ [turn] ++ [slot]) ++ next :: others := by simp
          rw [further] at reached
          rcases reached.of_append with ⟨again, nextGoesOn⟩
          have unfinished := nextGoesOn.unfinished
          rw [again.head_eq, finished] at unfinished
          cases unfinished

structure LatchInStep (scenario : Scenario) (options : RunOptions) (first : Session) : Prop where
  pending : ∀ turns head latch, Reaches scenario options first turns head →
    branchAtEnd turns = some latch → head.machine.pendingBranch = some latch.target
  /-- Returns are kept too, but they have been judged already. -/
  latched : ∀ turns head, Reaches scenario options first turns head →
    head.latch = (branchAtEnd turns).filter (·.kind ≠ .rts)
  landed : ∀ latch session, Attempts scenario options first (.branch latch) session →
    session.machine.pc = latch.target ∧ session.machine.pendingBranch = none
  judged : ∀ turns last, Reaches scenario options first turns last →
    Stops scenario turns last → (judgementsOf turns).map Judgement.deed = deedsOf none turns
  /-- Only a run that is stopped early does not come to the slot of its last branch. -/
  settled : ∀ turns last, Reaches scenario options first turns last →
    Stops scenario turns last → (branchAtEnd turns).isSome = true →
    Judging.satisfied scenario last = true
  returned : ∀ earlier turn later last code target,
    Reaches scenario options first (earlier ++ turn :: later) last →
    Stops scenario (earlier ++ turn :: later) last →
    turn.operation = .branch code .rts target → turn.judged.running = false →
    (later = [] ∧ Judging.satisfied scenario last = true) ∨
      ∃ slot, later = [slot] ∧ slot.before.machine.pendingBranch = some target ∧
        slot.before.machine.pc = turn.before.machine.pc + 2

/-- In runs without delayed branches in delay slots, loop and machine keep the same branch, and
every branch that the loop has kept is judged. -/
theorem latchInStep_of_noDelayedBranchInSlot (idle : first.latch = none)
    (legal : NoDelayedBranchInSlot scenario options first) :
    LatchInStep scenario options first := by
  constructor
  case pending =>
    intro turns head latch reached branches
    exact reached.pending_of_branchAtEnd idle legal branches
  case latched =>
    intro turns head reached
    exact reached.latch_eq_filter idle
  case landed =>
    intro latch session attempts
    exact attempts.landed idle legal
  case judged =>
    intro turns last reached _
    exact reached.map_deed_judgementsOf idle
  case settled =>
    intro turns last reached stops branches
    rcases Option.isSome_iff_exists.mp branches with ⟨latch, found⟩
    exact stops.satisfied_of_pending (reached.pending_of_branchAtEnd idle legal found)
  case returned =>
    intro earlier turn later last code target reached stops returns left
    exact reached.after_return stops idle legal returns left

end Runs

/-- A function that loads in the slot of one branch and calls in the two after it, a part of
itself and another function. -/
def roundaboutText : CodeText where
  code := [
    0x2008, 0x8d01, 0xd104, -- tst r0,r0; bt/s 8; mov.l @(4,pc),r1
    0x0009,
    0xb004, 0x0009,         -- bsr 0x14; nop
    0x410b, 0xe407,         -- jsr @r1; mov #7,r4
    0x000b, 0x0009,         -- rts; nop
    0x000b, 0x0009,         -- rts; nop
    0x0800, 0x0000]
  exports := [("_roundabout", 0)]
  imports := []

def roundabout : Scenario where
  entry := "_roundabout"
  expectations := [.call ⟨"_ask", none, [.scalar (.integer 7)], none, none⟩]
  bindings := [⟨"_ask", 0x800⟩]

theorem roundabout_latchInStep :
    roundaboutText.file.link = .ok roundaboutText.linked ∧
      ∃ first, roundabout.prepare roundaboutText.linked false (fun _ => 0) = .ok first ∧
        (roundabout.execute roundaboutText.linked {} fun _ => 0).fulfilled? = some 1 ∧
        first.latch = none ∧ NoDelayedBranchInSlot roundabout {} first ∧
        LatchInStep roundabout {} first := by
  have slots : (roundabout.prepare roundaboutText.linked false fun _ => 0).toOption.any
      (fun first => (Judging.begun roundabout ({} : RunOptions).bound first).all
        fun head => head.machine.pendingBranch.isSome = true →
          head.machine.branchTarget? = none) = true := by decide +kernel
  have passes : (roundabout.execute roundaboutText.linked {} fun _ => 0).fulfilled? = some 1 := by
    decide +kernel
  rcases exists_ok_of_any slots with ⟨first, prepared, legal⟩
  have idle := Scenario.latch_of_prepare prepared
  have free : NoDelayedBranchInSlot roundabout {} first := by
    rw [noDelayedBranchInSlot_iff]
    intro head member
    exact of_decide_eq_true (List.all_eq_true.mp legal head member)
  exact ⟨roundaboutText.link_file (by decide), first, prepared, passes, idle, free,
    latchInStep_of_noDelayedBranchInSlot idle free⟩

end SuperHBench
