import SuperHBench.Proofs.Machine.Lines
import SuperHBench.Proofs.Machine.Reports

/-! # Delayed branches

A delayed branch settles where it goes when it runs, and goes there when the instruction in
its slot has run. That instruction finds the return address of a call in place, and does what
it would do if no branch were pending. -/

namespace SuperHBench

def Instruction.links : Instruction → Bool
  | .branchSubroutine _ | .jumpSubroutine _ => true
  | _ => false

namespace Machine

/-! ## Targets -/

/-- Where an instruction at the program counter branches to after its slot, if it does. -/
def delayedTarget? (machine : Machine) : Instruction → Option UInt32
  | .branch offset | .branchSubroutine offset => some (machine.pc + 4 + offset)
  | .jump target | .jumpSubroutine target => some (machine.register target)
  | .branchFar distance => some (machine.pc + 4 + machine.register distance)
  | .returnSubroutine => some machine.pr
  | .conditional sense true offset =>
      if machine.t = sense then some (machine.pc + 4 + offset) else none
  | _ => none

theorem delayedTarget?_conditional (machine : Machine) (sense : Bool) (offset : UInt32) :
    machine.delayedTarget? (.conditional sense true offset) =
      if machine.t = sense then some (machine.pc + 4 + offset) else none :=
  rfl

def instruction? (machine : Machine) : Option Instruction :=
  match machine.memory.readWord machine.pc with
  | .ok code => Instruction.decode? code
  | .error _ => none

def branchTarget? (machine : Machine) : Option UInt32 :=
  machine.instruction?.bind machine.delayedTarget?

theorem instruction?_eq_some_iff {machine : Machine} {instruction : Instruction} :
    machine.instruction? = some instruction ↔
      ∃ code, machine.memory.readWord machine.pc = .ok code ∧
        Instruction.decode? code = some instruction := by
  unfold instruction?
  cases machine.memory.readWord machine.pc with
  | error error => simp
  | ok code => simp

theorem relativeTarget_entered (machine : Machine) (code : UInt16) (offset : UInt32) :
    (machine.entered code).relativeTarget offset = machine.pc + 4 + offset := by
  have behind : machine.pc + 2 + 2 = machine.pc + 4 := UInt32.add_assoc _ _ _
  rw [← behind]
  rfl

/-! ## What waits after a step -/

@[simp] theorem pendingBranch_setData (machine : Machine) (register : DataRegister)
    (value : UInt32) : (machine.setData register value).pendingBranch = machine.pendingBranch := by
  rcases register with _ | _ | register
  · rfl
  · rfl
  · cases register <;> rfl

@[simp] theorem pendingBranch_movePointer (machine : Machine) (width : Width)
    (address : Address) :
    (machine.movePointer width address).pendingBranch = machine.pendingBranch := by
  cases address <;> rfl

@[simp] theorem pendingBranch_landed (machine : Machine) (target : Option UInt32) :
    (machine.landed target).pendingBranch = machine.pendingBranch := by
  cases target <;> rfl

theorem pendingBranch_of_execute_entered {machine after : Machine} {code : UInt16}
    {instruction : Instruction} {operation : Operation}
    (ran : (machine.entered code).execute code instruction = .ok operation after) :
    after.pendingBranch = machine.delayedTarget? instruction := by
  cases instruction with
  | load width source destination =>
      rcases load_eq_ok_iff.mp ran with ⟨value, _, _, rfl⟩
      rw [pendingBranch_setData, pendingBranch_movePointer]
      rfl
  | store width source target =>
      cases ran
      exact pendingBranch_movePointer (machine.entered code) width target
  | transfer source destination =>
      cases ran
      exact pendingBranch_setData (machine.entered code) destination _
  | branch offset | branchSubroutine offset =>
      cases ran
      exact congrArg some (machine.relativeTarget_entered code offset)
  | branchFar distance =>
      cases ran
      exact congrArg some (machine.relativeTarget_entered code _)
  | conditional sense delayed offset =>
      cases ran
      have sameT : (machine.entered code).t = machine.t := rfl
      rw [sameT, relativeTarget_entered]
      cases delayed with
      | false =>
          simp only [Bool.false_eq_true, if_false]
          split <;> rfl
      | true =>
          simp only [if_true, beq_iff_eq, delayedTarget?_conditional]
          split <;> rfl
  | _ =>
      cases ran
      rfl

theorem pendingBranch_of_step_eq_ok {machine after : Machine} {operation : Operation}
    (steps : machine.step = (after, .ok operation)) :
    after.pendingBranch = machine.branchTarget? := by
  rcases step_eq_ok_iff.mp steps with ⟨code, instruction, result, stepped⟩
  have found : machine.instruction? = some instruction :=
    instruction?_eq_some_iff.mpr ⟨code, stepped.fetched, stepped.decoded⟩
  rw [stepped.landed, pendingBranch_landed, pendingBranch_of_execute_entered stepped.ran,
    branchTarget?, found, Option.bind_some]

/-! ## A branch and its slot -/

/-- The machine in front of the slot of a branch, without the branch. -/
def beforeSlot (machine : Machine) (instruction : Instruction) : Machine :=
  { machine with
    pc := machine.pc + 2
    pr := if instruction.links then machine.pc + 4 else machine.pr
    pendingBranch := none
    instructionPc := machine.pc
    line := machine.lineAhead? }

theorem execute_entered_of_delayedTarget? {machine : Machine} {code : UInt16}
    {instruction : Instruction} {target : UInt32}
    (fetched : machine.memory.readWord machine.pc = .ok code)
    (branches : machine.delayedTarget? instruction = some target) :
    ∃ operation, (machine.entered code).execute code instruction =
      .ok operation ((machine.beforeSlot instruction).delay target) := by
  have behind : (machine.entered code).pc + 2 = machine.pc + 4 := UInt32.add_assoc _ _ _
  rw [beforeSlot, ← line_entered fetched]
  cases instruction with
  | branch offset =>
      cases branches
      simp only [execute, relativeTarget_entered]
      exact ⟨_, rfl⟩
  | branchSubroutine offset =>
      cases branches
      simp only [execute, relativeTarget_entered, link, behind]
      exact ⟨_, rfl⟩
  | branchFar distance =>
      cases branches
      simp only [execute, relativeTarget_entered]
      exact ⟨_, rfl⟩
  | jumpSubroutine register =>
      cases branches
      simp only [execute, link, behind]
      exact ⟨_, rfl⟩
  | jump | returnSubroutine =>
      cases branches
      exact ⟨_, rfl⟩
  | conditional sense delayed offset =>
      cases delayed with
      | false => cases branches
      | true =>
          rw [delayedTarget?_conditional] at branches
          split at branches
          · rename_i taken
            cases branches
            have taken' : (machine.entered code).t = sense := taken
            simp only [execute, relativeTarget_entered, taken', beq_self_eq_true, if_true]
            exact ⟨_, rfl⟩
          · cases branches
  | _ => cases branches

theorem step_of_delayedTarget? {machine : Machine} {instruction : Instruction}
    {target : UInt32} (idle : machine.pendingBranch = none)
    (found : machine.instruction? = some instruction)
    (branches : machine.delayedTarget? instruction = some target) :
    ∃ operation,
      machine.step = ((machine.beforeSlot instruction).delay target, .ok operation) := by
  rcases instruction?_eq_some_iff.mp found with ⟨code, fetched, decoded⟩
  rcases execute_entered_of_delayedTarget? fetched branches with ⟨operation, ran⟩
  exact ⟨operation, step_eq_ok_iff.mpr
    ⟨code, instruction, _, fetched, decoded, ran, by rw [idle]; rfl⟩⟩

/-- The machine when a branch has landed behind an instruction, whose line shows that it stood
in a slot. -/
def landedAt (machine : Machine) (target : UInt32) : Machine :=
  { machine with pc := target, line := machine.line.map ListingLine.inSlot }

theorem step_delay_of_fetched {machine : Machine} {code : UInt16} (target : UInt32)
    (idle : machine.pendingBranch = none)
    (fetched : machine.memory.readWord machine.pc = .ok code) :
    (machine.delay target).step = (machine.step.1.landedAt target, machine.step.2) := by
  have refetched : (machine.delay target).memory.readWord (machine.delay target).pc = .ok code :=
    fetched
  have entered : (machine.delay target).entered code = (machine.entered code).withListing
      machine.listing ((machine.entered code).line.map ListingLine.inSlot) := by
    have marked : ((machine.delay target).entered code).line =
        (machine.entered code).line.map ListingLine.inSlot := by
      change (if machine.listing then ListingLine.of? machine.pc code true else none) =
        (if machine.listing then ListingLine.of? machine.pc code machine.pendingBranch.isSome
        else none).map _
      rw [idle, ListingLine.of?_true]
      split <;> rfl
    rw [← marked]
    rfl
  have kept := (machine.entered code).perform_eq_withListing code
  rw [step_of_fetched fetched, step_of_fetched refetched, entered, perform_withListing, idle]
  generalize ((machine.entered code).perform code).1 = performed at kept ⊢
  rw [kept]
  rfl

theorem step_delay_eq_ok_iff {machine after : Machine} {target : UInt32} {operation : Operation}
    (idle : machine.pendingBranch = none) :
    (machine.delay target).step = (after, .ok operation) ↔
      ∃ alone, machine.step = (alone, .ok operation) ∧ after = alone.landedAt target := by
  cases fetched : machine.memory.readWord machine.pc with
  | error error =>
      have refetched : (machine.delay target).memory.readWord (machine.delay target).pc =
          .error error := fetched
      rw [step_of_unfetched fetched, step_of_unfetched refetched]
      simp
  | ok code =>
      rw [step_delay_of_fetched target idle fetched]
      constructor
      · intro steps
        rcases Prod.ext_iff.mp steps with ⟨landed, outcome⟩
        exact ⟨machine.step.1, Prod.ext rfl outcome, landed.symm⟩
      · rintro ⟨alone, steps, rfl⟩
        rw [steps]

structure DelaysBranch (machine : Machine) (instruction : Instruction) (target : UInt32) :
    Prop where
  waits : ∃ operation,
    machine.step = ((machine.beforeSlot instruction).delay target, .ok operation)
  /-- The slot does what it does without a branch in front of it, whatever that is. -/
  lands : ∀ after operation,
    ((machine.beforeSlot instruction).delay target).step = (after, .ok operation) ↔
      ∃ alone, (machine.beforeSlot instruction).step = (alone, .ok operation) ∧
        after = alone.landedAt target
  clears : ∀ after operation,
    ((machine.beforeSlot instruction).delay target).step = (after, .ok operation) →
    (machine.beforeSlot instruction).branchTarget? = none →
    after.pc = target ∧ after.pendingBranch = none

/-- Every delayed branch lands after its slot, at the target that it had when it ran. -/
theorem delaysBranch_of_delayedTarget? {machine : Machine} {instruction : Instruction}
    {target : UInt32} (idle : machine.pendingBranch = none)
    (found : machine.instruction? = some instruction)
    (branches : machine.delayedTarget? instruction = some target) :
    machine.DelaysBranch instruction target := by
  have slot (after : Machine) (operation : Operation) :
      ((machine.beforeSlot instruction).delay target).step = (after, .ok operation) ↔
        ∃ alone, (machine.beforeSlot instruction).step = (alone, .ok operation) ∧
          after = alone.landedAt target :=
    step_delay_eq_ok_iff rfl
  constructor
  case waits => exact step_of_delayedTarget? idle found branches
  case lands => exact slot
  case clears =>
    intro after operation steps nothing
    rcases (slot after operation).mp steps with ⟨alone, ran, rfl⟩
    exact ⟨rfl, (pendingBranch_of_step_eq_ok ran).trans nothing⟩

/-- A machine in front of a call that stands at the end of the address space. In its slot, at
the start, the register it goes through gets the return address. -/
def callingFromEnd : Machine :=
  { Machine.start (.filled (Word.count 32) fun index =>
      if index < 2 then [0x2a, 0x01].getD index 0 else if index % 2 = 0 then 0x0b else 0x41) with
    registers := Vector.replicate 16 0x20
    pc := 0xfffffffe }

theorem callingFromEnd_delaysBranch :
    callingFromEnd.DelaysBranch (.jumpSubroutine .one) 0x20 ∧
      ∃ between after,
        callingFromEnd.step = (between, .ok (.branch 0x410b .jsr 0x20)) ∧ between.pc = 0 ∧
        between.step = (after, .ok .generic) ∧ after.pc = 0x20 ∧ after.pendingBranch = none ∧
        after.register .one = 2 := by
  have found : callingFromEnd.instruction? = some (.jumpSubroutine .one) := by rfl
  have branches : callingFromEnd.delayedTarget? (.jumpSubroutine .one) = some 0x20 := by rfl
  have calls : callingFromEnd.step.2 = .ok (.branch 0x410b .jsr 0x20) := by rfl
  have copies : callingFromEnd.step.1.step.2 = .ok .generic := by rfl
  exact ⟨delaysBranch_of_delayedTarget? rfl found branches, _, _, Prod.ext rfl calls, by rfl,
    Prod.ext rfl copies, by rfl, by rfl, by rfl⟩

end Machine

end SuperHBench
