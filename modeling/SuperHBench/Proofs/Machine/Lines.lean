import SuperHBench.Proofs.Machine.Faults

/-! # Lines

A step leaves the line of its instruction behind, if lines are wanted. It has no use for the
lines itself: without them it does the same. Only where nothing can be fetched does an older
line stay. -/

namespace SuperHBench

def ListingLine.inSlot (line : ListingLine) : ListingLine :=
  { line with inDelaySlot := true }

theorem ListingLine.of?_true (pc : UInt32) (code : UInt16) :
    of? pc code true = (of? pc code false).map inSlot := by
  rw [of?, of?, Option.map_map]
  rfl

namespace Machine

def withListing (machine : Machine) (listing : Bool) (line : Option ListingLine) : Machine :=
  { machine with listing, line }

/-- The line that the next step leaves behind, if it fetches a word. -/
def lineAhead? (machine : Machine) : Option ListingLine :=
  if machine.listing then machine.listing? else none

variable {machine after : Machine} {code : UInt16} {listing : Bool} {line : Option ListingLine}

/-! ## Instructions -/

theorem data_withListing (register : DataRegister) :
    (machine.withListing listing line).data register = machine.data register := by
  rcases register with _ | _ | register
  · rfl
  · rfl
  · cases register <;> rfl

theorem setData_withListing (register : DataRegister) (value : UInt32) :
    (machine.withListing listing line).setData register value =
      (machine.setData register value).withListing listing line := by
  rcases register with _ | _ | register
  · rfl
  · rfl
  · cases register <;> rfl

theorem source_withListing (source : Source) :
    (machine.withListing listing line).source source = machine.source source := by
  cases source <;> rfl

theorem locate_withListing (width : Width) (address : Address) :
    (machine.withListing listing line).locate width address = machine.locate width address := by
  cases address with
  | pcRelative => cases width <;> rfl
  | _ => rfl

theorem movePointer_withListing (width : Width) (address : Address) :
    (machine.withListing listing line).movePointer width address =
      (machine.movePointer width address).withListing listing line := by
  cases address <;> rfl

theorem execute_withListing {instruction : Instruction} {operation : Operation}
    (ran : machine.execute code instruction = .ok operation after) :
    (machine.withListing listing line).execute code instruction =
      .ok operation (after.withListing listing line) := by
  cases instruction with
  | load width source destination =>
      rcases load_eq_ok_iff.mp ran with ⟨value, read, rfl, rfl⟩
      refine load_eq_ok_iff.mpr ⟨value, ?_, ?_, ?_⟩
      · rw [locate_withListing]
        exact read
      · rw [locate_withListing]
      · rw [movePointer_withListing, setData_withListing]
  | store width source target =>
      cases ran
      simp only [execute, locate_withListing, data_withListing, movePointer_withListing]
      rfl
  | transfer source destination =>
      cases ran
      simp only [execute, data_withListing, setData_withListing]
  | combine combination source destination =>
      cases ran
      simp only [execute, source_withListing]
      rfl
  | compare relation source operand =>
      cases ran
      simp only [execute, source_withListing]
      rfl
  | conditional sense delayed offset =>
      cases ran
      have sameT : (machine.withListing listing line).t = machine.t := rfl
      simp only [execute, sameT]
      split
      · cases delayed <;> rfl
      · rfl
  | _ =>
      cases ran
      rfl

theorem execute_withListing_of_error {instruction : Instruction} {error : MemoryError}
    (fails : machine.execute code instruction = .error error after) :
    (machine.withListing listing line).execute code instruction =
      .error error (after.withListing listing line) := by
  rcases execute_eq_error fails with ⟨rfl, width, source, destination, rfl, found⟩
  change (load width source destination).run _ = _
  rw [run_load, locate_withListing]
  have outside : (after.withListing listing line).memory.read width
      (after.locate width source) = .error error := found
  rw [outside]

theorem perform_withListing (machine : Machine) (code : UInt16) (listing : Bool)
    (line : Option ListingLine) :
    (machine.withListing listing line).perform code =
      ((machine.perform code).1.withListing listing line, (machine.perform code).2) := by
  unfold perform
  cases Instruction.decode? code with
  | none => rfl
  | some instruction =>
      dsimp only
      cases ran : machine.execute code instruction with
      | ok operation after => rw [execute_withListing ran]
      | error error after => rw [execute_withListing_of_error ran]

theorem perform_eq_withListing (machine : Machine) (code : UInt16) :
    (machine.perform code).1 =
      (machine.perform code).1.withListing machine.listing machine.line :=
  congrArg Prod.fst (machine.perform_withListing code machine.listing machine.line)

/-! ## Steps -/

theorem line_entered (fetched : machine.memory.readWord machine.pc = .ok code) :
    (machine.entered code).line = machine.lineAhead? := by
  simp only [lineAhead?, listing?, fetched]
  rfl

theorem landed_withListing (target : Option UInt32) :
    (machine.withListing listing line).landed target =
      (machine.landed target).withListing listing line := by
  cases target <;> rfl

/-- What a step does to the lines: it leaves the one that it has come by. -/
theorem step_eq_withListing (machine : Machine) :
    machine.step.1 = machine.step.1.withListing machine.listing
      (match machine.memory.readWord machine.pc with
      | .error _ => machine.line
      | .ok _ => machine.lineAhead?) := by
  cases fetched : machine.memory.readWord machine.pc with
  | error error =>
      rw [step_of_unfetched fetched]
      rfl
  | ok code =>
      rw [step_of_fetched fetched, perform_eq_withListing, landed_withListing,
        line_entered fetched]
      rfl

theorem listing_step (machine : Machine) : machine.step.1.listing = machine.listing := by
  rw [step_eq_withListing]
  rfl

theorem line_step_of_fetched (fetched : machine.memory.readWord machine.pc = .ok code) :
    machine.step.1.line = machine.lineAhead? := by
  rw [step_eq_withListing]
  simp only [fetched]
  rfl

theorem line_step_of_unfetched {error : MemoryError}
    (unfetched : machine.memory.readWord machine.pc = .error error) :
    machine.step.1.line = machine.line := by
  rw [step_of_unfetched unfetched]

theorem step_withListing (machine : Machine) (listing : Bool) (line : Option ListingLine) :
    (machine.withListing listing line).step =
      (machine.step.1.withListing listing (machine.withListing listing line).step.1.line,
        machine.step.2) := by
  cases fetched : machine.memory.readWord machine.pc with
  | error error =>
      have refetched : (machine.withListing listing line).memory.readWord machine.pc =
          .error error := fetched
      rw [step_of_unfetched fetched, step_of_unfetched refetched]
      rfl
  | ok code =>
      have refetched : (machine.withListing listing line).memory.readWord machine.pc =
          .ok code := fetched
      have entered : (machine.withListing listing line).entered code =
          (machine.entered code).withListing listing
            (if listing then ListingLine.of? machine.pc code machine.pendingBranch.isSome
            else none) := rfl
      rw [step_of_fetched fetched, step_of_fetched refetched, entered, perform_withListing,
        landed_withListing]
      rfl

/-! ## Without lines -/

def unlisted (machine : Machine) : Machine :=
  machine.withListing false none

theorem line_step_unlisted (machine : Machine) : machine.unlisted.step.1.line = none := by
  cases fetched : machine.unlisted.memory.readWord machine.unlisted.pc with
  | error error => exact line_step_of_unfetched fetched
  | ok code => exact line_step_of_fetched fetched

theorem step_unlisted (machine : Machine) :
    machine.unlisted.step = (machine.step.1.unlisted, machine.step.2) := by
  have steps := machine.step_withListing false none
  rw [show (machine.withListing false none).step.1.line = none from
    machine.line_step_unlisted] at steps
  exact steps

theorem unlisted_step {machine other : Machine} (alike : machine.unlisted = other.unlisted) :
    machine.step.1.unlisted = other.step.1.unlisted := by
  have steps := other.step_unlisted
  rw [← alike, step_unlisted] at steps
  exact congrArg Prod.fst steps

end Machine

end SuperHBench
