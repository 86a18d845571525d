import SuperHBench.Proofs.CallingConvention
import SuperHBench.Proofs.Resolution.Slots
import SuperHBench.Session.Run

/-! # Arguments passed and arguments checked

A run passes arguments along the calling convention, and an expected call looks for its
arguments along the same convention. The slots of one row lie apart, so each still holds
its argument when all of them are in place, and the check finds what was passed. -/

namespace SuperHBench

/-! ## Numbers -/

namespace Scalar

/-- An integer that some reading of a register gives, signed or unsigned. Every bit pattern
of a float is one. -/
def Fits : Scalar → Prop
  | .integer value => -Word.count 31 ≤ value ∧ value < Word.count 32
  | .float _ => True

instance : DecidablePred Fits := fun scalar =>
  match scalar with
  | .integer value => inferInstanceAs (Decidable (-Word.count 31 ≤ value ∧ value < Word.count 32))
  | .float _ => isTrue trivial

/-- The register contents that a number stands for. -/
def bits : Scalar → UInt32
  | .integer value => .ofInt value
  | .float bits => bits

theorem pattern_eq_ok {scalar : Scalar} (fits : scalar.Fits) :
    scalar.pattern = .ok scalar.bits := by
  cases scalar with
  | integer value =>
      have bounds : -(Word.count (Width.long.bits - 1) : Int) ≤ value ∧
          value < Word.count Width.long.bits := fits
      simp only [pattern, Value.patternOfInt, Value.ofInt, Width.ofBits?, if_pos bounds]
      rfl
  | float bits => rfl

structure DifferFirst (passed expected before : List Scalar) (argument other : Scalar) :
    Prop where
  passed_eq : ∃ rest, passed = before ++ argument :: rest
  expected_eq : ∃ same others, expected = same ++ other :: others ∧
    same.map kind = before.map kind ∧ same.map bits = before.map bits
  kind_eq : other.kind = argument.kind
  differs : other.bits ≠ argument.bits

theorem exists_differFirst {passed expected : List Scalar}
    (kinds : expected.map kind = passed.map kind) (differ : expected.map bits ≠ passed.map bits) :
    ∃ before argument other, DifferFirst passed expected before argument other := by
  induction passed generalizing expected with
  | nil =>
      rw [List.map_nil, List.map_eq_nil_iff] at kinds
      exact absurd (by rw [kinds]) differ
  | cons argument rest induction =>
      cases expected with
      | nil => cases kinds
      | cons other others =>
          rw [List.map_cons, List.map_cons, List.cons.injEq] at kinds
          by_cases same : other.bits = argument.bits
          · have later : others.map bits ≠ rest.map bits := by
              intro equal
              exact differ (by rw [List.map_cons, List.map_cons, same, equal])
            rcases induction kinds.2 later with ⟨before, found, missed, first⟩
            rcases first with
              ⟨⟨after, rfl⟩, ⟨agreeing, beyond, rfl, sameKinds, sameBits⟩, kind, differs⟩
            refine ⟨argument :: before, found, missed, ⟨after, rfl⟩, ?_, kind, differs⟩
            exact ⟨other :: agreeing, beyond, rfl, by simp [kinds.1, sameKinds],
              by simp [same, sameBits]⟩
          · exact ⟨[], argument, other, ⟨rest, rfl⟩, ⟨[], others, rfl, rfl, rfl⟩, kinds.1, same⟩

end Scalar

def ArgumentKind.text : ArgumentKind → UInt32 → String
  | .general => integerText
  | .float => Text.single

/-! ## Slots of a machine -/

namespace ArgumentSlot

/-- What a message calls a slot when the stack pointer has this value. -/
def locationAt (pointer : UInt32) : ArgumentSlot → ArgumentLocation
  | .register index => .register index
  | .float index => .float index
  | .stack offset => .stack offset (pointer + offset)

/-- An argument can be put there, and the stack pointer stays what it is. -/
def Usable (machine : Machine) : ArgumentSlot → Prop
  | .register index => index ≠ .stack
  | .float _ => True
  | .stack offset => Slot.Inside machine.memory (machine.stackPointer + offset)

def Apart (pointer : UInt32) : ArgumentSlot → ArgumentSlot → Prop
  | .register index, .register other => index ≠ other
  | .float index, .float other => index ≠ other
  | .stack offset, .stack other => Slot.Apart (pointer + offset) (pointer + other)
  | _, _ => True

end ArgumentSlot

namespace Machine

variable {machine : Machine} {slot other : ArgumentSlot} {contents : UInt32}

def Finds (machine : Machine) (slot : ArgumentSlot) (contents : UInt32) : Prop :=
  machine.slot slot = .ok (contents, slot.locationAt machine.stackPointer)

theorem stackPointer_putArgument (usable : slot.Usable machine) (contents : UInt32) :
    (machine.putArgument (slot, contents)).stackPointer = machine.stackPointer := by
  cases slot with
  | register index => exact machine.register_setRegister_other contents usable
  | float index => rfl
  | stack offset => rfl

theorem size_putArgument (machine : Machine) (slot : ArgumentSlot) (contents : UInt32) :
    (machine.putArgument (slot, contents)).memory.size = machine.memory.size := by
  cases slot with
  | register index => rfl
  | float index => rfl
  | stack offset => exact machine.memory.size_write _ _

theorem usable_putArgument (put : other.Usable machine) (contents : UInt32)
    (usable : slot.Usable machine) : slot.Usable (machine.putArgument (other, contents)) := by
  cases slot with
  | register index => exact usable
  | float index => trivial
  | stack offset =>
      rw [ArgumentSlot.Usable, Slot.Inside, stackPointer_putArgument put, size_putArgument]
      exact usable

theorem finds_stack {offset : UInt32}
    (holds : machine.memory.Holds (machine.stackPointer + offset) (.long contents)) :
    machine.Finds (.stack offset) contents := by
  have read := holds.longAt_eq
  simp only [Finds, Machine.slot, Memory.readLong, Memory.locate, if_pos holds.inside]
  simp only [Except.map, read]
  rfl

theorem finds_putArgument (usable : slot.Usable machine) (contents : UInt32) :
    (machine.putArgument (slot, contents)).Finds slot contents := by
  cases slot with
  | register index =>
      rw [Finds, Machine.slot, putArgument, register_setRegister_same]
      rfl
  | float index =>
      rw [Finds, Machine.slot, putArgument, float_setFloat_same]
      rfl
  | stack offset => exact finds_stack (Memory.holds_write usable contents)

theorem Finds.putArgument (finds : machine.Finds slot contents)
    (apart : slot.Apart machine.stackPointer other) (usable : other.Usable machine)
    (value : UInt32) : (machine.putArgument (other, value)).Finds slot contents := by
  have pointer := stackPointer_putArgument usable value
  rw [Finds, pointer, ← finds]
  cases slot with
  | register index =>
      cases other with
      | register other =>
          rw [Machine.slot, Machine.putArgument, register_setRegister_other _ _ apart.symm]
          rfl
      | float other => rfl
      | stack offset => rfl
  | float index =>
      cases other with
      | register other => rfl
      | float other =>
          rw [Machine.slot, Machine.putArgument, float_setFloat_other _ _ apart.symm]
          rfl
      | stack offset => rfl
  | stack offset =>
      rw [Machine.slot, Machine.slot, pointer]
      cases other with
      | register other => rfl
      | float other => rfl
      | stack other =>
          have same := machine.memory.readLong_write_of_apart apart value
          simp only [Machine.putArgument, store, same]

theorem stackPointer_foldl {placed : List (ArgumentSlot × UInt32)}
    (usable : ∀ entry ∈ placed, entry.1.Usable machine) :
    (placed.foldl Machine.putArgument machine).stackPointer = machine.stackPointer := by
  induction placed generalizing machine with
  | nil => rfl
  | cons entry rest induction =>
      rw [List.forall_mem_cons] at usable
      have still : ∀ later ∈ rest, later.1.Usable (machine.putArgument entry) :=
        fun later member => usable_putArgument usable.1 entry.2 (usable.2 later member)
      rw [List.foldl_cons, induction still]
      exact stackPointer_putArgument usable.1 entry.2

theorem Finds.foldl {placed : List (ArgumentSlot × UInt32)} (finds : machine.Finds slot contents)
    (usable : ∀ entry ∈ placed, entry.1.Usable machine)
    (apart : ∀ entry ∈ placed, slot.Apart machine.stackPointer entry.1) :
    (placed.foldl Machine.putArgument machine).Finds slot contents := by
  induction placed generalizing machine with
  | nil => exact finds
  | cons entry rest induction =>
      rw [List.forall_mem_cons] at usable apart
      apply induction (finds.putArgument apart.1 usable.1 entry.2)
      · exact fun later member => usable_putArgument usable.1 entry.2 (usable.2 later member)
      · rw [stackPointer_putArgument usable.1]
        exact apart.2

/-- When slots lie apart, each has its own contents once all of them are filled. -/
theorem finds_foldl_of_mem {placed : List (ArgumentSlot × UInt32)}
    (usable : ∀ entry ∈ placed, entry.1.Usable machine)
    (apart : placed.Pairwise fun entry later => entry.1.Apart machine.stackPointer later.1)
    {entry : ArgumentSlot × UInt32} (member : entry ∈ placed) :
    (placed.foldl Machine.putArgument machine).Finds entry.1 entry.2 := by
  induction placed generalizing machine with
  | nil => cases member
  | cons first rest induction =>
      rw [List.forall_mem_cons] at usable
      rw [List.pairwise_cons] at apart
      have pointer := stackPointer_putArgument usable.1 first.2
      have still : ∀ later ∈ rest, later.1.Usable (machine.putArgument first) :=
        fun later among => usable_putArgument usable.1 first.2 (usable.2 later among)
      rcases List.mem_cons.mp member with rfl | later
      · apply (finds_putArgument usable.1 entry.2).foldl still
        rw [pointer]
        exact apart.1
      · apply induction still _ later
        rw [pointer]
        exact apart.2

end Machine

/-! ## Rows of arguments -/

namespace CallingConvention

def row (earlier : List ArgumentKind) : List Scalar → List (ArgumentSlot × UInt32)
  | [] => []
  | argument :: rest =>
      (slotBehind earlier argument.kind, argument.bits) :: row (earlier ++ [argument.kind]) rest

theorem assignSlots_behind {arguments : List Scalar}
    (fit : ∀ argument ∈ arguments, argument.Fits) (earlier : List ArgumentKind) :
    assignSlots (behind earlier) arguments =
      .ok (row earlier arguments, behind (earlier ++ arguments.map Scalar.kind)) := by
  induction arguments generalizing earlier with
  | nil => simp [assignSlots, row]
  | cons argument rest induction =>
      rw [List.forall_mem_cons] at fit
      rw [List.map_cons, List.append_cons earlier, row]
      simp only [assignSlots, Scalar.pattern_eq_ok fit.1, next_behind, induction fit.2]
      rfl

theorem row_append (earlier : List ArgumentKind) (first second : List Scalar) :
    row earlier (first ++ second) =
      row earlier first ++ row (earlier ++ first.map Scalar.kind) second := by
  induction first generalizing earlier with
  | nil => simp [row]
  | cons argument rest induction => simp [row, induction]

theorem mem_row {earlier : List ArgumentKind} {arguments : List Scalar}
    {entry : ArgumentSlot × UInt32} (member : entry ∈ row earlier arguments) :
    ∃ later kind, earlier <+: later ∧ later ++ [kind] <+: earlier ++ arguments.map Scalar.kind ∧
      entry.1 = slotBehind later kind := by
  induction arguments generalizing earlier with
  | nil => cases member
  | cons argument rest induction =>
      rcases List.mem_cons.mp member with rfl | among
      · refine ⟨earlier, argument.kind, List.prefix_rfl, ?_, rfl⟩
        rw [List.map_cons, List.append_cons earlier argument.kind (rest.map Scalar.kind)]
        exact List.prefix_append _ _
      · rcases induction among with ⟨later, kind, before, within, slot⟩
        refine ⟨later, kind, (List.prefix_append _ _).trans before, ?_, slot⟩
        rwa [List.map_cons, List.append_cons earlier]

/-! ## Room for a row -/

theorem registerOf_inj {first second : Nat} (small : first < registerCount)
    (alsoSmall : second < registerCount) (same : registerOf first = registerOf second) :
    first = second := by
  unfold registerCount at small alsoSmall
  have equal := congrArg Fin.val same
  simp only [registerOf, Register.ofNat] at equal
  omega

theorem registerOf_ne_stack {number : Nat} (small : number < registerCount) :
    registerOf number ≠ .stack := by
  unfold registerCount at small
  intro same
  have equal := congrArg Fin.val same
  simp only [registerOf, Register.ofNat, Register.stack] at equal
  omega

theorem toNat_stackAddress {pointer : UInt32} {size : Nat}
    (small : pointer.toNat + size < Word.count 32) :
    (pointer + .ofNat size).toNat = pointer.toNat + size := by
  have range : pointer.toNat + size < 2 ^ 32 := small
  rw [UInt32.toNat_add, UInt32.toNat_ofNat', Nat.mod_eq_of_lt (by omega : size < 2 ^ 32),
    Nat.mod_eq_of_lt range]

variable {earlier later : List ArgumentKind} {kind other : ArgumentKind} {pointer : UInt32}

/-- An argument behind another has a slot of its own, as long as the stack does not wrap
around. -/
theorem apart_slotBehind (before : earlier ++ [kind] <+: later)
    (bounded : pointer.toNat + 4 * spilled later < Word.count 32) :
    (slotBehind earlier kind).Apart pointer (slotBehind later other) := by
  have count := before.sublist.count_le kind
  rw [List.count_append, List.count_singleton_self] at count
  by_cases room : earlier.count kind < registerCount
  · rw [slotBehind, if_pos room]
    by_cases alsoRoom : later.count other < registerCount
    · rw [slotBehind, if_pos alsoRoom]
      have different (same : kind = other) :
          registerOf (earlier.count kind) ≠ registerOf (later.count other) := by
        intro equal
        have numbers := registerOf_inj room alsoRoom equal
        subst same
        omega
      cases kind <;> cases other <;> first | trivial | exact different rfl
    · rw [slotBehind, if_neg alsoRoom]
      cases kind <;> trivial
  · rw [slotBehind, if_neg room]
    by_cases alsoRoom : later.count other < registerCount
    · rw [slotBehind, if_pos alsoRoom]
      cases other <;> trivial
    · have grown := spilled_mono before
      rw [spilled_concat_of_stack (Nat.le_of_not_lt room)] at grown
      rw [slotBehind, if_neg alsoRoom, ArgumentSlot.Apart, Slot.Apart,
        toNat_stackAddress bounded, toNat_stackAddress (by omega)]
      omega

structure Room (machine : Machine) (kinds : List ArgumentKind) : Prop where
  bounded : machine.stackPointer.toNat + 4 * spilled kinds < Word.count 32
  inside : machine.stackPointer.toNat + 4 * spilled kinds ≤ machine.memory.size

variable {machine : Machine}

theorem Room.of_prefix (room : Room machine later) (before : earlier <+: later) :
    Room machine earlier := by
  have less := spilled_mono before
  rcases room with ⟨bounded, inside⟩
  constructor <;> omega

theorem usable_slotBehind (room : Room machine (earlier ++ [kind])) :
    (slotBehind earlier kind).Usable machine := by
  have bounded := (room.of_prefix (List.prefix_append earlier [kind])).bounded
  by_cases small : earlier.count kind < registerCount
  · rw [slotBehind, if_pos small]
    cases kind with
    | general => exact registerOf_ne_stack small
    | float => trivial
  · have inside := room.inside
    rw [spilled_concat_of_stack (Nat.le_of_not_lt small)] at inside
    rw [slotBehind, if_neg small, ArgumentSlot.Usable, Slot.Inside, toNat_stackAddress bounded]
    omega

theorem pairwise_row {arguments : List Scalar}
    (bounded : pointer.toNat + 4 * spilled (earlier ++ arguments.map Scalar.kind) < Word.count 32) :
    (row earlier arguments).Pairwise fun entry later => entry.1.Apart pointer later.1 := by
  induction arguments generalizing earlier with
  | nil => exact .nil
  | cons argument rest induction =>
      rw [List.map_cons, List.append_cons earlier argument.kind (rest.map Scalar.kind)] at bounded
      refine .cons ?_ (induction bounded)
      intro entry member
      rcases mem_row member with ⟨later, kind, before, within, slot⟩
      rw [slot]
      apply apart_slotBehind before
      have less := spilled_mono ((List.prefix_append later [kind]).trans within)
      omega

variable {arguments : List Scalar}

theorem usable_of_mem_row (room : Room machine (arguments.map Scalar.kind)) :
    ∀ entry ∈ row [] arguments, entry.1.Usable machine := by
  intro entry member
  rcases mem_row member with ⟨later, kind, -, within, slot⟩
  rw [slot]
  exact usable_slotBehind (room.of_prefix within)

theorem finds_of_mem_row (room : Room machine (arguments.map Scalar.kind)) :
    ∀ entry ∈ row [] arguments,
      ((row [] arguments).foldl Machine.putArgument machine).Finds entry.1 entry.2 := by
  intro entry member
  have apart := pairwise_row (by rw [List.nil_append]; exact room.bounded)
  exact Machine.finds_foldl_of_mem (usable_of_mem_row room) apart member

end CallingConvention

/-! ## Checking a row -/

namespace Judging

variable {machine : Machine} {function : String} {session : Session}

theorem run_guard {condition : Prop} [Decidable condition] {error : RunError} :
    (if condition then throw error else pure ⟨⟩ : Judging PUnit).run session =
      if condition then .error error session else .ok ⟨⟩ session := by
  split <;> rfl

theorem run_checkArgument_scalar {slot : ArgumentSlot} {contents : UInt32} {expected : Scalar}
    (fits : expected.Fits) (finds : machine.Finds slot contents) :
    (checkArgument machine function slot (.scalar expected)).run session =
      if contents = expected.bits then .ok ⟨⟩ session
      else .error (mismatch function (slot.locationAt machine.stackPointer)
        (expected.kind.text expected.bits) (expected.kind.text contents)) session := by
  rw [Machine.Finds] at finds
  rw [← ite_not]
  cases expected with
  | integer value =>
      have known : Value.patternOfInt value = .ok (Scalar.integer value).bits :=
        Scalar.pattern_eq_ok fits
      simp only [checkArgument, known, finds, pattern, inspect, pure_bind]
      exact run_guard
  | float bits =>
      simp only [checkArgument, finds, inspect, pure_bind]
      exact run_guard

open CallingConvention

variable {earlier : List ArgumentKind} {expected : List Scalar}

theorem run_checkArguments_cons {number : Scalar} {contents : UInt32} (fits : number.Fits)
    (finds : machine.Finds (slotBehind earlier number.kind) contents) (rest : List Argument) :
    (checkArguments machine function (behind earlier) (.scalar number :: rest)).run session =
      if contents = number.bits then
        (checkArguments machine function (behind (earlier ++ [number.kind])) rest).run session
      else
        .error (mismatch function
          ((slotBehind earlier number.kind).locationAt machine.stackPointer)
          (number.kind.text number.bits) (number.kind.text contents)) session := by
  simp only [checkArguments, Argument.kind, next_behind, EStateM.run_bind,
    run_checkArgument_scalar fits finds]
  by_cases same : contents = number.bits
  · simp only [if_pos same]
  · simp only [if_neg same]

theorem run_checkArguments_append {passed : List Scalar}
    (finds : ∀ entry ∈ row earlier passed, machine.Finds entry.1 entry.2)
    (fit : ∀ number ∈ expected, number.Fits)
    (kinds : expected.map Scalar.kind = passed.map Scalar.kind)
    (same : expected.map Scalar.bits = passed.map Scalar.bits) (rest : List Argument) :
    (checkArguments machine function (behind earlier) (expected.map .scalar ++ rest)).run session =
      (checkArguments machine function (behind (earlier ++ passed.map Scalar.kind)) rest).run
        session := by
  induction passed generalizing earlier expected with
  | nil =>
      rw [List.map_nil, List.map_eq_nil_iff] at kinds
      simp [kinds]
  | cons argument others induction =>
      cases expected with
      | nil => cases kinds
      | cons number numbers =>
          rw [row, List.forall_mem_cons] at finds
          rw [List.forall_mem_cons] at fit
          rw [List.map_cons, List.map_cons, List.cons.injEq] at kinds same
          have here := finds.1
          rw [← kinds.1] at here
          rw [List.map_cons, List.cons_append, run_checkArguments_cons fit.1 here,
            if_pos same.1.symm, kinds.1, induction finds.2 fit.2 kinds.2 same.2, List.map_cons,
            List.append_cons earlier argument.kind (others.map Scalar.kind)]

theorem run_checkArguments_of_differFirst {passed before : List Scalar} {argument other : Scalar}
    (finds : ∀ entry ∈ row [] passed, machine.Finds entry.1 entry.2)
    (fit : ∀ number ∈ expected, number.Fits)
    (first : Scalar.DifferFirst passed expected before argument other) :
    (checkArguments machine function .start (expected.map .scalar)).run session =
      .error (mismatch function
        ((slotBehind (before.map Scalar.kind) argument.kind).locationAt machine.stackPointer)
        (argument.kind.text other.bits) (argument.kind.text argument.bits)) session := by
  rcases first with ⟨⟨rest, rfl⟩, ⟨agreeing, others, rfl, kinds, same⟩, kind, differs⟩
  rw [row_append, List.forall_mem_append, row, List.forall_mem_cons] at finds
  rw [List.forall_mem_append, List.forall_mem_cons] at fit
  have here := finds.2.1
  rw [List.nil_append, ← kind] at here
  rw [← behind_nil, List.map_append, List.map_cons,
    run_checkArguments_append finds.1 fit.1 kinds same, List.nil_append,
    run_checkArguments_cons fit.2.1 here, if_neg (Ne.symm differs), kind]

end Judging

/-! ## What is passed is what is checked -/

/-- Where memory ends for the first stack pointer: at its size, unless that is more than 32
bits can count. A row of arguments that needs more would wrap around the address space and run
into itself. -/
def Memory.reach (memory : Memory) : Nat :=
  min memory.size (Word.count 32 - 1)

namespace Machine

/-- The stack pointer of a fresh machine that has passed arguments of these kinds. -/
def loweredPointer (memory : Memory) (kinds : List ArgumentKind) : UInt32 :=
  .ofNat (memory.reach - 4 - 4 * CallingConvention.spilled kinds)

/-- A fresh machine has passed these arguments. An expected call accepts them in any spelling
of the same contents, and any others of these kinds it refuses, for the first that differs and
for the slot of that one. -/
structure Passes (memory : Memory) (arguments : List Scalar) (machine : Machine) : Prop where
  placed : (start memory).placeArguments arguments = .ok machine
  pointer : machine.stackPointer = loweredPointer memory (arguments.map Scalar.kind)
  accepts : ∀ expected : List Scalar,
    expected.map Scalar.kind = arguments.map Scalar.kind →
    (∀ number ∈ expected, number.Fits) →
    expected.map Scalar.bits = arguments.map Scalar.bits →
    ∀ (function : String) (session : Session),
      (Judging.checkArguments machine function .start (expected.map .scalar)).run session =
        .ok ⟨⟩ session
  refuses : ∀ expected : List Scalar,
    expected.map Scalar.kind = arguments.map Scalar.kind →
    (∀ number ∈ expected, number.Fits) →
    expected.map Scalar.bits ≠ arguments.map Scalar.bits →
    ∃ before argument other, Scalar.DifferFirst arguments expected before argument other ∧
      ∀ (function : String) (session : Session),
        (Judging.checkArguments machine function .start (expected.map .scalar)).run session =
          .error (.expectation (.argumentMismatch function
            ((CallingConvention.slotBehind (before.map Scalar.kind) argument.kind).locationAt
              (loweredPointer memory (arguments.map Scalar.kind)))
            (argument.kind.text other.bits) (argument.kind.text argument.bits))) session

variable {memory : Memory} {arguments : List Scalar}

theorem stackPointer_start (memory : Memory) :
    (start memory).stackPointer = .ofNat memory.reach - 4 := by
  simp [start, stackPointer, register, Memory.reach]

theorem stackPointer_lowered
    (room : 4 + 4 * CallingConvention.spilled (arguments.map Scalar.kind) ≤ memory.reach) :
    (start memory).stackPointer -
        (CallingConvention.behind (arguments.map Scalar.kind)).stackSize =
      loweredPointer memory (arguments.map Scalar.kind) := by
  rw [stackPointer_start, loweredPointer, UInt32.ofNat_sub (by omega), UInt32.ofNat_sub (by omega)]
  rfl

theorem toNat_loweredPointer (memory : Memory) (kinds : List ArgumentKind) :
    (loweredPointer memory kinds).toNat =
      memory.reach - 4 - 4 * CallingConvention.spilled kinds := by
  have small : memory.reach ≤ Word.count 32 - 1 := Nat.min_le_right _ _
  rw [Word.count, Nat.pow_eq] at small
  rw [loweredPointer, UInt32.toNat_ofNat_of_lt']
  change _ < 2 ^ 32
  omega

def withRoom (memory : Memory) (kinds : List ArgumentKind) : Machine :=
  (start memory).setRegister .stack (loweredPointer memory kinds)

theorem stackPointer_withRoom (memory : Memory) (kinds : List ArgumentKind) :
    (withRoom memory kinds).stackPointer = loweredPointer memory kinds :=
  register_setRegister_same _ _ _

theorem room_withRoom {kinds : List ArgumentKind}
    (room : 4 + 4 * CallingConvention.spilled kinds ≤ memory.reach) :
    CallingConvention.Room (withRoom memory kinds) kinds := by
  have inside : memory.reach ≤ memory.size := Nat.min_le_left _ _
  have small : memory.reach ≤ Word.count 32 - 1 := Nat.min_le_right _ _
  have low := toNat_loweredPointer memory kinds
  rw [← stackPointer_withRoom] at low
  constructor
  · rw [low]
    omega
  · change _ ≤ memory.size
    omega

open CallingConvention in
theorem placeArguments_start (fit : ∀ argument ∈ arguments, argument.Fits)
    (room : 4 + 4 * spilled (arguments.map Scalar.kind) ≤ memory.reach) :
    (start memory).placeArguments arguments =
      .ok ((row [] arguments).foldl putArgument
        (withRoom memory (arguments.map Scalar.kind))) := by
  rw [placeArguments, ← behind_nil, assignSlots_behind fit, List.nil_append]
  change Except.ok _ = _
  rw [stackPointer_lowered room]
  rfl

/-- What is passed to a function on entry is what the check of an expected call finds. The room
asked for is that of a memory of this size: the two differ from 4 GiB on, where the stack
pointer can no longer tell the size. -/
theorem exists_passes (memory : Memory) (arguments : List Scalar)
    (fit : ∀ argument ∈ arguments, argument.Fits)
    (room : 4 + 4 * CallingConvention.spilled (arguments.map Scalar.kind) ≤ memory.reach) :
    ∃ machine, Passes memory arguments machine := by
  have roomy := room_withRoom room
  have finds := CallingConvention.finds_of_mem_row roomy
  have pointer := stackPointer_foldl (CallingConvention.usable_of_mem_row roomy)
  rw [stackPointer_withRoom] at pointer
  refine ⟨_, placeArguments_start fit room, pointer, ?_, ?_⟩
  · intro expected kinds fits same function session
    rw [← List.append_nil (expected.map Argument.scalar), ← CallingConvention.behind_nil,
      Judging.run_checkArguments_append finds fits kinds same]
    rfl
  · intro expected kinds fits differ
    rcases Scalar.exists_differFirst kinds differ with ⟨before, argument, other, first⟩
    refine ⟨before, argument, other, first, fun function session => ?_⟩
    rw [Judging.run_checkArguments_of_differFirst finds fits first, pointer]
    rfl

/-- Five of each kind, so that one integer and one NaN find no register left. -/
def crowdedArguments : List Scalar :=
  [.integer (-0x80000000), .float 0x80000000, .integer 0xffffffff, .integer (-1), .float 0,
    .float 1, .float 0x3f800000, .integer 0, .integer 0x7fffffff, .float 0x7f800001]

theorem exists_passes_crowded : ∃ machine, Passes (.zeroed 12) crowdedArguments machine :=
  exists_passes _ _ (by decide) (by decide)

end Machine

end SuperHBench
